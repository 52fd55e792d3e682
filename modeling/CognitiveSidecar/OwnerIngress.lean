/-
Ingress of the parts of a turn: a part of known messages sends nothing, and a
part of unknown ones is stored with its cuts.
-/
import CognitiveSidecar.OwnerOnce

namespace CognitiveSidecar.OwnerTransport

open Option List Relational

variable {db : ReplayDb} {part : OwnerTurnPart} {group : List Fragment}
variable {rest : List OwnerTurnPart}
variable {ids : List String} {id : String} {evidence : Evidence}
variable {after before : List Turn} {turn : Turn} {piece : OwnerTurnPiece}
variable {position : Nat}
variable {sidecar : Sidecar} {lineageId rowId : String}

/-! Identifiers that ingress knows. -/

theorem mem_uniqueIds :
    id ∈ uniqueIds ids ↔ (∃ raw ∈ ids, trim raw = id) ∧ id ≠ "" := by
  unfold uniqueIds
  rw [mem_eraseDups, mem_filter, List.mem_map, decide_eq_true_eq]

/-- The identifiers of captures are what the log makes of them. -/
theorem mem_uniqueIds_of_named (hnamed : ∀ id ∈ ids, trim id = id ∧ id ≠ "") :
    id ∈ uniqueIds ids ↔ id ∈ ids := by
  rw [mem_uniqueIds]
  constructor
  · rintro ⟨⟨raw, hraw, rfl⟩, _⟩
    rw [(hnamed raw hraw).1]
    exact hraw
  · intro hid
    exact ⟨⟨id, hid, (hnamed id hid).1⟩, (hnamed id hid).2⟩

theorem newestOfLineage_isSome
    (hevidence : sidecar.evidence.get? rowId = some evidence)
    (hlineage : evidence.lineageId = lineageId) :
    (newestOfLineage sidecar lineageId).isSome = true := by
  have hmem : evidence ∈ sidecar.evidence.rows.filter
      (·.lineageId = lineageId) :=
    mem_filter.mpr ⟨mem_of_get? hevidence, decide_eq_true hlineage⟩
  obtain ⟨_, hnewest⟩ := @exists_firstBy _ Evidence.newer _ _ _ hmem
  unfold newestOfLineage
  rw [hnewest]
  rfl

/-- A batch is a duplicate only when ingress knows one of its messages. -/
theorem known_of_existing
    (hexisting : existingByDiscordIds db.transport.sidecar ids = some evidence) :
    ∃ id ∈ ids, db.knows id = true := by
  obtain ⟨id, hid, hfound⟩ := exists_of_findSome?_eq_some hexisting
  obtain ⟨_, hbinding, _⟩ := bind_eq_some_iff.mp hfound
  refine ⟨id, hid, ?_⟩
  unfold ReplayDb.knows
  rw [hbinding]
  rfl

/-- What is not a duplicate has no message that ingress knows. -/
theorem ReplaySound.unknown [Host] (hsound : ReplaySound db)
    (hexisting : existingByDiscordIds db.transport.sidecar ids = none)
    (hid : id ∈ ids) : db.knows id = false := by
  have hnone := List.findSome?_eq_none_iff.mp hexisting id hid
  unfold existingByDiscordId at hnone
  unfold ReplayDb.knows
  cases hbinding : db.transport.sidecar.discordIds.get? id with
  | none => rfl
  | some binding =>
    obtain ⟨_, _, hevidence, hlineage⟩ := hsound.backed id binding hbinding
    rw [hbinding, bind_some] at hnone
    have hsome := newestOfLineage_isSome hevidence hlineage
    rw [hnone] at hsome
    cases hsome

/-- A binding was there before, or is of the batch. -/
theorem foldl_bind_back {conversationId : String} {items : List (String × Nat)}
    {table : Table DiscordBinding} {binding : DiscordBinding}
    (hbound : (items.foldl (bindDiscordId conversationId lineageId) table).get?
      id = some binding) :
    table.get? id = some binding ∨
      ((∃ item ∈ items, item.1 = id) ∧ binding.lineageId = lineageId) := by
  induction items generalizing table with
  | nil => exact .inl hbound
  | cons item _ ih =>
    rcases ih hbound with hfirst | ⟨⟨other, hin, hid⟩, hlineage⟩
    · unfold bindDiscordId at hfirst
      cases hinsert : table.insert?
          ⟨item.1, conversationId, lineageId, item.2⟩ with
      | none =>
        rw [hinsert] at hfirst
        exact .inl hfirst
      | some =>
        rw [hinsert, getD_some, get?_insert hinsert] at hfirst
        split at hfirst
        · rename_i hkey
          cases hfirst
          exact .inr ⟨⟨item, mem_cons_self, hkey.symm⟩, rfl⟩
        · exact .inl hfirst
    · exact .inr ⟨⟨other, mem_cons_of_mem _ hin, hid⟩, hlineage⟩

/-- What an admitted part adds to the bindings and to the evidence. -/
structure PartRecorded [Host] (db : ReplayDb) (after : Sidecar) (part : OwnerTurnPart)
    (rowId : String) : Prop where
  bound : ∀ id ∈ part.ids, db.knows id = false ∧
    (after.discordIds.get? id).isSome = true
  keeps : ∀ id, db.knows id = true → (after.discordIds.get? id).isSome = true
  back : ∀ id, (after.discordIds.get? id).isSome = true →
    db.knows id = true ∨ id ∈ part.ids
  backed : ∀ id binding, after.discordIds.get? id = some binding →
    ∃ rowId evidence, after.evidence.get? rowId = some evidence ∧
      evidence.lineageId = binding.lineageId
  rows : ∀ id evidence,
    db.transport.sidecar.evidence.get? id = some evidence →
    after.evidence.get? id = some evidence
  stored : ∃ evidence, after.evidence.get? rowId = some evidence ∧
    evidence.text = (normalizeClassification (some (trim part.text))).1

theorem partRecorded_of_admitted [Host] (hsound : ReplaySound db)
    {after : Sidecar} {input : CognitiveIngressInput}
    {result : CognitiveIngressResult} {event : InboxEvent}
    (hnamed : ∀ id ∈ part.ids, trim id = id ∧ id ≠ "")
    (hadmitted : MessageAdmitted db.transport.sidecar after
      { input with message := part.text, discordMessageIds := part.ids }
      result evidence event) :
    PartRecorded db after part result.evidenceRowId := by
  obtain ⟨_, hrecorded, hevidence, hbindings⟩ := hadmitted.recorded
  have hids : ∀ id, id ∈ evidence.discordMessageIds ↔ id ∈ part.ids := by
    intro _
    rw [hadmitted.ids]
    exact mem_uniqueIds_of_named hnamed
  have hrows : ∀ id row,
      db.transport.sidecar.evidence.get? id = some row →
      after.evidence.get? id = some row := by
    intro _ _ hrow
    rw [← hevidence]
    exact get?_insert_of_some hrecorded.inserted hrow
  have hrow : after.evidence.get? evidence.rowId = some evidence := by
    rw [← hevidence]
    exact hrecorded.stored
  have hback : ∀ id binding, after.discordIds.get? id = some binding →
      db.transport.sidecar.discordIds.get? id = some binding ∨
      (id ∈ part.ids ∧ binding.lineageId = evidence.lineageId) := by
    intro _ _ hbinding
    rw [← hbindings, hrecorded.bindings] at hbinding
    refine (foldl_bind_back hbinding).imp_right ?_
    rintro ⟨⟨item, hitem, rfl⟩, hlineage⟩
    refine ⟨(hids item.1).mp ?_, hlineage⟩
    exact fst_mem_of_mem_zipIdx hitem
  constructor
  case bound =>
    intro id hid
    have hunknown := hsound.unknown hadmitted.unknown
      ((mem_uniqueIds_of_named hnamed).mpr hid)
    refine ⟨hunknown, ?_⟩
    have hfree : db.transport.sidecar.discordIds.get? id = none :=
      not_isSome_iff_eq_none.mp (Bool.eq_false_iff.mp hunknown)
    obtain ⟨_, hbinding, _⟩ := hrecorded.bound ((hids id).mpr hid) hfree
    rw [← hbindings, hbinding]
    rfl
  case keeps =>
    intro _ hknown
    obtain ⟨_, hbinding⟩ := isSome_iff_exists.mp hknown
    rw [← hbindings, hrecorded.keeps_binding hbinding]
    rfl
  case back =>
    intro id hsome
    obtain ⟨binding, hbinding⟩ := isSome_iff_exists.mp hsome
    rcases hback id binding hbinding with hold | ⟨hin, _⟩
    · left
      unfold ReplayDb.knows
      rw [hold]
      rfl
    · exact .inr hin
  case backed =>
    intro id binding hbinding
    rcases hback id binding hbinding with hold | ⟨_, hlineage⟩
    · obtain ⟨rowId, row, hfound, hsame⟩ := hsound.backed id binding hold
      exact ⟨rowId, row, hrows rowId row hfound, hsame⟩
    · exact ⟨evidence.rowId, evidence, hrow, hlineage.symm⟩
  case rows => exact hrows
  case stored =>
    rw [hadmitted.delivered.answer.1]
    exact ⟨evidence, hrow, hrecorded.text⟩

/-! Ingress of a part. -/

theorem pieces_cons (group : List Fragment) (part : OwnerTurnPart)
    (rest : List OwnerTurnPart) :
    Turn.pieces ⟨group, part :: rest⟩ =
      part.pieces ++ Turn.pieces ⟨group, rest⟩ :=
  flatMap_cons

theorem mem_ids {pieces : List OwnerTurnPiece} :
    id ∈ pieces.flatMap OwnerTurnPiece.ids ↔
      ∃ piece ∈ pieces, piece.index = 0 ∧ piece.id = id ∧ id ≠ "" := by
  rw [mem_flatMap]
  refine exists_congr fun piece => and_congr_right fun _ => ?_
  unfold OwnerTurnPiece.ids
  by_cases hfirst : piece.index = 0 ∧ piece.id ≠ ""
  · rw [if_pos hfirst, mem_singleton]
    constructor
    · rintro rfl
      exact ⟨hfirst.1, rfl, hfirst.2⟩
    · exact fun hid => hid.2.1.symm
  · rw [if_neg hfirst]
    refine ⟨fun hin => absurd hin not_mem_nil, ?_⟩
    rintro ⟨hindex, rfl, hnonempty⟩
    exact absurd ⟨hindex, hnonempty⟩ hfirst

/-- A cut that a turn owes is of a captured message of its group. -/
theorem TurnSound.fragment_of_piece (hturn : TurnSound db turn)
    (hpiece : piece ∈ turn.pieces) :
    ∃ fragment ∈ turn.group, piece ∈ fragment.cutPieces ∧ ∃ row,
      db.transport.captures.get? piece.id = some row ∧
      row.fragment = fragment := by
  obtain ⟨_, hsplit, _⟩ := hturn.sent
  have hin : piece ∈ groupPieces turn.group := by
    rw [hsplit]
    exact mem_append_right _ hpiece
  obtain ⟨fragment, hfragment, hcut⟩ := mem_flatMap.mp hin
  obtain ⟨row, hrow, hsame⟩ := hturn.captured fragment hfragment
  refine ⟨fragment, hfragment, hcut, row, ?_, hsame⟩
  rw [mem_cutPieces hcut]
  exact hrow

/-- The identifiers of a part are those of captured messages. -/
theorem ReplaySound.part_named [Host] (hsound : ReplaySound db)
    (hin : ⟨group, part :: rest⟩ ∈ db.turns) :
    ∀ id ∈ part.ids, trim id = id ∧ id ≠ "" := by
  intro _ hid
  have hturn := hsound.turns _ hin
  rw [(hturn.joins part mem_cons_self).ids] at hid
  obtain ⟨piece, hpiece, _, rfl, _⟩ := mem_ids.mp hid
  have howed : piece ∈ Turn.pieces ⟨group, part :: rest⟩ := by
    exact mem_append_left _ hpiece
  obtain ⟨_, _, _, row, hrow, _⟩ := hturn.fragment_of_piece howed
  exact hsound.named _ row hrow

theorem torn_cons (htorn : piece ∈ Turn.torn ⟨group, part :: rest⟩) :
    piece ∈ part.pieces ∨ piece ∈ Turn.torn ⟨group, rest⟩ := by
  unfold Turn.torn at htorn ⊢
  rw [pieces_cons, takeWhile_append] at htorn
  split at htorn
  · exact mem_append.mp htorn
  · exact .inl ((takeWhile_sublist _).subset htorn)

/-- All turns but the one that is replaced stay. -/
theorem mem_replaced {old new : Turn} (hturn : turn ∈ before ++ old :: after) :
    turn = old ∨ turn ∈ before ++ new :: after := by
  rcases mem_append.mp hturn with hbefore | hmem
  · exact .inr (mem_append_left _ hbefore)
  · rcases mem_cons.mp hmem with heq | hafter
    · exact .inl heq
    · exact .inr (mem_append_right _ (mem_cons_of_mem _ hafter))

/-- One turn of several sends its next part. -/
theorem apart_set {remaining : List OwnerTurnPart}
    (hapart : (before ++ ⟨group, remaining⟩ :: after).Pairwise Turn.apart) :
    (before ++ ⟨group, rest⟩ :: after).Pairwise Turn.apart := by
  rw [pairwise_middle Turn.apart_symm, pairwise_cons] at hapart ⊢
  exact hapart

/-- A part all of whose messages ingress knows is answered as a duplicate; it
may hold no later cut of a message. -/
theorem ReplaySound.duplicate [Host] (hsound : ReplaySound db)
    (hat : db.turns[position]? = some ⟨group, part :: rest⟩)
    (hknown : ∀ id ∈ part.ids, db.knows id = true)
    (hfirst : ∀ piece ∈ part.pieces, piece.index = 0) :
    ReplaySound { db with turns := db.turns.set position ⟨group, rest⟩ } := by
  have hin := mem_of_getElem? hat
  have hturn := hsound.turns _ hin
  have hjoins := hturn.joins part mem_cons_self
  obtain ⟨_, _, hsplit, hset, _⟩ := position_split hat
  rw [hset]
  have hnottorn : Turn.torn ⟨group, part :: rest⟩ = [] := by
    obtain ⟨first, _, hpieces⟩ := exists_cons_of_ne_nil hjoins.nonempty
    unfold Turn.torn
    rw [pieces_cons, hpieces]
    have hindex := hfirst first (by rw [hpieces]; exact mem_cons_self)
    simp [hindex]
  have hstored : ∀ piece ∈ part.pieces, piece ∈ db.storedPieces := by
    intro piece hpiece
    have howed : piece ∈ Turn.pieces ⟨group, part :: rest⟩ := by
      exact mem_append_left _ hpiece
    obtain ⟨_, _, hcut, row, hrow, hsame⟩ := hturn.fragment_of_piece howed
    have hid : piece.id ∈ part.ids := by
      rw [hjoins.ids]
      exact mem_ids.mpr ⟨piece, hpiece, hfirst piece hpiece, rfl,
        (hsound.named _ row hrow).2⟩
    obtain ⟨_, hrow', hpieces⟩ := hsound.known _ (hknown _ hid)
    rw [hrow] at hrow'
    cases hrow'
    rw [← hsame] at hcut
    rcases hpieces piece hcut with hstored | ⟨_, _, htorn⟩
    · exact hstored
    · exact absurd (hfirst piece hpiece) (index_of_mem_torn htorn)
  constructor
  case linked => exact hsound.linked
  case receptive => exact hsound.receptive
  case backed => exact hsound.backed
  case named => exact hsound.named
  case bound => exact hsound.bound
  case marked => exact hsound.marked
  case once => exact hsound.once
  case texts => exact hsound.texts
  case apart =>
    have hapart := hsound.apart
    rw [hsplit] at hapart
    exact apart_set hapart
  case known =>
    intro id hid
    obtain ⟨row, hrow, hpieces⟩ := hsound.known id hid
    refine ⟨row, hrow, fun piece hpiece => (hpieces piece hpiece).imp_right ?_⟩
    rintro ⟨turn, hmem, htorn⟩
    rw [hsplit] at hmem
    rcases mem_replaced hmem with rfl | hstays
    · rw [hnottorn] at htorn
      cases htorn
    · exact ⟨turn, hstays, htorn⟩
  case turns =>
    intro turn hmem
    have hold : turn = ⟨group, rest⟩ ∨ turn ∈ db.turns := by
      rw [hsplit]
      exact mem_replaced hmem
    rcases hold with rfl | hold
    · obtain ⟨done, hpieces, hdone⟩ := hturn.sent
      rw [pieces_cons, ← append_assoc] at hpieces
      refine ⟨hturn.captured, hturn.nodup,
        fun other hother => hturn.joins other (mem_cons_of_mem _ hother),
        ⟨done ++ part.pieces, hpieces, ?_⟩, ?_⟩
      · intro piece hpiece
        rcases mem_append.mp hpiece with hleft | hright
        · exact hdone piece hleft
        · exact hstored piece hright
      · intro piece hpiece
        refine hturn.fresh piece ?_
        exact mem_append_right _ hpiece
    · have hsame := hsound.turns turn hold
      exact ⟨hsame.captured, hsame.nodup, hsame.joins, hsame.sent, hsame.fresh⟩

/-- A part of messages that ingress does not know is stored with them. -/
theorem ReplaySound.ingested [Host] (hsound : ReplaySound db)
    (hat : db.turns[position]? = some ⟨group, part :: rest⟩)
    (hlinked : Linked sidecar) (hreceptive : Receptive sidecar)
    (hrecorded : PartRecorded db sidecar part rowId) :
    ReplaySound
      { transport := { db.transport with sidecar }
        turns := db.turns.set position ⟨group, rest⟩
        ingested := db.ingested ++ [⟨rowId, part.pieces⟩] } := by
  have hin := mem_of_getElem? hat
  have hturn := hsound.turns _ hin
  have hjoins := hturn.joins part mem_cons_self
  obtain ⟨before, after, hsplit, hset, _⟩ := position_split hat
  rw [hset]
  obtain ⟨done, hpieces, hdone⟩ := hturn.sent
  rw [pieces_cons, ← append_assoc] at hpieces
  generalize hdb : ({ transport := { db.transport with sidecar }
                      turns := before ++ ⟨group, rest⟩ :: after
                      ingested := db.ingested ++ [⟨rowId, part.pieces⟩] } :
    ReplayDb) = db'
  have hstored : db'.storedPieces = db.storedPieces ++ part.pieces := by
    rw [← hdb]
    unfold ReplayDb.storedPieces
    rw [flatMap_append, flatMap_singleton]
  have hknows : ∀ id, db'.knows id = (sidecar.discordIds.get? id).isSome := by
    rw [← hdb]
    exact fun _ => rfl
  have howes : ∀ piece ∈ part.pieces,
      piece ∈ Turn.pieces ⟨group, part :: rest⟩ := by
    intro _ hpiece
    exact mem_append_left _ hpiece
  have hbegins : ∀ piece ∈ part.pieces, piece.index = 0 →
      piece.id ∈ part.ids := by
    intro piece hpiece hindex
    obtain ⟨_, _, _, row, hrow, _⟩ := hturn.fragment_of_piece (howes piece hpiece)
    rw [hjoins.ids]
    exact mem_ids.mpr ⟨piece, hpiece, hindex, rfl, (hsound.named _ row hrow).2⟩
  have hnew : ∀ piece ∈ part.pieces, piece ∉ db.storedPieces := by
    intro piece hpiece hold
    by_cases hindex : piece.index = 0
    · have hunknown := (hrecorded.bound _ (hbegins piece hpiece hindex)).1
      rw [hsound.bound piece hold] at hunknown
      cases hunknown
    · exact hturn.fresh piece (howes piece hpiece) hindex hold
  have hfront : ∀ piece ∈ done ++ part.pieces, piece ∈ db'.storedPieces := by
    intro piece hpiece
    rw [hstored]
    exact (mem_append.mp hpiece).elim
      (fun hleft => mem_append_left _ (hdone piece hleft))
      (fun hright => mem_append_right _ hright)
  have hdistinct : ((done ++ part.pieces) ++ Turn.pieces ⟨group, rest⟩).Nodup := by
    rw [← hpieces]
    exact groupPieces_nodup hturn.nodup
  have hknown : ∀ id, db.knows id = true → db'.knows id = true := by
    intro id hid
    rw [hknows]
    exact hrecorded.keeps id hid
  constructor
  case linked => rw [← hdb]; exact hlinked
  case receptive => rw [← hdb]; exact hreceptive
  case backed => rw [← hdb]; exact hrecorded.backed
  case named => rw [← hdb]; exact hsound.named
  case known =>
    intro id hid
    rw [hknows] at hid
    rcases hrecorded.back id hid with hold | hbound
    · obtain ⟨row, hrow, howed⟩ := hsound.known id hold
      refine ⟨row, by rw [← hdb]; exact hrow, ?_⟩
      intro piece hpiece
      rcases howed piece hpiece with hwas | ⟨turn, hmem, htorn⟩
      · left
        rw [hstored]
        exact mem_append_left _ hwas
      · rw [hsplit] at hmem
        rcases mem_replaced hmem with rfl | hstays
        · rcases torn_cons htorn with hsent | hleft
          · exact .inl (hfront piece (mem_append_right _ hsent))
          · refine .inr ⟨⟨group, rest⟩, ?_, hleft⟩
            rw [← hdb]
            exact mem_append_right _ mem_cons_self
        · refine .inr ⟨turn, ?_, htorn⟩
          rw [← hdb]
          exact hstays
    · rw [hjoins.ids] at hbound
      obtain ⟨first, hfirst, _, rfl, _⟩ := mem_ids.mp hbound
      obtain ⟨_, hfragment, hcut, row, hrow, hsame⟩ :=
          hturn.fragment_of_piece (howes first hfirst)
      refine ⟨row, by rw [← hdb]; exact hrow, ?_⟩
      rw [hsame]
      intro piece hpiece
      rcases mem_takeWhile_back hturn.nodup hpieces hfragment
          (mem_append_right _ hfirst) (mem_cutPieces hcut) hpiece with
        hsent | hleft
      · exact .inl (hfront piece hsent)
      · refine .inr ⟨⟨group, rest⟩, ?_, hleft⟩
        rw [← hdb]
        exact mem_append_right _ mem_cons_self
  case bound =>
    intro piece hpiece
    rw [hstored] at hpiece
    rcases mem_append.mp hpiece with hold | hsent
    · exact hknown _ (hsound.bound piece hold)
    · obtain ⟨first, hfirst, hid, hindex⟩ :=
        first_mem_front hpieces (mem_append_right done hsent)
      rw [← hid]
      rcases mem_append.mp hfirst with hwas | hnow
      · exact hknown _ (hsound.bound first (hdone first hwas))
      · rw [hknows]
        exact (hrecorded.bound _ (hbegins first hnow hindex)).2
  case turns =>
    intro turn hmem
    have hold : turn = ⟨group, rest⟩ ∨ turn ∈ before ++ after := by
      rw [← hdb] at hmem
      rcases mem_append.mp hmem with hleft | hright
      · exact .inr (mem_append_left _ hleft)
      · rcases mem_cons.mp hright with rfl | hright
        · exact .inl rfl
        · exact .inr (mem_append_right _ hright)
    rcases hold with rfl | hother
    · refine ⟨by rw [← hdb]; exact hturn.captured, hturn.nodup,
        fun other hother => hturn.joins other (mem_cons_of_mem _ hother),
        ⟨done ++ part.pieces, hpieces, hfront⟩, ?_⟩
      intro piece hpiece hindex hpresent
      rw [hstored] at hpresent
      rcases mem_append.mp hpresent with hwas | hsent
      · refine hturn.fresh piece ?_ hindex hwas
        exact mem_append_right _ hpiece
      · exact (nodup_append'.mp hdistinct).2.2
          (mem_append_right _ hsent) hpiece
    · have hapart := hsound.apart
      rw [hsplit, pairwise_middle Turn.apart_symm, pairwise_cons]
        at hapart
      have hwas : turn ∈ db.turns := by
        rw [hsplit]
        exact (mem_append.mp hother).elim (mem_append_left _)
          fun hright => mem_append_right _ (mem_cons_of_mem _ hright)
      have hsame := hsound.turns turn hwas
      refine ⟨by rw [← hdb]; exact hsame.captured, hsame.nodup, hsame.joins, ?_,
        ?_⟩
      · obtain ⟨done', hpieces', hdone'⟩ := hsame.sent
        refine ⟨done', hpieces', fun piece hpiece => ?_⟩
        rw [hstored]
        exact mem_append_left _ (hdone' piece hpiece)
      · intro piece hpiece hindex hpresent
        rw [hstored] at hpresent
        rcases mem_append.mp hpresent with hpast | hsent
        · exact hsame.fresh piece hpiece hindex hpast
        -- the cut would be of a message that two turns have
        obtain ⟨fragment, hfragment, hcut, _, hrow, hrowSame⟩ :=
            hturn.fragment_of_piece (howes piece hsent)
        obtain ⟨_, hfragment', _, _, hrow', hrowSame'⟩ :=
            hsame.fragment_of_piece hpiece
        rw [hrow] at hrow'
        cases hrow'
        rw [hrowSame] at hrowSame'
        subst hrowSame'
        have hwhole := hapart.1 turn hother fragment hfragment hfragment'
        rw [isCut_of_index hcut hindex] at hwhole
        cases hwhole
  case apart =>
    rw [← hdb]
    have hapart := hsound.apart
    rw [hsplit] at hapart
    exact apart_set hapart
  case marked =>
    intro id row hrow hmarked piece hpiece
    rw [hstored]
    rw [← hdb] at hrow
    exact mem_append_left _ (hsound.marked id row hrow hmarked piece hpiece)
  case once =>
    rw [hstored]
    refine nodup_append'.mpr ⟨hsound.once, ?_, ?_⟩
    · exact hdistinct.of_append_left.of_append_right
    · intro piece hold hpiece
      exact hnew piece hpiece hold
  case texts =>
    intro entry hentry
    rw [← hdb] at hentry ⊢
    rcases mem_append.mp hentry with hold | hlast
    · obtain ⟨evidence, hevidence, htext⟩ := hsound.texts entry hold
      exact ⟨evidence, hrecorded.rows _ _ hevidence, htext⟩
    · rw [mem_singleton.mp hlast]
      rw [← hjoins.text]
      exact hrecorded.stored

end CognitiveSidecar.OwnerTransport
