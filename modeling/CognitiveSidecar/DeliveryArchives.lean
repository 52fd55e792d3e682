/-
The two archives of a delivery: the assistant messages of the decision and the
evidence of the projector, and what is known of both for every reservation.
-/
import CognitiveSidecar.Receipts

namespace CognitiveSidecar.Delivery

open List Relational Table

/-- The texts that the decisions of a reservation archived. -/
def archivedTexts (db : DeliveryDb) (reservationId : Nat) : List String :=
  (db.messages.filter (·.reservationId = reservationId)).map (·.text)

def deliveredOf (db : DeliveryDb) (reservationId : Nat) :
    List DeliveredEvidence :=
  db.delivered.filter (·.reservationId = reservationId)

/-- The texts that the projector recorded for a reservation. -/
def evidenceTexts (db : DeliveryDb) (reservationId : Nat) : List String :=
  (deliveredOf db reservationId).filterMap fun item =>
    (db.evidence.evidence.get? item.rowId).bind (·.text)

/-- A text of receipted bubbles of the reservation. -/
def SaidBy (row : DeliveryReservation) (text : String) : Prop :=
  ∃ bubbles : List DeliveryBubble, bubbles ≠ [] ∧
    (∀ bubble ∈ bubbles, bubble ∈ row.bubbles ∧ bubble.receipted = true) ∧
    text = bubbleText bubbles

/-- Where a reservation stands between its two archives. -/
inductive Standing [Host] (db : DeliveryDb) (row : DeliveryReservation)
    (kind : ProjectionKind) : Prop
  | undecided (hopen : isTerminalDeliveryState row.state = false)
      (harchived : archivedTexts db row.id = [])
      (hdelivered : deliveredOf db row.id = [])
  | unsaid (hterminal : isTerminalDeliveryState row.state = true)
      (hunsaid : row.receipted = [] ∨ inOrder row.bubbles = false)
      (harchived : archivedTexts db row.id = [])
      (hdelivered : deliveredOf db row.id = [])
  | archived (hsaid : row.receipted ≠ []) (hclean : Clean row)
      (hstate : row.state = if row.bubbles.length ≤ row.receipted.length then
        .committed else .partiallyDelivered)
      (harchived : archivedTexts db row.id = [bubbleText row.receipted])
      (hdelivered : deliveredOf db row.id = [])
  | told (hterminal : isTerminalDeliveryState row.state = true)
      (text : String) (rowId : String) (evidence : Evidence)
      (hsaid : SaidBy row text)
      (harchived : archivedTexts db row.id = [text])
      (hdelivered : deliveredOf db row.id =
        [⟨row.id, evidenceRole kind, rowId⟩])
      (hevidence : db.evidence.evidence.get? rowId = some evidence)
      (htext : evidence.text = some text)

/-- What is known of the two archives: every bubble is as planned or carries its
receipt, nothing of an idle delivery is sent, every message identifier belongs
to one delivery, and the bound ones to a delivery that is on record. -/
structure Archives [Host] (db : DeliveryDb) : Prop where
  recorded : ∀ {id row projectionKey}, db.reservations.get? id = some row →
    row.projectionKey = some projectionKey →
    ∀ bubble ∈ row.bubbles, bubble.Recorded
  idle : ∀ {id row projectionKey}, db.reservations.get? id = some row →
    row.projectionKey = some projectionKey →
    row.state = .drafted ∨ row.state = .reserved → row.receipted = []
  standing : ∀ {id row projectionKey}, db.reservations.get? id = some row →
    row.projectionKey = some projectionKey →
    Standing db row projectionKey.kind
  messages : ∀ message ∈ db.messages, ∃ row,
    db.reservations.get? message.reservationId = some row
  delivered : ∀ item ∈ db.delivered, ∃ row,
    db.reservations.get? item.reservationId = some row
  bound : ∀ {messageId binding},
    db.evidence.discordIds.get? messageId = some binding →
    ∃ id row projectionKey, db.reservations.get? id = some row ∧
      row.projectionKey = some projectionKey ∧ deliveredOf db id ≠ [] ∧
      ∃ bubble ∈ row.bubbles, bubble.discordMessageId = some messageId
  distinct : ∀ {id id' row row' projectionKey projectionKey' bubble bubble'
      messageId}, db.reservations.get? id = some row →
    db.reservations.get? id' = some row' →
    row.projectionKey = some projectionKey →
    row'.projectionKey = some projectionKey' →
    bubble ∈ row.bubbles → bubble' ∈ row'.bubbles →
    bubble.discordMessageId = some messageId →
    bubble'.discordMessageId = some messageId → id = id'

variable [Host] {db after : DeliveryDb} {row row' : DeliveryReservation}
variable {id : Nat}
variable {kind : ProjectionKind} {extra : List ArchivedMessage}
variable {projectionKey : OutboxKey}

theorem Archives.initial : Archives {} where
  recorded := fun hrow => by cases hrow
  idle := fun hrow => by cases hrow
  standing := fun hrow => by cases hrow
  messages := fun _ hmessage => by cases hmessage
  delivered := fun _ hitem => by cases hitem
  bound := fun hbound => by cases hbound
  distinct := fun hrow => by cases hrow

/-- The standing of a reservation rests on its own archives. -/
theorem Standing.frame (hstanding : Standing db row kind)
    (harchived : archivedTexts after row.id = archivedTexts db row.id)
    (hdelivered : deliveredOf after row.id = deliveredOf db row.id)
    (hlog : ∀ rowId evidence,
      db.evidence.evidence.get? rowId = some evidence →
      after.evidence.evidence.get? rowId = some evidence) :
    Standing after row kind := by
  cases hstanding with
  | undecided hopen hnone hfresh =>
    exact .undecided hopen (harchived.trans hnone) (hdelivered.trans hfresh)
  | unsaid hterminal hunsaid hnone hfresh =>
    exact .unsaid hterminal hunsaid (harchived.trans hnone)
      (hdelivered.trans hfresh)
  | archived hsaid hclean hstate hsome hfresh =>
    exact .archived hsaid hclean hstate (harchived.trans hsome)
      (hdelivered.trans hfresh)
  | told hterminal text rowId evidence hsaid hsome hitem hevidence htext =>
    exact .told hterminal text rowId evidence hsaid (harchived.trans hsome)
      (hdelivered.trans hitem) (hlog _ _ hevidence) htext

omit [Host] in
theorem archivedTexts_append (hmessages : after.messages = db.messages ++ extra) :
    archivedTexts after id = archivedTexts db id ++
      (extra.filter (·.reservationId = id)).map (·.text) := by
  unfold archivedTexts
  rw [hmessages, filter_append, map_append]

omit [Host] in
theorem archivedTexts_other {other : Nat}
    (hmessages : after.messages = db.messages ++ extra)
    (hextra : ∀ message ∈ extra, message.reservationId = other)
    (hother : id ≠ other) : archivedTexts after id = archivedTexts db id := by
  rw [archivedTexts_append hmessages, filter_eq_nil_iff.mpr]
  · exact append_nil _
  · intro message hmessage
    rw [decide_eq_true_eq, hextra message hmessage]
    exact fun hsame => hother hsame.symm

/-- What a rewritten reservation must show, when it was made for a row. -/
structure Rewrites (db after : DeliveryDb) (row row' : DeliveryReservation)
    (kind : ProjectionKind) : Prop where
  recorded : ∀ bubble ∈ row'.bubbles, bubble.Recorded
  idle : row'.state = .drafted ∨ row'.state = .reserved → row'.receipted = []
  standing : Standing after row' kind
  kept : deliveredOf db row.id ≠ [] → ∀ messageId,
    (∃ bubble ∈ row.bubbles, bubble.discordMessageId = some messageId) →
    ∃ bubble ∈ row'.bubbles, bubble.discordMessageId = some messageId
  fresh : ∀ bubble ∈ row'.bubbles, ∀ messageId,
    bubble.discordMessageId = some messageId →
    (∃ old ∈ row.bubbles, old.discordMessageId = some messageId) ∨
    ∀ id other projectionKey, db.reservations.get? id = some other →
      other.projectionKey = some projectionKey → id ≠ row.id →
      ∀ bubble ∈ other.bubbles, bubble.discordMessageId ≠ some messageId

/-- One reservation is rewritten, and maybe archived. -/
theorem Archives.replaced (harchives : Archives db)
    {reservations : Table DeliveryReservation}
    {extra : List ArchivedMessage}
    (hreplaced : Replaced db.reservations reservations row row')
    (hkey : row'.projectionKey = row.projectionKey)
    (hafter : after.reservations = reservations)
    (hmessages : after.messages = db.messages ++ extra)
    (hextra : ∀ message ∈ extra, message.reservationId = row.id)
    (hdelivered : after.delivered = db.delivered)
    (hevidence : after.evidence = db.evidence)
    (hrewrites : ∀ projectionKey, row.projectionKey = some projectionKey →
      Rewrites db after row row' projectionKey.kind) : Archives after := by
  have hstored : ∀ {id}, (∃ row, db.reservations.get? id = some row) →
      ∃ row, after.reservations.get? id = some row := by
    rintro id ⟨other, hother⟩
    rw [hafter]
    rcases hreplaced.get? hother with ⟨_, _, hnew⟩ | ⟨_, hsame⟩
    · exact ⟨row', hnew⟩
    · exact ⟨other, hsame⟩
  have hcases : ∀ {id other}, after.reservations.get? id = some other →
      (id = row.id ∧ other = row') ∨
        (id ≠ row.id ∧ db.reservations.get? id = some other) := by
    intro id other hother
    rw [hafter] at hother
    exact hreplaced.of_get? hother
  have hsame : ∀ id, deliveredOf after id = deliveredOf db id := by
    intro id
    unfold deliveredOf
    rw [hdelivered]
  have hold : db.reservations.get? row.id = some row := hreplaced.stored
  refine ⟨?_, ?_, ?_, ?_, ?_, ?_, ?_⟩
  · intro id other projectionKey hother hown
    rcases hcases hother with ⟨_, rfl⟩ | ⟨_, hother⟩
    · exact (hrewrites _ (hkey.symm.trans hown)).recorded
    · exact harchives.recorded hother hown
  · intro id other projectionKey hother hown
    rcases hcases hother with ⟨_, rfl⟩ | ⟨_, hother⟩
    · exact (hrewrites _ (hkey.symm.trans hown)).idle
    · exact harchives.idle hother hown
  · intro id other projectionKey hother hown
    rcases hcases hother with ⟨_, rfl⟩ | ⟨hne, hother⟩
    · exact (hrewrites _ (hkey.symm.trans hown)).standing
    · have hid : other.id = id := key_of_get? hother
      refine (harchives.standing hother hown).frame ?_ (hsame _) ?_
      · exact archivedTexts_other hmessages hextra (hid ▸ hne)
      · rw [hevidence]
        exact fun _ _ hfound => hfound
  · intro message hmessage
    rw [hmessages] at hmessage
    rcases mem_append.mp hmessage with hmessage | hmessage
    · exact hstored (harchives.messages message hmessage)
    · rw [hextra message hmessage]
      exact hstored ⟨row, hold⟩
  · intro item hitem
    rw [hdelivered] at hitem
    exact hstored (harchives.delivered item hitem)
  · intro messageId binding hbinding
    rw [hevidence] at hbinding
    obtain ⟨id, other, projectionKey, hother, hown, htold, hbubble⟩ :=
      harchives.bound hbinding
    rcases hreplaced.get? hother with ⟨hid, rfl, hnew⟩ | ⟨_, hkept⟩
    · refine ⟨id, row', projectionKey, hafter ▸ hnew, hkey.trans hown,
        (hsame id).symm ▸ htold, ?_⟩
      exact (hrewrites _ hown).kept (by rw [← show id = other.id from hid]; exact htold)
        messageId hbubble
    · exact ⟨id, other, projectionKey, hafter ▸ hkept, hown,
        (hsame id).symm ▸ htold, hbubble⟩
  · intro id id' first second firstKey secondKey bubble bubble' messageId hfirst
      hsecond hown hown' hbubble hbubble' hmessage hmessage'
    rcases hcases hfirst with ⟨hid, rfl⟩ | ⟨hne, hfirst⟩ <;>
      rcases hcases hsecond with ⟨hid', hrow'⟩ | ⟨hne', hsecond⟩
    · exact hid.trans hid'.symm
    · rcases (hrewrites _ (hkey.symm.trans hown)).fresh bubble hbubble messageId
        hmessage with ⟨old, hmem, hsent⟩ | hfresh
      · exact hid.trans (harchives.distinct hold hsecond (hkey.symm.trans hown)
          hown' hmem hbubble' hsent hmessage')
      · exact absurd hmessage'
          (hfresh _ _ _ hsecond hown' hne' bubble' hbubble')
    · subst hrow'
      rcases (hrewrites _ (hkey.symm.trans hown')).fresh bubble' hbubble'
        messageId hmessage' with ⟨old, hmem, hsent⟩ | hfresh
      · exact (harchives.distinct hfirst hold hown (hkey.symm.trans hown')
          hbubble hmem hmessage hsent).trans hid'.symm
      · exact absurd hmessage (hfresh _ _ _ hfirst hown hne bubble hbubble)
    · exact harchives.distinct hfirst hsecond hown hown' hbubble hbubble' hmessage
        hmessage'

/-! Evidence. -/

/-- The archives of a reservation agree, and hold only what was receipted. -/
structure Agree (db : DeliveryDb) (row : DeliveryReservation) : Prop where
  same : archivedTexts db row.id = evidenceTexts db row.id
  said : ∀ text ∈ archivedTexts db row.id, SaidBy row text

omit [Host] in
theorem evidenceTexts_none (hnone : deliveredOf db id = []) :
    evidenceTexts db id = [] := by
  unfold evidenceTexts
  rw [hnone]
  rfl

omit [Host] in
theorem evidenceTexts_one {item : DeliveredEvidence} {evidence : Evidence}
    {text : String} (hone : deliveredOf db id = [item])
    (hevidence : db.evidence.evidence.get? item.rowId = some evidence)
    (htext : evidence.text = some text) : evidenceTexts db id = [text] := by
  unfold evidenceTexts
  rw [hone, filterMap_cons, hevidence, Option.bind_some, htext]
  rfl

omit [Host] in
/-- The identifiers bound by one append. -/
theorem foldl_bind_origin {conversationId lineageId id : String}
    {items : List (String × Nat)} {table : Table DiscordBinding}
    {binding : DiscordBinding}
    (hbound : (items.foldl (bindDiscordId conversationId lineageId)
      table).get? id = some binding) :
    (∃ old, table.get? id = some old) ∨ ∃ item ∈ items, item.1 = id := by
  induction items generalizing table with
  | nil => exact .inl ⟨binding, hbound⟩
  | cons item _ ih =>
    rcases ih hbound with ⟨old, hold⟩ | ⟨other, hother, hid⟩
    · unfold bindDiscordId at hold
      cases hinsert : table.insert?
          ⟨item.1, conversationId, lineageId, item.2⟩ with
      | none =>
        rw [hinsert] at hold
        exact .inl ⟨old, hold⟩
      | some =>
        rw [hinsert, Option.getD_some, get?_insert hinsert] at hold
        split at hold
        · rename_i hid
          exact .inr ⟨item, mem_cons_self, hid.symm⟩
        · exact .inl ⟨old, hold⟩
    · exact .inr ⟨other, mem_cons_of_mem item hother, hid⟩

omit [Host] in
/-- The identifiers that a delivery reports are those of its receipts. -/
theorem mem_reportedIds
    (hrecorded : ∀ bubble ∈ row.bubbles, bubble.Recorded) {id : String}
    (hmem : id ∈ uniqueIds (row.receipted.filterMap (·.discordMessageId))) :
    ∃ bubble ∈ row.bubbles, bubble.discordMessageId = some id := by
  unfold uniqueIds at hmem
  rw [mem_eraseDups] at hmem
  obtain ⟨hmem, _⟩ := mem_filter.mp hmem
  obtain ⟨_, hgiven, rfl⟩ := mem_map.mp hmem
  obtain ⟨bubble, hbubble, hid⟩ := mem_filterMap.mp hgiven
  have hbubble := (mem_filter.mp hbubble).1
  refine ⟨bubble, hbubble, ?_⟩
  rcases hrecorded bubble hbubble with ⟨hnone, _⟩ | ⟨_, hsent, hreported, _⟩
  · rw [hnone] at hid
    cases hid
  · cases hsent.symm.trans hid
    rw [hid, hreported.2]

/-- An identifier of a delivery without evidence leads to no evidence. -/
theorem existing_none (harchives : Archives db)
    (hrow : db.reservations.get? id = some row)
    (hkey : row.projectionKey = some projectionKey)
    (hfresh : deliveredOf db row.id = []) :
    existingByDiscordIds db.evidence
      (uniqueIds (row.receipted.filterMap (·.discordMessageId))) = none := by
  have hid : row.id = id := key_of_get? hrow
  unfold existingByDiscordIds
  rw [List.findSome?_eq_none_iff]
  intro messageId hmem
  obtain ⟨_, hbubble, hsent⟩ :=
      mem_reportedIds (harchives.recorded hrow hkey) hmem
  unfold existingByDiscordId
  cases hbinding : db.evidence.discordIds.get? messageId with
  | none => rfl
  | some =>
    obtain ⟨_, _, _, hstored, hown, htold, _, hfound, hsame⟩ := harchives.bound hbinding
    have hother := harchives.distinct hrow hstored hkey hown hbubble hfound
      hsent hsame
    rw [← hother, ← hid] at htold
    exact absurd hfresh htold

/-- The evidence of an archived delivery is appended. -/
theorem Archives.appended (harchives : Archives db) {role : EvidenceRole}
    {input : AppendEvidenceInput} {written : Evidence} {evidence : Sidecar}
    (hrow : db.reservations.get? id = some row)
    (hkey : row.projectionKey = some projectionKey) (hsaid : row.receipted ≠ [])
    (hclean : Clean row) (hterminal : isTerminalDeliveryState row.state = true)
    (harchived : archivedTexts db row.id = [bubbleText row.receipted])
    (hfresh : deliveredOf db row.id = [])
    (hrole : role = evidenceRole projectionKey.kind)
    (htext : input.text = some (bubbleText row.receipted))
    (hids : written.discordMessageIds =
      uniqueIds (row.receipted.filterMap (·.discordMessageId)))
    (hrecorded : EvidenceRecorded db.evidence evidence input written) :
    Archives { db with
      evidence
      delivered := db.delivered ++ [⟨id, role, written.rowId⟩] } := by
  have hid : row.id = id := key_of_get? hrow
  have hlog : ∀ rowId stored, db.evidence.evidence.get? rowId = some stored →
      evidence.evidence.get? rowId = some stored := fun _ _ hstored =>
    get?_insert_of_some hrecorded.inserted hstored
  have hdelivered : ∀ other, deliveredOf { db with
      evidence
      delivered := db.delivered ++ [⟨id, role, written.rowId⟩] } other =
        deliveredOf db other ++
          if other = id then [⟨id, role, written.rowId⟩] else [] := by
    intro other
    unfold deliveredOf
    by_cases hother : other = id
    · rw [if_pos hother, hother]
      simp
    · rw [if_neg hother]
      simp [Ne.symm hother]
  refine ⟨harchives.recorded, harchives.idle, ?_, harchives.messages, ?_, ?_,
    harchives.distinct⟩
  · intro other stored storedKey hstored hown
    have hstoredId : stored.id = other := key_of_get? hstored
    by_cases hother : other = id
    · subst hother
      cases hrow.symm.trans hstored
      cases hkey.symm.trans hown
      refine .told hterminal (bubbleText row.receipted) written.rowId written
        ⟨row.receipted, hsaid, fun _ hbubble => mem_filter.mp hbubble, rfl⟩
        harchived ?_ hrecorded.stored ?_
      · rw [hdelivered, hfresh, if_pos hid, ← hrole, hid]
        rfl
      · rw [hrecorded.text, htext]
        unfold normalizeClassification
        rw [Option.any_some, hclean.plain]
        rfl
    · refine (harchives.standing hstored hown).frame rfl ?_ hlog
      rw [hdelivered, hstoredId, if_neg hother, append_nil]
  · intro item hitem
    rcases mem_append.mp hitem with hitem | hitem
    · exact harchives.delivered item hitem
    · cases mem_singleton.mp hitem
      exact ⟨row, hrow⟩
  · intro messageId binding hbinding
    have htold : ∀ other, deliveredOf db other ≠ [] → deliveredOf { db with
        evidence
        delivered := db.delivered ++ [⟨id, role, written.rowId⟩] } other ≠ [] := by
      intro other hother
      rw [hdelivered]
      exact append_ne_nil_of_left_ne_nil hother _
    rw [hrecorded.bindings] at hbinding
    rcases foldl_bind_origin hbinding with ⟨old, hold⟩ | ⟨item, hitem, rfl⟩
    · obtain ⟨other, stored, storedKey, hstored, hown, hother, hbubble⟩ :=
        harchives.bound hold
      exact ⟨other, stored, storedKey, hstored, hown, htold other hother,
        hbubble⟩
    · have hmem := fst_mem_of_mem_zipIdx hitem
      rw [hids] at hmem
      refine ⟨id, row, projectionKey, hrow, hkey, ?_,
        mem_reportedIds (harchives.recorded hrow hkey) hmem⟩
      rw [hdelivered]
      simp

/-- The archives agree where the evidence is on record, and where nothing was
archived. -/
theorem Standing.agree (hstanding : Standing db row kind)
    (hterminal : isTerminalDeliveryState row.state = true)
    (hsettled : deliveredOf db row.id ≠ [] ∨ archivedTexts db row.id = []) :
    Agree db row := by
  cases hstanding with
  | undecided hopen _ _ =>
    rw [hopen] at hterminal
    cases hterminal
  | unsaid _ _ harchived hfresh =>
    refine ⟨by rw [harchived, evidenceTexts_none hfresh], ?_⟩
    rw [harchived]
    exact fun _ hmem => by cases hmem
  | archived _ _ _ harchived hfresh =>
    rw [harchived] at hsettled
    rcases hsettled with htold | hnone
    · exact absurd hfresh htold
    · cases hnone
  | told _ _ _ _ hsaid harchived hone hevidence htext =>
    refine ⟨by rw [harchived, evidenceTexts_one hone hevidence htext], ?_⟩
    rw [harchived]
    intro _ hmem
    rw [mem_singleton.mp hmem]
    exact hsaid

/-- Recording the evidence of a reservation keeps the archives; where the
reservation is decided, they agree. -/
theorem markDelivered_archives [DeliveryHost] (harchives : Archives db)
    {source : ProjectableRow} {nowMs : Int}
    (hrow : db.reservations.get? id = some row)
    (hkey : row.projectionKey = some source.projectionKey)
    (hok : markDeliveredEvidence id source
      (assessFor source.projectionKey.kind row.bubbles) nowMs db =
        .ok ((), after)) :
    Archives after ∧
      (isTerminalDeliveryState row.state = true → Agree after row) := by
  have hid : row.id = id := key_of_get? hrow
  have hrecorded := harchives.recorded hrow hkey
  unfold markDeliveredEvidence getDeliveryReservation at hok
  rw [hrow] at hok
  dsimp only at hok
  have hstanding := harchives.standing hrow hkey
  cases hstanding with
  | undecided hopen _ _ =>
    have hquiet : mayBecomeEvidence row.state
        (assessFor source.projectionKey.kind row.bubbles) = false := by
      unfold mayBecomeEvidence
      rw [hopen]
      rfl
    rw [hquiet] at hok
    cases hok
    refine ⟨harchives, fun hterminal => ?_⟩
    rw [hopen] at hterminal
    cases hterminal
  | unsaid _ hunsaid harchived =>
    rw [mayBecomeEvidence_unsaid hrecorded hunsaid] at hok
    cases hok
    exact ⟨harchives, fun hterminal =>
      (harchives.standing hrow hkey).agree hterminal (.inr harchived)⟩
  | told _ _ rowId _ _ _ hone =>
    have hmem : (⟨row.id, evidenceRole source.projectionKey.kind, rowId⟩ :
        DeliveredEvidence) ∈ db.delivered := by
      have hmem := mem_singleton.mpr (rfl :
        (⟨row.id, evidenceRole source.projectionKey.kind, rowId⟩ :
          DeliveredEvidence) = _)
      rw [← hone] at hmem
      exact (mem_filter.mp hmem).1
    have htold : (db.delivered.any fun item =>
        decide (item.reservationId = id) &&
          decide (item.role = evidenceRole source.projectionKey.kind)) =
            true := by
      rw [any_eq_true]
      refine ⟨_, hmem, ?_⟩
      rw [Bool.and_eq_true, decide_eq_true_eq, decide_eq_true_eq]
      exact ⟨hid, rfl⟩
    rw [htold, Bool.or_true] at hok
    cases hok
    refine ⟨harchives, fun hterminal =>
      (harchives.standing hrow hkey).agree hterminal (.inl ?_)⟩
    rw [hone]
    exact cons_ne_nil _ _
  | archived hsaid hclean hstate harchived hfresh =>
    have huntold : (db.delivered.any fun item =>
        decide (item.reservationId = id) &&
          decide (item.role = evidenceRole source.projectionKey.kind)) =
            false := by
      rw [any_eq_false]
      intro item hitem hsame
      rw [Bool.and_eq_true, decide_eq_true_eq] at hsame
      have hmem : item ∈ deliveredOf db row.id :=
        mem_filter.mpr
          ⟨hitem, decide_eq_true (hsame.1.trans hid.symm)⟩
      rw [hfresh] at hmem
      cases hmem
    have hterminal : isTerminalDeliveryState row.state = true := by
      rw [hstate]
      split <;> rfl
    obtain ⟨hconfirmed, _⟩ := assess_clean hclean hrecorded hkey
    rw [mayBecomeEvidence_clean hclean hrecorded hkey hsaid hstate, huntold,
      hconfirmed, existing_none harchives hrow hkey hfresh] at hok
    simp only [Bool.not_true, Bool.or_self, Bool.false_eq_true, if_false]
      at hok
    split at hok
    · cases hok
    rename_i happended
    cases hok
    replace happended := passed happended
    simp only [Option.filter_none,
      existing_none harchives hrow hkey hfresh] at happended
    obtain ⟨hwritten, hids⟩ := insertEvidence_cases happended
    have hafter := harchives.appended hrow hkey hsaid hclean hterminal
      harchived hfresh rfl rfl (hids rfl) hwritten
    refine ⟨hafter, fun _ =>
      (hafter.standing hrow hkey).agree hterminal (.inl ?_)⟩
    unfold deliveredOf
    rw [hid]
    simp

end CognitiveSidecar.Delivery
