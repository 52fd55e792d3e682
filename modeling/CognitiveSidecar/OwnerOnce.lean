/-
What the turns under way keep: a message that ingress knows is stored whole, or
its rest is the next thing that one turn sends.
-/
import CognitiveSidecar.OwnerReplay
import CognitiveSidecar.OwnerTransportRuns
import Mathlib.Data.List.Pairwise

namespace CognitiveSidecar.OwnerTransport

open Option List Relational

/-! What is stored, and what is still to be sent. -/

/-- The Discord message is bound to evidence. -/
def ReplayDb.knows (db : ReplayDb) (id : String) : Bool :=
  (db.transport.sidecar.discordIds.get? id).isSome

/-- The cuts that the evidence holds. -/
def ReplayDb.storedPieces (db : ReplayDb) : List OwnerTurnPiece :=
  db.ingested.flatMap (·.pieces)

def Capture.fragment (row : Capture) : Fragment :=
  ⟨row.text, row.discordMessageId⟩

/-- The message is sent in more than one piece. -/
def Fragment.isCut (fragment : Fragment) : Bool :=
  1 < fragment.cutPieces.length

variable {fragment : Fragment} {piece : OwnerTurnPiece}

theorem isCut_of_index (hpiece : piece ∈ fragment.cutPieces)
    (hindex : piece.index ≠ 0) :
    fragment.isCut = true := by
  obtain ⟨_, _, hsplit⟩ := append_of_mem hpiece
  have hplace := index_cutPieces hsplit
  refine decide_eq_true ?_
  rw [hsplit, length_append, length_cons]
  omega

/-- The cuts that a turn is still to send. -/
def Turn.pieces (turn : Turn) : List OwnerTurnPiece :=
  partPieces turn.remaining

/-- Of these, the rest of a message whose first cut was sent. -/
def Turn.torn (turn : Turn) : List OwnerTurnPiece :=
  turn.pieces.takeWhile (·.index ≠ 0)

variable {turn : Turn}

theorem index_of_mem_torn (hpiece : piece ∈ turn.torn) : piece.index ≠ 0 := by
  have hlater := mem_takeWhile_imp hpiece
  exact of_decide_eq_true hlater

/-! Captures. -/

/-- Captures are kept, inserted unmarked, and marked where a test selects
them. -/
structure CapturesMoved (p : Capture → Prop) (captures captures' : Table Capture) :
    Prop where
  kept : CapturesKept captures captures'
  back : ∀ id row', captures'.get? id = some row' →
    (∃ row, captures.get? id = some row ∧ row'.content = row.content ∧
      (row'.admittedAtMs.isSome = true →
        row.admittedAtMs.isSome = true ∨ p row)) ∨
    (captures.get? id = none ∧ row'.admittedAtMs = none ∧
      trim id = id ∧ id ≠ "")

theorem CapturesMoved.refl (p : Capture → Prop) (captures : Table Capture) :
    CapturesMoved p captures captures :=
  ⟨.refl captures, fun _ row hrow => .inl ⟨row, hrow, rfl, .inl⟩⟩

variable {p : Capture → Prop}

theorem CapturesMoved.trans {first second third : Table Capture}
    (hfirst : CapturesMoved (fun _ => False) first second)
    (hsecond : CapturesMoved (fun _ => False) second third) :
    CapturesMoved p first third := by
  refine ⟨hfirst.kept.trans hsecond.kept, ?_⟩
  intro id row'' hrow''
  rcases hsecond.back id row'' hrow'' with
    ⟨row', hrow', hcontent', hmarked'⟩ | ⟨hfree, hnew⟩
  · have hmark : row''.admittedAtMs.isSome = true →
        row'.admittedAtMs.isSome = true := fun hsome =>
      (hmarked' hsome).resolve_right fun hnever => hnever
    rcases hfirst.back id row' hrow' with
      ⟨row, hrow, hcontent, hmarked⟩ | ⟨hfree, hnone, hid⟩
    · refine .inl ⟨row, hrow, hcontent'.trans hcontent, fun hsome => .inl ?_⟩
      exact (hmarked (hmark hsome)).resolve_right fun hnever => hnever
    · refine .inr ⟨hfree, ?_, hid⟩
      rw [hnone] at hmark
      exact not_isSome_iff_eq_none.mp fun hsome => absurd (hmark hsome)
        Bool.false_ne_true
  · refine .inr ⟨?_, hnew⟩
    cases hold : first.get? id with
    | none => rfl
    | some row =>
      obtain ⟨row', hrow', _⟩ := hfirst.kept id row hold
      rw [hfree] at hrow'
      cases hrow'

/-- What a row to be inserted promises. -/
structure Capture.IsNew (row : Capture) : Prop where
  unmarked : row.admittedAtMs = none
  trimmed : trim row.discordMessageId = row.discordMessageId
  nonempty : row.discordMessageId ≠ ""

theorem requiredId_named {value normalized : String} {fault : TransportFault}
    (hok : requiredId value fault = .ok normalized) :
    normalized = trim value ∧ normalized ≠ "" := by
  obtain ⟨⟨hnonempty, _⟩, hok⟩ := of_require hok
  cases of_pure hok
  exact ⟨rfl, hnonempty⟩

variable {row : Capture}

theorem normalizeCapture_isNew {input : CaptureInput} {reading : RoomReading}
    {source : CaptureSource}
    (hok : normalizeCapture input reading source = .ok row) : row.IsNew := by
  obtain ⟨_, _, hok⟩ := of_bind hok
  obtain ⟨_, hid, hok⟩ := of_bind hok
  replace hok := passed hok
  obtain ⟨_, _, hok⟩ := of_bind hok
  replace hok := passed hok
  replace hok := passed hok
  replace hok := passed hok
  obtain ⟨_, _, hok⟩ := of_bind hok
  replace hok := passed hok
  obtain ⟨_, _, hok⟩ := of_bind hok
  cases of_pure hok
  obtain ⟨htrim, hnonempty⟩ := requiredId_named hid
  refine ⟨rfl, ?_, hnonempty⟩
  rw [htrim, trim_trim]

variable {captures captures' : Table Capture}

theorem insertCapture_moved {input : Capture} {inserted : Bool}
    (hnew : input.IsNew)
    (hok : insertCaptureInTransaction captures input =
      .ok (inserted, captures')) : CapturesMoved p captures captures' := by
  refine ⟨(insertCapture_kept hok).1, ?_⟩
  rcases insertCapture_cases hok with ⟨_, _, _, rfl⟩ | ⟨hfree, rfl⟩
  · exact (CapturesMoved.refl p captures').back
  · intro id row' hrow'
    rw [Table.get?_insertNew hfree] at hrow'
    split at hrow'
    · rename_i hid
      cases hrow'
      have hid' : id = input.discordMessageId := hid
      rw [hid']
      exact .inr ⟨hfree, hnew.unmarked, hnew.trimmed, hnew.nonempty⟩
    · exact .inl ⟨row', hrow', rfl, .inl⟩

theorem insertCaptures_moved {rows : List Capture}
    {newlyCaptured duplicates : Nat} (hnew : ∀ row ∈ rows, row.IsNew)
    (hok : insertCaptures rows captures =
      .ok (newlyCaptured, duplicates, captures')) :
    CapturesMoved p captures captures' := by
  induction rows generalizing p captures newlyCaptured duplicates with
  | nil =>
    cases of_pure hok
    exact .refl _ _
  | cons row _ ih =>
    obtain ⟨⟨inserted, _⟩, hfirst, hok⟩ := of_bind hok
    obtain ⟨⟨_, _, last⟩, hrest, hok⟩ := of_bind hok
    have hlast : last = captures' := by
      cases inserted <;> cases of_pure hok <;> rfl
    subst hlast
    refine .trans (insertCapture_moved (hnew row mem_cons_self) hfirst) ?_
    exact ih (fun other hother => hnew other (mem_cons_of_mem _ hother))
      hrest

theorem admitCaptures_moved (ownerId : String) (nowMs : Int)
    (selected : Capture → Bool) (db : TransportDb) :
    CapturesMoved (fun row => selected row = true) db.captures
      (admitCaptures ownerId nowMs selected db).captures := by
  refine ⟨admitCaptures_kept _ _ _ _, ?_⟩
  intro _ _ hrow'
  unfold admitCaptures at hrow'
  rw [get?_update] at hrow'
  obtain ⟨row, hrow, rfl⟩ := map_eq_some_iff.mp hrow'
  refine .inl ⟨row, hrow, ?_, ?_⟩
  · split <;> rfl
  · split
    · rename_i hselected
      rw [Bool.and_eq_true] at hselected
      exact fun _ => .inr hselected.2
    · exact .inl

/-! Sound turns. -/

/-- A turn is of captured messages, has sent what it does not hold, and holds no
later cut of a message that is stored. -/
structure TurnSound (db : ReplayDb) (turn : Turn) : Prop where
  captured : ∀ fragment ∈ turn.group, ∃ row,
    db.transport.captures.get? fragment.id = some row ∧ row.fragment = fragment
  nodup : (turn.group.map (·.id)).Nodup
  joins : ∀ part ∈ turn.remaining, part.Joins
  sent : ∃ done, groupPieces turn.group = done ++ turn.pieces ∧
    ∀ piece ∈ done, piece ∈ db.storedPieces
  fresh : ∀ piece ∈ turn.pieces, piece.index ≠ 0 → piece ∉ db.storedPieces

/-- Each message that is cut belongs to one of two turns at most. -/
def Turn.apart (first second : Turn) : Prop :=
  ∀ fragment ∈ first.group, fragment ∈ second.group → fragment.isCut = false

theorem Turn.apart_symm {first second : Turn} (hapart : first.apart second) :
    second.apart first :=
  fun fragment hsecond hfirst => hapart fragment hfirst hsecond

variable [Host]
variable {db : ReplayDb} {ids : List String}
variable {position : Nat}

/-- The cut is in the evidence of a lineage, as the log writes the text of its
part. -/
def HeldBy (db : ReplayDb) (piece : OwnerTurnPiece) (lineageId : String) : Prop :=
  ∃ entry ∈ db.ingested, piece ∈ entry.pieces ∧
    ∃ evidence,
      db.transport.sidecar.evidence.get? entry.evidenceRowId = some evidence ∧
      evidence.lineageId = lineageId ∧
      evidence.text = (normalizeClassification
        (some (trim (joined entry.pieces)))).1

/-- A capture is marked only when evidence holds its whole text, and no cut is
in the evidence of two lineages. -/
structure ExactlyOnce (db : ReplayDb) : Prop where
  whole : ∀ id row, db.transport.captures.get? id = some row →
    row.admittedAtMs.isSome = true → ∀ piece ∈ row.fragment.cutPieces,
      ∃ lineageId, HeldBy db piece lineageId
  once : ∀ piece first second, HeldBy db piece first →
    HeldBy db piece second → first = second

structure ReplaySound (db : ReplayDb) : Prop where
  linked : Linked db.transport.sidecar
  receptive : Receptive db.transport.sidecar
  backed : ∀ id binding,
    db.transport.sidecar.discordIds.get? id = some binding →
    ∃ rowId evidence,
      db.transport.sidecar.evidence.get? rowId = some evidence ∧
      evidence.lineageId = binding.lineageId
  named : ∀ id row, db.transport.captures.get? id = some row →
    trim id = id ∧ id ≠ ""
  known : ∀ id, db.knows id = true → ∃ row,
    db.transport.captures.get? id = some row ∧
    ∀ piece ∈ row.fragment.cutPieces, piece ∈ db.storedPieces ∨
      ∃ turn ∈ db.turns, piece ∈ turn.torn
  bound : ∀ piece ∈ db.storedPieces, db.knows piece.id = true
  turns : ∀ turn ∈ db.turns, TurnSound db turn
  apart : db.turns.Pairwise Turn.apart
  marked : ∀ id row, db.transport.captures.get? id = some row →
    row.admittedAtMs.isSome = true →
    ∀ piece ∈ row.fragment.cutPieces, piece ∈ db.storedPieces
  once : db.storedPieces.Nodup
  texts : ∀ entry ∈ db.ingested, ∃ evidence,
    db.transport.sidecar.evidence.get? entry.evidenceRowId = some evidence ∧
    evidence.text = (normalizeClassification
      (some (trim (joined entry.pieces)))).1

omit [Host] in
/-- Two entries that hold a cut are the same one. -/
theorem entry_unique (honce : db.storedPieces.Nodup) {first second : Ingestion}
    (hfirst : first ∈ db.ingested) (hsecond : second ∈ db.ingested)
    (hin : piece ∈ first.pieces) (hin' : piece ∈ second.pieces) :
    first = second := by
  have hpairwise := (nodup_flatMap.mp honce).2
  by_contra hne
  have hsymm : Std.Symm (Function.onFun List.Disjoint Ingestion.pieces) :=
    ⟨fun _ _ hdisjoint _ hright hleft => hdisjoint hleft hright⟩
  exact hpairwise.forall hfirst hsecond hne hin hin'

theorem ReplaySound.exactlyOnce (hsound : ReplaySound db) :
    ExactlyOnce db := by
  constructor
  · intro id row hrow hmarked piece hpiece
    have hstored := hsound.marked id row hrow hmarked piece hpiece
    obtain ⟨entry, hentry, hin⟩ := mem_flatMap.mp hstored
    obtain ⟨evidence, hevidence, htext⟩ := hsound.texts entry hentry
    exact ⟨evidence.lineageId, entry, hentry, hin, evidence, hevidence, rfl, htext⟩
  · rintro _ _ _ ⟨_, hentry, hin, _, hevidence, rfl, _⟩ ⟨_, hentry', hin', _,
      hevidence', rfl, _⟩
    cases entry_unique hsound.once hentry hentry' hin hin'
    rw [hevidence] at hevidence'
    cases hevidence'
    rfl

/-! Steps of the transport and of the turns. -/

omit [Host] in
theorem fragment_of_content {row' : Capture}
    (hcontent : row'.content = row.content) : row'.fragment = row.fragment := by
  have htext := congrArg Capture.text hcontent
  have hid := congrArg Capture.discordMessageId hcontent
  exact congrArg₂ Fragment.mk htext hid

/-- Captures may come and be marked, those that are stored whole. -/
theorem ReplaySound.captured (hsound : ReplaySound db)
    {transport' : TransportDb}
    (hsidecar : transport'.sidecar = db.transport.sidecar)
    (hmoved : CapturesMoved p db.transport.captures transport'.captures)
    (hwhole : ∀ id row, db.transport.captures.get? id = some row → p row →
      ∀ piece ∈ row.fragment.cutPieces, piece ∈ db.storedPieces) :
    ReplaySound { db with transport := transport' } := by
  have hknows : ∀ id,
      ReplayDb.knows { db with transport := transport' } id = db.knows id := by
    intro _
    unfold ReplayDb.knows
    rw [hsidecar]
  constructor
  case linked => rw [hsidecar]; exact hsound.linked
  case receptive => rw [hsidecar]; exact hsound.receptive
  case backed => rw [hsidecar]; exact hsound.backed
  case texts => rw [hsidecar]; exact hsound.texts
  case apart => exact hsound.apart
  case once => exact hsound.once
  case named =>
    intro id row' hrow'
    rcases hmoved.back id row' hrow' with ⟨row, hrow, _⟩ | ⟨_, _, hnamed⟩
    · exact hsound.named id row hrow
    · exact hnamed
  case known =>
    intro id hknown
    rw [hknows] at hknown
    obtain ⟨row, hrow, hpieces⟩ := hsound.known id hknown
    obtain ⟨row', hrow', hcontent⟩ := hmoved.kept id row hrow
    refine ⟨row', hrow', ?_⟩
    rw [fragment_of_content hcontent]
    exact hpieces
  case bound =>
    intro piece hpiece
    rw [hknows]
    exact hsound.bound piece hpiece
  case turns =>
    intro turn hturn
    have hold := hsound.turns turn hturn
    refine ⟨?_, hold.nodup, hold.joins, hold.sent, hold.fresh⟩
    intro fragment hfragment
    obtain ⟨row, hrow, hsame⟩ := hold.captured fragment hfragment
    obtain ⟨row', hrow', hcontent⟩ := hmoved.kept _ row hrow
    exact ⟨row', hrow', (fragment_of_content hcontent).trans hsame⟩
  case marked =>
    intro id row' hrow' hmarked
    rcases hmoved.back id row' hrow' with
      ⟨row, hrow, hcontent, hwas⟩ | ⟨_, hnone, _⟩
    · rw [fragment_of_content hcontent]
      rcases hwas hmarked with hbefore | hselected
      · exact hsound.marked id row hrow hbefore
      · exact hwhole id row hrow hselected
    · rw [hnone] at hmarked
      cases hmarked

/-- Turns may end that are not within a message. -/
theorem ReplaySound.ended (hsound : ReplaySound db) {turns' : List Turn}
    (hfewer : turns'.Sublist db.turns)
    (hended : ∀ turn ∈ db.turns, turn.torn = [] ∨ turn ∈ turns') :
    ReplaySound { db with turns := turns' } where
  linked := hsound.linked
  receptive := hsound.receptive
  backed := hsound.backed
  named := hsound.named
  known := by
    intro id hknown
    obtain ⟨row, hrow, hpieces⟩ := hsound.known id hknown
    refine ⟨row, hrow, ?_⟩
    intro piece hpiece
    rcases hpieces piece hpiece with hstored | ⟨turn, hturn, htorn⟩
    · exact .inl hstored
    · rcases hended turn hturn with hnil | hstays
      · rw [hnil] at htorn
        cases htorn
      · exact .inr ⟨turn, hstays, htorn⟩
  bound := hsound.bound
  turns := by
    intro turn hturn
    have hold := hsound.turns turn (hfewer.subset hturn)
    exact ⟨hold.captured, hold.nodup, hold.joins, hold.sent, hold.fresh⟩
  apart := hsound.apart.sublist hfewer
  marked := hsound.marked
  once := hsound.once
  texts := hsound.texts

omit [Host] in
/-- A position of a list splits it. -/
theorem position_split {turns : List Turn}
    (hturn : turns[position]? = some turn) : ∃ before after,
      turns = before ++ turn :: after ∧
      (∀ next, turns.set position next = before ++ next :: after) ∧
      turns.eraseIdx position = before ++ after := by
  obtain ⟨hlt, hget⟩ := List.getElem?_eq_some_iff.mp hturn
  refine ⟨turns.take position, turns.drop (position + 1), ?_, ?_, ?_⟩
  · rw [← hget, getElem_cons_drop, take_append_drop]
  · intro _
    exact set_eq_take_append_cons_drop.trans (if_pos hlt)
  · exact eraseIdx_eq_take_drop_succ turns position

theorem ReplaySound.abandon (hsound : ReplaySound db)
    (hwhole : ∀ turn ∈ db.turns[position]?, turn.torn = []) :
    ReplaySound (abandon position db) := by
  refine hsound.ended (eraseIdx_sublist _ _) ?_
  intro turn hturn
  cases hat : db.turns[position]? with
  | none =>
    rw [eraseIdx_of_length_le (List.getElem?_eq_none_iff.mp hat)]
    exact .inr hturn
  | some =>
    obtain ⟨_, _, hsplit, _, herase⟩ := position_split hat
    rw [herase]
    rw [hsplit] at hturn
    rcases mem_append.mp hturn with hin | hin
    · exact .inr (mem_append_left _ hin)
    · rcases mem_cons.mp hin with rfl | hin
      · exact .inl (hwhole turn hat)
      · exact .inr (mem_append_right _ hin)

omit [Host] in
/-- The groups under way hold the texts of the captures. -/
theorem mem_fragmentsOf (hfragment : fragment ∈ fragmentsOf db ids) : ∃ row,
      db.transport.captures.get? fragment.id = some row ∧
      row.fragment = fragment ∧ fragment.id ∈ ids := by
  obtain ⟨id, hid, hfound⟩ := mem_filterMap.mp hfragment
  obtain ⟨row, hrow, rfl⟩ := map_eq_some_iff.mp hfound
  have hkey : row.discordMessageId = id := key_of_get? hrow
  refine ⟨row, ?_, rfl, ?_⟩
  · rw [hkey]
    exact hrow
  · rw [hkey]
    exact hid

omit [Host] in
theorem fragmentsOf_nodup (hnodup : ids.Nodup) :
    ((fragmentsOf db ids).map (·.id)).Nodup := by
  unfold fragmentsOf
  rw [map_filterMap]
  refine hnodup.filterMap ?_
  have hfound : ∀ id found, found ∈ (((db.transport.captures.get? id).map
      fun row => (⟨row.text, row.discordMessageId⟩ : Fragment)).map (·.id)) →
      found = id := by
    intro _ _ hfound
    rw [Option.map_map] at hfound
    obtain ⟨_, hrow, rfl⟩ := map_eq_some_iff.mp hfound
    exact key_of_get? hrow
  intro id id' found hid hid'
  rw [← hfound id found hid, ← hfound id' found hid']

omit [Host] in
/-- Before a turn sends anything, it owes all the cuts of its group. -/
theorem splitOwnerTurn_pieces (group : List Fragment) :
    Turn.pieces ⟨group, splitOwnerTurn group ownerTurnTextLimit⟩ =
      groupPieces group :=
  (splitOwnerTurn_spec group).2

/-- A turn may take up captures of which those that are cut are not known and in
no other turn. -/
theorem ReplaySound.beginTurn (hsound : ReplaySound db) (hnodup : ids.Nodup)
    (halone : ∀ fragment ∈ fragmentsOf db ids, fragment.isCut = true →
      db.knows fragment.id = false ∧
        ∀ turn ∈ db.turns, fragment ∉ turn.group) :
    ReplaySound (beginTurn ids db) := by
  have hturn : TurnSound db ⟨fragmentsOf db ids,
      splitOwnerTurn (fragmentsOf db ids) ownerTurnTextLimit⟩ := by
    constructor
    case captured =>
      intro _ hfragment
      obtain ⟨row, hrow, hsame, _⟩ := mem_fragmentsOf hfragment
      exact ⟨row, hrow, hsame⟩
    case nodup => exact fragmentsOf_nodup hnodup
    case joins => exact (splitOwnerTurn_spec _).1
    case sent =>
      refine ⟨[], ?_, fun _ hpiece => absurd hpiece not_mem_nil⟩
      rw [splitOwnerTurn_pieces, nil_append]
    case fresh =>
      intro piece hpiece hindex hstored
      rw [splitOwnerTurn_pieces] at hpiece
      obtain ⟨fragment, hfragment, hin⟩ := mem_flatMap.mp hpiece
      have hunknown := (halone fragment hfragment (isCut_of_index hin hindex)).1
      rw [← mem_cutPieces hin, hsound.bound piece hstored] at hunknown
      cases hunknown
  constructor
  case linked => exact hsound.linked
  case receptive => exact hsound.receptive
  case backed => exact hsound.backed
  case named => exact hsound.named
  case bound => exact hsound.bound
  case marked => exact hsound.marked
  case once => exact hsound.once
  case texts => exact hsound.texts
  case known =>
    intro id hknown
    obtain ⟨row, hrow, hpieces⟩ := hsound.known id hknown
    refine ⟨row, hrow, fun piece hpiece => (hpieces piece hpiece).imp_right ?_⟩
    rintro ⟨turn, hin, htorn⟩
    exact ⟨turn, mem_append_left _ hin, htorn⟩
  case turns =>
    intro turn hin
    rcases mem_append.mp hin with hold | hnew
    · have hsame := hsound.turns turn hold
      exact ⟨hsame.captured, hsame.nodup, hsame.joins, hsame.sent, hsame.fresh⟩
    · rw [mem_singleton.mp hnew]
      exact ⟨hturn.captured, hturn.nodup, hturn.joins, hturn.sent, hturn.fresh⟩
  case apart =>
    refine pairwise_append.mpr
      ⟨hsound.apart, pairwise_singleton _ _, ?_⟩
    intro turn hin _ hnew fragment hfragment hshared
    rw [mem_singleton.mp hnew] at hshared
    cases hcut : fragment.isCut with
    | false => rfl
    | true =>
      exact absurd hfragment ((halone fragment hshared hcut).2 turn hin)

end CognitiveSidecar.OwnerTransport
