/-
Runs of captures, turns and replays: a capture is marked only when it is stored
whole and nothing is stored twice, where no turn is cut short or looked at while
it is within a message, and no part mixes what ingress knows with what it does
not.
-/
import CognitiveSidecar.OwnerIngress

namespace CognitiveSidecar.OwnerTransport

open List Relational

section Runs

variable [Host]
variable {db : ReplayDb} {reading : RoomReading} {nowMs : Int}

omit [Host] in
/-- Ingress knows none of the part's messages; or it knows all of them, and the
part goes on with no message. -/
def OwnerTurnPart.Unmixed (db : ReplayDb) (part : OwnerTurnPart) : Prop :=
  (∀ id ∈ part.ids, db.knows id = false) ∨
    ((∀ id ∈ part.ids, db.knows id = true) ∧
      ∀ piece ∈ part.pieces, piece.index = 0)

/-- Ingress takes the next part of the turn. -/
def Turn.accepted (db : ReplayDb) (input : CognitiveIngressInput)
    (part : OwnerTurnPart) : Bool :=
  (admitCognitiveIngress db.transport.sidecar
    { input with
      message := part.text, discordMessageIds := part.ids }).toOption.isSome

/-- No message is left in part: the captures are listed, and turns end, while no
turn is within a message; a message that is cut is taken up by one turn, and
before ingress knows it; and what a part sends is known as a whole or not at
all. -/
def KeepsWhole (op : ReplayOp) (db : ReplayDb) : Prop :=
  match op with
  | .capture _ _ | .historyPage _ _ _ | .ensureCursor _ _ _ _
  | .markTurn _ _ _ => True
  | .listPending _ _ _ _ | .crash => ∀ turn ∈ db.turns, turn.torn = []
  | .beginTurn ids => ids.Nodup ∧
      ∀ fragment ∈ fragmentsOf db ids, fragment.isCut = true →
        db.knows fragment.id = false ∧
          ∀ turn ∈ db.turns, fragment ∉ turn.group
  | .callIngress position input => ∀ turn ∈ db.turns[position]?,
      ∀ part ∈ turn.remaining.head?, part.Unmixed db ∧
        (turn.torn ≠ [] → Turn.accepted db input part = true)
  | .abandon position => ∀ turn ∈ db.turns[position]?, turn.torn = []

omit [Host] in
theorem answerDuplicate_duplicate {sidecar after : Sidecar} {evidence : Evidence}
    {result : CognitiveIngressResult}
    (hok : answerDuplicate sidecar evidence = .ok (result, after)) :
    result.duplicate = true := by
  obtain ⟨⟨_, _⟩, _, hok⟩ := of_bind hok
  obtain ⟨rfl, _⟩ := of_pure_pair hok
  rfl

theorem ReplaySound.callIngress (hsound : ReplaySound db) {position : Nat}
    {input : CognitiveIngressInput}
    (hkeeps : KeepsWhole (.callIngress position input) db) :
    ReplaySound (callIngress position input db) := by
  unfold OwnerTransport.callIngress
  split
  · rename_i part _ hat
    obtain ⟨hunmixed, haccepted⟩ := hkeeps _ hat part rfl
    split
    · rename_i hrefused
      refine hsound.abandon ?_
      intro _ hturn
      rw [hat] at hturn
      cases hturn
      by_contra htorn
      have haccept := haccepted htorn
      unfold Turn.accepted at haccept
      rw [hrefused] at haccept
      cases haccept
    · rename_i sidecar hok
      have hnamed := hsound.part_named (mem_of_getElem? hat)
      rcases admitCognitiveIngress_cases hsound.linked hsound.receptive hok with
        ⟨evidence, hexisting, hanswer, rfl⟩ |
        ⟨⟨evidence, event, hadmitted⟩, hreceptive⟩
      · rw [answerDuplicate_duplicate hanswer]
        obtain ⟨id, hid, hknown⟩ := known_of_existing hexisting
        rcases hunmixed with hnone | ⟨hall, hfirst⟩
        · have hin := (mem_uniqueIds_of_named hnamed).mp hid
          rw [hnone id hin] at hknown
          cases hknown
        · exact hsound.duplicate hat hall hfirst
      · rw [hadmitted.delivered.answer.2.2]
        have htrace : Trace .lenient db.transport.sidecar sidecar :=
          admitCognitiveIngress_trace hsound.linked (fun _ => trivial) id
            False.elim hok
        exact hsound.ingested hat (hsound.linked.trace htrace) hreceptive
          (partRecorded_of_admitted hsound hnamed hadmitted)
  · exact hsound

theorem ReplaySound.markTurn (hsound : ReplaySound db) (position : Nat)
    (ownerId : String) (nowMs : Int) :
    ReplaySound (markTurn position ownerId nowMs db) := by
  unfold OwnerTransport.markTurn
  split
  · rename_i group hat
    have hturn := hsound.turns _ (mem_of_getElem? hat)
    obtain ⟨_, hpieces, hdone⟩ := hturn.sent
    have hall : ∀ piece ∈ groupPieces group, piece ∈ db.storedPieces := by
      intro piece hpiece
      rw [hpieces] at hpiece
      rcases mem_append.mp hpiece with hin | hin
      · exact hdone piece hin
      · cases hin
    refine ReplaySound.abandon ?_ ?_
    · unfold settle
      split
      · rename_i hok
        obtain ⟨_, _, hok⟩ := of_bind hok
        obtain ⟨_, hids, hok⟩ := of_bind hok
        replace hok := passed hok
        cases of_pure hok
        refine hsound.captured rfl (admitCaptures_moved _ _ _ _) ?_
        intro id _ hrow hselected piece hpiece
        rw [decide_eq_true_eq, mem_eraseDups] at hselected
        obtain ⟨_, hraw, htrimmed⟩ := of_mapM_ok hids _ hselected
        obtain ⟨fragment, hfragment, rfl⟩ := mem_map.mp hraw
        obtain ⟨row', hrow', hsame⟩ := hturn.captured fragment hfragment
        have hid : id = fragment.id := by
          rw [← key_of_get? hrow, ← (hsound.named _ row' hrow').1]
          exact (requiredId_named htrimmed).1
        rw [hid, hrow'] at hrow
        cases hrow
        rw [hsame] at hpiece
        exact hall piece (mem_flatMap.mpr ⟨fragment, hfragment, hpiece⟩)
      · exact hsound
    · intro turn hin
      rw [show turn = ⟨group, []⟩ from Option.some.inj (hin.symm.trans hat)]
      rfl
  · exact hsound

omit [Host] in
theorem normalizePage_isNew {page : HistoryPage} {normalized : NormalizedPage}
    (hok : normalizePage page reading nowMs = .ok normalized) :
    ∀ row ∈ normalized.captures, row.IsNew := by
  obtain ⟨_, _, hok⟩ := of_bind hok
  obtain ⟨_, _, hok⟩ := of_bind hok
  obtain ⟨_, _, hok⟩ := of_bind hok
  replace hok := passed hok
  obtain ⟨_, hcaptures, hok⟩ := of_bind hok
  cases of_pure hok
  intro row hrow
  obtain ⟨_, _, hinput⟩ := of_mapM_ok hcaptures row hrow
  obtain ⟨_, hcapture, hinput⟩ := of_bind hinput
  replace hinput := passed hinput
  cases of_pure hinput
  exact normalizeCapture_isNew hcapture

omit [Host] in
theorem ensure_sidecar {input : Surface} {activeThread : String}
    {db db' : TransportDb} {state : CursorState}
    (hok : ensureOwnerTransportCursor input reading activeThread nowMs db =
      .ok (state, db')) : db'.sidecar = db.sidecar := by
  obtain ⟨_, _, hok⟩ := of_bind hok
  obtain ⟨_, _, hok⟩ := of_bind hok
  split at hok
  · cases of_pure hok
    rfl
  split at hok <;> cases of_pure hok <;> rfl

/-- A step that keeps messages whole keeps the turns sound. -/
theorem replayStep_sound (op : ReplayOp) (db : ReplayDb)
    (hkeeps : KeepsWhole op db) (hsound : ReplaySound db) :
    ReplaySound (replayStep op db) := by
  have hnone : ∀ id row, db.transport.captures.get? id = some row → False →
      ∀ piece ∈ row.fragment.cutPieces, piece ∈ db.storedPieces :=
    fun _ _ _ hnever => hnever.elim
  cases op with
  | capture =>
    refine settle_keeps
      (P := fun transport => ReplaySound { db with transport }) hsound ?_
    intro _ _ hok
    obtain ⟨_, hnormalized, hok⟩ := of_bind hok
    obtain ⟨⟨_, _⟩, hinsert, hok⟩ := of_bind hok
    cases of_pure hok
    exact hsound.captured rfl
      (insertCapture_moved (normalizeCapture_isNew hnormalized) hinsert) hnone
  | historyPage =>
    refine settle_keeps
      (P := fun transport => ReplaySound { db with transport }) hsound ?_
    intro _ _ hok
    obtain ⟨_, hnormalized, hrecord⟩ := history_cases hok
    replace hrecord := passed hrecord
    obtain ⟨⟨_, _⟩, hinsert, hrecord⟩ := of_bind hrecord
    cases of_pure hrecord
    exact hsound.captured rfl
      (insertCaptures_moved (normalizePage_isNew hnormalized) hinsert) hnone
  | ensureCursor =>
    refine settle_keeps
      (P := fun transport => ReplaySound { db with transport }) hsound ?_
    intro _ _ hok
    refine hsound.captured (p := fun _ => False) ?_ ?_ hnone
    · exact ensure_sidecar hok
    · rw [ensure_captures hok]
      exact .refl _ _
  | listPending =>
    refine settle_keeps
      (P := fun transport => ReplaySound { db with transport }) hsound ?_
    intro _ _ hok
    obtain ⟨_, _, hok⟩ := of_bind hok
    cases of_pure hok
    refine hsound.captured rfl (admitCaptures_moved _ _ _ _) ?_
    intro id row hrow hbound piece hpiece
    have hid : row.discordMessageId = id := key_of_get? hrow
    rw [hid] at hbound
    obtain ⟨_, hrow', hpieces⟩ := hsound.known id hbound
    rw [hrow] at hrow'
    cases hrow'
    rcases hpieces piece hpiece with hstored | ⟨turn, hturn, htorn⟩
    · exact hstored
    · rw [hkeeps turn hturn] at htorn
      cases htorn
  | beginTurn => exact hsound.beginTurn hkeeps.1 hkeeps.2
  | callIngress => exact hsound.callIngress hkeeps
  | markTurn position ownerId nowMs => exact hsound.markTurn position ownerId nowMs
  | abandon => exact hsound.abandon hkeeps
  | crash =>
    exact hsound.ended (nil_sublist _) fun turn hturn =>
      .inl (hkeeps turn hturn)

theorem replaySound_empty : ReplaySound {} where
  linked := by
    constructor <;> intro _ _ hrow <;> cases hrow
  receptive := by
    constructor
    · intro _ _ k hevent
      cases hevent
    · intro _ _ hwake
      cases hwake
  backed := fun _ _ hbinding => by cases hbinding
  named := fun _ _ hrow => by cases hrow
  known := fun _ hknown => by cases hknown
  bound := fun _ hpiece => by cases hpiece
  turns := fun _ hturn => by cases hturn
  apart := List.Pairwise.nil
  marked := fun _ _ hrow => by cases hrow
  once := nodup_nil
  texts := fun _ hentry => by cases hentry

/-- Where messages are kept whole, captured messages reach evidence once. -/
theorem whole_exactlyOnce (ops : List ReplayOp)
    (hmeets : Meets replayStep KeepsWhole {} ops) :
    ExactlyOnce (run replayStep {} ops) :=
  (meets_preserves replayStep_sound replaySound_empty hmeets).exactlyOnce

end Runs

section Plain

attribute [local instance] plainHost

/-- What ingress is asked besides the message. -/
def ownerInput : CognitiveIngressInput where
  userId := "owner"
  conversationId := "thread"
  message := ""
  nowMs := 50

/-- Two captures are listed and replayed as one group. -/
def replayed : List ReplayOp :=
  [.capture (direct "1" "hello") {}, .capture (direct "2" "there") {},
    .listPending "owner" none none 30, .beginTurn ["1", "2"]]

instance (db : ReplayDb) (part : OwnerTurnPart) : Decidable (part.Unmixed db) :=
  inferInstanceAs (Decidable (_ ∨ _))

theorem replayed_exactlyOnce :
    ExactlyOnce (run replayStep {}
      (replayed ++ [.callIngress 0 ownerInput, .markTurn 0 "owner" 60,
        .listPending "owner" none none 70])) :=
  whole_exactlyOnce _ (by
    simp only [replayed, List.cons_append, List.nil_append, Meets, KeepsWhole]
    refine ⟨trivial, trivial, ?_, ?_, ?_, trivial, ?_, trivial⟩ <;>
      decide +kernel)

/-- The first of two messages is also sent alone, before their group is. -/
def regrouped : List ReplayOp :=
  replayed ++ [.beginTurn ["1"], .callIngress 1 ownerInput,
    .callIngress 0 ownerInput, .markTurn 0 "owner" 60]

/-- Ingress takes the group for a duplicate, and the second message is marked
but nowhere stored. -/
theorem replay_loses_text : ¬ ExactlyOnce (run replayStep {} regrouped) := by
  intro honce
  have hrow : ((run replayStep {} regrouped).transport.captures.get? "2").any
      (fun row => row.admittedAtMs.isSome ∧
        ⟨"2", 0, "there"⟩ ∈ row.fragment.cutPieces) = true := by
    decide +kernel
  have hnowhere : ∀ entry ∈ (run replayStep {} regrouped).ingested,
      (⟨"2", 0, "there"⟩ : OwnerTurnPiece) ∉ entry.pieces := by
    decide +kernel
  obtain ⟨row, hstored, hmarked⟩ := (Option.any_eq_true _ _).mp hrow
  rw [decide_eq_true_eq] at hmarked
  obtain ⟨_, entry, hentry, hpiece, _⟩ :=
    honce.whole "2" row hstored hmarked.1 _ hmarked.2
  exact hnowhere entry hentry hpiece

end Plain

end CognitiveSidecar.OwnerTransport
