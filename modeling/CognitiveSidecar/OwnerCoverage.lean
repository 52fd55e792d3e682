/-
Owner coverage: the exact set of Owner events one dispatch answers, and the
proofs that a successor supersedes that set.
-/
import CognitiveSidecar.DurableSettlement

namespace CognitiveSidecar

open Relational

variable [Host]

structure OwnerDispatchCoverage where
  primaryEventId : String
  (coveredOwnerEventIds uncoveredOwnerEventIds : List String)
  coverageHash : String

def InboxPayload.evidenceRef (payload : InboxPayload) : Option String :=
  payload.evidenceRowId.filter fun ref => !blank ref

/-- An Owner event visible to a dispatch. -/
structure VisibleOwnerEvent where
  id : String
  createdAtMs : Int
  evidenceRowId : Option String

/-- `createdAtMs` first, then the host's collation of the identifiers. -/
def VisibleOwnerEvent.before (left right : VisibleOwnerEvent) : Prop :=
  (compare left.createdAtMs right.createdAtMs).then
    (Host.localeCompare left.id right.id) ≠ .gt

instance : DecidableRel VisibleOwnerEvent.before := fun _ _ =>
  inferInstanceAs (Decidable (_ ≠ _))

def InboxEvent.toVisible (row : InboxEvent) : VisibleOwnerEvent :=
  ⟨row.id, row.createdAtMs, row.payload.evidenceRef⟩

/-- The dispatched event and the Owner events waiting on its wake. -/
def visibleOwnerEvents (db : Sidecar) (event : InboxEvent) :
    List VisibleOwnerEvent :=
  let siblings := (db.events.rows.filter fun row =>
    row.wakeId = event.wakeId && row.id ≠ event.id &&
      isOwnerObligationEventKind row.kind && row.isClaimableContinuation &&
      row.id ≠ "").insertionSort InboxEvent.createdBefore
  ((if isOwnerObligationEventKind event.kind then [event.toVisible] else []) ++
    siblings.map InboxEvent.toVisible).insertionSort VisibleOwnerEvent.before

/-- The evidence a dispatch reads: the compose log and the trigger itself. -/
def coveredEvidenceIds (db : Sidecar) (event : InboxEvent) : List String :=
  (((event.payload.cycleId.bind (getCycle db)).map
    Cycle.composeLogIds).getD []) ++ event.payload.evidenceRef.toList

def VisibleOwnerEvent.isCoveredBy (evidenceIds : List String)
    (event : VisibleOwnerEvent) : Bool :=
  event.evidenceRowId.any fun ref => decide (ref ∈ evidenceIds)

/-- The exact owner-event set visible to one dispatch attempt. -/
def captureOwnerDispatchCoverage (db : Sidecar) (event : InboxEvent) :
    OwnerDispatchCoverage :=
  let evidenceIds := coveredEvidenceIds db event
  let visible := visibleOwnerEvents db event
  let covered := (visible.filter (·.isCoveredBy evidenceIds)).map
    VisibleOwnerEvent.id
  let uncovered := (visible.filter (!·.isCoveredBy evidenceIds)).map
    VisibleOwnerEvent.id
  ⟨event.id, covered, uncovered, ownerCoverageHash event.id covered uncovered⟩

/-- The shape both proofs of supersession demand of a coverage. -/
def OwnerDispatchCoverage.isExactFor (coverage : OwnerDispatchCoverage)
    (event : InboxEvent) : Bool :=
  isOwnerObligationEventKind event.kind &&
    coverage.primaryEventId = event.id &&
    coverage.coveredOwnerEventIds ≠ [] &&
    coverage.uncoveredOwnerEventIds = [] &&
    ownerCoverageHash coverage.primaryEventId coverage.coveredOwnerEventIds
      coverage.uncoveredOwnerEventIds = coverage.coverageHash &&
    decide (event.id ∈ coverage.coveredOwnerEventIds) &&
    decide coverage.coveredOwnerEventIds.Nodup

/-- The superseded result both proofs build from a coverage. -/
def supersededBy (coverage : OwnerDispatchCoverage) (eventId : String)
    (successorWakeId successorEventId : String) : SupersessionResult :=
  { successorWakeId, successorEventId
    coveredOwnerEventIds := coverage.coveredOwnerEventIds
    uncoveredOwnerEventIds := []
    coverageHash :=
      ownerCoverageHash eventId coverage.coveredOwnerEventIds [] }

/-- The evidence of a covered event, read from the dispatch or from its row. -/
def eventEvidenceById (db : Sidecar) (event : InboxEvent) (eventId : String) :
    Option String :=
  if eventId = event.id then event.payload.evidenceRef
  else ((db.events.get? eventId).filter (·.wakeId = event.wakeId)).bind
    (·.payload.evidenceRef)

/-- The live Owner events of a successor wake, oldest first. -/
def liveOwnerEvents (db : Sidecar) (wakeId : Option String) :
    List InboxEvent :=
  (db.events.rows.filter fun row =>
    row.wakeId = wakeId && isOwnerObligationEventKind row.kind &&
      row.state ≠ .terminal && row.state ≠ .quarantined).insertionSort
    InboxEvent.createdBefore

/-- The current cycle is the immediate successor of the dispatched one. -/
def immediateSuccessor (db : Sidecar) (event : InboxEvent) : Option Cycle := do
  let oldCycle ← (event.payload.cycleId.bind (getCycle db)).filter
    (·.wakeId = event.wakeId)
  (getCurrentCycle db event.conversationId true).filter fun current =>
    oldCycle.generation < current.generation &&
      current.preemptedGeneration = some oldCycle.generation &&
      current.wakeId ≠ event.wakeId

def isOpenWake (db : Sidecar) (wakeId : Option String) : Bool :=
  (wakeId.bind (getWake db)).any (·.state ≠ .terminal)

/-- Prove the only stale-to-superseded transition that an Owner successor
permits; any ambiguity proves nothing. -/
def proveExactOwnerSupersession (db : Sidecar) (event : InboxEvent)
    (coverage : OwnerDispatchCoverage) : Option SupersessionResult := do
  guard (coverage.isExactFor event)
  let current ← immediateSuccessor db event
  guard (isOpenWake db event.wakeId)
  guard (isOpenWake db current.wakeId)
  match liveOwnerEvents db current.wakeId with
  | [successor] => do
    guard (successor.id ≠ "")
    guard (coverage.coveredOwnerEventIds.all fun ownerEventId =>
      (eventEvidenceById db event ownerEventId).any fun ref =>
        decide (ref ∈ current.composeLogIds))
    pure (supersededBy coverage event.id (current.wakeId.getD "")
      successor.id)
  | _ => none

/-- A completion of a detached operation that waits in the conversation. -/
def InboxEvent.isPendingCompletion (row : InboxEvent) (conversationId : String) :
    Bool :=
  row.conversationId = conversationId && row.kind = "observation_or_receipt" &&
    row.payload.detachedOperationId.any
      (fun operation => operation.toList.any (· ≠ ' ')) &&
    row.state ≠ .terminal && row.state ≠ .quarantined

/-- Prove that an Owner thought yields to a waiting completion. -/
def proveCompletionSuccession (db : Sidecar) (event : InboxEvent)
    (coverage : OwnerDispatchCoverage) : Option SupersessionResult := do
  guard (coverage.isExactFor event)
  let successor ← firstBy InboxEvent.createdBefore
    (db.events.rows.filter (·.isPendingCompletion event.conversationId))
  let successorWakeId ← successor.wakeId.filter (· ≠ "")
  guard (successor.id ≠ "")
  guard (some successorWakeId ≠ event.wakeId)
  guard (isOpenWake db (some successorWakeId))
  pure (supersededBy coverage event.id successorWakeId successor.id)

/-- A claimed event as its dispatch carries it. -/
structure AnsweringEvent where
  (id kind : String)
  wakeId : Option String
  claimToken : Option String := none
  durableAttemptId : Option String := none
  coveredOwnerEventIds : List String := []

inductive OwnerAnswerLoss
  | superseded (eventId coveringKind : String)
  | attemptLost (eventId : String)

/-- The event ended because it was answered, or needs no answer any more. -/
def InboxEvent.isAnswered (row : InboxEvent) : Bool :=
  row.state = .terminal &&
    row.terminalReason ∈ [some "completed", some "superseded", some "stale"]

/-- `ORDER BY consumed_at_ms DESC, id ASC`; an absent time comes last. -/
def InboxEvent.consumedAfter (left right : InboxEvent) : Prop :=
  (left.consumedAtMs.any fun first =>
    right.consumedAtMs.all fun second => second < first) ∨
    (left.consumedAtMs = right.consumedAtMs ∧ left.id ≤ right.id)

instance : DecidableRel InboxEvent.consumedAfter := fun _ _ =>
  inferInstanceAs (Decidable (_ ∨ _))

/-- The kind of the event whose completion already answered this wake. -/
def coveringPassKind (db : Sidecar) (event : AnsweringEvent)
    (coveredEventId : String) : String :=
  (((event.wakeId.filter (· ≠ "")).bind fun wakeId =>
    (firstBy InboxEvent.consumedAfter (db.events.rows.filter fun row =>
      row.wakeId = some wakeId && row.id ≠ coveredEventId &&
        row.state = .terminal && row.terminalReason = some "completed")).map
      InboxEvent.kind).filter (!blank ·)).getD "covered"

def AnsweringEvent.ownerEventIds (event : AnsweringEvent) : List String :=
  ((if isOwnerObligationEventKind event.kind then [event.id] else []) ++
    event.coveredOwnerEventIds.filter (· ≠ "")).eraseDups

/-- The open attempt of the event is still the one that this pass claimed. -/
def attemptStillHeld (db : Sidecar) (event : AnsweringEvent) : Outcome Bool := do
  let attempt ← getOpenDurableAttempt db event.id
  pure (attempt.any fun attempt =>
    event.durableAttemptId.all (fun id => id = "" || attempt.attemptId = id) &&
      event.claimToken.all fun token =>
        token = "" || attempt.claimToken = token)

/-- Whether a pass may still answer the Owner events of its trigger; a pass
without a durable claim is not fenced. -/
def assessOwnerAnswerHold (db : Sidecar) (event : AnsweringEvent) :
    Outcome (Option OwnerAnswerLoss) :=
  if event.claimToken.all (· = "") ∧ event.durableAttemptId.all (· = "") then
    pure none
  else if event.ownerEventIds = [] then pure none
  else do
    let held ← attemptStillHeld db event
    match event.ownerEventIds.find? fun id =>
        (db.events.get? id).any InboxEvent.isAnswered &&
          (id ≠ event.id || !held) with
    | some id => pure (some (.superseded id (coveringPassKind db event id)))
    | none => pure (if held then none else some (.attemptLost event.id))

end CognitiveSidecar
