/-
Settling an attempt: supersession with exact Owner coverage, completion,
deferral to a frontier, unknown outcomes, retries and terminal failures.
-/
import CognitiveSidecar.DurableClaim

namespace CognitiveSidecar

open Relational

variable [Host]

/-- The digest that binds a coverage to its event sets. -/
def ownerCoverageHash (primaryEventId : String)
    (coveredOwnerEventIds uncoveredOwnerEventIds : List String) : String :=
  Host.sha256 [[primaryEventId], coveredOwnerEventIds, uncoveredOwnerEventIds]

/-- A live Owner event of another wake in the same conversation. -/
def isValidSuccessor (db : Sidecar) (current : InboxEvent)
    (result : SupersessionResult) : Bool :=
  (db.events.get? result.successorEventId).any fun successor =>
    successor.wakeId = some result.successorWakeId &&
      successor.conversationId = current.conversationId &&
      isOwnerObligationEventKind successor.kind &&
      successor.state ≠ .terminal && successor.state ≠ .quarantined &&
      (getWake db result.successorWakeId).any (·.state ≠ .terminal)

/-- A member of the coverage: the current event, or an Owner event of its wake
that waits to be claimed. -/
def isCoverableOwnerEvent (db : Sidecar) (current : InboxEvent)
    (id : String) : Bool :=
  if id = current.id then isOwnerObligationEventKind current.kind
  else (db.events.get? id).any fun candidate =>
    candidate.wakeId = current.wakeId &&
      isOwnerObligationEventKind candidate.kind &&
      candidate.isClaimableContinuation

/-- An Owner event of the wake that the coverage must account for. -/
def InboxEvent.isExpectedBy (row current : InboxEvent) : Bool :=
  row.wakeId = current.wakeId && isOwnerObligationEventKind row.kind &&
    (row.isClaimableContinuation || row.id = current.id)

def validateSupersession (db : Sidecar) (current : InboxEvent)
    (result : SupersessionResult) : Outcome (List String) := do
  let covered := result.coveredOwnerEventIds
  let uncovered := result.uncoveredOwnerEventIds
  let wakeId ← orFault (current.wakeId.filter (· ≠ "")) .wakeRequired
  require (result.coverageHash =
    ownerCoverageHash current.id covered uncovered)
    .supersessionCoverageHashInvalid
  require (current.id ∈ covered) .supersessionPrimaryNotCovered
  require (covered.Nodup ∧ uncovered.Nodup) .supersessionCoverageDuplicate
  require (∀ id ∈ covered, id ∉ uncovered) .supersessionCoverageOverlap
  require ((getWake db wakeId).any (·.state ≠ .terminal))
    .supersessionOldWakeInvalid
  require (result.successorWakeId ≠ wakeId) .supersessionSuccessorSameWake
  require (isValidSuccessor db current result) .supersessionSuccessorInvalid
  require (∀ id ∈ covered ++ uncovered, isCoverableOwnerEvent db current id)
    .supersessionOwnerEventInvalid
  require (∀ row ∈ db.events.rows, row.isExpectedBy current →
    row.id ∈ covered ++ uncovered) .supersessionCoverageIncomplete
  pure covered

/-- Close an event as consumed by its successor. -/
@[reducible]
def InboxEvent.supersededAt (row : InboxEvent) (nowMs : Int) : InboxEvent :=
  { row with
    state := .terminal, status := .consumed
    terminalReason := some "superseded", quarantineReason := none
    consumedAtMs := some nowMs, nextEligibleAtMs := none
    claimToken := none, workerId := none, leaseExpiresAtMs := none
    lastError := none, lastFailureClass := none }

def supersedeDurableAttemptInTransaction (db : Sidecar) (current : InboxEvent)
    (result : SupersessionResult) (nowMs : Int) : Outcome Sidecar := do
  let covered ← validateSupersession db current result
  let db := { db with
    events := db.events.update
      (fun row => decide (row.id ∈ covered) && row.wakeId = current.wakeId)
      fun row => row.supersededAt nowMs }
  let db ← finishWakeForEvent db current .superseded nowMs
  retireOwnerlessCycleForTerminalEvent db current.wakeId nowMs

structure SettleDurableAttemptInput where
  (eventId attemptId claimToken : String)
  result : HandlerResult
  nowMs : Int
  coveredSiblingEventIds : List String := []

/-- The guard of every settling UPDATE. -/
def InboxEvent.isHeldBy (row : InboxEvent) (claimToken : String) : Bool :=
  row.state = .leased && row.claimToken = some claimToken

/-- Close an event as consumed for a reason. -/
@[reducible]
def InboxEvent.consumedFor (row : InboxEvent) (reason : String) (nowMs : Int) :
    InboxEvent :=
  { row with
    state := .terminal, status := .consumed
    terminalReason := some reason, quarantineReason := none
    consumedAtMs := some nowMs, nextEligibleAtMs := none
    claimToken := none, workerId := none, leaseExpiresAtMs := none }

@[reducible]
def InboxEvent.waitingUntil (row : InboxEvent) (nextEligibleAtMs : Int)
    (failureClass : Option DurableFailureClass) (errorCode : String) :
    InboxEvent :=
  { row with
    state := .retryWait, status := .failedRetryable
    nextEligibleAtMs := some nextEligibleAtMs
    lastFailureClass := failureClass, lastError := some errorCode
    claimToken := none, workerId := none, leaseExpiresAtMs := none }

/-- How a failure that will not be retried ends its event and its wake. -/
structure TerminalFailure where
  state : DurableWorkState
  reason : String
  wakeReason : WakeTerminalReason
  quarantineReason : Option String

def terminalFailure (failureClass : DurableFailureClass) (errorCode : String)
    (reason : RetryTerminalReason) : TerminalFailure :=
  match failureClass with
  | .permanentTerminal => ⟨.terminal, "permanent_failure", .quarantined, none⟩
  | .staleOrCancelled =>
    if errorCode = "cancelled" then
      ⟨.terminal, "cancelled", .cancelled, none⟩
    else ⟨.terminal, "stale", .noAction, none⟩
  | _ => ⟨.quarantined, reason.text, .quarantined, some reason.text⟩

@[reducible]
def InboxEvent.failedFor (row : InboxEvent) (failure : TerminalFailure)
    (failureClass : DurableFailureClass) (errorCode : String) : InboxEvent :=
  { row with
    state := failure.state, status := .failedTerminal
    terminalReason := some failure.reason
    quarantineReason := failure.quarantineReason
    lastFailureClass := some failureClass, lastError := some errorCode
    nextEligibleAtMs := none, claimToken := none, workerId := none
    leaseExpiresAtMs := none }

/-- `UPDATE durable_work_attempts SET finished_at_ms …`. -/
def finishAttempt (db : Sidecar) (attemptId eventId : String) (nowMs : Int)
    (record : SettlementRecord) : Sidecar :=
  { db with
    attempts := db.attempts.update
      (fun row => row.attemptId = attemptId && row.eventId = eventId &&
        row.finishedAtMs = none)
      fun row =>
        { row with
          finishedAtMs := some nowMs, dispatchTruth := record.dispatchTruth
          failureClass := record.failureClass, errorCode := record.errorCode } }

/-- `error_code = COALESCE(error_code, 'contradictory_result')`. -/
def markContradictory (db : Sidecar) (attemptId : String) : Sidecar :=
  { db with
    attempts := db.attempts.update (fun row => row.attemptId = attemptId)
      fun row =>
        { row with
          errorCode := some (row.errorCode.getD "contradictory_result") } }

def settleCompleted (db : Sidecar) (current : InboxEvent)
    (input : SettleDurableAttemptInput) : Outcome Sidecar :=
  let db := db.updateEvent input.eventId (·.isHeldBy input.claimToken)
    fun row => row.consumedFor "completed" input.nowMs
  let db := convergeCoveredSiblingEvents db current input.coveredSiblingEventIds
    input.nowMs
  finishWakeForEvent db current .completed input.nowMs

/-- Reschedule the active frontier of the conversation, or insert one; the
outcome of a rescheduling is not looked at. -/
def scheduleFrontier (db : Sidecar) (input : CreateDeferredFrontierInput) :
    Outcome Sidecar :=
  match getActiveDeferredFrontier db input.conversationId with
  | some existing => do
    let (_, db) ← rescheduleDeferredFrontier db existing.frontierId
      input.nextEligibleAtMs input.nowMs
    pure db
  | none => do
    let (_, db) ← insertDeferredFrontierRecord db input
    pure db

/-- Ownership moves to the frontier of the conversation. -/
def settleDeferred (db : Sidecar) (current : InboxEvent)
    (input : SettleDurableAttemptInput) (conversationId cycleId : String)
    (generation nextEligibleAtMs : Int) (latestEvidenceRowId : String) :
    Outcome Sidecar := do
  let db := db.updateEvent input.eventId (·.isHeldBy input.claimToken)
    fun row => row.consumedFor "deferred_to_frontier" input.nowMs
  let db := match current.wakeId.filter (· ≠ "") with
    | some wakeId =>
      db.updateWake wakeId (fun row => row.state ≠ .terminal) fun row =>
        row.released .pending input.nowMs
    | none => db
  let db ← if cycleId = "" then pure db
    else updateCycleState db cycleId .capacityWait input.nowMs
  scheduleFrontier db
    { conversationId, cycleId, generation, nextEligibleAtMs
      latestEvidenceRowId, nowMs := input.nowMs }

def settleOutcomeUnknown (db : Sidecar) (current : InboxEvent)
    (input : SettleDurableAttemptInput) (errorCode : String) :
    Outcome Sidecar := do
  let db := db.updateEvent input.eventId (·.isHeldBy input.claimToken)
    fun row => row.fenced errorCode
  let wakeId ← orFault (current.wakeId.filter (· ≠ "")) .wakeRequired
  pure (wakeToReconciling db wakeId input.nowMs)

def settleFailed (db : Sidecar) (current : InboxEvent) (value : Attempt)
    (input : SettleDurableAttemptInput) (failureClass : DurableFailureClass)
    (errorCode : String) (retryAfterMs : Option Int) :
    Outcome (DurableSettlementOutcome × Sidecar) :=
  match nextRetryAt value.ordinal
      (current.firstAttemptAtMs.getD value.startedAtMs) input.nowMs
      failureClass retryAfterMs with
  | .retryWait nextEligibleAtMs => do
    let db := db.updateEvent input.eventId (·.isHeldBy input.claimToken)
      fun row =>
        row.waitingUntil nextEligibleAtMs (some failureClass) errorCode
    let wakeId ← orFault (current.wakeId.filter (· ≠ "")) .wakeRequired
    pure (.retryWait nextEligibleAtMs, wakeToPending db wakeId input.nowMs)
  | .terminal reason => do
    let failure := terminalFailure failureClass errorCode reason
    let db := db.updateEvent input.eventId (·.isHeldBy input.claimToken)
      fun row => row.failedFor failure failureClass errorCode
    let db ← finishWakeForEvent db current failure.wakeReason input.nowMs
    let db ← retireOwnerlessCycleForTerminalEvent db current.wakeId
      input.nowMs
    pure (.terminal failure.reason, db)

/-- A second, different result quarantines the event. -/
def settleContradictory (db : Sidecar) (current : InboxEvent)
    (input : SettleDurableAttemptInput) : Outcome Sidecar := do
  let db ← quarantineEvent db current "contradictory_result" input.nowMs
  pure (markContradictory db input.attemptId)

/-- Settle an attempt that is still open. -/
def settleOpenAttempt (db : Sidecar) (current : InboxEvent) (value : Attempt)
    (input : SettleDurableAttemptInput) :
    Outcome (DurableSettlementOutcome × Sidecar) := do
  require (current.isHeldBy input.claimToken) .durableWorkClaimLost
  let db := finishAttempt db input.attemptId input.eventId input.nowMs
    (failureFor input.result)
  match input.result with
  | .superseded result => do
    let db ← supersedeDurableAttemptInTransaction db current result
      input.nowMs
    pure (.terminal "superseded", db)
  | .completed => do
    let db ← settleCompleted db current input
    pure (.completed, db)
  | .deferredToFrontier conversationId cycleId generation nextEligibleAtMs
      latestEvidenceRowId => do
    let db ← settleDeferred db current input conversationId cycleId
      generation nextEligibleAtMs latestEvidenceRowId
    pure (.completed, db)
  | .outcomeUnknown _ errorCode => do
    let db ← settleOutcomeUnknown db current input errorCode
    pure (.reconciling, db)
  | .failed failureClass errorCode _ retryAfterMs =>
    settleFailed db current value input failureClass errorCode retryAfterMs

def settleDurableAttempt (db : Sidecar) (input : SettleDurableAttemptInput) :
    Outcome (DurableSettlementOutcome × Sidecar) := do
  let current ← eventRow db input.eventId
  let value ← orFault (attemptOfEvent db input.attemptId input.eventId)
    .durableAttemptMissing
  if value.finishedAtMs.isSome then
    if sameSettlement value input.result then do
      let outcome ← outcomeForSettledEvent current
      pure (outcome, db)
    else do
      let db ← settleContradictory db current input
      pure (.terminal "contradictory_result", db)
  else settleOpenAttempt db current value input

end CognitiveSidecar
