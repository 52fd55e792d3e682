/-
The durable-work ledger: the sweep before a claim, the claim of one attempt and
the settlement of that attempt.
-/
import CognitiveSidecar.Fence
import CognitiveSidecar.RetryPolicy

namespace CognitiveSidecar

open Relational

variable [Host]

/-- The row of an event, which every operation on durable work needs. -/
def eventRow (db : Sidecar) (eventId : String) : Outcome InboxEvent :=
  orFault (db.events.get? eventId) .durableWorkMissing

/-- The attempt under its identifier, if it belongs to the event. -/
def attemptOfEvent (db : Sidecar) (attemptId eventId : String) :
    Option Attempt :=
  (db.attempts.get? attemptId).filter (·.eventId = eventId)

/-- `ORDER BY ordinal DESC`. -/
def Attempt.later (left right : Attempt) : Prop := right.ordinal ≤ left.ordinal

instance : DecidableRel Attempt.later := fun _ _ =>
  inferInstanceAs (Decidable (_ ≤ _))

def latestAttempt (db : Sidecar) (eventId : String) : Option Attempt :=
  firstBy Attempt.later (db.attempts.rows.filter (·.eventId = eventId))

def wakeToPending (db : Sidecar) (wakeId : String) (nowMs : Int) : Sidecar :=
  db.updateWake wakeId (fun row => row.state ≠ .terminal)
    (fun row => row.unleased .pending nowMs) (Wake.unleased_key .pending nowMs)

def wakeToReconciling (db : Sidecar) (wakeId : String) (nowMs : Int) :
    Sidecar :=
  db.updateWake wakeId (fun row => row.state ≠ .terminal)
    (fun row => row.unleased .reconciling nowMs)
    (Wake.unleased_key .reconciling nowMs)

/-- A late ending converges onto the cancellation of its wake. -/
def lateResultAfterCancellation (wake : Wake) (reason : WakeTerminalReason) :
    Bool :=
  wake.terminalReason = some .cancelled && wake.cancellationId.isSome &&
    (reason = .completed || reason = .noAction)

/-- A terminal wake accepts this ending without change. -/
def Wake.acceptsEnding (wake : Wake) (reason : WakeTerminalReason) : Bool :=
  wake.terminalReason = some reason || lateResultAfterCancellation wake reason

def wakeToTerminal (db : Sidecar) (wakeId : String)
    (reason : WakeTerminalReason) (nowMs : Int) : Outcome Sidecar := do
  let current ← getWakeRequired db wakeId
  if current.state = .terminal then do
    require (current.acceptsEnding reason) .wakeTerminalConflict
    pure db
  else
    pure (db.updateWake wakeId (fun row => row.state ≠ .terminal)
      (fun row => row.closed reason nowMs) (Wake.closed_key reason nowMs))

/-- States in which an event still continues its wake's work. -/
def InboxEvent.isDurableContinuation (row : InboxEvent) : Bool :=
  row.state = .pending || row.state = .retryWait || row.state = .leased ||
    row.state = .reconciling

/-- States from which an event can be claimed without reconciliation. -/
def InboxEvent.isClaimableContinuation (row : InboxEvent) : Bool :=
  row.state = .pending || row.state = .retryWait

/-- The guard of every reconciling UPDATE. -/
def InboxEvent.isReconciling (row : InboxEvent) : Bool :=
  row.state = .reconciling

def hasOtherDurableContinuationForWake (db : Sidecar)
    (wakeId eventId : String) : Bool :=
  db.events.rows.any fun row =>
    row.wakeId = some wakeId && row.id ≠ eventId && row.isDurableContinuation

def hasOtherClaimableContinuationForWake (db : Sidecar)
    (wakeId eventId : String) : Bool :=
  db.events.rows.any fun row =>
    row.wakeId = some wakeId && row.id ≠ eventId && row.isClaimableContinuation

/-- An uncovered continuation keeps the wake claimable for this ending. -/
def keepsWakeOpen (db : Sidecar) (wakeId eventId : String)
    (reason : WakeTerminalReason) : Bool :=
  ((reason = .quarantined || reason = .superseded) &&
      hasOtherDurableContinuationForWake db wakeId eventId) ||
    (reason = .completed && hasOtherClaimableContinuationForWake db wakeId eventId)

def finishWakeForEvent (db : Sidecar) (current : InboxEvent)
    (reason : WakeTerminalReason) (nowMs : Int) : Outcome Sidecar := do
  let wakeId ← orFault (current.wakeId.filter (· ≠ "")) .wakeRequired
  let wake ← getWakeRequired db wakeId
  if keepsWakeOpen db wakeId current.id reason then
    pure (wakeToPending db wakeId nowMs)
  else if wake.state = .terminal then do
    require (wake.acceptsEnding reason) .wakeTerminalConflict
    pure db
  else if wake.state = .reconciling then
    wakeToTerminal db wakeId reason nowMs
  else
    finishWakeInTransaction db wakeId (current.claimToken.or wake.leaseToken)
      reason nowMs

/-- A completed cognition converges the sibling events it covered. -/
def convergeCoveredSiblingEvents (db : Sidecar) (current : InboxEvent)
    (coveredSiblingEventIds : List String) (nowMs : Int) : Sidecar :=
  match current.wakeId.filter (· ≠ "") with
  | none => db
  | some wakeId =>
    { db with
      events := db.events.update
        (fun row =>
          decide (row.id ∈ coveredSiblingEventIds) && row.id ≠ "" &&
            row.id ≠ current.id && row.wakeId = some wakeId &&
            (row.state = .pending || row.state = .retryWait ||
              row.state = .leased))
        fun row =>
          { row with
            state := .terminal, status := .consumed
            terminalReason := some "completed", quarantineReason := none
            consumedAtMs := some nowMs, nextEligibleAtMs := none
            claimToken := none, workerId := none, leaseExpiresAtMs := none
            lastError := none, lastFailureClass := none } }

/-- Close an event as quarantined under a reason. -/
@[reducible]
def InboxEvent.quarantinedFor (row : InboxEvent) (reason : String) :
    InboxEvent :=
  { row with
    state := .quarantined, status := .failedTerminal
    terminalReason := some reason, quarantineReason := some reason
    lastError := some reason, claimToken := none, workerId := none
    leaseExpiresAtMs := none, nextEligibleAtMs := none }

/-- Retire the cycle of a terminalized event when no durable owner continues
it. -/
def retireOwnerlessCycleForTerminalEvent (db : Sidecar)
    (wakeId : Option String) (nowMs : Int) : Outcome Sidecar :=
  match (wakeId.filter (· ≠ "")).bind fun wakeId =>
      db.cycles.rows.find? (·.wakeId = some wakeId) with
  | none => pure db
  | some cycleRow =>
    match getCycle db cycleRow.cycleId with
    | none => pure db
    | some cycle =>
      if cycleRow.cycleId = "" ∨ !cycle.isOccupying ∨
          hasValidDurableContinuationOwner db cycle then
        pure db
      else updateCycleState db cycle.cycleId .silent nowMs

def quarantineEvent (db : Sidecar) (current : InboxEvent) (reason : String)
    (nowMs : Int) : Outcome Sidecar := do
  let db := db.updateEvent current.id (fun _ => true) fun row =>
    row.quarantinedFor reason
  let db ← match current.wakeId.filter (· ≠ "") with
    | some wakeId =>
      if (getWake db wakeId).isSome ∧
          ¬ hasOtherDurableContinuationForWake db wakeId current.id then
        wakeToTerminal db wakeId .quarantined nowMs
      else pure db
    | none => pure db
  retireOwnerlessCycleForTerminalEvent db current.wakeId nowMs

/-- The wake of the event and the cycle of that wake name each other. -/
def ensureWakeLineage (db : Sidecar) (current : InboxEvent) :
    Outcome String := do
  let wakeId ← orFault (current.wakeId.filter (· ≠ "")) .wakeRequired
  let wake ← getWakeRequired db wakeId
  require (wake.hasCycleLineage db) .wakeCycleLineageInvalid
  pure wake.cycleId

/-- A failure class that a handler may report. -/
abbrev HandlerFailureClass :=
  { failureClass : DurableFailureClass //
    failureClass ≠ .outcomeUnknownReconcile }

/-- A dispatch truth that a handler may report. -/
abbrev HandlerDispatchTruth :=
  { dispatchTruth : DurableDispatchTruth // dispatchTruth ≠ .unknown }

structure SupersessionResult where
  (successorWakeId successorEventId : String)
  (coveredOwnerEventIds uncoveredOwnerEventIds : List String)
  coverageHash : String

inductive HandlerResult
  | completed
  | deferredToFrontier (conversationId cycleId : String) (generation : Int)
      (nextEligibleAtMs : Int) (latestEvidenceRowId : String)
  | failed (failureClass : HandlerFailureClass) (errorCode : String)
      (dispatchTruth : Option HandlerDispatchTruth)
      (retryAfterMs : Option Int)
  | superseded (result : SupersessionResult)
  | outcomeUnknown (operationId errorCode : String)

/-- What a settlement writes on its attempt. -/
structure SettlementRecord where
  dispatchTruth : DurableDispatchTruth
  failureClass : Option DurableFailureClass
  errorCode : Option String

def failureFor : HandlerResult → SettlementRecord
  | .completed => ⟨.providerResponded, none, none⟩
  | .deferredToFrontier .. => ⟨.notStarted, none, none⟩
  | .superseded _ => ⟨.notStarted, none, none⟩
  | .outcomeUnknown _ errorCode =>
    ⟨.unknown, some .outcomeUnknownReconcile, some errorCode⟩
  | .failed failureClass errorCode dispatchTruth _ =>
    ⟨(dispatchTruth.map Subtype.val).getD .providerResponded,
      some failureClass, some errorCode⟩

inductive DurableSettlementOutcome
  | completed
  | retryWait (nextEligibleAtMs : Int)
  | reconciling
  | terminal (reason : String)
deriving DecidableEq

/-- `terminal_reason ?? quarantine_reason ?? "completed"`. -/
def InboxEvent.endingReason (row : InboxEvent) : String :=
  (row.terminalReason.or row.quarantineReason).getD "completed"

/-- How a settled event answers a repeated settlement. -/
def outcomeForSettledEvent (current : InboxEvent) :
    Outcome DurableSettlementOutcome :=
  match current.state, current.nextEligibleAtMs with
  | .retryWait, some nextEligibleAtMs => pure (.retryWait nextEligibleAtMs)
  | .reconciling, _ => pure .reconciling
  | .terminal, _ => pure (.terminal current.endingReason)
  | .quarantined, _ => pure (.terminal current.endingReason)
  | _, _ => throw .durableSettlementStateInvalid

def sameSettlement (attempt : Attempt) (result : HandlerResult) : Bool :=
  attempt.dispatchTruth = (failureFor result).dispatchTruth &&
    attempt.failureClass = (failureFor result).failureClass &&
    attempt.errorCode = (failureFor result).errorCode

end CognitiveSidecar
