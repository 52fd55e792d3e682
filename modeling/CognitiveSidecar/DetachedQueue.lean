/-
The worker queue: undertakings wait for the one execution slot, are bound to a
detached operation, and leave the slot when they end.  Statements outside a
transaction commit one by one.
-/
import CognitiveSidecar.DetachedRuns

namespace CognitiveSidecar

open Relational

def maxNonterminalWorkerUndertakings : Nat := 64

def maxPendingCuriosity : Nat := 3

def curiosityTtlMs : Int := 48 * 60 * 60 * 1000

def workerDispatchClaimLeaseMs : Int := 120000

inductive WorkerQueueBlockedReason
  | workerBusy | capacity
deriving DecidableEq

/-- A row of `worker_undertakings`; its semantic kind is `project.inspect`. -/
structure WorkerUndertaking where
  undertakingId : String
  originKind : WorkerOriginKind
  (originRef ownerId : String)
  conversationId : Option String
  originCycleId : String
  originGeneration : Int
  (originOwnerEventId originEvidenceRowId : Option String)
  requestJson : RequestDocument
  (purpose evidenceNeed admissionKey : String)
  state : WorkerUndertakingState := .queued
  blockedReason : Option WorkerQueueBlockedReason := none
  (queuedAtMs updatedAtMs : Int)
  curiosityExpiresAtMs : Option Int
  selectedOperationId : Option String := none
  selectedCalendarIndex : Option Nat := none
  acknowledgementRef : Option String := none
  cancelRequestedAtMs : Option Int := none
  supersededBy : Option String := none
  terminalReason : Option String := none
  terminalAtMs : Option Int := none
  dispatchClaimToken : Option String := none
  dispatchClaimExpiresAtMs : Option Int := none
  capacityWaitStartedAtMs : Option Int := none
  capacityNextProbeAtMs : Option Int := none
deriving DecidableEq

instance : Keyed WorkerUndertaking String := ⟨WorkerUndertaking.undertakingId⟩

/-- The undertaking is dispatching or running. -/
def WorkerUndertaking.isActive (row : WorkerUndertaking) : Bool :=
  row.state = .dispatching || row.state = .running

/-- The undertaking has not ended. -/
def WorkerUndertaking.isNonterminal (row : WorkerUndertaking) : Bool :=
  row.state = .queued || row.isActive

/-- The row of `worker_execution_slot`. -/
structure WorkerExecutionSlot where
  undertakingId : Option String := none
  operationId : Option String := none
  claimToken : Option String := none
  claimExpiresAtMs : Option Int := none
  updatedAtMs : Int := 0
deriving DecidableEq

/-- The queue, its slot and scheduler cursor, and the detached operations. -/
structure WorkerDb where
  undertakings : Table WorkerUndertaking := Table.empty
  slot : WorkerExecutionSlot := {}
  cursor : Nat := 0
  detached : DetachedSystem := {}
deriving DecidableEq

def workerServiceCalendar : List WorkerOriginKind :=
  [.ownerRequest, .ashleyCommitment, .ownerRequest, .ashleyCuriosity,
    .ownerRequest, .ashleyCommitment, .ownerRequest]

def nonEmpty (value : String) : Bool := trim value ≠ ""

def getWorkerUndertaking (db : WorkerDb) (undertakingId : String) :
    Option WorkerUndertaking :=
  db.undertakings.get? undertakingId

/-- `UPDATE worker_undertakings … WHERE undertaking_id = ? AND guard`. -/
def WorkerDb.updateUndertaking (db : WorkerDb) (undertakingId : String)
    (guard : WorkerUndertaking → Bool)
    (f : WorkerUndertaking → WorkerUndertaking)
    (hkey : ∀ row, key (f row) = key row) : WorkerDb :=
  { db with
    undertakings := db.undertakings.update
      (fun row => decide (row.undertakingId = undertakingId) && guard row)
      f hkey }

/-- Free the slot if the undertaking holds it. -/
def WorkerDb.clearSlot (db : WorkerDb) (undertakingId : String) (nowMs : Int) :
    WorkerDb :=
  if db.slot.undertakingId = some undertakingId then
    { db with slot := { updatedAtMs := nowMs } }
  else db

structure EnqueueWorkerUndertakingInput where
  originKind : WorkerOriginKind
  originRef : String
  ownerEventId : Option String := none
  evidenceRowId : Option String := none
  ownerId : String
  conversationId : Option String := none
  originCycleId : String
  originGeneration : Int
  request : RequestDocument
  (purpose evidenceNeed : String)

inductive WorkerAdmissionFault
  | invalidAdmission | queueCapacityExhausted | curiosityPendingCapacity
  | queueAdmissionFailed

namespace EnqueueWorkerUndertakingInput

def originIsValid (input : EnqueueWorkerUndertakingInput) : Bool :=
  nonEmpty input.originRef &&
    if input.originKind = .ownerRequest then
      input.ownerEventId.any nonEmpty &&
        input.ownerEventId = some input.originRef
    else input.ownerEventId.isNone

def isValid (input : EnqueueWorkerUndertakingInput) (nowMs : Int) : Bool :=
  nonEmpty input.ownerId && nonEmpty input.originCycleId &&
    safeMs input.originGeneration && input.originIsValid && safeMs nowMs &&
    input.request.isObject && nonEmpty input.purpose &&
    nonEmpty input.evidenceNeed && input.request.projectId.any nonEmpty

def originName : WorkerOriginKind → String
  | .ownerRequest => "OWNER_REQUEST"
  | .ashleyCommitment => "ASHLEY_COMMITMENT"
  | .ashleyCuriosity => "ASHLEY_CURIOSITY"

/-- An optional value as a list of fields. -/
def optional (value : Option String) : List String := value.toList

def canonicalAdmissionKey [Host] (input : EnqueueWorkerUndertakingInput) :
    String :=
  "worker-undertaking-admission:" ++ Host.sha256
    [["project.inspect"], [originName input.originKind], [input.originRef],
      optional input.ownerEventId, optional input.evidenceRowId,
      [input.ownerId], optional input.conversationId, [input.originCycleId],
      [toString input.originGeneration], [input.request.text], [input.purpose],
      [input.evidenceNeed]]

/-- The undertaking asks for the same work of the same Owner message. -/
def matchesActive (input : EnqueueWorkerUndertakingInput)
    (row : WorkerUndertaking) : Bool :=
  let event := input.ownerEventId.getD input.originRef
  row.originKind = .ownerRequest &&
    (row.originRef = event || row.originOwnerEventId = some event) &&
    row.isNonterminal && row.purpose = input.purpose &&
    row.evidenceNeed = input.evidenceNeed &&
    row.requestJson.text = input.request.text

end EnqueueWorkerUndertakingInput

def workerUndertakingIdFor [Host] (admissionKey : String) : String :=
  "worker-undertaking:" ++ Host.sha256 [[admissionKey]]

/-- Admit an undertaking once for each admission key; the flag says whether it
is new. -/
def enqueueWorkerUndertaking [Host] (db : WorkerDb)
    (input : EnqueueWorkerUndertakingInput) (nowMs : Int) :
    Except WorkerAdmissionFault ((WorkerUndertaking × Bool) × WorkerDb) := do
  require (input.isValid nowMs = true) .invalidAdmission
  let admissionKey := input.canonicalAdmissionKey
  match db.undertakings.rows.find? (·.admissionKey = admissionKey) with
  | some existing => pure ((existing, false), db)
  | none =>
    match if input.originKind = .ownerRequest then
        db.undertakings.rows.find? input.matchesActive else none with
    | some existing => pure ((existing, false), db)
    | none => do
      require (db.undertakings.rows.countP (·.isNonterminal) <
        maxNonterminalWorkerUndertakings) .queueCapacityExhausted
      require (input.originKind = .ashleyCuriosity →
        db.undertakings.rows.countP (fun row =>
          row.originKind = .ashleyCuriosity &&
            (row.state = .queued || row.state = .dispatching)) <
          maxPendingCuriosity) .curiosityPendingCapacity
      let row : WorkerUndertaking :=
        { undertakingId := workerUndertakingIdFor admissionKey
          originKind := input.originKind, originRef := input.originRef
          ownerId := input.ownerId, conversationId := input.conversationId
          originCycleId := input.originCycleId
          originGeneration := input.originGeneration
          originOwnerEventId := input.ownerEventId
          originEvidenceRowId := input.evidenceRowId
          requestJson := input.request, purpose := input.purpose
          evidenceNeed := input.evidenceNeed, admissionKey, queuedAtMs := nowMs
          updatedAtMs := nowMs
          curiosityExpiresAtMs :=
            if input.originKind = .ashleyCuriosity then
              some (nowMs + curiosityTtlMs) else none }
      let undertakings ← orFault (db.undertakings.insert? row)
        .queueAdmissionFailed
      pure ((row, true), { db with undertakings })

structure CapacityInput where
  reason : String
  nextProbeAtMs : Option Int := none

def CapacityInput.isValid (input : CapacityInput) (undertakingId : String)
    (nowMs : Int) : Bool :=
  nonEmpty undertakingId && nonEmpty input.reason && safeMs nowMs &&
    input.nextProbeAtMs.all safeMs

def WorkerUndertaking.waitsForCapacity (row : WorkerUndertaking)
    (input : CapacityInput) (nowMs : Int) : WorkerUndertaking :=
  { row with
    blockedReason := some .capacity
    capacityWaitStartedAtMs := row.capacityWaitStartedAtMs.or (some nowMs)
    capacityNextProbeAtMs := input.nextProbeAtMs, updatedAtMs := nowMs }

theorem WorkerUndertaking.waitsForCapacity_key (row : WorkerUndertaking)
    (input : CapacityInput) (nowMs : Int) :
    key (row.waitsForCapacity input nowMs) = key row := rfl

def markWorkerUndertakingCapacity (db : WorkerDb) (undertakingId : String)
    (input : CapacityInput) (nowMs : Int) : WorkerDb :=
  if input.isValid undertakingId nowMs = true then
    db.updateUndertaking undertakingId
      (fun row => row.state = .queued || row.state = .dispatching)
      (·.waitsForCapacity input nowMs)
      (WorkerUndertaking.waitsForCapacity_key · input nowMs)
  else db

def WorkerUndertaking.requeuedForCapacity (row : WorkerUndertaking)
    (input : CapacityInput) (nowMs : Int) : WorkerUndertaking :=
  { row.waitsForCapacity input nowMs with
    state := .queued
    selectedCalendarIndex := none, dispatchClaimToken := none
    dispatchClaimExpiresAtMs := none }

theorem WorkerUndertaking.requeuedForCapacity_key (row : WorkerUndertaking)
    (input : CapacityInput) (nowMs : Int) :
    key (row.requeuedForCapacity input nowMs) = key row := rfl

/-- Return a bound but not started undertaking to the queue; both updates are
one transaction. -/
def requeueWorkerUndertakingAfterCapacity (db : WorkerDb)
    (undertakingId : String) (input : CapacityInput) (nowMs : Int) :
    Option WorkerUndertaking × WorkerDb :=
  if input.isValid undertakingId nowMs = true then
    match getWorkerUndertaking db undertakingId with
    | none => (none, db)
    | some current =>
      if current.state = .dispatching then
        let after := (db.updateUndertaking undertakingId
          (·.state = .dispatching) (·.requeuedForCapacity input nowMs)
          (WorkerUndertaking.requeuedForCapacity_key · input nowMs)).clearSlot
            undertakingId nowMs
        (getWorkerUndertaking after undertakingId, after)
      else (some current, db)
  else (none, db)

def WorkerUndertaking.busy (row : WorkerUndertaking) (nowMs : Int) :
    WorkerUndertaking :=
  { row with
    blockedReason := some .workerBusy, capacityNextProbeAtMs := none
    updatedAtMs := nowMs }

theorem WorkerUndertaking.busy_key (row : WorkerUndertaking) (nowMs : Int) :
    key (row.busy nowMs) = key row := rfl

def markWorkerUndertakingWorkerBusy (db : WorkerDb) (undertakingId : String)
    (nowMs : Int) : WorkerDb :=
  if nonEmpty undertakingId && safeMs nowMs then
    db.updateUndertaking undertakingId (·.state = .queued) (·.busy nowMs)
      (WorkerUndertaking.busy_key · nowMs)
  else db

def WorkerUndertaking.cancelled (row : WorkerUndertaking) (nowMs : Int) :
    WorkerUndertaking :=
  { row with
    state := .cancelled, blockedReason := none
    cancelRequestedAtMs := row.cancelRequestedAtMs.or (some nowMs)
    terminalReason := row.terminalReason.or (some "cancel_requested")
    terminalAtMs := row.terminalAtMs.or (some nowMs), updatedAtMs := nowMs }

theorem WorkerUndertaking.cancelled_key (row : WorkerUndertaking)
    (nowMs : Int) : key (row.cancelled nowMs) = key row := rfl

def WorkerUndertaking.cancelRequested (row : WorkerUndertaking) (nowMs : Int) :
    WorkerUndertaking :=
  { row with
    cancelRequestedAtMs := row.cancelRequestedAtMs.or (some nowMs)
    updatedAtMs := nowMs }

theorem WorkerUndertaking.cancelRequested_key (row : WorkerUndertaking)
    (nowMs : Int) : key (row.cancelRequested nowMs) = key row := rfl

inductive WorkerMutationFault
  | invalidRequest | undertakingMissing | undertakingTerminal
  | undertakingNotQueued

/-- Queued work is cancelled; work that holds the slot is only asked to end. -/
def requestWorkerUndertakingCancel (db : WorkerDb) (undertakingId : String)
    (nowMs : Int) : Except WorkerMutationFault WorkerDb := do
  require (nonEmpty undertakingId = true ∧ safeMs nowMs = true) .invalidRequest
  let current ← orFault (getWorkerUndertaking db undertakingId)
    .undertakingMissing
  if current.state = .queued then
    pure (db.updateUndertaking undertakingId (·.state = .queued)
      (·.cancelled nowMs) (WorkerUndertaking.cancelled_key · nowMs))
  else if current.isActive = true then
    pure (db.updateUndertaking undertakingId (·.isActive)
      (·.cancelRequested nowMs) (WorkerUndertaking.cancelRequested_key · nowMs))
  else .error .undertakingTerminal

def WorkerUndertaking.superseded (row : WorkerUndertaking)
    (supersededBy : String) (nowMs : Int) : WorkerUndertaking :=
  { row with
    state := .superseded, blockedReason := none
    supersededBy := some supersededBy, terminalReason := some "superseded"
    terminalAtMs := some nowMs, updatedAtMs := nowMs }

theorem WorkerUndertaking.superseded_key (row : WorkerUndertaking)
    (supersededBy : String) (nowMs : Int) :
    key (row.superseded supersededBy nowMs) = key row := rfl

def supersedeWorkerUndertaking (db : WorkerDb)
    (undertakingId supersededBy : String) (nowMs : Int) :
    Except WorkerMutationFault WorkerDb := do
  require (nonEmpty undertakingId = true ∧ nonEmpty supersededBy = true ∧
    safeMs nowMs = true) .invalidRequest
  let current ← orFault (getWorkerUndertaking db undertakingId)
    .undertakingMissing
  require (current.state = .queued)
    (if current.isActive then .undertakingNotQueued else .undertakingTerminal)
  pure (db.updateUndertaking undertakingId (·.state = .queued)
    (·.superseded supersededBy nowMs)
    (WorkerUndertaking.superseded_key · supersededBy nowMs))

def WorkerUndertaking.running (row : WorkerUndertaking) (nowMs : Int) :
    WorkerUndertaking :=
  { row with
    state := .running, blockedReason := none
    dispatchClaimExpiresAtMs := none, capacityNextProbeAtMs := none
    updatedAtMs := nowMs }

theorem WorkerUndertaking.running_key (row : WorkerUndertaking) (nowMs : Int) :
    key (row.running nowMs) = key row := rfl

/-- The undertaking that holds the slot is running; the scheduler goes on to
the next class. -/
def markWorkerUndertakingRunning (db : WorkerDb)
    (undertakingId operationId : String) (nowMs : Int) : WorkerDb :=
  if nonEmpty undertakingId && nonEmpty operationId && safeMs nowMs then
    match getWorkerUndertaking db undertakingId with
    | none => db
    | some current =>
      if current.selectedOperationId = some operationId ∧
          current.state = .dispatching ∧
          db.slot.undertakingId = some undertakingId then
        let running := db.updateUndertaking undertakingId
          (fun row => row.state = .dispatching &&
            row.selectedOperationId = some operationId)
          (·.running nowMs) (WorkerUndertaking.running_key · nowMs)
        { running with
          slot := { db.slot with
            operationId := some operationId
            claimExpiresAtMs := none, updatedAtMs := nowMs }
          cursor := match current.selectedCalendarIndex with
            | some index => (index + 1) % workerServiceCalendar.length
            | none => db.cursor }
      else db
  else db

def releaseWorkerExecutionSlot (db : WorkerDb) (undertakingId : String)
    (nowMs : Int) : WorkerDb :=
  if nonEmpty undertakingId && safeMs nowMs then
    db.clearSlot undertakingId nowMs
  else db

inductive WorkerTerminalState
  | succeeded | failed | outcomeUnknown | cancelled | superseded | expired
  | stopped
deriving DecidableEq

/-- The state of an undertaking that ends so; stopped work has failed. -/
def WorkerTerminalState.toState : WorkerTerminalState → WorkerUndertakingState
  | .succeeded => .succeeded
  | .failed | .stopped => .failed
  | .outcomeUnknown => .outcomeUnknown
  | .cancelled => .cancelled
  | .superseded => .superseded
  | .expired => .expired

/-- The reason that is recorded when none is given. -/
def WorkerTerminalState.name : WorkerTerminalState → String
  | .succeeded => "succeeded"
  | .failed => "failed"
  | .outcomeUnknown => "outcome_unknown"
  | .cancelled => "cancelled"
  | .superseded => "superseded"
  | .expired => "expired"
  | .stopped => "stopped"

def DetachedTerminalState.toWorker :
    DetachedTerminalState → WorkerTerminalState
  | .succeeded => .succeeded
  | .failed => .failed
  | .outcomeUnknown => .outcomeUnknown
  | .cancelled => .cancelled
  | .stopped => .stopped

def WorkerUndertaking.ended (row : WorkerUndertaking)
    (state : WorkerTerminalState) (reason : String) (nowMs : Int) :
    WorkerUndertaking :=
  { row with
    state := state.toState, blockedReason := none
    terminalReason := some reason, terminalAtMs := some nowMs
    dispatchClaimToken := none, dispatchClaimExpiresAtMs := none
    capacityNextProbeAtMs := none, updatedAtMs := nowMs }

theorem WorkerUndertaking.ended_key (row : WorkerUndertaking)
    (state : WorkerTerminalState) (reason : String) (nowMs : Int) :
    key (row.ended state reason nowMs) = key row := rfl

/-- The operation that an undertaking is bound to. -/
def WorkerDb.selectedOperation (db : WorkerDb) (row : WorkerUndertaking) :
    Option DetachedOperation :=
  row.selectedOperationId.bind (getDetachedOperation db.detached.db)

/-- The outcome of an undertaking: the truth of its operation, where that has
ended; a success needs it. -/
def projectedOutcome (db : WorkerDb) (row : WorkerUndertaking)
    (terminalState : WorkerTerminalState) (terminalReason : Option String) :
    Option (WorkerTerminalState × String) :=
  let reason := terminalReason.getD terminalState.name
  if row.selectedOperationId.isNone = true ∨ terminalState = .expired then
    some (terminalState, reason)
  else
    match (db.selectedOperation row).bind fun operation =>
        operation.terminalState.map ((operation, ·)) with
    | some (operation, terminal) =>
      some (terminal.toWorker,
        (operation.errorCode.filter (· ≠ "")).getD reason)
    | none =>
      if terminalState = .succeeded then none
      else some (terminalState, reason)

/-- End an undertaking and free its slot, in one transaction. -/
def projectWorkerUndertakingTerminal (db : WorkerDb) (undertakingId : String)
    (terminalState : WorkerTerminalState) (terminalReason : Option String)
    (nowMs : Int) : Option WorkerUndertaking × WorkerDb :=
  if nonEmpty undertakingId && safeMs nowMs then
    match getWorkerUndertaking db undertakingId with
    | none => (none, db)
    | some current =>
      if current.isNonterminal = false then (some current, db)
      else
        match projectedOutcome db current terminalState terminalReason with
        | none => (none, db)
        | some (state, reason) =>
          let after := (db.updateUndertaking undertakingId
            (·.isNonterminal) (·.ended state reason nowMs)
            (WorkerUndertaking.ended_key · state reason nowMs)).clearSlot
              undertakingId nowMs
          (getWorkerUndertaking after undertakingId, after)
  else (none, db)

/-- The curiosities that have waited too long, the oldest first. -/
def expiredCuriosity (db : WorkerDb) (nowMs : Int) : List String :=
  (List.insertionSort (fun a b : WorkerUndertaking =>
      compareLex (compareOn (·.curiosityExpiresAtMs.getD 0))
        (compareOn (·.undertakingId)) a b ≠ .gt)
    (db.undertakings.rows.filter fun row =>
      row.originKind = .ashleyCuriosity && row.state = .queued &&
        row.curiosityExpiresAtMs.any (· ≤ nowMs))).map (·.undertakingId)

/-- A statement that commits on its own: the return of a claim to the queue,
the release of the slot, or a change that stands alone. -/
inductive QueueStatement
  | requeue (undertakingId : String) (keepsOperation : Bool) (nowMs : Int)
  | release (undertakingId : String) (nowMs : Int)
  | whole (change : WorkerDb → WorkerDb)

def WorkerUndertaking.unclaimed (row : WorkerUndertaking)
    (keepsOperation : Bool) (nowMs : Int) : WorkerUndertaking :=
  { row with
    state := .queued
    selectedOperationId :=
      if keepsOperation then row.selectedOperationId else none
    selectedCalendarIndex := none
    blockedReason := if keepsOperation then some .capacity else none
    dispatchClaimToken := none, dispatchClaimExpiresAtMs := none
    capacityNextProbeAtMs :=
      if keepsOperation then some nowMs else row.capacityNextProbeAtMs
    updatedAtMs := nowMs }

theorem WorkerUndertaking.unclaimed_key (row : WorkerUndertaking)
    (keepsOperation : Bool) (nowMs : Int) :
    key (row.unclaimed keepsOperation nowMs) = key row := rfl

def QueueStatement.commit (db : WorkerDb) : QueueStatement → WorkerDb
  | .requeue undertakingId keepsOperation nowMs =>
    db.updateUndertaking undertakingId (·.state = .dispatching)
      (·.unclaimed keepsOperation nowMs)
      (WorkerUndertaking.unclaimed_key · keepsOperation nowMs)
  | .release undertakingId nowMs => db.clearSlot undertakingId nowMs
  | .whole change => change db

def expireQueuedCuriosity (db : WorkerDb) (nowMs : Int) :
    List QueueStatement :=
  if safeMs nowMs = true then
    (expiredCuriosity db nowMs).map fun undertakingId => .whole fun db =>
      (projectWorkerUndertakingTerminal db undertakingId .expired
        (some "curiosity_ttl_expired") nowMs).2
  else []

/-- Give the slot back when the undertaking that it names does not hold it any
more; a worker that has started keeps it. -/
def repairWorkerExecutionSlot (db : WorkerDb) (nowMs : Int) :
    List QueueStatement :=
  if safeMs nowMs = true then
    match db.slot.undertakingId with
    | none => []
    | some undertakingId =>
      match getWorkerUndertaking db undertakingId with
      | none => [.release undertakingId nowMs]
      | some undertaking =>
        let operation := db.selectedOperation undertaking
        if undertaking.isNonterminal = false then
          [.release undertakingId nowMs]
        else
          match operation.bind (·.terminalState) with
          | some terminal =>
            [.whole fun db =>
              (projectWorkerUndertakingTerminal db undertakingId
                terminal.toWorker (some
                  ((operation.bind (·.errorCode)).getD
                    "recovered_detached_terminal")) nowMs).2]
          | none =>
            if operation.any (·.isPending) = true then
              [.whole fun db =>
                (requeueWorkerUndertakingAfterCapacity db undertakingId
                  { reason := "recovered_pre_start_capacity_claim"
                    nextProbeAtMs := some nowMs } nowMs).2]
            else if operation.any (·.state = .started) = true then []
            else if undertaking.state = .dispatching then
              [.requeue undertakingId false nowMs,
                .release undertakingId nowMs]
            else if undertaking.state = .running then
              [.whole fun db =>
                (projectWorkerUndertakingTerminal db undertakingId
                  .outcomeUnknown
                  (some "detached_operation_missing_at_recovery")
                  nowMs).2]
            else []
  else []

/-- The claims whose lease has run out. -/
def expiredClaims (db : WorkerDb) (nowMs : Int) : List WorkerUndertaking :=
  List.insertionSort
    (fun a b : WorkerUndertaking => a.undertakingId ≤ b.undertakingId)
    (db.undertakings.rows.filter fun row => row.state = .dispatching &&
      row.dispatchClaimExpiresAtMs.any (· ≤ nowMs))

/-- What recovers one expired claim: an operation that has started or ended
keeps it, and one that still waits stays selected. -/
def recoverClaim (db : WorkerDb) (nowMs : Int) (row : WorkerUndertaking) :
    List QueueStatement :=
  let operation := db.selectedOperation row
  let release : List QueueStatement :=
    if nonEmpty row.undertakingId then [.release row.undertakingId nowMs]
    else []
  if operation.any (fun operation => operation.terminalState.isSome ||
      operation.state = .started) = true then []
  else if operation.any (·.isPending) = true then
    .requeue row.undertakingId true nowMs :: release
  else .requeue row.undertakingId false nowMs :: release

def recoverExpiredDispatchClaims (db : WorkerDb) (nowMs : Int) :
    List QueueStatement :=
  if safeMs nowMs = true then
    (expiredClaims db nowMs).flatMap (recoverClaim db nowMs)
  else []

structure BindInput where
  (undertakingId operationId : String)
  calendarIndex : Nat
  claimLeaseMs : Int := workerDispatchClaimLeaseMs
  admission : AdmitDetachedOperationInput

inductive BindingFault
  | workerBusy | undertakingMissing | undertakingNotQueued | bindingFailed
deriving DecidableEq

def BindInput.isValid (input : BindInput) (nowMs : Int) : Bool :=
  nonEmpty input.undertakingId && nonEmpty input.operationId &&
    decide (input.calendarIndex < workerServiceCalendar.length) &&
    safeMs nowMs && safeMs input.claimLeaseMs && decide (0 < input.claimLeaseMs)

def BindInput.slot (input : BindInput) (claimToken : String) (nowMs : Int) :
    WorkerExecutionSlot where
  undertakingId := some input.undertakingId
  operationId := some input.operationId
  claimToken := some claimToken
  claimExpiresAtMs := some (nowMs + input.claimLeaseMs)
  updatedAtMs := nowMs

def BindInput.claimToken (input : BindInput) (nowMs : Int) : String :=
  "worker-claim:" ++ input.undertakingId ++ ":" ++ toString nowMs

def WorkerUndertaking.claimed (row : WorkerUndertaking) (input : BindInput)
    (nowMs : Int) : WorkerUndertaking :=
  { row with
    state := .dispatching, blockedReason := none
    selectedOperationId := row.selectedOperationId.or (some input.operationId)
    selectedCalendarIndex := some input.calendarIndex
    dispatchClaimToken := some (input.claimToken nowMs)
    dispatchClaimExpiresAtMs := some (nowMs + input.claimLeaseMs)
    updatedAtMs := nowMs }

theorem WorkerUndertaking.claimed_key (row : WorkerUndertaking)
    (input : BindInput) (nowMs : Int) :
    key (row.claimed input nowMs) = key row := rfl

/-- Claim the slot again for an undertaking that is already dispatching. -/
def reclaimSlot (db : WorkerDb) (current : WorkerUndertaking)
    (input : BindInput) (nowMs : Int) :
    Except BindingFault ((WorkerUndertaking × Bool) × WorkerDb) := do
  require (db.slot.undertakingId.all (· = input.undertakingId) = true)
    .workerBusy
  let slot := if db.slot.undertakingId.isNone then
    input.slot (current.dispatchClaimToken.getD (input.claimToken nowMs)) nowMs
    else db.slot
  require (slot.operationId = some input.operationId) .workerBusy
  pure ((current, false), { db with slot })

/-- Bind a queued undertaking to its operation and to the free slot, in one
transaction that also admits the operation. -/
def bindWorkerUndertakingToOperation [Host] (db : WorkerDb) (input : BindInput)
    (nowMs : Int) :
    Except BindingFault ((WorkerUndertaking × Bool) × WorkerDb) := do
  require (input.isValid nowMs = true) .bindingFailed
  let current ← orFault (getWorkerUndertaking db input.undertakingId)
    .undertakingMissing
  if current.state = .dispatching ∧
      current.selectedOperationId = some input.operationId then
    reclaimSlot db current input nowMs
  else do
    require (current.state = .queued) .undertakingNotQueued
    require (db.slot.undertakingId = none) .workerBusy
    require (current.selectedOperationId.all (· = input.operationId) = true)
      .bindingFailed
    -- `selected_operation_id` is unique.
    require (db.undertakings.rows.all (fun other =>
      other.undertakingId = input.undertakingId ||
        other.selectedOperationId ≠ some input.operationId) = true)
      .bindingFailed
    let claimed := db.updateUndertaking input.undertakingId (·.state = .queued)
      (·.claimed input nowMs) (WorkerUndertaking.claimed_key · input nowMs)
    match admitDetachedOperation db.detached.db input.admission nowMs with
    | .error _ => .error .bindingFailed
    | .ok ((operation, created), operations) =>
      require (operation.operationId = input.operationId) .bindingFailed
      pure ((current.claimed input nowMs, created),
        { claimed with
          slot := input.slot (input.claimToken nowMs) nowMs
          detached := { db.detached with db := operations } })

end CognitiveSidecar
