/-
Detached operations: an admitted investigation waits for capacity, is started
once, and ends with an outcome that never changes.
-/
import CognitiveSidecar.Lib.Order
import CognitiveSidecar.Sidecar

namespace CognitiveSidecar

open Relational

inductive WorkerOriginKind
  | ownerRequest | ashleyCommitment | ashleyCuriosity
deriving DecidableEq

inductive DetachedOperationState
  | admitted | waitingCapacity | started
  | succeeded | failed | outcomeUnknown | cancelled | stopped
deriving DecidableEq

inductive DetachedTerminalState
  | succeeded | failed | outcomeUnknown | cancelled | stopped
deriving DecidableEq

def DetachedTerminalState.toState :
    DetachedTerminalState → DetachedOperationState
  | .succeeded => .succeeded
  | .failed => .failed
  | .outcomeUnknown => .outcomeUnknown
  | .cancelled => .cancelled
  | .stopped => .stopped

def isTerminalState (state : DetachedOperationState) : Bool :=
  state = .succeeded || state = .failed || state = .outcomeUnknown ||
    state = .cancelled || state = .stopped

/-- A request document: whether it is an object, the project it names, and its
canonical text. -/
structure RequestDocument where
  isObject : Bool := true
  projectId : Option String
  text : String
deriving DecidableEq

/-- A text, and whether it parses as JSON. -/
structure JsonText where
  text : String
  isValid : Bool

/-- A row of `detached_operations`. -/
structure DetachedOperation where
  (operationId conversationId originCycleId : String)
  originGeneration : Int
  originKind : WorkerOriginKind
  originRef : String
  (originOwnerEventId originEvidenceRowId : Option String)
  requestJson : RequestDocument
  (purpose evidenceNeed : String)
  (admissionAtMs operationDeadlineAtMs : Int)
  idempotencyKey : String
  workerBindingJson : Option String := none
  startAtMs : Option Int := none
  startProofRef : Option String := none
  terminalState : Option DetachedTerminalState := none
  terminalAtMs : Option Int := none
  observationRef : Option String := none
  receiptRef : Option String := none
  errorCode : Option String := none
  failureEvidenceJson : Option String := none
  interimOutboxRef : Option String := none
  completionEventRef : Option String := none
  cancelRequestedAtMs : Option Int := none
  supersededBy : Option String := none
  successorOperationId : Option String := none
  workerUndertakingId : Option String
  capacityWaitReason : Option String := none
  capacityWaitStartedAtMs : Option Int := none
  capacityWaitNextProbeAtMs : Option Int := none
  state : DetachedOperationState := .admitted
  (createdAtMs updatedAtMs : Int)
deriving DecidableEq

instance : Keyed DetachedOperation String := ⟨DetachedOperation.operationId⟩

/-- The operation has not been started and has not ended. -/
def DetachedOperation.isPending (row : DetachedOperation) : Bool :=
  row.state = .admitted || row.state = .waitingCapacity

/-- The table `detached_operations`. -/
structure DetachedDb where
  operations : Table DetachedOperation := Table.empty
deriving DecidableEq

/-- The refusals of the detached operations. -/
inductive DetachedFault
  | invalidAdmission | operationAdmissionFailed | invalidStart
  | detachedOperationMissing | detachedOperationTerminalImmutable
  | detachedOperationTransitionInvalid | operationDeadlineExhausted
  | invalidCapacityWait | invalidTerminal | invalidFailureEvidence
  | invalidCancelRequest | invalidCancelResolution | stopProofRequired
  | invalidSupersession
deriving DecidableEq

/-- An answer names the operation as it is after the change. -/
abbrev DetachedAnswer :=
  Except DetachedFault (DetachedOperation × DetachedDb)

/-- A safe, non-negative integer. -/
def safeMs (value : Int) : Bool :=
  decide (0 ≤ value) && decide (value ≤ 9007199254740991)

def getDetachedOperation (db : DetachedDb) (operationId : String) :
    Option DetachedOperation :=
  db.operations.get? operationId

def getByIdempotencyKey (db : DetachedDb) (idempotencyKey : String) :
    Option DetachedOperation :=
  db.operations.rows.find? fun row => row.idempotencyKey = idempotencyKey

def detachedOperationIdFor [Host] (idempotencyKey : String) : String :=
  "detached-operation:" ++ Host.sha256 [[idempotencyKey]]

structure AdmitDetachedOperationInput where
  (idempotencyKey conversationId originCycleId : String)
  originGeneration : Int
  originKind : Option WorkerOriginKind := none
  originRef : Option String := none
  originOwnerEventId : Option String := none
  originEvidenceRowId : Option String := none
  workerUndertakingId : Option String := none
  request : RequestDocument
  (purpose evidenceNeed : String)
  operationDeadlineAtMs : Int

namespace AdmitDetachedOperationInput

def origin (input : AdmitDetachedOperationInput) : Option WorkerOriginKind :=
  input.originKind.or
    (if input.originOwnerEventId.any (· ≠ "") then some .ownerRequest else none)

def reference (input : AdmitDetachedOperationInput) : Option String :=
  input.originRef.or input.originOwnerEventId

def isValid (input : AdmitDetachedOperationInput) (nowMs : Int) : Bool :=
  input.idempotencyKey ≠ "" && input.conversationId ≠ "" &&
    input.originCycleId ≠ "" && input.origin.isSome &&
    input.reference.any (· ≠ "") &&
    (input.origin ≠ some .ownerRequest ||
      input.originOwnerEventId.any (· ≠ "")) &&
    (input.origin = some .ownerRequest || input.originOwnerEventId.isNone) &&
    input.request.isObject && input.purpose ≠ "" && input.evidenceNeed ≠ "" &&
    safeMs input.operationDeadlineAtMs && safeMs nowMs &&
    decide (nowMs < input.operationDeadlineAtMs)

end AdmitDetachedOperationInput

/-- The constraints of the table that a new row has to meet. -/
def DetachedDb.permits (db : DetachedDb) (row : DetachedOperation) : Bool :=
  (if row.originKind = .ownerRequest then
    row.originOwnerEventId.any (fun event => event ≠ "" && event = row.originRef)
  else row.originOwnerEventId.isNone) &&
    db.operations.rows.all fun other =>
      other.idempotencyKey ≠ row.idempotencyKey &&
        (row.workerUndertakingId.isNone ||
          other.workerUndertakingId ≠ row.workerUndertakingId)

/-- Admit an operation once for each idempotency key; the flag says whether
the row is new. -/
def admitDetachedOperation [Host] (db : DetachedDb)
    (input : AdmitDetachedOperationInput) (nowMs : Int) :
    Except DetachedFault ((DetachedOperation × Bool) × DetachedDb) := do
  let originKind ← orFault input.origin .invalidAdmission
  let originRef ← orFault input.reference .invalidAdmission
  require (input.isValid nowMs = true) .invalidAdmission
  match getByIdempotencyKey db input.idempotencyKey with
  | some existing => pure ((existing, false), db)
  | none =>
    let row : DetachedOperation :=
      { operationId := detachedOperationIdFor input.idempotencyKey
        conversationId := input.conversationId
        originCycleId := input.originCycleId
        originGeneration := input.originGeneration, originKind, originRef
        originOwnerEventId := input.originOwnerEventId
        originEvidenceRowId := input.originEvidenceRowId
        requestJson := input.request, purpose := input.purpose
        evidenceNeed := input.evidenceNeed, admissionAtMs := nowMs
        operationDeadlineAtMs := input.operationDeadlineAtMs
        idempotencyKey := input.idempotencyKey
        workerUndertakingId := input.workerUndertakingId, createdAtMs := nowMs
        updatedAtMs := nowMs }
    require (db.permits row = true) .operationAdmissionFailed
    let operations ← orFault (db.operations.insert? row)
      .operationAdmissionFailed
    pure ((row, true), { db with operations })

/-- `UPDATE detached_operations … WHERE operation_id = ? AND guard`. -/
def DetachedDb.updateOperation (db : DetachedDb) (operationId : String)
    (guard : DetachedOperation → Bool)
    (f : DetachedOperation → DetachedOperation)
    (hkey : ∀ row, key (f row) = key row) : DetachedDb :=
  { db with
    operations := db.operations.update
      (fun row => decide (row.operationId = operationId) && guard row) f hkey }

/-- Update an operation and read it back, as the answer. -/
def DetachedDb.change (db : DetachedDb) (operationId : String)
    (guard : DetachedOperation → Bool)
    (f : DetachedOperation → DetachedOperation)
    (hkey : ∀ row, key (f row) = key row)
    (expected : DetachedOperation → Bool) : DetachedAnswer := do
  let after := db.updateOperation operationId guard f hkey
  let updated ← orFault (getDetachedOperation after operationId)
    .detachedOperationMissing
  require (expected updated = true) .detachedOperationTransitionInvalid
  pure (updated, after)

structure StartDetachedOperationInput where
  startProofRef : String
  workerBinding : Option JsonText := none
  executionDeadlineAtMs : Option Int := none

def DetachedOperation.started (row : DetachedOperation)
    (input : StartDetachedOperationInput) (nowMs : Int) : DetachedOperation :=
  { row with
    state := .started, startAtMs := some nowMs
    startProofRef := some input.startProofRef
    operationDeadlineAtMs :=
      input.executionDeadlineAtMs.getD row.operationDeadlineAtMs
    workerBindingJson :=
      (input.workerBinding.map (·.text)).or row.workerBindingJson
    updatedAtMs := nowMs }

theorem DetachedOperation.started_key (row : DetachedOperation)
    (input : StartDetachedOperationInput) (nowMs : Int) :
    key (row.started input nowMs) = key row := rfl

/-- Record that the worker is started.  Only an operation that still waits may
start, before its deadline. -/
def markDetachedOperationStarted (db : DetachedDb) (operationId : String)
    (input : StartDetachedOperationInput) (nowMs : Int) : DetachedAnswer := do
  require (operationId ≠ "" ∧ input.startProofRef ≠ "" ∧ safeMs nowMs = true)
    .invalidStart
  let current ← orFault (getDetachedOperation db operationId)
    .detachedOperationMissing
  require (isTerminalState current.state = false)
    .detachedOperationTerminalImmutable
  require (current.isPending = true) .detachedOperationTransitionInvalid
  require (nowMs < current.operationDeadlineAtMs) .operationDeadlineExhausted
  require (input.executionDeadlineAtMs.all
    (· = current.operationDeadlineAtMs) = true) .invalidStart
  require (input.workerBinding.all (·.isValid) = true) .invalidStart
  db.change operationId (·.isPending) (·.started input nowMs)
    (DetachedOperation.started_key · input nowMs) (·.state = .started)

def DetachedOperation.waiting (row : DetachedOperation) (reason : String)
    (nextProbeAtMs : Option Int) (nowMs : Int) : DetachedOperation :=
  { row with
    state := .waitingCapacity
    capacityWaitReason := some (reason.take 128).toString
    capacityWaitStartedAtMs := row.capacityWaitStartedAtMs.or (some nowMs)
    capacityWaitNextProbeAtMs := nextProbeAtMs, updatedAtMs := nowMs }

theorem DetachedOperation.waiting_key (row : DetachedOperation)
    (reason : String) (nextProbeAtMs : Option Int) (nowMs : Int) :
    key (row.waiting reason nextProbeAtMs nowMs) = key row := rfl

/-- Move admitted work into a durable wait for capacity. -/
def markDetachedOperationWaiting (db : DetachedDb) (operationId reason : String)
    (nextProbeAtMs : Option Int) (nowMs : Int) : DetachedAnswer := do
  require (operationId ≠ "" ∧ reason ≠ "" ∧ safeMs nowMs = true)
    .invalidCapacityWait
  require (nextProbeAtMs.all safeMs = true) .invalidCapacityWait
  let current ← orFault (getDetachedOperation db operationId)
    .detachedOperationMissing
  require (isTerminalState current.state = false ∧ current.state ≠ .started)
    .detachedOperationTransitionInvalid
  db.change operationId (·.isPending) (·.waiting reason nextProbeAtMs nowMs)
    (DetachedOperation.waiting_key · reason nextProbeAtMs nowMs)
    (·.state = .waitingCapacity)

structure SetDetachedOperationTerminalInput where
  terminalState : DetachedTerminalState
  observationRef : Option String := none
  receiptRef : Option String := none
  errorCode : Option String := none
  failureEvidenceJson : Option JsonText := none

/-- What ends which operations: work that never started is not a success and
was not stopped. -/
def mayEndAs (current : DetachedOperationState)
    (terminalState : DetachedTerminalState) : Bool :=
  match current with
  | .admitted | .waitingCapacity =>
    terminalState = .cancelled || terminalState = .failed ||
      terminalState = .outcomeUnknown
  | .started => true
  | _ => false

def DetachedOperation.ended (row : DetachedOperation)
    (input : SetDetachedOperationTerminalInput) (nowMs : Int) :
    DetachedOperation :=
  { row with
    state := input.terminalState.toState
    terminalState := some input.terminalState, terminalAtMs := some nowMs
    observationRef := input.observationRef.or row.observationRef
    receiptRef := input.receiptRef.or row.receiptRef
    errorCode := input.errorCode.or row.errorCode
    failureEvidenceJson :=
      (input.failureEvidenceJson.map (·.text)).or row.failureEvidenceJson
    updatedAtMs := nowMs }

theorem DetachedOperation.ended_key (row : DetachedOperation)
    (input : SetDetachedOperationTerminalInput) (nowMs : Int) :
    key (row.ended input nowMs) = key row := rfl

def setDetachedOperationTerminal (db : DetachedDb) (operationId : String)
    (input : SetDetachedOperationTerminalInput) (nowMs : Int) :
    DetachedAnswer := do
  require (operationId ≠ "" ∧ safeMs nowMs = true) .invalidTerminal
  let current ← orFault (getDetachedOperation db operationId)
    .detachedOperationMissing
  require (isTerminalState current.state = false)
    .detachedOperationTerminalImmutable
  require (mayEndAs current.state input.terminalState = true)
    .detachedOperationTransitionInvalid
  require (input.failureEvidenceJson.all (·.isValid) = true)
    .invalidFailureEvidence
  db.change operationId (·.state = current.state) (·.ended input nowMs)
    (DetachedOperation.ended_key · input nowMs)
    (·.state = input.terminalState.toState)

def DetachedOperation.cancelRequested (row : DetachedOperation) (nowMs : Int) :
    DetachedOperation :=
  { row with
    cancelRequestedAtMs := row.cancelRequestedAtMs.or (some nowMs)
    updatedAtMs := nowMs }

theorem DetachedOperation.cancelRequested_key (row : DetachedOperation)
    (nowMs : Int) : key (row.cancelRequested nowMs) = key row := rfl

/-- A request to cancel is no outcome. -/
def requestDetachedOperationCancel (db : DetachedDb) (operationId : String)
    (nowMs : Int) : DetachedAnswer := do
  require (operationId ≠ "" ∧ safeMs nowMs = true) .invalidCancelRequest
  let current ← orFault (getDetachedOperation db operationId)
    .detachedOperationMissing
  require (isTerminalState current.state = false)
    .detachedOperationTerminalImmutable
  db.change operationId (fun _ => true) (·.cancelRequested nowMs)
    (DetachedOperation.cancelRequested_key · nowMs) (fun _ => true)

def DetachedOperation.cancelled (row : DetachedOperation) (nowMs : Int) :
    DetachedOperation :=
  { row with
    state := .cancelled, terminalState := some .cancelled
    terminalAtMs := some nowMs
    cancelRequestedAtMs := row.cancelRequestedAtMs.or (some nowMs)
    updatedAtMs := nowMs }

theorem DetachedOperation.cancelled_key (row : DetachedOperation)
    (nowMs : Int) : key (row.cancelled nowMs) = key row := rfl

def DetachedOperation.stopped (row : DetachedOperation) (nowMs : Int) :
    DetachedOperation :=
  { row with
    state := .stopped, terminalState := some .stopped
    terminalAtMs := some nowMs, updatedAtMs := nowMs }

theorem DetachedOperation.stopped_key (row : DetachedOperation) (nowMs : Int) :
    key (row.stopped nowMs) = key row := rfl

structure ResolveDetachedCancelInput where
  cancelledBy : String
  stopProofRef : Option String := none

/-- Work that never started is cancelled; started work is stopped only by a
proof that it stopped. -/
def resolveDetachedOperationCancel (db : DetachedDb) (operationId : String)
    (input : ResolveDetachedCancelInput) (nowMs : Int) : DetachedAnswer := do
  require (operationId ≠ "" ∧ input.cancelledBy ≠ "" ∧ safeMs nowMs = true)
    .invalidCancelResolution
  let current ← orFault (getDetachedOperation db operationId)
    .detachedOperationMissing
  require (isTerminalState current.state = false)
    .detachedOperationTerminalImmutable
  if current.isPending = true ∧ current.startAtMs = none then
    db.change operationId (·.isPending) (·.cancelled nowMs)
      (DetachedOperation.cancelled_key · nowMs) (·.state = .cancelled)
  else if current.state = .started then do
    require (input.stopProofRef.any (· ≠ "") = true) .stopProofRequired
    db.change operationId (·.state = .started) (·.stopped nowMs)
      (DetachedOperation.stopped_key · nowMs) (·.state = .stopped)
  else .error .detachedOperationTransitionInvalid

structure SupersedeDetachedInput where
  supersededBy : String
  successorOperationId : Option String := none

def DetachedOperation.superseded (row : DetachedOperation)
    (input : SupersedeDetachedInput) (nowMs : Int) : DetachedOperation :=
  { row with
    supersededBy := some input.supersededBy
    successorOperationId :=
      input.successorOperationId.or row.successorOperationId
    updatedAtMs := nowMs }

theorem DetachedOperation.superseded_key (row : DetachedOperation)
    (input : SupersedeDetachedInput) (nowMs : Int) :
    key (row.superseded input nowMs) = key row := rfl

def DetachedOperation.withdrawn (row : DetachedOperation)
    (input : SupersedeDetachedInput) (nowMs : Int) : DetachedOperation :=
  { row.superseded input nowMs with
    state := .cancelled
    terminalState := some .cancelled
    terminalAtMs := row.terminalAtMs.or (some nowMs)
    errorCode := row.errorCode.or (some "superseded") }

theorem DetachedOperation.withdrawn_key (row : DetachedOperation)
    (input : SupersedeDetachedInput) (nowMs : Int) :
    key (row.withdrawn input nowMs) = key row := rfl

/-- Work that never started is cancelled by its supersession; any other work
keeps its truth and is only marked. -/
def supersedeDetachedOperation (db : DetachedDb) (operationId : String)
    (input : SupersedeDetachedInput) (nowMs : Int) : DetachedAnswer := do
  require (operationId ≠ "" ∧ input.supersededBy ≠ "" ∧ safeMs nowMs = true)
    .invalidSupersession
  let current ← orFault (getDetachedOperation db operationId)
    .detachedOperationMissing
  if current.isPending = true then
    db.change operationId (·.isPending) (·.withdrawn input nowMs)
      (DetachedOperation.withdrawn_key · input nowMs) (fun _ => true)
  else
    db.change operationId (fun _ => true) (·.superseded input nowMs)
      (DetachedOperation.superseded_key · input nowMs) (fun _ => true)

def DetachedOperation.expired (row : DetachedOperation) (nowMs : Int) :
    DetachedOperation :=
  { row with
    state := .outcomeUnknown, terminalState := some .outcomeUnknown
    terminalAtMs := some nowMs
    errorCode := row.errorCode.or (some "operation_deadline_expired")
    updatedAtMs := nowMs }

theorem DetachedOperation.expired_key (row : DetachedOperation) (nowMs : Int) :
    key (row.expired nowMs) = key row := rfl

/-- `ORDER BY operation_deadline_at_ms, operation_id`. -/
def deadlineOrder (a b : DetachedOperation) : Bool :=
  a.operationDeadlineAtMs < b.operationDeadlineAtMs ||
    (a.operationDeadlineAtMs = b.operationDeadlineAtMs &&
      a.operationId ≤ b.operationId)

/-- The started operations whose deadline has passed, the earliest first. -/
def overdueOperations (db : DetachedDb) (nowMs : Int) : List String :=
  (List.insertionSort (fun a b => deadlineOrder a b = true)
    (db.operations.rows.filter fun row => row.state = .started &&
      decide (row.operationDeadlineAtMs < nowMs))).map (·.operationId)

def expireOperation (nowMs : Int) (db : DetachedDb) (operationId : String) :
    DetachedDb :=
  db.updateOperation operationId (·.state = .started) (·.expired nowMs)
    (DetachedOperation.expired_key · nowMs)

/-- Give up on the operations whose deadline has passed: one statement for each
of them. -/
def reconcileDetachedOperations (db : DetachedDb) (nowMs : Int) : DetachedDb :=
  if safeMs nowMs = true then
    (overdueOperations db nowMs).foldl (expireOperation nowMs) db
  else db

def DetachedOperation.linked (row : DetachedOperation)
    (interimOutboxRef completionEventRef : Option String) (nowMs : Int) :
    DetachedOperation :=
  { row with
    interimOutboxRef := interimOutboxRef.or row.interimOutboxRef
    completionEventRef := completionEventRef.or row.completionEventRef
    updatedAtMs := nowMs }

theorem DetachedOperation.linked_key (row : DetachedOperation)
    (interimOutboxRef completionEventRef : Option String) (nowMs : Int) :
    key (row.linked interimOutboxRef completionEventRef nowMs) = key row := rfl

/-- The statements that note the interim speech or the completion event of an
operation in its row. -/
def linkDetachedOperation (db : DetachedDb) (operationId : String)
    (interimOutboxRef completionEventRef : Option String) (nowMs : Int) :
    DetachedDb :=
  db.updateOperation operationId (fun _ => true)
    (·.linked interimOutboxRef completionEventRef nowMs)
    (DetachedOperation.linked_key · interimOutboxRef completionEventRef nowMs)

end CognitiveSidecar
