/-
The dispatch of detached operations: a dispatch asks for capacity, starts its
operation, calls the worker and records the outcome.  Dispatches interleave at
these waits, with each other and with every other change of the operations, and
a restart ends all of them.
-/
import CognitiveSidecar.DetachedOperations
import CognitiveSidecar.Lib.Run

namespace CognitiveSidecar

open Relational

/-- What a capacity probe decides. -/
inductive CapacityDecision
  | available
  | unavailable (reason : String) (nextProbeAtMs : Option Int) (terminal : Bool)

/-- How the worker settles: it throws, it reports a failure with its sanitized
evidence, or it succeeds, with or without its observation persisted. -/
inductive WorkerSettlement
  | threw
  | failed (errorCode : String) (failureEvidence : Option String)
  | succeeded (observationPersisted : Bool)

/-- The refusals of a dispatch. -/
inductive DispatchFault
  | operationMissing | requestInvalid | refused (fault : DetachedFault)
deriving DecidableEq

abbrev DispatchAnswer := Except DispatchFault DetachedOperation

/-- Where a dispatch is: it awaits its capacity probe, the callback after its
start, or its worker, or it is over. -/
inductive DispatchPhase
  | probing (seen : DetachedOperation)
  | starting (started : DetachedOperation)
  | working (started : DetachedOperation)
  | finished (answer : DispatchAnswer)
deriving DecidableEq

structure DispatchRun where
  runId : Nat
  operationId : String
  nowMs : Int
  phase : DispatchPhase
deriving DecidableEq

instance : Keyed DispatchRun Nat := ⟨DispatchRun.runId⟩

def DispatchRun.inPhase (row : DispatchRun) (phase : DispatchPhase) :
    DispatchRun :=
  { row with phase }

theorem DispatchRun.inPhase_key (row : DispatchRun) (phase : DispatchPhase) :
    key (row.inPhase phase) = key row := rfl

/-- The dispatch has started its operation and not yet called the worker. -/
def DispatchRun.isStarting (row : DispatchRun) : Bool :=
  match row.phase with
  | .starting _ => true
  | _ => false

/-- The outcome that a dispatch records, or what refused it. -/
def concludeDispatch (db : DetachedDb) (answer : DetachedAnswer) :
    DispatchPhase × DetachedDb :=
  match answer with
  | .ok (operation, after) => (.finished (.ok operation), after)
  | .error fault => (.finished (.error (.refused fault)), db)

/-- Start the operation that the dispatch has read. -/
def launchWorker (db : DetachedDb) (operationId : String)
    (operation : DetachedOperation) (nowMs : Int) :
    DispatchPhase × DetachedDb :=
  match markDetachedOperationStarted db operationId
      { startProofRef :=
          "worker-dispatch:" ++ operationId ++ ":" ++ toString nowMs
        workerBinding := some
          { text := "\x7b\"kind\":\"project.investigate\"," ++
              "\"dispatchedAtMs\":" ++ toString nowMs ++ "\x7d"
            isValid := true }
        executionDeadlineAtMs := some operation.operationDeadlineAtMs }
      nowMs with
  | .ok (started, after) => (.starting started, after)
  | .error .operationDeadlineExhausted =>
    concludeDispatch db (setDetachedOperationTerminal db operationId
      { terminalState := .failed
        errorCode := some "operation_deadline_expired" } nowMs)
  | .error fault => (.finished (.error (.refused fault)), db)

/-- A dispatch up to its first wait. -/
def beginDispatch (db : DetachedDb) (operationId : String) (nowMs : Int)
    (hasProbe : Bool) : DispatchPhase × DetachedDb :=
  match getDetachedOperation db operationId with
  | none => (.finished (.error .operationMissing), db)
  | some operation =>
    if operation.requestJson.isObject = false then
      (.finished (.error .requestInvalid), db)
    else if operation.cancelRequestedAtMs.isSome = true ∧
        operation.state ≠ .started then
      concludeDispatch db (resolveDetachedOperationCancel db operationId
        { cancelledBy := "capacity-servicer" } nowMs)
    else if hasProbe then (.probing operation, db)
    else launchWorker db operationId operation nowMs

/-- A dispatch from the decision of its probe on. -/
def afterProbe (db : DetachedDb) (operationId : String)
    (seen : DetachedOperation) (nowMs : Int) (decision : CapacityDecision) :
    DispatchPhase × DetachedDb :=
  match decision with
  | .available => launchWorker db operationId seen nowMs
  | .unavailable reason _ true =>
    concludeDispatch db (setDetachedOperationTerminal db operationId
      { terminalState := .failed, errorCode := some reason } nowMs)
  | .unavailable reason nextProbeAtMs false =>
    concludeDispatch db (markDetachedOperationWaiting db operationId reason
      nextProbeAtMs nowMs)

def workerObservationId (operationId : String) : String :=
  "v021:observation:detached:" ++ operationId

/-- The terminal truth that a worker leaves. -/
def WorkerSettlement.toTerminal (settlement : WorkerSettlement)
    (operationId : String) : SetDetachedOperationTerminalInput :=
  match settlement with
  | .threw =>
    { terminalState := .outcomeUnknown
      errorCode := some "worker_dispatch_failed" }
  | .failed errorCode failureEvidence =>
    { terminalState := .failed, errorCode := some errorCode
      failureEvidenceJson :=
        failureEvidence.map fun text => { text, isValid := true } }
  | .succeeded observationPersisted =>
    { terminalState := .succeeded
      observationRef :=
        if observationPersisted then some (workerObservationId operationId)
        else none }

/-- The operations, the dispatches in progress, and the operations that the
worker was called for, in order. -/
structure DetachedSystem where
  db : DetachedDb := {}
  dispatches : Table DispatchRun := Table.empty
  nextRun : Nat := 1
  workerCalls : List String := []
deriving DecidableEq

namespace DetachedSystem

def setPhase (s : DetachedSystem) (runId : Nat) (phase : DispatchPhase) :
    Table DispatchRun :=
  s.dispatches.update (fun row => row.runId = runId) (·.inPhase phase)
    (DispatchRun.inPhase_key · phase)

def dispatch (s : DetachedSystem) (operationId : String) (nowMs : Int)
    (hasProbe : Bool) : DetachedSystem :=
  let (phase, db) := beginDispatch s.db operationId nowMs hasProbe
  { s with
    db
    dispatches := s.dispatches.insertNew ⟨s.nextRun, operationId, nowMs, phase⟩
    nextRun := s.nextRun + 1 }

def probed (s : DetachedSystem) (row : DispatchRun)
    (decision : CapacityDecision) : DetachedSystem :=
  match row.phase with
  | .probing seen =>
    let (phase, db) :=
      afterProbe s.db row.operationId seen row.nowMs decision
    { s with db, dispatches := s.setPhase row.runId phase }
  | _ => s

/-- The callback after the start has returned, and the worker is called. -/
def callWorker (s : DetachedSystem) (row : DispatchRun) : DetachedSystem :=
  match row.phase with
  | .starting started =>
    { s with
      dispatches := s.setPhase row.runId (.working started)
      workerCalls := s.workerCalls ++ [row.operationId] }
  | _ => s

def settleWorker (s : DetachedSystem) (row : DispatchRun)
    (settlement : WorkerSettlement) (nowMs : Int) : DetachedSystem :=
  match row.phase with
  | .working _ =>
    let (phase, db) := concludeDispatch s.db
      (setDetachedOperationTerminal s.db row.operationId
        (settlement.toTerminal row.operationId) nowMs)
    { s with db, dispatches := s.setPhase row.runId phase }
  | _ => s

/-- Any other change of an operation. -/
def change (s : DetachedSystem) (answer : DetachedAnswer) : DetachedSystem :=
  match answer with
  | .ok (_, db) => { s with db }
  | .error _ => s

end DetachedSystem

/-- What moves the system on: a dispatch and its waits, every other operation
of the ledger, the expiry of one overdue operation, and a restart. -/
inductive DetachedOp
  | admitOperation (input : AdmitDetachedOperationInput) (nowMs : Int)
  | dispatch (operationId : String) (nowMs : Int) (hasProbe : Bool)
  | probed (runId : Nat) (decision : CapacityDecision)
  | callWorker (runId : Nat)
  | settleWorker (runId : Nat) (settlement : WorkerSettlement) (nowMs : Int)
  | start (operationId : String) (input : StartDetachedOperationInput)
      (nowMs : Int)
  | wait (operationId reason : String) (nextProbeAtMs : Option Int)
      (nowMs : Int)
  | setTerminal (operationId : String)
      (input : SetDetachedOperationTerminalInput) (nowMs : Int)
  | requestCancel (operationId : String) (nowMs : Int)
  | resolveCancel (operationId : String) (input : ResolveDetachedCancelInput)
      (nowMs : Int)
  | supersede (operationId : String) (input : SupersedeDetachedInput)
      (nowMs : Int)
  | reconcile (nowMs : Int)
  | reconcileUpTo (nowMs : Int) (committed : Nat)
  | link (operationId : String)
      (interimOutboxRef completionEventRef : Option String) (nowMs : Int)
  | restart

open DetachedSystem in
/-- One step: the code between two waits. -/
def detachedStep [Host] (op : DetachedOp) (s : DetachedSystem) :
    DetachedSystem :=
  match op with
  | .admitOperation input nowMs =>
    match admitDetachedOperation s.db input nowMs with
    | .ok (_, db) => { s with db }
    | .error _ => s
  | .dispatch operationId nowMs hasProbe =>
    s.dispatch operationId nowMs hasProbe
  | .probed runId decision =>
    match s.dispatches.get? runId with
    | some row => s.probed row decision
    | none => s
  | .callWorker runId =>
    match s.dispatches.get? runId with
    | some row => s.callWorker row
    | none => s
  | .settleWorker runId settlement nowMs =>
    match s.dispatches.get? runId with
    | some row => s.settleWorker row settlement nowMs
    | none => s
  | .start operationId input nowMs =>
    s.change (markDetachedOperationStarted s.db operationId input nowMs)
  | .wait operationId reason nextProbeAtMs nowMs =>
    s.change (markDetachedOperationWaiting s.db operationId reason
      nextProbeAtMs nowMs)
  | .setTerminal operationId input nowMs =>
    s.change (setDetachedOperationTerminal s.db operationId input nowMs)
  | .requestCancel operationId nowMs =>
    s.change (requestDetachedOperationCancel s.db operationId nowMs)
  | .resolveCancel operationId input nowMs =>
    s.change (resolveDetachedOperationCancel s.db operationId input nowMs)
  | .supersede operationId input nowMs =>
    s.change (supersedeDetachedOperation s.db operationId input nowMs)
  | .reconcile nowMs =>
    { s with db := reconcileDetachedOperations s.db nowMs }
  -- The process is lost between two statements of the reconciliation.
  | .reconcileUpTo nowMs committed =>
    { s with
      db := ((overdueOperations s.db nowMs).take committed).foldl
        (expireOperation nowMs) s.db
      dispatches := Table.empty }
  | .link operationId interimOutboxRef completionEventRef nowMs =>
    { s with
      db := linkDetachedOperation s.db operationId interimOutboxRef
        completionEventRef nowMs }
  | .restart => { s with dispatches := Table.empty }

end CognitiveSidecar
