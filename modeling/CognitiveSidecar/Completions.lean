/-
Completions: the one event and the one evidence row that tell a finished
operation, the reference that names the event, and what is read back from it.
-/
import CognitiveSidecar.Continuations

namespace CognitiveSidecar.Completions

open Relational

/-- Exactly-one completion identity per operation across all producers. -/
def completionEventIdFor (operationId : String) : String :=
  "operation:" ++ operationId ++ ":completion"

def truncate (value : String) (maxLength : Nat) : String :=
  if utf16Length value ≤ maxLength then value
  else slice value maxLength ++ "…"

def originKindText : WorkerOriginKind → String
  | .ownerRequest => "OWNER_REQUEST"
  | .ashleyCommitment => "ASHLEY_COMMITMENT"
  | .ashleyCuriosity => "ASHLEY_CURIOSITY"

def terminalStateText : DetachedTerminalState → String
  | .succeeded => "succeeded"
  | .failed => "failed"
  | .outcomeUnknown => "outcome_unknown"
  | .cancelled => "cancelled"
  | .stopped => "stopped"

/-- What the other tables and the configuration answer while a completion is
produced, and whether a statement of its throws. -/
structure CompletionReading where
  interimText : Option String := none
  canonicalObservationId : String → Option String := fun _ => none
  observationBindingHash : List String → String := fun _ => "no-observations"
  undertakingOwnerId : String → Option String := fun _ => none
  ownerEventOwnerId : String → Option String := fun _ => none
  interimOwnerId : Option String := none
  evidenceSpeakerId : String → Option String := fun _ => none
  isAuthorizedOwnerId : String → Bool := fun _ => true
  entityName : String := "Ashley"
  targetText : EffectTarget → String := fun _ => ""
  eventThrows : Bool := false
  evidenceThrows : Bool := false

structure EffectCompletionPayload where
  (effectContinuationId operationId effectId effectBindingHash : String)
  terminalState : ContinuationState
  (terminalClass effectTruth purpose : String)
  target : EffectTarget
  diagnosticRef : Option String
  (deadlineAtMs remainingEffectRounds : Int)
  originCycleId : String
  originGeneration : Int
  originOwnerEventId : String
  observationRef : Option String
  (receiptRef observationsCapture : String)
  observationIds : List String
  observationCount : Nat
  (observationBindingHash triggerRef : String)
deriving DecidableEq

structure DetachedCompletionPayload where
  detachedOperationId : String
  terminalState : DetachedTerminalState
  errorCode : Option String
  originCycleId : String
  originGeneration : Int
  originKind : WorkerOriginKind
  originRef : String
  (originOwnerEventId originEvidenceRowId workerUndertakingId : Option String)
  (purpose evidenceNeed : String)
  (interimText observationRef receiptRef supersededBy : Option String)
  successorOperationId : Option String
  cancelRequestedAtMs : Option Int
  observationsCapture : String
  observationIds : List String
  observationCount : Nat
  (observationBindingHash triggerRef : String)
  ownerId : Option String
deriving DecidableEq

inductive CompletionPayload
  | effect (payload : EffectCompletionPayload)
  | detached (payload : DetachedCompletionPayload)
deriving DecidableEq

/-- The operation that a completion is about. -/
def CompletionPayload.operationId : CompletionPayload → String
  | effect payload => payload.effectContinuationId
  | detached payload => payload.detachedOperationId

/-- A completion in `inbox_events`. -/
structure CompletionEvent where
  (id conversationId kind : String)
  payload : CompletionPayload
  createdAtMs : Int
deriving DecidableEq

instance : Keyed CompletionEvent String := ⟨CompletionEvent.id⟩

/-- A Host system row of the evidence log, and the operation it was written
for. -/
structure SystemEvidence where
  (operationId conversationId text producingCycleId dataClassification : String)
  createdAtMs : Int
deriving DecidableEq

/-- The tables that completions read and write. -/
structure CompletionDb where
  operations : Table DetachedOperation := Table.empty
  ledger : EffectLedger := {}
  continuations : Table EffectContinuation := Table.empty
  inbox : Table CompletionEvent := Table.empty
  evidence : List SystemEvidence := []
  drawn : Nat := 0

def completionSummary (operation : DetachedOperation)
    (terminalState : DetachedTerminalState) (reading : CompletionReading) :
    String :=
  let label := if operation.originKind = .ownerRequest then
      "Detached investigation"
    else originKindText operation.originKind ++ " worker investigation"
  let refs := (operation.observationRef.map ("observation " ++ ·)).toList ++
    (operation.receiptRef.map ("receipt " ++ ·)).toList ++
    (operation.errorCode.map ("error " ++ ·)).toList
  let parts :=
    [label ++ " " ++ terminalStateText terminalState ++ ": " ++
      truncate operation.purpose 280 ++ ".",
      "Evidence need: " ++ truncate operation.evidenceNeed 200 ++ "."] ++
    (reading.interimText.map fun text =>
      reading.entityName ++ " interim: \"" ++ truncate text 300 ++
        "\".").toList ++
    (if refs = [] then [] else ["Refs: " ++ ", ".intercalate refs ++ "."]) ++
    (operation.supersededBy.map ("Superseded by: " ++ · ++ ".")).toList
  " ".intercalate parts

/-- The owner that a request came from, by the first table that knows one. -/
def canonicalOwnerId (operation : DetachedOperation)
    (reading : CompletionReading) : Option String :=
  let known := fun (candidate : Option String) =>
    (candidate.map trim).filter (· ≠ "")
  if operation.originKind = .ownerRequest then
    ((((known (operation.workerUndertakingId.bind
        reading.undertakingOwnerId)).or
      (known (operation.originOwnerEventId.bind
        reading.ownerEventOwnerId))).or
      (known reading.interimOwnerId)).or
      (known (operation.originEvidenceRowId.bind
        reading.evidenceSpeakerId))).filter reading.isAuthorizedOwnerId
  else none

def triggerRefFor (operationId : String) : String :=
  "operation-completion:" ++ operationId

section Producing

/-- The payload of an effect completion. -/
def effectCompletionPayload [Host] (continuation : EffectContinuation)
    (originOwnerEventId receiptRef : String) (reading : CompletionReading) :
    EffectCompletionPayload where
  effectContinuationId := continuation.effectId
  operationId := continuation.effectId
  effectId := continuation.effectId
  effectBindingHash := effectContinuationBindingHash continuation
  terminalState := continuation.state
  terminalClass := continuation.terminalClass.getD "UNKNOWN"
  effectTruth := continuation.effectTruth.getD "unknown"
  purpose := continuation.purpose
  target := continuation.target
  diagnosticRef := continuation.diagnosticRef
  deadlineAtMs := continuation.deadlineAtMs
  remainingEffectRounds := continuation.remainingEffectRounds
  originCycleId := continuation.cycleId
  originGeneration := continuation.generation
  originOwnerEventId
  observationRef := none
  receiptRef
  observationsCapture := "none"
  observationIds := []
  observationCount := 0
  observationBindingHash := reading.observationBindingHash []
  triggerRef := triggerRefFor continuation.effectId

def effectCompletionText (continuation : EffectContinuation)
    (receiptRef : String) (reading : CompletionReading) : String :=
  "Develop effect " ++ continuation.state.text ++ " (" ++
    continuation.terminalClass.getD "UNKNOWN" ++ "; effect truth " ++
    continuation.effectTruth.getD "unknown" ++ "). Purpose: " ++
    truncate continuation.purpose 280 ++ ". Target: " ++
    reading.targetText continuation.target ++ ". Refs: effect " ++
    continuation.effectId ++ ", diagnostic " ++
    continuation.diagnosticRef.getD "unavailable" ++ ", receipt " ++
    receiptRef ++ "."

/-- The payload of a detached completion. -/
def detachedCompletionPayload (operation : DetachedOperation)
    (terminalState : DetachedTerminalState) (reading : CompletionReading) :
    DetachedCompletionPayload :=
  let observationIds :=
    if terminalState = .succeeded then
      (operation.observationRef.bind reading.canonicalObservationId).toList
    else []
  { detachedOperationId := operation.operationId, terminalState
    errorCode := operation.errorCode, originCycleId := operation.originCycleId
    originGeneration := operation.originGeneration
    originKind := operation.originKind, originRef := operation.originRef
    originOwnerEventId := operation.originOwnerEventId
    originEvidenceRowId := operation.originEvidenceRowId
    workerUndertakingId := operation.workerUndertakingId
    purpose := operation.purpose, evidenceNeed := operation.evidenceNeed
    interimText := reading.interimText
    observationRef := operation.observationRef
    receiptRef := operation.receiptRef, supersededBy := operation.supersededBy
    successorOperationId := operation.successorOperationId
    cancelRequestedAtMs := operation.cancelRequestedAtMs
    observationsCapture := if observationIds = [] then "none" else "present"
    observationIds, observationCount := observationIds.length
    observationBindingHash := reading.observationBindingHash observationIds
    triggerRef := triggerRefFor operation.operationId
    ownerId := canonicalOwnerId operation reading }

/-- What a producer decides from its reads, before its first statement. -/
inductive CompletionPlan
  | refuse (reason : String)
  | report (eventId : String)
  | relink (eventId : String)
  | post (event : CompletionEvent) (note : SystemEvidence)

def planEffectCompletion [Host] (db : CompletionDb) (operationId : String)
    (nowMs : Int) (reading : CompletionReading) : CompletionPlan :=
  match getEffectContinuation db.continuations operationId with
  | none => .refuse "detached_operation_missing"
  | some continuation =>
    if continuation.state = .running then
      .refuse "effect_continuation_not_terminal"
    else match (getEffectReceipt db.ledger operationId).filter
        (·.outcome ≠ .inProgress) with
      | none => .refuse "effect_continuation_receipt_missing"
      | some receipt =>
        let eventId := completionEventIdFor operationId
        match continuation.completionEventRef with
        | some linked => .report linked
        | none =>
          if (db.inbox.get? eventId).isSome then .relink eventId
          else match (db.ledger.getInFlightByEffectId operationId).filter
              fun inFlight => inFlight.cycleId = continuation.cycleId &&
                inFlight.generation = continuation.generation with
            | none => .refuse "effect_continuation_binding_missing"
            | some inFlight => .post
                { id := eventId, conversationId := continuation.conversationId
                  kind := "observation_or_receipt"
                  payload := .effect (effectCompletionPayload continuation
                    inFlight.originEventId receipt.receiptId reading)
                  createdAtMs := nowMs }
                { operationId := continuation.effectId
                  conversationId := continuation.conversationId
                  text := effectCompletionText continuation
                    receipt.receiptId reading
                  producingCycleId := continuation.cycleId
                  dataClassification := "never_public", createdAtMs := nowMs }

def planDetachedCompletion (operation : DetachedOperation) (nowMs : Int)
    (reading : CompletionReading) : CompletionPlan :=
  match operation.terminalState with
  | none => .refuse "detached_operation_not_terminal"
  | some terminalState =>
    match stringValue operation.completionEventRef with
    | some linked => .report linked
    | none => .post
        { id := completionEventIdFor operation.operationId
          conversationId := operation.conversationId
          kind := "observation_or_receipt"
          payload := .detached (detachedCompletionPayload operation
            terminalState reading)
          createdAtMs := nowMs }
        { operationId := operation.operationId
          conversationId := operation.conversationId
          text := completionSummary operation terminalState reading
          producingCycleId := operation.originCycleId
          dataClassification := "never_public", createdAtMs := nowMs }

/-- The reads of `produceOperationCompletion`. -/
def planCompletion [Host] (db : CompletionDb) (operationId : String) (nowMs : Int)
    (reading : CompletionReading) : CompletionPlan :=
  if operationId = "" then .refuse "invalid_operation"
  else match db.operations.get? operationId with
    | none => planEffectCompletion db operationId nowMs reading
    | some operation => planDetachedCompletion operation nowMs reading

/-- `appendInboxEvent`: idempotent on the id. -/
def postEvent (db : CompletionDb) (event : CompletionEvent) : CompletionDb :=
  { db with inbox := db.inbox.insertNew event }

/-- `appendSystemEvent`. -/
def noteEvidence (db : CompletionDb) (note : SystemEvidence) : CompletionDb :=
  { db with evidence := db.evidence ++ [note] }

def completedOperation (eventId : String) (nowMs : Int)
    (row : DetachedOperation) : DetachedOperation :=
  { row with completionEventRef := some eventId, updatedAtMs := nowMs }

theorem completedOperation_key (eventId : String) (nowMs : Int)
    (row : DetachedOperation) :
    key (completedOperation eventId nowMs row) = key row := rfl

/-- Which of the two tables names the operation of a completion. -/
def linkCompletion (db : CompletionDb) (isDetached : Bool)
    (operationId eventId : String) (nowMs : Int) : CompletionDb :=
  if isDetached then
    { db with
      operations := db.operations.update (·.operationId = operationId)
        (completedOperation eventId nowMs)
        (completedOperation_key eventId nowMs) }
  else
    { db with
      continuations := recordEffectContinuationCompletion db.continuations
        operationId eventId nowMs }

def CompletionPayload.isDetached : CompletionPayload → Bool
  | .effect _ => false
  | .detached _ => true

inductive ProduceCompletionResult
  | ok (eventId : String) (created : Bool)
  | refused (reason : String)
  | threw
deriving DecidableEq

/-- Produce the completion of a terminal operation: three statements, each
committed by itself. -/
def produceOperationCompletion [Host] (db : CompletionDb) (operationId : String)
    (nowMs : Int) (reading : CompletionReading) :
    ProduceCompletionResult × CompletionDb :=
  match planCompletion db operationId nowMs reading with
  | .refuse reason => (.refused reason, db)
  | .report eventId => (.ok eventId false, db)
  | .relink eventId =>
    (.ok eventId false, linkCompletion db false operationId eventId nowMs)
  | .post event note =>
    if reading.eventThrows then (.threw, db)
    else
      let db := postEvent db event
      if reading.evidenceThrows then (.threw, db)
      else
        let db := noteEvidence db note
        (.ok event.id true, linkCompletion db event.payload.isDetached
          operationId event.id nowMs)

end Producing

section Reconciling

structure ReconcileOptions where
  nowMs : Int
  limit : Int := 50
  runtimeId : String

def ReconcileOptions.bounded (options : ReconcileOptions) : Nat :=
  (max 1 (min 100 options.limit)).toNat

/-- `ORDER BY at ASC, id ASC`; a missing time comes first. -/
def listedBefore (atMs otherAtMs : Option Int) (id other : String) : Bool :=
  match atMs, otherAtMs with
  | none, none => id ≤ other
  | none, some _ => true
  | some _, none => false
  | some first, some second =>
    first < second || (first = second && id ≤ other)

/-- The terminal operations without a completion reference. -/
def missingOperations (db : CompletionDb) (limit : Nat) : List String :=
  (((db.operations.rows.filter fun row =>
      row.terminalState.isSome && row.completionEventRef.isNone).insertionSort
    fun row other => listedBefore row.terminalAtMs other.terminalAtMs
      row.operationId other.operationId).take limit).map (·.operationId)

def listContinuations (db : CompletionDb) (wanted : EffectContinuation → Bool)
    (limit : Nat) : List EffectContinuation :=
  ((db.continuations.rows.filter wanted).insertionSort fun row other =>
    listedBefore (some row.startedAtMs) (some other.startedAtMs)
      row.effectId other.effectId).take limit

def listRunningEffectContinuations (db : CompletionDb) (limit : Nat) :
    List EffectContinuation :=
  (listContinuations db (·.state = .running) limit).filterMap mapContinuation

/-- The terminal continuations without a completion reference. -/
def missingContinuations (db : CompletionDb) (limit : Nat) : List String :=
  (listContinuations db (fun row => decide (row.state ≠ .running) &&
    row.completionEventRef.isNone) limit).map (·.effectId)

structure ReconcileResult where
  produced : List String := []
  failures : List String := []
deriving DecidableEq

/-- Produce the completions of a list, each failure by itself. -/
def produceEach [Host] (readings : String → CompletionReading) (nowMs : Int)
    (progress : ReconcileResult × CompletionDb) (operationId : String) :
    ReconcileResult × CompletionDb :=
  if operationId = "" then progress
  else
    let (result, db) := progress
    let (answer, db) := produceOperationCompletion db operationId nowMs
      (readings operationId)
    match answer with
    | .ok eventId _ =>
      ({ result with produced := result.produced ++ [eventId] }, db)
    | _ => ({ result with failures := result.failures ++ [operationId] }, db)

/-- The receipt of a worker that was lost. -/
def unknownReceipt (continuation : EffectContinuation) (inFlight : EffectRow)
    (nowMs : Int) : ReceiptRow :=
  let timeout := decide (continuation.deadlineAtMs +
    effectContinuationPublicationMarginMs ≤ nowMs)
  { receiptId :=
      "v021:effect:" ++ continuation.effectId ++ ":recovered-unknown"
    effectId := continuation.effectId, idempotencyKey := inFlight.idempotencyKey
    outcome := .outcomeUnknown
    claims :=
      { executionTruth := some "effect_unknown"
        terminationClass :=
          some (if timeout then "RESOURCE_EXHAUSTED" else "CANCELLED")
        other := if timeout then "effect_deadline_exhausted"
          else "effect_process_restarted" }
    atMs := nowMs, dataClassification := .neverPublic, secretOmitted := true }

/-- End a continuation by the receipt that tells its outcome. -/
def abandonByReceipt (db : CompletionDb) (effectId : String)
    (receipt : ReceiptRow) (nowMs : Int) : CompletionDb :=
  { db with
    continuations := (abandonEffectContinuation db.continuations
      { effectId
        nowMs, terminalClass := receiptTerminalClass receipt
        effectTruth := receiptEffectTruth receipt
        state := receiptState receipt }).2 }

inductive RecoverResult
  | skipped | failed | recovered
  | threw (fault : EffectFault)

/-- Recover one running continuation whose process or lease is gone. -/
def recoverContinuation (db : CompletionDb) (nowMs : Int) (runtimeId : String)
    (continuation : EffectContinuation) : RecoverResult × CompletionDb :=
  if continuation.runtimeId = runtimeId ∧ nowMs <
      continuation.deadlineAtMs + effectContinuationPublicationMarginMs then
    (.skipped, db)
  else match (getEffectReceipt db.ledger continuation.effectId).filter
      (·.outcome ≠ .inProgress) with
    | some receipt =>
      (.recovered, abandonByReceipt db continuation.effectId receipt nowMs)
    | none =>
      match db.ledger.getInFlightByEffectId continuation.effectId with
      | none => (.failed, db)
      | some inFlight =>
        let recorded := recordEffectReceipt db.ledger
          (unknownReceipt continuation inFlight nowMs)
        let db := { db with ledger := recorded.2 }
        match recorded.1 with
        | .error fault => (.threw fault, db)
        | .ok receipt => (.recovered, abandonByReceipt db
            continuation.effectId receipt nowMs)

/-- Recover each running continuation of a list, or stop at the first fault. -/
def recoverEach (nowMs : Int) (runtimeId : String) :
    List EffectContinuation → ReconcileResult × CompletionDb →
      Option ReconcileResult × CompletionDb
  | [], (result, db) => (some result, db)
  | continuation :: rest, (result, db) =>
    let (answer, db) := recoverContinuation db nowMs runtimeId continuation
    match answer with
    | .threw _ => (none, db)
    | .failed => recoverEach nowMs runtimeId rest
        ({ result with
            failures := result.failures ++ [continuation.effectId] }, db)
    | _ => recoverEach nowMs runtimeId rest (result, db)

/-- Crash-boundary backfill: every terminal operation lacking a completion
reference gets its completion. -/
def reconcileMissingCompletions [Host] (db : CompletionDb)
    (readings : String → CompletionReading) (options : ReconcileOptions) :
    Option ReconcileResult × CompletionDb :=
  let limit := options.bounded
  let (result, db) := (missingOperations db limit).foldl
    (produceEach readings options.nowMs) ({}, db)
  match recoverEach options.nowMs options.runtimeId
      (listRunningEffectContinuations db limit) (result, db) with
  | (none, db) => (none, db)
  | (some result, db) =>
    let (result, db) := (missingContinuations db limit).foldl
      (produceEach readings options.nowMs) (result, db)
    (some result, db)

end Reconciling

/-- What two payloads of effect completions must agree on. -/
def EffectCompletionPayload.compared (payload : EffectCompletionPayload) :
    EffectCompletionPayload :=
  { payload with
    observationRef := none, observationsCapture := ""
    observationIds := [], observationCount := 0, observationBindingHash := "" }

/-- Read a continuation back from its completion, when the stored event, the
receipt and the continuation agree. -/
def effectContinuationFromCompletion [Host] (db : CompletionDb)
    (eventId conversationId : String) (payload : CompletionPayload) :
    Option EffectContinuation :=
  match payload with
  | .detached _ => none
  | .effect payload =>
    let effectId := payload.effectContinuationId
    if effectId = "" ∨ eventId ≠ completionEventIdFor effectId then none
    else do
      let event ← db.inbox.get? eventId
      guard (event.kind = "observation_or_receipt" ∧
        event.conversationId = conversationId)
      match event.payload with
      | .detached _ => none
      | .effect stored =>
        let record ← getEffectContinuation db.continuations effectId
        let receipt ← getEffectReceipt db.ledger effectId
        guard (record.conversationId = conversationId ∧
          record.state ≠ .running ∧
          record.completionEventRef = some eventId ∧
          receipt.outcome ≠ .inProgress ∧ receipt.outcome ≠ .notAttempted)
        guard (some (receiptTerminalClass receipt) = record.terminalClass ∧
          some (receiptEffectTruth receipt) = record.effectTruth ∧
          receiptState receipt = record.state ∧
          payload.compared = stored.compared)
        guard (stored.operationId = effectId ∧ stored.effectId = effectId ∧
          stored.effectContinuationId = effectId ∧
          stored.originCycleId = record.cycleId ∧
          stored.originGeneration = record.generation ∧
          stored.effectBindingHash =
            effectContinuationBindingHash record ∧
          stored.deadlineAtMs = record.deadlineAtMs ∧
          stored.remainingEffectRounds = record.remainingEffectRounds ∧
          stored.purpose = record.purpose ∧
          stored.target = record.target ∧
          some stored.terminalClass = record.terminalClass ∧
          some stored.effectTruth = record.effectTruth ∧
          stored.diagnosticRef = record.diagnosticRef ∧
          stored.terminalState = record.state ∧
          stored.receiptRef = receipt.receiptId ∧
          stored.triggerRef = triggerRefFor effectId)
        pure record

end CognitiveSidecar.Completions
