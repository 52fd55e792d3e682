/-
Reconciling an unknown outcome, and the authorized repair of an event whose
work cannot be resumed.
-/
import CognitiveSidecar.DurableSettlement

namespace CognitiveSidecar

open Relational

variable [Host]

/-- The immediate predecessor of a repair event. -/
def predecessorOf (db : Sidecar) (eventId : String) : Option String :=
  ((db.repairs.get? eventId).map Repair.predecessorEventId).filter (· ≠ "")

/-- Walk from a repair to its predecessors; an event met before ends the walk.
Each turn consumes one repair row, so `fuel` bounds the number of turns. -/
def walkRepairLineage (db : Sidecar) : Nat → List String → String → List String
  | 0, seen, _ => seen
  | fuel + 1, seen, cursor =>
    match predecessorOf db cursor with
    | none => seen
    | some predecessor =>
      if predecessor ∈ seen then seen
      else walkRepairLineage db fuel (seen ++ [predecessor]) predecessor

/-- The event and the predecessors of its repair lineage. -/
def repairLineage (db : Sidecar) (eventId : String) : List String :=
  if eventId = "" then [eventId]
  else walkRepairLineage db (db.repairs.rows.length + 1) [eventId] eventId

/-- The effects bound to any event of a lineage. -/
def boundEffects (db : Sidecar) (eventIds : List String) :
    List InFlightEffect :=
  db.effects.rows.filter fun row =>
    row.originEventId.any fun origin => decide (origin ∈ eventIds)

def receiptOutcome (db : Sidecar) (effect : InFlightEffect) :
    Option EffectOutcome :=
  (db.receipts.get? effect.effectId).map EffectReceipt.outcome

inductive OutcomeUnknownSpendPartition
  | ownerNoReservation
  | privateNotSpent (reservationId : String)
  | privateSpent (reservationId signal : String)
  | privateUncertain

def explicitPrivateReservationId (db : Sidecar) (eventId : String) :
    Option String :=
  ((db.events.get? eventId).bind (·.payload.privateBudgetReservationId)).filter
    fun reservationId => !blank reservationId

/-- The one reservation of a wake; several are ambiguous. -/
def getPrivateReservationForWake (db : Sidecar) (wakeId : String) :
    Except Unit (Option PrivateReservation) :=
  if blank wakeId then .error ()
  else
    match db.reservations.rows.filter (·.wakeId = wakeId) with
    | [] => .ok none
    | [row] => .ok (some row)
    | _ => .error ()

/-- A dispatch recorded for a reservation: its parent as ordinal one, then the
bound child attempts. -/
structure PrivateAttemptRecord where
  ordinal : Nat
  dispatchTruth : PrivateDispatchTruth

def listPrivateAttemptHistory (db : Sidecar) (parent : PrivateReservation) :
    List PrivateAttemptRecord :=
  (if parent.invocationId.isSome ∧ parent.attemptId.isSome ∧
      parent.dispatchTruth ≠ .notBound then
    [⟨1, parent.dispatchTruth⟩] else []) ++
  (db.bindings.rows.filter (·.reservationId = parent.reservationId)).map
    fun row => ⟨row.ordinal, row.dispatchTruth⟩

def PrivateDispatchTruth.isSpent (truth : PrivateDispatchTruth) : Bool :=
  truth = .attempted || truth = .responded

def PrivateDispatchTruth.text : PrivateDispatchTruth → String
  | notBound => "not_bound"
  | notStarted => "not_started"
  | attempted => "attempted"
  | responded => "responded"
  | unknown => "unknown"

/-- The partition of a reservation by its state and dispatch truths. -/
def classifyReservation (db : Sidecar) (found : PrivateReservation) :
    OutcomeUnknownSpendPartition :=
  let history := listPrivateAttemptHistory db found
  let parentSpent := found.state = .committed || found.dispatchTruth.isSpent
  let spentChild := history.any fun record =>
    2 ≤ record.ordinal && record.dispatchTruth.isSpent
  if parentSpent || spentChild then
    .privateSpent found.reservationId
      (if found.state = .committed then "committed"
        else if found.dispatchTruth.isSpent then
          "parent_" ++ found.dispatchTruth.text
        else "child_dispatched")
  else if found.state = .held ∧
      (found.dispatchTruth = .notBound ∨ found.dispatchTruth = .notStarted) ∧
      (history.all fun record =>
        record.ordinal = 1 || record.dispatchTruth = .notStarted) then
    .privateNotSpent found.reservationId
  else .privateUncertain

def classifyOutcomeUnknownSpend (db : Sidecar) (eventId : String)
    (wakeId : Option String) : OutcomeUnknownSpendPartition :=
  let explicitId := explicitPrivateReservationId db eventId
  let found : Except Unit (Option PrivateReservation) :=
    match explicitId, wakeId.filter (· ≠ "") with
    | some reservationId, _ => .ok (db.reservations.get? reservationId)
    | none, some wakeId => getPrivateReservationForWake db wakeId
    | none, none => .ok none
  match found with
  | .error _ => .privateUncertain
  | .ok none =>
    if explicitId.isSome then .privateUncertain else .ownerNoReservation
  | .ok (some row) =>
    if row.reservationId = "" then
      if explicitId.isSome then .privateUncertain else .ownerNoReservation
    else classifyReservation db row

inductive ReconcileOutcome
  | outcomeStillUnknown
  | safeToRetry
  | terminal (reason : String)

structure ReconcileOutcomeUnknownInput where
  eventId : String
  nowMs : Int
  noExternalDispatchProof : Bool := false
  proofRef : Option String := none

/-- The proof of no external dispatch is given and cites a reference. -/
def ReconcileOutcomeUnknownInput.carriesProof
    (input : ReconcileOutcomeUnknownInput) : Bool :=
  input.noExternalDispatchProof && input.proofRef.any fun ref => !blank ref

@[reducible]
def InboxEvent.reconciledCompleted (row : InboxEvent) (nowMs : Int) :
    InboxEvent :=
  { row with
    state := .terminal, status := .consumed
    terminalReason := some "completed", quarantineReason := none
    consumedAtMs := some nowMs }

@[reducible]
def InboxEvent.reconciledFailed (row : InboxEvent) (lastError : String) :
    InboxEvent :=
  { row with
    state := .terminal, status := .failedTerminal
    terminalReason := some "permanent_failure", quarantineReason := none
    lastError := some lastError }

@[reducible]
def InboxEvent.safeToRetry (row : InboxEvent) (proofRef : String) :
    InboxEvent :=
  { row with
    state := .pending, status := .pending
    lastError := some ("safe_to_retry:" ++ proofRef), nextEligibleAtMs := none
    claimToken := none, workerId := none, leaseExpiresAtMs := none }

/-- Close a reconciling event together with its wake and ownerless cycle. -/
def closeReconciled (db : Sidecar) (eventId wakeId : String)
    (f : InboxEvent → InboxEvent) (hkey : ∀ row, key (f row) = key row)
    (reason : WakeTerminalReason) (nowMs : Int) : Outcome Sidecar := do
  let db := db.updateEvent eventId (·.isReconciling) f hkey
  let db ← wakeToTerminal db wakeId reason nowMs
  retireOwnerlessCycleForTerminalEvent db (some wakeId) nowMs

/-- Reconcile from the receipts of the bound effects. -/
def reconcileFromReceipts (db : Sidecar)
    (input : ReconcileOutcomeUnknownInput) (wakeId : String)
    (outcomes : List (Option EffectOutcome)) :
    Outcome (ReconcileOutcome × Sidecar) :=
  if none ∈ outcomes ∨ some EffectOutcome.outcomeUnknown ∈ outcomes ∨
      some EffectOutcome.inProgress ∈ outcomes then
    pure (.outcomeStillUnknown, db)
  else if ∀ outcome ∈ outcomes, outcome = some EffectOutcome.succeeded then do
    let db ← closeReconciled db input.eventId wakeId
      (fun row => row.reconciledCompleted input.nowMs) (fun _ => rfl)
      .completed input.nowMs
    pure (.terminal "completed", db)
  else if some EffectOutcome.failed ∈ outcomes then do
    let db ← closeReconciled db input.eventId wakeId
      (fun row => row.reconciledFailed "effect_receipt_failed") (fun _ => rfl)
      .quarantined input.nowMs
    pure (.terminal "permanent_failure", db)
  else pure (.outcomeStillUnknown, db)

/-- Reconcile from a proof that nothing was dispatched. -/
def reconcileFromProof (db : Sidecar) (input : ReconcileOutcomeUnknownInput)
    (wakeId : String) : Outcome (ReconcileOutcome × Sidecar) :=
  match classifyOutcomeUnknownSpend db input.eventId (some wakeId) with
  | .privateSpent _ signal => do
    let db ← closeReconciled db input.eventId wakeId
      (fun row =>
        row.reconciledFailed ("private_spent_no_rethought:" ++ signal))
      (fun _ => rfl) .quarantined input.nowMs
    pure (.terminal "permanent_failure", db)
  | .privateUncertain => pure (.outcomeStillUnknown, db)
  | _ =>
    let db := db.updateEvent input.eventId (·.isReconciling) fun row =>
      row.safeToRetry (trim (input.proofRef.getD ""))
    pure (.safeToRetry, wakeToPending db wakeId input.nowMs)

def reconcileOutcomeUnknown (db : Sidecar)
    (input : ReconcileOutcomeUnknownInput) :
    Outcome (ReconcileOutcome × Sidecar) := do
  let current ← eventRow db input.eventId
  if current.state = .terminal ∨ current.state = .quarantined then
    pure (.terminal current.endingReason, db)
  else do
    require (current.state = .reconciling) .outcomeNotReconciling
    match current.wakeId.filter (· ≠ "") with
    | none => do
      let db ← quarantineEvent db current "wake_missing" input.nowMs
      pure (.terminal "wake_missing", db)
    | some wakeId =>
      let effects := boundEffects db (repairLineage db input.eventId)
      if effects ≠ [] then
        reconcileFromReceipts db input wakeId
          (effects.map (receiptOutcome db))
      else if input.carriesProof then reconcileFromProof db input wakeId
      else pure (.outcomeStillUnknown, db)

/-- Continuity references that a recovery stores on its repair. -/
structure ContinuityRecovery where
  primaryPredecessorEventId : String
  outstandingOwnerEvidenceRefs : List String

def ContinuityRecovery.isValid (recovery : ContinuityRecovery) : Bool :=
  recovery.outstandingOwnerEvidenceRefs ≠ [] &&
    recovery.outstandingOwnerEvidenceRefs.all (fun ref => !blank ref) &&
    !blank recovery.primaryPredecessorEventId

/-- `provenOwnerId` is the principal proven from the predecessor lineage. -/
structure CreateRepairEventInput where
  (predecessorEventId authorizationRef : String)
  nowMs : Int
  eventId : Option String := none
  continuityRecovery : Option ContinuityRecovery := none
  provenOwnerId : Option String := none

structure RepairEvent where
  (eventId wakeId cycleId predecessorEventId authorizationRef : String)

/-- The repair already created for a predecessor under an authorization. -/
def existingRepair (db : Sidecar)
    (predecessorEventId authorizationRef : String) : Option RepairEvent := do
  let repair ← db.repairs.rows.find? fun row =>
    row.predecessorEventId = predecessorEventId &&
      row.authorizationRef = authorizationRef
  let event ← db.events.get? repair.repairEventId
  let wakeId ← event.wakeId
  let wake ← getWake db wakeId
  pure ⟨repair.repairEventId, wakeId, wake.cycleId, repair.predecessorEventId,
    repair.authorizationRef⟩

def repairEventId (input : CreateRepairEventInput) : String :=
  input.eventId.getD ("repair:" ++ Host.sha256
    [[input.predecessorEventId], [input.authorizationRef]])

/-- The inbox row of a repair, on the predecessor's conversation and lane. -/
def newRepairRow (input : CreateRepairEventInput) (predecessor : InboxEvent)
    (id wakeId : String) : InboxEvent :=
  { id, conversationId := predecessor.conversationId, kind := "repair"
    payload :=
      { repairOfEventId := some input.predecessorEventId
        ownerId := input.provenOwnerId.filter (· ≠ "") }
    createdAtMs := input.nowMs, status := .pending, state := .pending
    claimToken := none, workerId := none, leaseExpiresAtMs := none
    attemptCount := 0, firstAttemptAtMs := none, nextEligibleAtMs := none
    lane := predecessor.lane, priority := predecessor.priority
    wakeId := some wakeId, claimedAtMs := none, consumedAtMs := none
    lastError := none, lastFailureClass := none, terminalReason := none
    quarantineReason := none, repairOfEventId := some input.predecessorEventId }

/-- States of a predecessor that a repair may follow. -/
def InboxEvent.isRepairable (row : InboxEvent) : Bool :=
  row.state = .reconciling || row.state = .quarantined ||
    (row.state = .terminal && row.status = .failedTerminal)

/-- Admit the repair's wake and write its rows. -/
def insertRepair (db : Sidecar) (input : CreateRepairEventInput)
    (predecessor : InboxEvent) : Outcome (RepairEvent × Sidecar) := do
  let id := repairEventId input
  let (admission, db) ← admitWakeInTransaction db
    { occurrenceId := occurrenceIdFor .inbox id predecessor.conversationId
      triggerRef := id, sourceKind := .inbox
      conversationId := predecessor.conversationId
      triggerKind := some .recovery, occupantId := input.provenOwnerId
      nowMs := input.nowMs }
  require (admission.kind ≠ .cancelled ∧ admission.kind ≠ .stale)
    .repairWakeTerminal
  let wake := admission.wake
  let events ← orFault
    (db.events.insert? (newRepairRow input predecessor id wake.wakeId))
    .uniqueConstraint
  require (∀ row ∈ db.repairs.rows,
    ¬ (row.predecessorEventId = input.predecessorEventId ∧
      row.authorizationRef = input.authorizationRef)) .uniqueConstraint
  let repairs ← orFault
    (db.repairs.insert? ⟨id, input.predecessorEventId, input.authorizationRef,
      input.nowMs⟩) .uniqueConstraint
  pure (⟨id, wake.wakeId, wake.cycleId, input.predecessorEventId,
    input.authorizationRef⟩, { db with events, repairs })

def createRepairEvent (db : Sidecar) (input : CreateRepairEventInput) :
    Outcome (RepairEvent × Sidecar) := do
  require (!blank input.authorizationRef) .repairAuthorityMissing
  match existingRepair db input.predecessorEventId input.authorizationRef with
  | some existing => pure (existing, db)
  | none => do
    let predecessor ← eventRow db input.predecessorEventId
    require predecessor.isRepairable .repairPredecessorNotReconciling
    require (input.continuityRecovery.all ContinuityRecovery.isValid)
      .repairContinuityRecoveryInvalid
    insertRepair db input predecessor

end CognitiveSidecar
