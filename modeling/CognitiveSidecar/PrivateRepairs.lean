/-
The later attempts of a reservation: structural repairs and continuations, each
bound to one child row after the attempt before it is settled.
-/
import CognitiveSidecar.PrivateReservations

namespace CognitiveSidecar

open Relational

variable [Host]

/-- `MAX_THOUGHT_MODEL_ATTEMPTS`. -/
def maxThoughtModelAttempts : Int := 12

def repairBindingRow (b : PrivateBudget) (reservationId invocationId : String) :
    Option PrivateBudgetAttemptBinding :=
  b.bindings.rows.find? fun row =>
    row.reservationId = reservationId && row.invocationId = invocationId

def getPrivateRepairBinding (b : PrivateBudget)
    (reservationId invocationId : String) :
    BudgetOutcome (Option PrivateBudgetAttemptBinding) := do
  require (!blank reservationId) .reservationIdRequired
  require (!blank invocationId) .invocationIdRequired
  pure (repairBindingRow b reservationId invocationId)

/-- The largest child ordinal and one, or 2 when there is no child. -/
def nextPrivateRepairOrdinal (b : PrivateBudget) (reservationId : String) :
    Int :=
  let ordinals := (b.bindings.rows.filter
    (·.reservationId = reservationId)).map PrivateBudgetAttemptBinding.ordinal
  max 2 (ordinals.foldl max 0 + 1)

/-- A held parent whose dispatch is durably proved not to have started. -/
def PrivateBudgetReservation.isContinuable (row : PrivateBudgetReservation) :
    Bool :=
  row.state = .held && row.dispatchTruth = .notStarted &&
    row.releaseProofRef.any (!blank ·) && row.invocationId.isSome &&
    row.attemptId.isSome

structure PrivateRepairInput extends PrivateDispatchInput where
  (wakeId conversationId : String)
  ordinal : Int
  reason : PrivateBudgetChildReason

/-- The dispatch truth of an attempt, and whether it carries a no-dispatch
proof. -/
def previousAttempt (b : PrivateBudget) (parent : PrivateBudgetReservation)
    (ordinal : Int) : BudgetOutcome (PrivateDispatchTruth × Bool) :=
  if ordinal = 2 then
    pure (parent.dispatchTruth, parent.releaseProofRef.isSome)
  else do
    let previous ← orFault
      (b.bindings.rows.find? fun row =>
        row.reservationId = parent.reservationId && row.ordinal = ordinal - 1)
      .repairPreviousAttemptMissing
    pure (previous.dispatchTruth, previous.releaseProofRef.isSome)

/-- Bind one repair or continuation attempt.  The attempt before it must have
responded, or be durably proved not started. -/
def bindPrivateRepairAttempt (b : PrivateBudget) (input : PrivateRepairInput) :
    BudgetOutcome (PrivateBudgetAttemptBinding × PrivateBudget) := do
  input.validate
  require (!blank input.wakeId) .wakeIdRequired
  require (!blank input.conversationId) .conversationIdRequired
  requireReservationBudgetPolicy b input.reservationId
  let parent ← reservationRequired b input.reservationId
  if parent.state ≠ .committed ∧ parent.isContinuable = false then
    .error (if parent.state = .held then .repairParentHeldUnproven
      else .repairParentNotCommitted)
  else do
    require (parent.wakeId = input.wakeId ∧
      parent.conversationId = input.conversationId) .repairIdentityConflict
    require (2 ≤ input.ordinal) .repairOrdinalReserved
    require (input.ordinal ≤ maxThoughtModelAttempts) .repairOrdinalExceeded
    match b.bindings.rows.find? (·.invocationId = input.invocationId) with
    | some existing =>
      require (existing.reservationId = input.reservationId)
        .repairInvocationConflict
      pure (existing, b)
    | none =>
      require (∀ row ∈ b.bindings.rows,
        ¬ (row.reservationId = input.reservationId ∧
          row.ordinal = input.ordinal)) .repairOrdinalConflict
      let (previousTruth, previousReleased) ←
        previousAttempt b parent input.ordinal
      require (previousTruth = .responded ∨
        (previousTruth = .notStarted ∧ previousReleased = true))
        .repairRequiresResponseEvidence
      let row : PrivateBudgetAttemptBinding :=
        { bindingId :=
            "private-attempt-binding:" ++ Host.randomUUID b.uuidsDrawn
          reservationId := input.reservationId
          invocationId := input.invocationId, attemptId := input.attemptId
          ordinal := input.ordinal, reason := input.reason
          dispatchTruth := .notStarted, providerRequestId := none
          releaseProofRef := none, createdAtMs := input.nowMs
          updatedAtMs := input.nowMs }
      require (∀ other ∈ b.bindings.rows, other.bindingId ≠ row.bindingId)
        .repairOrdinalConflict
      let bindings ← orFault (b.bindings.insert? row) .repairOrdinalConflict
      pure (row, { b.drew with bindings })

inductive PrivateBoundAttempt
  | parent (reservation : PrivateBudgetReservation)
  | child (binding : PrivateBudgetAttemptBinding) (ordinal : Int)

structure PrivateRouteInput extends PrivateDispatchInput where
  wakeId : Option String := none
  conversationId : Option String := none
  childReason : Option PrivateBudgetChildReason := none

/-- Route one provider dispatch to the row that authorizes it: the parent for
the initial attempt, a child for a later one. -/
def bindPrivateReservationOrRepairAttempt (b : PrivateBudget)
    (input : PrivateRouteInput) :
    BudgetOutcome (PrivateBoundAttempt × PrivateBudget) := do
  require (!blank input.reservationId) .reservationIdRequired
  require (!blank input.invocationId) .invocationIdRequired
  require (!blank input.attemptId) .attemptIdRequired
  let later := (getPrivateReservation b input.reservationId).any fun parent =>
    (parent.state = .committed || parent.isContinuable) &&
      parent.invocationId.isSome && !parent.isBoundTo input.toPrivateDispatchInput
  if later then do
    let reason ← orFault input.childReason .childReasonUnavailable
    let wakeId ← orFault (input.wakeId.filter (· ≠ ""))
      .repairIdentityUnavailable
    let conversationId ← orFault (input.conversationId.filter (· ≠ ""))
      .repairIdentityUnavailable
    let ordinal := nextPrivateRepairOrdinal b input.reservationId
    let (binding, b) ← bindPrivateRepairAttempt b
      { input.toPrivateDispatchInput with
        wakeId, conversationId, ordinal, reason }
    pure (.child binding binding.ordinal, b)
  else do
    let (reservation, b) ←
      bindPrivateReservationInvocation b input.toPrivateDispatchInput
    pure (.parent reservation, b)

/-- One later attempt, named by its reservation and invocation. -/
structure PrivateRepairRef where
  (reservationId invocationId : String)
  nowMs : Int

def PrivateRepairRef.validate (input : PrivateRepairRef) :
    BudgetOutcome Unit := do
  require (0 ≤ input.nowMs) .timeInvalid
  require (!blank input.reservationId) .reservationIdRequired
  require (!blank input.invocationId) .invocationIdRequired

def repairBindingRequired (b : PrivateBudget) (input : PrivateRepairRef) :
    BudgetOutcome PrivateBudgetAttemptBinding :=
  orFault (repairBindingRow b input.reservationId input.invocationId)
    .repairBindingMissing

/-- The first later attempt to dispatch consumes a held parent that is proved
not started. -/
def commitRepairParent (b : PrivateBudget) (input : PrivateRepairRef) :
    BudgetOutcome PrivateBudget := do
  let parent ← reservationRequired b input.reservationId
  if parent.state = .held then do
    require (parent.dispatchTruth = .notStarted ∧
      parent.releaseProofRef.any (!blank ·) ∧
      parent.invocationId.any (!blank ·) ∧ parent.attemptId.any (!blank ·))
      .childCommitUnprovenHeldParent
    pure (b.updateReservation input.reservationId
      (fun row => row.state = .held && row.dispatchTruth = .notStarted &&
        row.releaseProofRef.isSome && row.invocationId.isSome &&
        row.attemptId.isSome) fun row =>
        { row with state := .committed, updatedAtMs := input.nowMs })
  else do
    require (parent.state = .committed) .dispatchWithoutReservation
    pure b

/-- Commit a later attempt at its dispatch-attempted boundary. -/
def commitPrivateRepairDispatch (b : PrivateBudget) (input : PrivateRepairRef)
    (attemptId : Option String := none) :
    BudgetOutcome (PrivateBudgetAttemptBinding × PrivateBudget) := do
  input.validate
  let binding ← orFault
    (repairBindingRow b input.reservationId input.invocationId)
    .dispatchWithoutReservation
  require (attemptId = none ∨ attemptId = some binding.attemptId)
    .dispatchWithoutReservation
  require (binding.dispatchTruth = .attempted ∨
    binding.dispatchTruth = .notStarted) .dispatchWithoutReservation
  let b ← commitRepairParent b input
  if binding.dispatchTruth = .attempted then pure (binding, b)
  else do
    let b := b.updateBinding input.reservationId input.invocationId
      (fun row => row.dispatchTruth = .notStarted) fun row =>
        { row with dispatchTruth := .attempted, updatedAtMs := input.nowMs }
    let updated ← repairBindingRequired b input
    pure (updated, b)

/-- Record the provider response of a later attempt. -/
def recordPrivateRepairResponse (b : PrivateBudget) (input : PrivateRepairRef)
    (attemptId providerRequestId : Option String := none) :
    BudgetOutcome (PrivateBudgetAttemptBinding × PrivateBudget) := do
  input.validate
  let binding ← orFault
    (repairBindingRow b input.reservationId input.invocationId)
    .reservationStateConflict
  require (attemptId = none ∨ attemptId = some binding.attemptId)
    .reservationStateConflict
  if binding.dispatchTruth = .responded then pure (binding, b)
  else do
    require (binding.dispatchTruth = .attempted) .reservationStateConflict
    let b := b.updateBinding input.reservationId input.invocationId
      (fun row => row.dispatchTruth = .attempted) fun row =>
        { row with
          dispatchTruth := .responded
          providerRequestId := row.providerRequestId.or providerRequestId
          updatedAtMs := input.nowMs }
    let updated ← repairBindingRequired b input
    pure (updated, b)

/-- Release a later attempt that was never dispatched. -/
def releasePrivateRepairAttempt (b : PrivateBudget) (input : PrivateRepairRef)
    (proofRef : String) :
    BudgetOutcome (PrivateBudgetAttemptBinding × PrivateBudget) := do
  input.validate
  require (!blank proofRef) .releaseProofMissing
  let binding ← orFault
    (repairBindingRow b input.reservationId input.invocationId)
    .reservationStateConflict
  require (binding.dispatchTruth = .notStarted) .reservationStateConflict
  if binding.releaseProofRef ≠ none then do
    require (binding.releaseProofRef = some proofRef) .releaseProofConflict
    pure (binding, b)
  else do
    let b := b.updateBinding input.reservationId input.invocationId
      (fun row => row.dispatchTruth = .notStarted &&
        row.releaseProofRef = none) fun row =>
        { row with releaseProofRef := some proofRef, updatedAtMs := input.nowMs }
    let updated ← repairBindingRequired b input
    pure (updated, b)

/-- Mark a later attempt unknown when its dispatch was ambiguous. -/
def markPrivateRepairAttemptUnknown (b : PrivateBudget)
    (input : PrivateRepairRef) :
    BudgetOutcome (PrivateBudgetAttemptBinding × PrivateBudget) := do
  input.validate
  let binding ← orFault
    (repairBindingRow b input.reservationId input.invocationId)
    .reservationStateConflict
  if binding.dispatchTruth = .unknown then pure (binding, b)
  else do
    require (binding.dispatchTruth = .attempted) .contradictoryDispatchTruth
    let b := b.updateBinding input.reservationId input.invocationId
      (fun row => row.dispatchTruth = .attempted) fun row =>
        { row with dispatchTruth := .unknown, updatedAtMs := input.nowMs }
    let updated ← repairBindingRequired b input
    pure (updated, b)

/-- The truth that a durable receipt proves of a dispatched attempt. -/
inductive ReceiptTarget
  | attempted | responded
deriving DecidableEq

/-- Converge a later attempt to its durable receipt; never rolls back. -/
def reconcilePrivateRepairAttempt (b : PrivateBudget) (input : PrivateRepairRef)
    (targetTruth : ReceiptTarget) (providerRequestId : Option String := none) :
    BudgetOutcome (PrivateBudgetAttemptBinding × PrivateBudget) := do
  input.validate
  let binding ← orFault
    (repairBindingRow b input.reservationId input.invocationId)
    .reservationStateConflict
  require (binding.releaseProofRef = none) .reservationStateConflict
  match targetTruth with
  | .attempted =>
    if binding.dispatchTruth = .attempted then pure (binding, b)
    else do
      require (binding.dispatchTruth ≠ .responded) .contradictoryDispatchTruth
      require (binding.dispatchTruth = .notStarted ∨
        binding.dispatchTruth = .unknown) .reservationStateConflict
      let b := b.updateBinding input.reservationId input.invocationId
        (fun row => row.dispatchTruth = .notStarted ||
          row.dispatchTruth = .unknown) fun row =>
          { row with dispatchTruth := .attempted, updatedAtMs := input.nowMs }
      let updated ← repairBindingRequired b input
      pure (updated, b)
  | .responded =>
    if binding.dispatchTruth = .responded then
      if (providerRequestId.filter (· ≠ "")).isSome ∧
          binding.providerRequestId.filter (· ≠ "") = none then do
        let b := b.updateBinding input.reservationId input.invocationId
          (fun _ => true) fun row =>
            { row with providerRequestId, updatedAtMs := input.nowMs }
        let reloaded ← repairBindingRequired b input
        pure (reloaded, b)
      else pure (binding, b)
    else do
      require (binding.dispatchTruth = .notStarted ∨
        binding.dispatchTruth = .attempted ∨
        binding.dispatchTruth = .unknown) .reservationStateConflict
      let b := b.updateBinding input.reservationId input.invocationId
        (fun row => row.dispatchTruth = .notStarted ||
          row.dispatchTruth = .attempted || row.dispatchTruth = .unknown)
        fun row =>
          { row with
            dispatchTruth := .responded
            providerRequestId := row.providerRequestId.or providerRequestId
            updatedAtMs := input.nowMs }
      let updated ← repairBindingRequired b input
      pure (updated, b)

end CognitiveSidecar
