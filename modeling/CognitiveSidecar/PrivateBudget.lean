/-
The private Thought budget: the policies it is configured with, the policy clock
that only runs forward, and the rows that a rolling window counts.
-/
import CognitiveSidecar.WakeLedger

namespace CognitiveSidecar

open Relational

/-- The error codes raised by the private budget. -/
inductive BudgetFault
  | policyInvalid | policyFingerprintInvalid | defaultPolicyImmutable
  | policyRevisionInvalid | policyUnconfigured | policyBindingUnavailable
  | policyRevisionIncompatible | policyIdRequired | policyClockInvalid
  | policyClockMissing | policyReconciliationAuthorizationRequired
  | timeInvalid | admissionIdRequired | wakeIdRequired
  | conversationIdRequired | reservationIdRequired | invocationIdRequired
  | attemptIdRequired | proofRefRequired
  | wakeMissing | wakeConversationConflict | wakeNotDispatchable
  | admissionIdentityConflict | reservationMissing | reservationStateConflict
  | invocationBindingConflict | dispatchWithoutReservation
  | releaseProofMissing | releaseProofConflict | contradictoryDispatchTruth
  | proofRefConflict | proofRecordingFailed
  | repairOrdinalInvalid | repairParentHeldUnproven
  | repairParentNotCommitted | repairIdentityConflict | repairOrdinalReserved
  | repairOrdinalExceeded | repairInvocationConflict | repairOrdinalConflict
  | repairPreviousAttemptMissing | repairRequiresResponseEvidence
  | repairBindingMissing | repairIdentityUnavailable | childReasonUnavailable
  | childCommitUnprovenHeldParent
  | uniqueConstraint
deriving DecidableEq

/-- A fallible computation of the private budget. -/
abbrev BudgetOutcome (α : Type) := Except BudgetFault α

structure VersionedBudgetPolicy where
  policyId : String
  (version limit windowMs clockDiscontinuityMs : Int)
deriving DecidableEq

def VersionedBudgetPolicy.IsValid (policy : VersionedBudgetPolicy) : Prop :=
  blank policy.policyId = false ∧
    (∀ n ∈ [policy.version, policy.limit, policy.windowMs,
      policy.clockDiscontinuityMs], isSafeInteger n = true) ∧
    1 ≤ policy.version ∧ 1 ≤ policy.limit ∧ 1 ≤ policy.windowMs ∧
    0 ≤ policy.clockDiscontinuityMs

instance (policy : VersionedBudgetPolicy) : Decidable policy.IsValid :=
  inferInstanceAs (Decidable (_ ∧ _))

/-- A row of `private_budget_policies`. -/
structure BudgetPolicyRow extends VersionedBudgetPolicy where
  fingerprint : String
  isCurrent : Bool
deriving DecidableEq

instance : Keyed BudgetPolicyRow (String × Int) :=
  ⟨fun row => (row.policyId, row.version)⟩

inductive PolicyClockState
  | stable | clockReconciliation
deriving DecidableEq

/-- A row of `private_budget_policy_clock`. -/
structure PolicyClock where
  policyId : String
  lastPolicyNowMs : Int
  clockState : PolicyClockState
  discrepancyMs : Int
  reconciledAtMs : Option Int
  reconciliationRef : Option String
deriving DecidableEq

instance : Keyed PolicyClock String := ⟨PolicyClock.policyId⟩

/-- A row of `private_budget_reservations`: the first attempt of one admitted
Thought cycle. -/
structure PrivateBudgetReservation where
  (reservationId admissionId wakeId conversationId policyId : String)
  state : PrivateReservationState
  policyTimeMs : Int
  (invocationId attemptId : Option String)
  dispatchTruth : PrivateDispatchTruth
  releaseProofRef : Option String
  (createdAtMs updatedAtMs : Int)
  policyFingerprint : Option String
deriving DecidableEq

instance : Keyed PrivateBudgetReservation String :=
  ⟨PrivateBudgetReservation.reservationId⟩

inductive PrivateBudgetChildReason
  | structuralRepair | cycleContinuation
deriving DecidableEq

/-- A row of `private_budget_attempt_bindings`: a later attempt of the same
cycle, found by its unique invocation. -/
structure PrivateBudgetAttemptBinding where
  (bindingId reservationId invocationId attemptId : String)
  ordinal : Int
  reason : PrivateBudgetChildReason
  dispatchTruth : PrivateDispatchTruth
  (providerRequestId releaseProofRef : Option String)
  (createdAtMs updatedAtMs : Int)
deriving DecidableEq

instance : Keyed PrivateBudgetAttemptBinding String :=
  ⟨PrivateBudgetAttemptBinding.invocationId⟩

/-- The tables of the private budget, and the random identifiers drawn. -/
structure PrivateBudget where
  policies : Table BudgetPolicyRow
  clocks : Table PolicyClock := Table.empty
  reservations : Table PrivateBudgetReservation := Table.empty
  bindings : Table PrivateBudgetAttemptBinding := Table.empty
  uuidsDrawn : Nat := 0
deriving DecidableEq

namespace PrivateBudget

/-- `UPDATE private_budget_reservations … WHERE reservation_id = ? AND guard`. -/
def updateReservation (b : PrivateBudget) (reservationId : String)
    (guard : PrivateBudgetReservation → Bool)
    (f : PrivateBudgetReservation → PrivateBudgetReservation)
    (hkey : ∀ row, key (f row) = key row := by intro; rfl) : PrivateBudget :=
  { b with
    reservations := b.reservations.update
      (fun row => decide (row.reservationId = reservationId) && guard row)
      f hkey }

/-- `UPDATE private_budget_attempt_bindings … WHERE reservation_id = ? AND
invocation_id = ? AND guard`. -/
def updateBinding (b : PrivateBudget) (reservationId invocationId : String)
    (guard : PrivateBudgetAttemptBinding → Bool)
    (f : PrivateBudgetAttemptBinding → PrivateBudgetAttemptBinding)
    (hkey : ∀ row, key (f row) = key row := by intro; rfl) : PrivateBudget :=
  { b with
    bindings := b.bindings.update
      (fun row => decide (row.reservationId = reservationId) &&
        decide (row.invocationId = invocationId) && guard row)
      f hkey }

/-- One more random identifier has been drawn. -/
def drew (b : PrivateBudget) : PrivateBudget :=
  { b with uuidsDrawn := b.uuidsDrawn + 1 }

end PrivateBudget

section Policies

variable [Host]

def budgetPolicyFingerprint (policy : VersionedBudgetPolicy) : String :=
  "sha256:" ++ Host.sha256 [[policy.policyId], [toString policy.version],
    [toString policy.limit], [toString policy.windowMs],
    [toString policy.clockDiscontinuityMs]]

/-- A policy that passed validation, with its own fingerprint. -/
structure BudgetPolicySnapshot extends VersionedBudgetPolicy where
  fingerprint : String
  valid : toVersionedBudgetPolicy.IsValid
  fingerprinted : fingerprint = budgetPolicyFingerprint toVersionedBudgetPolicy

def validate (policy : VersionedBudgetPolicy) :
    BudgetOutcome BudgetPolicySnapshot :=
  if valid : policy.IsValid then
    .ok
      { policy with
        fingerprint := budgetPolicyFingerprint policy, valid
        fingerprinted := rfl }
  else .error .policyInvalid

def snapshot (row : BudgetPolicyRow) : BudgetOutcome BudgetPolicySnapshot := do
  let policy ← validate row.toVersionedBudgetPolicy
  require (policy.fingerprint = row.fingerprint) .policyFingerprintInvalid
  pure policy

/-- `DEFAULT_PRIVATE_THOUGHT_POLICY` in its first version. -/
def defaultBudgetPolicy : VersionedBudgetPolicy where
  policyId := "ashley.private_thought.v1"
  version := 1
  limit := 12
  windowMs := 3600000
  clockDiscontinuityMs := 300000

/-- The tables as the schema creates them: the default policy is in force. -/
def initialBudget : PrivateBudget where
  policies :=
    { rows :=
        [{ defaultBudgetPolicy with
            fingerprint := budgetPolicyFingerprint defaultBudgetPolicy
            isCurrent := true }]
      keys_nodup := by simp }

/-- Host configuration: a policy revision becomes the current one, and no
stored snapshot changes. -/
def configureBudgetPolicy (b : PrivateBudget) (policy : VersionedBudgetPolicy) :
    BudgetOutcome (BudgetPolicySnapshot × PrivateBudget) := do
  let configured ← validate policy
  require (policy.policyId = defaultBudgetPolicy.policyId →
    configured.fingerprint = budgetPolicyFingerprint defaultBudgetPolicy)
    .defaultPolicyImmutable
  let current := b.policies.rows.find? fun row =>
    row.policyId = policy.policyId && row.isCurrent
  match current.filter (·.fingerprint = configured.fingerprint) with
  | some row =>
    let stored ← snapshot row
    pure (stored, b)
  | none =>
    require (∀ row ∈ current, row.version < policy.version)
      .policyRevisionInvalid
    let retired := b.policies.update
      (fun row => row.policyId = policy.policyId)
      (fun row => { row with isCurrent := false }) (fun _ => rfl)
    require (∀ row ∈ retired.rows, row.fingerprint ≠ configured.fingerprint)
      .uniqueConstraint
    let policies ← orFault
      (retired.insert?
        { policy with fingerprint := configured.fingerprint, isCurrent := true })
      .uniqueConstraint
    pure (configured, { b with policies })

/-- A missing policy never borrows private Thought defaults. -/
def resolveBudgetPolicy (b : PrivateBudget) (policyId : String)
    (fingerprint : Option String := none) :
    BudgetOutcome BudgetPolicySnapshot :=
  match fingerprint.filter (· ≠ "") with
  | some bound => do
    let row ← orFault (b.policies.rows.find? fun row =>
      row.policyId = policyId && row.fingerprint = bound)
      .policyBindingUnavailable
    snapshot row
  | none => do
    let row ← orFault (b.policies.rows.find? fun row =>
      row.policyId = policyId && row.isCurrent) .policyUnconfigured
    snapshot row

/-- A reservation keeps the policy it was admitted under. -/
def reservationBudgetPolicy (b : PrivateBudget)
    (row : PrivateBudgetReservation) : BudgetOutcome BudgetPolicySnapshot := do
  let fingerprint ← orFault row.policyFingerprint .policyBindingUnavailable
  resolveBudgetPolicy b row.policyId (some fingerprint)

/-- The states that consume capacity. -/
def PrivateBudgetReservation.isConsuming (row : PrivateBudgetReservation) :
    Bool :=
  row.state = .held || row.state = .committed || row.state = .reconcileRequired

/-- The consuming rows of a policy inside the window that ends at a time. -/
def activeBudgetRows (b : PrivateBudget) (policyId : String)
    (policyTimeMs : Int) : BudgetOutcome (List PrivateBudgetReservation) :=
  filterOk
    (fun row => do
      let policy ← reservationBudgetPolicy b row
      pure (decide (policyTimeMs - policy.windowMs < row.policyTimeMs)))
    (b.reservations.rows.filter fun row =>
      row.policyId = policyId && row.isConsuming)

def assertCurrentBudgetPolicy (b : PrivateBudget)
    (policy : BudgetPolicySnapshot) (policyTimeMs : Int) :
    BudgetOutcome Unit := do
  let active ← activeBudgetRows b policy.policyId policyTimeMs
  require (∀ row ∈ active, row.policyFingerprint = some policy.fingerprint)
    .policyRevisionIncompatible

end Policies

section Clock

structure PolicyTime where
  policyTimeMs : Int
  state : PolicyClockState
  discrepancyMs : Int

/-- The threshold is a backward tolerance only: a forward gap of any length
stays stable, and the policy time is never below the last one. -/
def computePolicyTime (lastPolicyNowMs wallClockNowMs
    discrepancyThresholdMs : Int) : PolicyTime where
  policyTimeMs := max lastPolicyNowMs wallClockNowMs
  state :=
    if discrepancyThresholdMs < lastPolicyNowMs - wallClockNowMs then
      .clockReconciliation
    else .stable
  discrepancyMs := (wallClockNowMs - lastPolicyNowMs).natAbs

variable [Host]

def reconcilePolicyClock (b : PrivateBudget) (policyId : String)
    (wallClockNowMs : Int) (authorizationRef : String) :
    BudgetOutcome (Int × PrivateBudget) := do
  require (!blank policyId) .policyIdRequired
  require (0 ≤ wallClockNowMs) .policyClockInvalid
  require (!blank authorizationRef) .policyReconciliationAuthorizationRequired
  let _ ← resolveBudgetPolicy b policyId
  match b.clocks.get? policyId with
  | some clock =>
    let policyTimeMs := max clock.lastPolicyNowMs wallClockNowMs
    let clocks := b.clocks.update (fun row => row.policyId = policyId)
      (fun row =>
        { row with
          lastPolicyNowMs := policyTimeMs, clockState := .stable
          discrepancyMs := 0, reconciledAtMs := some wallClockNowMs
          reconciliationRef := some authorizationRef }) (fun _ => rfl)
    pure (policyTimeMs, { b with clocks })
  | none =>
    let policyTimeMs := max 0 wallClockNowMs
    let clocks ← orFault
      (b.clocks.insert?
        { policyId
          lastPolicyNowMs := policyTimeMs, clockState := .stable
          discrepancyMs := 0, reconciledAtMs := some wallClockNowMs
          reconciliationRef := some authorizationRef }) .uniqueConstraint
    pure (policyTimeMs, { b with clocks })

/-- The persisted state always reflects the current observation. -/
def advancePolicyClock (b : PrivateBudget) (policyId : String)
    (wallClockNowMs : Int) (fingerprint : Option String) :
    BudgetOutcome (PolicyTime × PrivateBudget) := do
  require (!blank policyId) .policyIdRequired
  require (0 ≤ wallClockNowMs) .policyClockInvalid
  let clock ← orFault (b.clocks.get? policyId) .policyClockMissing
  let policy ← resolveBudgetPolicy b policyId fingerprint
  let result := computePolicyTime clock.lastPolicyNowMs wallClockNowMs
    policy.clockDiscontinuityMs
  let clocks := b.clocks.update (fun row => row.policyId = policyId)
    (fun row =>
      { row with
        lastPolicyNowMs := result.policyTimeMs
        clockState := result.state
        discrepancyMs := result.discrepancyMs }) (fun _ => rfl)
  pure (result, { b with clocks })

end Clock

end CognitiveSidecar
