/-
The reservation ledger of the private budget: admission under a rolling window,
and the life of the first attempt of an admitted cycle.
-/
import CognitiveSidecar.PrivateBudget

namespace CognitiveSidecar

open Relational

variable [Host]

def getPrivateReservation (b : PrivateBudget) (reservationId : String) :
    Option PrivateBudgetReservation :=
  b.reservations.get? reservationId

def reservationRequired (b : PrivateBudget) (reservationId : String) :
    BudgetOutcome PrivateBudgetReservation :=
  orFault (getPrivateReservation b reservationId) .reservationMissing

/-- The policy of a reservation is configured, and its own snapshot is kept. -/
def requireReservationBudgetPolicy (b : PrivateBudget)
    (reservationId : String) : BudgetOutcome Unit := do
  let row ← reservationRequired b reservationId
  let _ ← resolveBudgetPolicy b row.policyId
  let _ ← reservationBudgetPolicy b row
  pure ()

def expireReservation (policyTimeMs : Int) (counted : Nat × PrivateBudget)
    (row : PrivateBudgetReservation) : BudgetOutcome (Nat × PrivateBudget) := do
  let policy ← reservationBudgetPolicy counted.2 row
  if row.policyTimeMs ≤ policyTimeMs - policy.windowMs then
    pure (counted.1 + 1,
      counted.2.updateReservation row.reservationId (fun _ => true)
        fun stored =>
          { stored with state := .expired, updatedAtMs := policyTimeMs })
  else pure counted

def expireInTransaction (b : PrivateBudget) (policyId : String)
    (policyTimeMs : Int) : BudgetOutcome (Nat × PrivateBudget) :=
  eachOf (expireReservation policyTimeMs) (0, b)
    (b.reservations.rows.filter fun row =>
      row.policyId = policyId && row.isConsuming)

structure PrivateAdmissionInput where
  (admissionId wakeId conversationId policyId : String)
  wallClockNowMs : Int

inductive PrivateRefusal
  | clockReconciliation | capacityExhausted

inductive PrivateBudgetAdmission
  | existing (reservation : PrivateBudgetReservation) (remaining : Int)
  | refused (reason : PrivateRefusal)
  | reserved (reservation : PrivateBudgetReservation) (remaining : Int)

def verifyWakeForAdmission (db : Sidecar) (input : PrivateAdmissionInput) :
    BudgetOutcome Unit := do
  let wake ← orFault (db.wakes.get? input.wakeId) .wakeMissing
  require (wake.conversationId = input.conversationId) .wakeConversationConflict
  require (wake.state ≠ .terminal ∧ wake.state ≠ .reconciling ∧
    wake.state ≠ .consequencePending) .wakeNotDispatchable

def validateAdmission (input : PrivateAdmissionInput) : BudgetOutcome Unit := do
  require (!blank input.admissionId) .admissionIdRequired
  require (!blank input.wakeId) .wakeIdRequired
  require (!blank input.conversationId) .conversationIdRequired
  require (!blank input.policyId) .policyIdRequired
  require (0 ≤ input.wallClockNowMs) .policyClockInvalid

/-- The admission against a policy whose clock is stored: clock, expiry, count
and insertion share one transaction. -/
def reserveAgainstClock (b : PrivateBudget) (policy : BudgetPolicySnapshot)
    (input : PrivateAdmissionInput) :
    BudgetOutcome (PrivateBudgetAdmission × PrivateBudget) := do
  let (policyTime, b) ← advancePolicyClock b input.policyId
    input.wallClockNowMs (some policy.fingerprint)
  if policyTime.state ≠ .stable then
    pure (.refused .clockReconciliation, b)
  else do
    assertCurrentBudgetPolicy b policy policyTime.policyTimeMs
    let (_, b) ← expireInTransaction b input.policyId policyTime.policyTimeMs
    let used ← activeBudgetRows b input.policyId policyTime.policyTimeMs
    if policy.limit ≤ used.length then
      pure (.refused .capacityExhausted, b)
    else do
      let row : PrivateBudgetReservation :=
        { reservationId :=
            "private-reservation:" ++ Host.randomUUID b.uuidsDrawn
          admissionId := input.admissionId, wakeId := input.wakeId
          conversationId := input.conversationId, policyId := input.policyId
          state := .held, policyTimeMs := policyTime.policyTimeMs
          invocationId := none, attemptId := none, dispatchTruth := .notBound
          releaseProofRef := none, createdAtMs := input.wallClockNowMs
          updatedAtMs := input.wallClockNowMs
          policyFingerprint := some policy.fingerprint }
      let reservations ← orFault (b.reservations.insert? row) .uniqueConstraint
      pure (.reserved row (policy.limit - used.length - 1),
        { b.drew with reservations })

/-- Reserve one private Thought opportunity. -/
def reservePrivateThought (b : PrivateBudget) (db : Sidecar)
    (input : PrivateAdmissionInput) :
    BudgetOutcome (PrivateBudgetAdmission × PrivateBudget) := do
  validateAdmission input
  let policy ← resolveBudgetPolicy b input.policyId
  match b.reservations.rows.find? (·.admissionId = input.admissionId) with
  | some existing =>
    require (existing.wakeId = input.wakeId ∧
      existing.conversationId = input.conversationId ∧
      existing.policyId = input.policyId) .admissionIdentityConflict
    let lastPolicyNowMs :=
      ((b.clocks.get? input.policyId).map PolicyClock.lastPolicyNowMs).getD
        existing.policyTimeMs
    let projectionTime :=
      max (max existing.policyTimeMs lastPolicyNowMs) input.wallClockNowMs
    let bound ← reservationBudgetPolicy b existing
    let consuming ← activeBudgetRows b input.policyId projectionTime
    pure (.existing existing (max 0 (bound.limit - consuming.length)), b)
  | none =>
    verifyWakeForAdmission db input
    match b.clocks.get? input.policyId with
    | some _ => reserveAgainstClock b policy input
    | none =>
      -- a missing clock is a fresh history only when nothing was reserved
      if b.reservations.rows.any (·.policyId = input.policyId) then
        pure (.refused .clockReconciliation, b)
      else do
        let clocks ← orFault
          (b.clocks.insert?
            { policyId := input.policyId
              lastPolicyNowMs := input.wallClockNowMs, clockState := .stable
              discrepancyMs := 0, reconciledAtMs := none
              reconciliationRef := none }) .uniqueConstraint
        reserveAgainstClock { b with clocks } policy input

/-- One exact model invocation and attempt of a reservation. -/
structure PrivateDispatchInput where
  (reservationId invocationId attemptId : String)
  nowMs : Int

def PrivateDispatchInput.validate (input : PrivateDispatchInput) :
    BudgetOutcome Unit := do
  require (0 ≤ input.nowMs) .timeInvalid
  require (!blank input.reservationId) .reservationIdRequired
  require (!blank input.invocationId) .invocationIdRequired
  require (!blank input.attemptId) .attemptIdRequired

def PrivateBudgetReservation.isBoundTo (row : PrivateBudgetReservation)
    (input : PrivateDispatchInput) : Bool :=
  row.invocationId = some input.invocationId &&
    row.attemptId = some input.attemptId

/-- Bind the reservation to one exact invocation and attempt. -/
def bindPrivateReservationInvocation (b : PrivateBudget)
    (input : PrivateDispatchInput) :
    BudgetOutcome (PrivateBudgetReservation × PrivateBudget) := do
  input.validate
  requireReservationBudgetPolicy b input.reservationId
  let current ← reservationRequired b input.reservationId
  if current.state = .committed ∧ current.isBoundTo input then
    pure (current, b)
  else do
    require (current.state = .held) .reservationStateConflict
    if current.invocationId ≠ none then do
      require (current.isBoundTo input) .invocationBindingConflict
      pure (current, b)
    else do
      require (∀ row ∈ b.reservations.rows,
        row.invocationId ≠ some input.invocationId) .invocationBindingConflict
      let b := b.updateReservation input.reservationId
        (fun row => row.state = .held && row.invocationId = none) fun row =>
          { row with
            invocationId := some input.invocationId
            attemptId := some input.attemptId, dispatchTruth := .notStarted
            updatedAtMs := input.nowMs }
      let bound ← reservationRequired b input.reservationId
      pure (bound, b)

/-- Commit capacity at the exact dispatch-attempted boundary. -/
def commitPrivateDispatch (b : PrivateBudget) (input : PrivateDispatchInput) :
    BudgetOutcome (PrivateBudgetReservation × PrivateBudget) := do
  input.validate
  let current ← reservationRequired b input.reservationId
  if current.state = .committed ∧ current.isBoundTo input then
    pure (current, b)
  else do
    require (current.state = .held ∨ (current.state = .reconcileRequired ∧
      current.dispatchTruth = .unknown)) .dispatchWithoutReservation
    require (current.isBoundTo input) .dispatchWithoutReservation
    require (current.dispatchTruth = .notStarted ∨
      current.dispatchTruth = .unknown) .dispatchWithoutReservation
    let b := b.updateReservation input.reservationId
      (fun row => (row.state = .held || row.state = .reconcileRequired) &&
        (row.dispatchTruth = .notStarted || row.dispatchTruth = .unknown) &&
        row.isBoundTo input) fun row =>
        { row with
          state := .committed, dispatchTruth := .attempted
          updatedAtMs := input.nowMs }
    let committed ← reservationRequired b input.reservationId
    pure (committed, b)

/-- Record a provider response; the reservation stays consumed. -/
def recordPrivateProviderResponse (b : PrivateBudget)
    (input : PrivateDispatchInput) :
    BudgetOutcome (PrivateBudgetReservation × PrivateBudget) := do
  require (0 ≤ input.nowMs) .timeInvalid
  let current ← reservationRequired b input.reservationId
  if current.state = .committed ∧ current.isBoundTo input ∧
      current.dispatchTruth = .responded then
    pure (current, b)
  else do
    require (current.state = .committed ∧ current.isBoundTo input)
      .reservationStateConflict
    let b := b.updateReservation input.reservationId
      (fun row => row.state = .committed && row.isBoundTo input) fun row =>
        { row with dispatchTruth := .responded, updatedAtMs := input.nowMs }
    let responded ← reservationRequired b input.reservationId
    pure (responded, b)

structure PrivateReleaseInput where
  (reservationId proofRef : String)
  dispatchTruth : Option PrivateDispatchTruth := none
  invocationId : Option String := none
  attemptId : Option String := none
  nowMs : Int

/-- Release only when a durable no-dispatch proof is supplied. -/
def releasePrivateReservation (b : PrivateBudget) (input : PrivateReleaseInput) :
    BudgetOutcome (PrivateBudgetReservation × PrivateBudget) := do
  require (0 ≤ input.nowMs) .timeInvalid
  require (input.dispatchTruth = some .notStarted) .releaseProofMissing
  require (!blank input.proofRef) .releaseProofMissing
  let current ← reservationRequired b input.reservationId
  if current.state = .released then do
    require (current.releaseProofRef = some input.proofRef)
      .releaseProofConflict
    pure (current, b)
  else do
    require (current.state = .held ∨ current.state = .reconcileRequired)
      .reservationStateConflict
    require (current.invocationId = none ∨ input.invocationId = none ∨
      current.invocationId = input.invocationId) .releaseProofConflict
    require (current.attemptId = none ∨ input.attemptId = none ∨
      current.attemptId = input.attemptId) .releaseProofConflict
    require (current.invocationId = none → input.invocationId ≠ none →
      ∀ row ∈ b.reservations.rows, row.invocationId ≠ input.invocationId)
      .uniqueConstraint
    let b := b.updateReservation input.reservationId
      (fun row => row.state = .held || row.state = .reconcileRequired)
      fun row =>
        { row with
          state := .released, dispatchTruth := .notStarted
          invocationId := row.invocationId.or input.invocationId
          attemptId := row.attemptId.or input.attemptId
          releaseProofRef := some input.proofRef, updatedAtMs := input.nowMs }
    let released ← reservationRequired b input.reservationId
    pure (released, b)

/-- Record a durable no-dispatch proof on a held reservation without releasing
its capacity. -/
def recordPrivateReservationNoDispatchProof (b : PrivateBudget)
    (input : PrivateDispatchInput) (proofRef : String) :
    BudgetOutcome (PrivateBudgetReservation × PrivateBudget) := do
  input.validate
  require (!blank proofRef) .proofRefRequired
  let current ← reservationRequired b input.reservationId
  require (current.state = .held) .reservationStateConflict
  require (current.isBoundTo input) .invocationBindingConflict
  require (current.dispatchTruth = .notStarted) .contradictoryDispatchTruth
  if current.releaseProofRef ≠ none then do
    require (current.releaseProofRef = some proofRef) .proofRefConflict
    pure (current, b)
  else do
    let b := b.updateReservation input.reservationId
      (fun row => row.state = .held && row.dispatchTruth = .notStarted &&
        row.releaseProofRef = none) fun row =>
        { row with releaseProofRef := some proofRef, updatedAtMs := input.nowMs }
    let proven ← reservationRequired b input.reservationId
    pure (proven, b)

/-- Preserve capacity when it cannot be proved that dispatch did not begin. -/
def markPrivateReservationUnknown (b : PrivateBudget) (reservationId : String)
    (nowMs : Int) : BudgetOutcome (PrivateBudgetReservation × PrivateBudget) := do
  require (0 ≤ nowMs) .timeInvalid
  require (!blank reservationId) .reservationIdRequired
  let current ← reservationRequired b reservationId
  if current.state = .reconcileRequired then pure (current, b)
  else if current.state ≠ .held then do
    require (current.state = .released ∨ current.state = .expired)
      .contradictoryDispatchTruth
    pure (current, b)
  else do
    let b := b.updateReservation reservationId (fun row => row.state = .held)
      fun row =>
        { row with
          state := .reconcileRequired, dispatchTruth := .unknown
          updatedAtMs := nowMs }
    let marked ← reservationRequired b reservationId
    pure (marked, b)

structure PrivateExpiry where
  policyTimeMs : Int
  expired : Nat

/-- Expire only reservations outside the rolling window. -/
def expirePrivateReservations (b : PrivateBudget) (policyId : String)
    (wallClockNowMs : Int) : BudgetOutcome (PrivateExpiry × PrivateBudget) := do
  require (0 ≤ wallClockNowMs) .policyClockInvalid
  require (!blank policyId) .policyIdRequired
  let policy ← resolveBudgetPolicy b policyId
  match b.clocks.get? policyId with
  | none => pure (⟨wallClockNowMs, 0⟩, b)
  | some _ =>
    let (time, b) ← advancePolicyClock b policyId wallClockNowMs
      (some policy.fingerprint)
    let (expired, b) ← expireInTransaction b policyId time.policyTimeMs
    pure (⟨time.policyTimeMs, expired⟩, b)

end CognitiveSidecar
