/-
What the private-budget operations can do to the tables: a few kinds of row
changes and two insertions, and every operation as a sequence of them.
-/
import CognitiveSidecar.PrivateRecovery

namespace CognitiveSidecar

open Relational

/-- A write that moves the dispatch truth of an attempt, with the row it finds. -/
inductive BudgetWrite
  | dispatched (row : PrivateBudgetReservation)
  | responded (row : PrivateBudgetReservation)
  | markedUnknown (row : PrivateBudgetReservation)
  | repairDispatched (row : PrivateBudgetAttemptBinding)
  | repairReconciled (reservationId : String)

/-- The writes that are allowed in the state that they find.  A law may forbid a
dispatch write on an attempt that is proved not started, and a convergence to a
receipt; it allows what recovery writes to a reservation. -/
structure BudgetLaw where
  allows : PrivateBudget → BudgetWrite → Prop
  dispatched : ∀ b row, row.isProvenHeld = false → allows b (.dispatched row)
  markedUnknown : ∀ b row, row.isProvenHeld = false →
    allows b (.markedUnknown row)
  responded : ∀ b row, row.dispatchTruth = .attempted →
    allows b (.responded row)
  repairDispatched : ∀ b b' row, b'.bindings = b.bindings →
    allows b (.repairDispatched row) → allows b' (.repairDispatched row)

/-- An attempt that provably needs no second dispatch: it was answered, or it
is proved not started. -/
def Settled (truth : PrivateDispatchTruth) (proof : Option String) : Prop :=
  truth = .responded ∨ (truth = .notStarted ∧ proof.isSome = true)

/-- A reservation under which a later attempt may dispatch. -/
def PrivateBudgetReservation.canContinue (row : PrivateBudgetReservation) :
    Bool :=
  row.state = .committed || row.isContinuable

variable [Host]

/-- The reservation's time has left the window that ends at the policy time. -/
def OutOfWindow (b : PrivateBudget) (row : PrivateBudgetReservation) : Prop :=
  ∃ policy clock, reservationBudgetPolicy b row = .ok policy ∧
    b.clocks.get? row.policyId = some clock ∧
    row.policyTimeMs ≤ clock.lastPolicyNowMs - policy.windowMs

/-- What one operation may do to a reservation. -/
inductive ReservationMove (law : BudgetLaw) (b : PrivateBudget)
    (row : PrivateBudgetReservation) : PrivateBudgetReservation → Prop
  | kept : ReservationMove law b row row
  | bound (hstate : row.state = .held) (hfree : row.invocationId = none)
      (invocationId attemptId : String) (nowMs : Int) :
      ReservationMove law b row
        { row with
          invocationId := some invocationId
          attemptId := some attemptId, dispatchTruth := .notStarted
          updatedAtMs := nowMs }
  | dispatched
      (hstate : row.state = .held ∨ row.state = .reconcileRequired)
      (htruth : row.dispatchTruth = .notStarted ∨ row.dispatchTruth = .unknown)
      (hlaw : law.allows b (.dispatched row)) (nowMs : Int) :
      ReservationMove law b row
        { row with
          state := .committed, dispatchTruth := .attempted
          updatedAtMs := nowMs }
  | responded (hstate : row.state = .committed) (hlaw : law.allows b (.responded row))
      (nowMs : Int) :
      ReservationMove law b row
        { row with dispatchTruth := .responded, updatedAtMs := nowMs }
  | released (hstate : row.state = .held ∨ row.state = .reconcileRequired)
      (invocationId attemptId : Option String) (proofRef : String)
      (nowMs : Int) :
      ReservationMove law b row
        { row with
          state := .released, dispatchTruth := .notStarted
          invocationId := row.invocationId.or invocationId
          attemptId := row.attemptId.or attemptId
          releaseProofRef := some proofRef, updatedAtMs := nowMs }
  | proven (hstate : row.state = .held) (htruth : row.dispatchTruth = .notStarted)
      (proofRef : String) (nowMs : Int) :
      ReservationMove law b row
        { row with releaseProofRef := some proofRef, updatedAtMs := nowMs }
  | markedUnknown (hstate : row.state = .held)
      (hlaw : law.allows b (.markedUnknown row)) (nowMs : Int) :
      ReservationMove law b row
        { row with
          state := .reconcileRequired, dispatchTruth := .unknown
          updatedAtMs := nowMs }
  | expired (hconsuming : row.isConsuming = true) (hgone : OutOfWindow b row)
      (nowMs : Int) :
      ReservationMove law b row
        { row with state := .expired, updatedAtMs := nowMs }
  | continued (hstate : row.state = .held)
      (htruth : row.dispatchTruth = .notStarted)
      (hproof : row.releaseProofRef.isSome = true) (nowMs : Int) :
      ReservationMove law b row
        { row with state := .committed, updatedAtMs := nowMs }

/-- What one operation may do to a later attempt. -/
inductive BindingMove (law : BudgetLaw) (b : PrivateBudget)
    (row : PrivateBudgetAttemptBinding) : PrivateBudgetAttemptBinding → Prop
  | kept : BindingMove law b row row
  | dispatched (htruth : row.dispatchTruth = .notStarted)
      (hparent : ∃ parent, b.reservations.get? row.reservationId = some parent ∧
        parent.state = .committed)
      (hlaw : law.allows b (.repairDispatched row)) (nowMs : Int) :
      BindingMove law b row
        { row with dispatchTruth := .attempted, updatedAtMs := nowMs }
  | responded (htruth : row.dispatchTruth = .attempted)
      (providerRequestId : Option String) (nowMs : Int) :
      BindingMove law b row
        { row with
          dispatchTruth := .responded
          providerRequestId := providerRequestId, updatedAtMs := nowMs }
  | released (htruth : row.dispatchTruth = .notStarted) (proofRef : String)
      (nowMs : Int) :
      BindingMove law b row
        { row with releaseProofRef := some proofRef, updatedAtMs := nowMs }
  | markedUnknown (htruth : row.dispatchTruth = .attempted) (nowMs : Int) :
      BindingMove law b row
        { row with dispatchTruth := .unknown, updatedAtMs := nowMs }
  | reconciled (hproof : row.releaseProofRef = none)
      (htruth : row.dispatchTruth ≠ .responded)
      (hlaw : law.allows b (.repairReconciled row.reservationId))
      (truth : PrivateDispatchTruth)
      (htarget : truth = .attempted ∨ truth = .responded)
      (providerRequestId : Option String) (nowMs : Int) :
      BindingMove law b row
        { row with
          dispatchTruth := truth
          providerRequestId := providerRequestId, updatedAtMs := nowMs }
  | named (htruth : row.dispatchTruth = .responded)
      (providerRequestId : Option String) (nowMs : Int) :
      BindingMove law b row
        { row with
          providerRequestId := providerRequestId
          updatedAtMs := nowMs }

/-- The admission of a reservation: it takes the identifier drawn for it, it is
counted at the policy time, and there is room for it beside rows that share its
policy. -/
structure BudgetAdmits (b : PrivateBudget) (row : PrivateBudgetReservation)
    (policy : BudgetPolicySnapshot)
    (active : List PrivateBudgetReservation) : Prop where
  identity : row.reservationId =
    "private-reservation:" ++ Host.randomUUID b.uuidsDrawn
  state : row.state = .held
  dispatchTruth : row.dispatchTruth = .notBound
  invocationId : row.invocationId = none
  releaseProofRef : row.releaseProofRef = none
  resolved : resolveBudgetPolicy b row.policyId = .ok policy
  fingerprint : row.policyFingerprint = some policy.fingerprint
  counted : ∃ clock, b.clocks.get? row.policyId = some clock ∧
    clock.lastPolicyNowMs = row.policyTimeMs
  counts : activeBudgetRows b row.policyId row.policyTimeMs = .ok active
  current : ∀ other ∈ active, other.policyFingerprint = some policy.fingerprint
  room : (active.length : Int) < policy.limit

/-- The binding of a later attempt: the attempt before it is settled. -/
structure Follows (b : PrivateBudget) (row : PrivateBudgetAttemptBinding) :
    Prop where
  ordinal : 2 ≤ row.ordinal
  dispatchTruth : row.dispatchTruth = .notStarted
  releaseProofRef : row.releaseProofRef = none
  first : row.ordinal = 2 → ∃ parent,
    b.reservations.get? row.reservationId = some parent ∧
      Settled parent.dispatchTruth parent.releaseProofRef
  later : row.ordinal ≠ 2 → ∃ previous ∈ b.bindings.rows,
    previous.reservationId = row.reservationId ∧
      previous.ordinal = row.ordinal - 1 ∧
      Settled previous.dispatchTruth previous.releaseProofRef

/-- One change of the tables; the policies stay as they are. -/
inductive BudgetMove (law : BudgetLaw) (b : PrivateBudget) :
    PrivateBudget → Prop
  | clocks (clocks : Table PolicyClock)
      (hforward : ∀ policyId clock, b.clocks.get? policyId = some clock →
        ∃ later, clocks.get? policyId = some later ∧
          clock.lastPolicyNowMs ≤ later.lastPolicyNowMs) :
      BudgetMove law b { b with clocks }
  | reservations (reservations : Table PrivateBudgetReservation)
      (hmoves : List.Forall₂ (ReservationMove law b) b.reservations.rows
        reservations.rows) :
      BudgetMove law b { b with reservations }
  | bindings (bindings : Table PrivateBudgetAttemptBinding)
      (hmoves : List.Forall₂ (BindingMove law b) b.bindings.rows
        bindings.rows) :
      BudgetMove law b { b with bindings }
  | reserved (row : PrivateBudgetReservation) (policy : BudgetPolicySnapshot)
      (active : List PrivateBudgetReservation)
      (hadmits : BudgetAdmits b row policy active)
      (reservations : Table PrivateBudgetReservation)
      (hinsert : b.reservations.insert? row = some reservations) :
      BudgetMove law b { b.drew with reservations }
  | repairBound (row : PrivateBudgetAttemptBinding) (hfollows : Follows b row)
      (bindings : Table PrivateBudgetAttemptBinding)
      (hinsert : b.bindings.insert? row = some bindings) :
      BudgetMove law b { b.drew with bindings }

/-- A sequence of changes. -/
abbrev BudgetTrace (law : BudgetLaw) : PrivateBudget → PrivateBudget → Prop :=
  Relation.ReflTransGen (BudgetMove law)

section Rows

variable {law : BudgetLaw} {b after : PrivateBudget}
variable {reservationId : String} {row row' : PrivateBudgetReservation}

theorem updateReservation_trace {guard : PrivateBudgetReservation → Bool}
    {f : PrivateBudgetReservation → PrivateBudgetReservation}
    {hkey : ∀ row, key (f row) = key row}
    (hmove : ∀ row, b.reservations.get? reservationId = some row →
      guard row = true → ReservationMove law b row (f row)) :
    BudgetTrace law b (b.updateReservation reservationId guard f hkey) := by
  refine .single (.reservations _ (Table.forall₂_update hkey ?_ ?_))
  · intro row hrow hguard
    rw [Bool.and_eq_true, decide_eq_true_eq] at hguard
    exact hmove row (Table.get?_eq_some_iff.mpr ⟨hrow, hguard.1⟩) hguard.2
  · exact fun _ => .kept

theorem updateBinding_trace {invocationId : String}
    {guard : PrivateBudgetAttemptBinding → Bool}
    {f : PrivateBudgetAttemptBinding → PrivateBudgetAttemptBinding}
    {hkey : ∀ row, key (f row) = key row}
    (hmove : ∀ row ∈ b.bindings.rows, row.reservationId = reservationId →
      row.invocationId = invocationId → guard row = true →
      BindingMove law b row (f row)) :
    BudgetTrace law b
      (b.updateBinding reservationId invocationId guard f hkey) := by
  refine .single (.bindings _ (Table.forall₂_update hkey ?_ ?_))
  · intro row hrow hguard
    simp only [Bool.and_eq_true, decide_eq_true_eq] at hguard
    exact hmove row hrow hguard.1.1 hguard.1.2 hguard.2
  · exact fun _ => .kept

/-- A changed reservation keeps its key and everything it was admitted with. -/
theorem ReservationMove.identity (hmove : ReservationMove law b row row') :
    row'.reservationId = row.reservationId ∧ row'.policyId = row.policyId ∧
      row'.policyTimeMs = row.policyTimeMs ∧
      row'.policyFingerprint = row.policyFingerprint := by
  cases hmove <;> exact ⟨rfl, rfl, rfl, rfl⟩

/-- A row that consumes capacity was consuming before. -/
theorem ReservationMove.consuming (hmove : ReservationMove law b row row')
    (hconsuming : row'.isConsuming = true) : row.isConsuming = true := by
  cases hmove with
  | kept => exact hconsuming
  | bound hstate | responded hstate | proven hstate | markedUnknown hstate
  | continued hstate =>
    simp [PrivateBudgetReservation.isConsuming, hstate]
  | dispatched hstate | released hstate =>
    rcases hstate with hstate | hstate <;>
      simp [PrivateBudgetReservation.isConsuming, hstate]
  | expired hwas => exact hwas

omit [Host] in
theorem BindingMove.identity {row row' : PrivateBudgetAttemptBinding}
    (hmove : BindingMove law b row row') :
    row'.bindingId = row.bindingId ∧ row'.reservationId = row.reservationId ∧
      row'.invocationId = row.invocationId ∧ row'.ordinal = row.ordinal := by
  cases hmove <;> exact ⟨rfl, rfl, rfl, rfl⟩

theorem reservations_rewrites {reservations : Table PrivateBudgetReservation}
    (hmoves : List.Forall₂ (ReservationMove law b) b.reservations.rows
      reservations.rows) :
    Table.Rewrites (ReservationMove law b) b.reservations reservations :=
  Table.rewrites_of_forall₂ (fun _ _ hmove => hmove.identity.1) hmoves

end Rows

end CognitiveSidecar
