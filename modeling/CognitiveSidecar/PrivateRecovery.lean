/-
Recovery of the private budget: every stranded reservation and later attempt is
settled from durable evidence, or stays consuming.
-/
import CognitiveSidecar.CycleInbox
import CognitiveSidecar.Lib.Run
import CognitiveSidecar.PrivateRepairs

namespace CognitiveSidecar

open Relational

/-- What a durable receipt says of one attempt. -/
inductive PrivateBudgetReceiptTruth
  | notStarted (proofRef : String)
  | dispatched (target : ReceiptTarget) (providerRequestId : Option String)
  | unknown
deriving DecidableEq

/-- `resolveReceipt`, on a reservation and on a later attempt. -/
structure PrivateReceipts where
  ofParent : PrivateBudgetReservation → Option PrivateBudgetReceiptTruth :=
    fun _ => none
  ofChild : PrivateBudgetAttemptBinding → Option PrivateBudgetReceiptTruth :=
    fun _ => none

structure PrivateBudgetRecoveryResult where
  released : Nat := 0
  committed : Nat := 0
  reconciling : Nat := 0
  expired : Nat := 0
  releasedRepairs : Nat := 0
  committedRepairs : Nat := 0

/-- The counters of a recovery and the state it has reached. -/
abbrev PrivateRecoveryState := PrivateBudgetRecoveryResult × PrivateBudget

variable [Host]

/-- A clock that cannot be advanced expires nothing. -/
def recoverPolicy (nowMs : Int) (policyId : String)
    (reached : PrivateRecoveryState) : PrivateRecoveryState :=
  if policyId = "" then reached
  else
    match expirePrivateReservations reached.2 policyId nowMs with
    | .ok (expiry, b) =>
      ({ reached.1 with expired := reached.1.expired + expiry.expired }, b)
    | .error _ => reached

/-- Release with a proof; a refused release stays consuming. -/
def recoverRelease (nowMs : Int) (reached : PrivateRecoveryState)
    (reservation : PrivateBudgetReservation) (proofRef : String)
    (invocationId attemptId : Option String) : PrivateRecoveryState :=
  match releasePrivateReservation reached.2
      { reservationId := reservation.reservationId, proofRef
        dispatchTruth := some .notStarted
        invocationId, attemptId, nowMs } with
  | .ok (_, b) => ({ reached.1 with released := reached.1.released + 1 }, b)
  | .error _ =>
    ({ reached.1 with reconciling := reached.1.reconciling + 1 }, reached.2)

/-- The conservative end: what is still held becomes unknown. -/
def recoverConserve (nowMs : Int) (reached : PrivateRecoveryState)
    (reservationId : String) : PrivateRecoveryState :=
  let result := { reached.1 with reconciling := reached.1.reconciling + 1 }
  if (getPrivateReservation reached.2 reservationId).any (·.state = .held) then
    (result, commit reached.2
      (Prod.snd <$> markPrivateReservationUnknown reached.2 reservationId nowMs))
  else (result, reached.2)

/-- Commit a dispatch that a receipt proves, and its response.  The commit
stands when recording the response fails. -/
def recoverDispatch (nowMs : Int) (reached : PrivateRecoveryState)
    (input : PrivateDispatchInput) (target : ReceiptTarget) :
    PrivateRecoveryState :=
  let counted := { reached.1 with committed := reached.1.committed + 1 }
  match commitPrivateDispatch reached.2 input with
  | .error _ => recoverConserve nowMs reached input.reservationId
  | .ok (_, b) =>
    match target with
    | .attempted => (counted, b)
    | .responded =>
      match recordPrivateProviderResponse b input with
      | .ok (_, b) => (counted, b)
      | .error _ => recoverConserve nowMs (reached.1, b) input.reservationId

/-- A reservation whose dispatch never started, with the durable proof of it. -/
def PrivateBudgetReservation.isProvenHeld (row : PrivateBudgetReservation) :
    Bool :=
  row.state = .held && row.dispatchTruth = .notStarted &&
    row.releaseProofRef.isSome

/-- Settle one stranded reservation from its receipt. -/
def recoverFromReceipt (receipts : PrivateReceipts) (nowMs : Int)
    (reached : PrivateRecoveryState) (reservation : PrivateBudgetReservation) :
    PrivateRecoveryState :=
  let invocationId := reservation.invocationId.filter (· ≠ "")
  let attemptId := reservation.attemptId.filter (· ≠ "")
  match (receipts.ofParent reservation).filter (· ≠ .notStarted ""),
      invocationId, attemptId with
  | some (.notStarted proofRef), _, _ =>
    recoverRelease nowMs reached reservation proofRef reservation.invocationId
      reservation.attemptId
  | some (.dispatched target _), some invocationId, some attemptId =>
    recoverDispatch nowMs reached
      { reservationId := reservation.reservationId
        invocationId, attemptId, nowMs } target
  | _, _, _ => recoverConserve nowMs reached reservation.reservationId

/-- Settle one stranded reservation.  An unbound one proves that dispatch never
began; a proven one is released once its continuation owner is gone. -/
def recoverReservation (db : Sidecar) (receipts : PrivateReceipts) (nowMs : Int)
    (reservationId : String) (reached : PrivateRecoveryState) :
    PrivateRecoveryState :=
  let undecided : PrivateRecoveryState :=
    ({ reached.1 with reconciling := reached.1.reconciling + 1 }, reached.2)
  if reservationId = "" then reached
  else
    match requireReservationBudgetPolicy reached.2 reservationId with
    | .error _ => undecided
    | .ok _ =>
      match (getPrivateReservation reached.2 reservationId).filter
          fun row => row.state = .held || row.state = .reconcileRequired with
      | none => reached
      | some reservation =>
        if reservation.invocationId.filter (· ≠ "") = none ∧
            reservation.dispatchTruth = .notBound then
          recoverRelease nowMs reached reservation
            ("recovery:" ++ reservationId ++ ":w0-binding-not-crossed")
            none none
        else if reservation.isProvenHeld then
          match resolveDurableContinuationOwner db reservation.wakeId
              reservation.conversationId with
          | .validOwner _ _ => reached
          | .provenNoOwner _ _ =>
            recoverRelease nowMs reached reservation
              (reservation.releaseProofRef.getD "")
              reservation.invocationId reservation.attemptId
          | .indeterminateIdentity => undecided
        else recoverFromReceipt receipts nowMs reached reservation

/-- Settle one stranded later attempt; without evidence the row is left. -/
def recoverBinding (receipts : PrivateReceipts) (nowMs : Int)
    (attempt : String × String) (reached : PrivateRecoveryState) :
    PrivateRecoveryState :=
  let (reservationId, invocationId) := attempt
  let input : PrivateRepairRef := { reservationId, invocationId, nowMs }
  let released (proofRef : String) : PrivateRecoveryState :=
    match releasePrivateRepairAttempt reached.2 input proofRef with
    | .ok (_, b) =>
      ({ reached.1 with releasedRepairs := reached.1.releasedRepairs + 1 }, b)
    | .error _ => reached
  if reservationId = "" ∨ invocationId = "" then reached
  else
    match requireReservationBudgetPolicy reached.2 reservationId,
        getPrivateRepairBinding reached.2 reservationId invocationId with
    | .ok _, .ok (some binding) =>
      if binding.releaseProofRef ≠ none then reached
      else
        match (receipts.ofChild binding).filter (· ≠ .notStarted "") with
        | some (.notStarted proofRef) => released proofRef
        | some (.dispatched target providerRequestId) =>
          match reconcilePrivateRepairAttempt reached.2 input target
              providerRequestId with
          | .ok (_, b) =>
            ({ reached.1 with
                committedRepairs := reached.1.committedRepairs + 1 }, b)
          | .error _ => reached
        | _ =>
          if binding.dispatchTruth = .notStarted then
            released ("recovery:" ++ reservationId ++ ":" ++ invocationId ++
              ":w0-binding-not-crossed")
          else reached
    | _, _ => reached

def strandedPolicies (b : PrivateBudget) : List String :=
  ((b.reservations.rows.map PrivateBudgetReservation.policyId).eraseDups
    ).insertionSort (· ≤ ·)

/-- `ORDER BY created_at_ms ASC, reservation_id ASC`. -/
def PrivateBudgetReservation.createdBefore
    (left right : PrivateBudgetReservation) : Prop :=
  left.createdAtMs < right.createdAtMs ∨
    (left.createdAtMs = right.createdAtMs ∧
      left.reservationId ≤ right.reservationId)

instance : DecidableRel PrivateBudgetReservation.createdBefore := fun _ _ =>
  inferInstanceAs (Decidable (_ ∨ _))

def strandedReservations (b : PrivateBudget) : List String :=
  ((b.reservations.rows.filter fun row =>
    row.state = .held || row.state = .reconcileRequired).insertionSort
      PrivateBudgetReservation.createdBefore).map
    PrivateBudgetReservation.reservationId

/-- `ORDER BY created_at_ms ASC, binding_id ASC`. -/
def PrivateBudgetAttemptBinding.createdBefore
    (left right : PrivateBudgetAttemptBinding) : Prop :=
  left.createdAtMs < right.createdAtMs ∨
    (left.createdAtMs = right.createdAtMs ∧
      left.bindingId ≤ right.bindingId)

instance : DecidableRel PrivateBudgetAttemptBinding.createdBefore := fun _ _ =>
  inferInstanceAs (Decidable (_ ∨ _))

/-- A later attempt that is not responded and carries no proof. -/
def PrivateBudgetAttemptBinding.isStranded
    (row : PrivateBudgetAttemptBinding) : Bool :=
  (row.dispatchTruth = .notStarted || row.dispatchTruth = .attempted ||
    row.dispatchTruth = .unknown) && row.releaseProofRef = none

def strandedBindings (b : PrivateBudget) : List (String × String) :=
  ((b.bindings.rows.filter
    PrivateBudgetAttemptBinding.isStranded).insertionSort
      PrivateBudgetAttemptBinding.createdBefore).map
    fun row => (row.reservationId, row.invocationId)

/-- The state in which recovery turns to the later attempts: the policies have
expired what they can, and the stranded reservations are settled. -/
def recoverParents (b : PrivateBudget) (db : Sidecar)
    (receipts : PrivateReceipts) (nowMs : Int) : PrivateRecoveryState :=
  let expired := run (recoverPolicy nowMs) ({}, b) (strandedPolicies b)
  run (recoverReservation db receipts nowMs) expired
    (strandedReservations expired.2)

/-- Reconcile stranded reservations and later attempts without guessing. -/
def recoverPrivateBudget (b : PrivateBudget) (db : Sidecar)
    (receipts : PrivateReceipts) (nowMs : Int) : PrivateRecoveryState :=
  let settled := recoverParents b db receipts nowMs
  run (recoverBinding receipts nowMs) settled (strandedBindings settled.2)

end CognitiveSidecar
