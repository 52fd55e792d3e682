/-
The deliveries as one system: each operation of the service, the pump and the
projector is a step, and a step may die between any two of its commits.
-/
import CognitiveSidecar.Lib.Run
import CognitiveSidecar.PendingDelivery

namespace CognitiveSidecar.Delivery

open Relational

section Operations

variable [Host] [DeliveryHost]

/-- Expire the drafted deliveries whose lease or deadline ran out. -/
def expireStaleDraftedReservations (nowMs : Int)
    (outcome : Nat → Option DeliveryFault) : Delivering Unit := do
  let db ← Process.read
  let ids := (db.reservations.rows.filter (isStaleDrafted · nowMs)).map (·.id)
  Process.forEach ids fun reservationId => do
    let db ← Process.read
    match getDeliveryReservation db reservationId with
    | none => pure ()
    | some row => do
      let _ ← Process.commit (finalizeDelivery
        { reservationId, ownerId := row.ownerId
          cause := if row.firstBubbleDeadlineAtMs.any (· ≤ nowMs) then
              .firstBubbleDeadline
            else .generationLease
          nowMs, outcome := outcome reservationId })
      pure ()

/-- The decision of the pump, and then its reconciliation. -/
def finalizeDeliveryReservation (input : FinalizeDeliveryInput) :
    Delivering Unit := do
  let _ ← Process.commit (finalizeDelivery input)
  let _ ← reconcileProjectedDelivery input.reservationId input.nowMs
  pure ()

/-- `ACTIVE_RECONCILIATION_STATUSES`. -/
def isActive (status : OutboxSendStatus) : Bool :=
  status ∈ [OutboxSendStatus.pending, .projecting, .projected, .sending]

/-- The row that a sweep finds for a reservation: by its key, else the row that
names the reservation. -/
def sweptRow (db : DeliveryDb) (reservation : DeliveryReservation) :
    Option ProjectableRow :=
  match reservation.projectionKey with
  | some projectionKey => getOutboxRow db projectionKey
  | none => db.outbox.rows.find?
      (·.nuclearReservationId = some reservation.id)

/-- One page of the reconciliation sweep: the reservations of the page whose
row is still active, at most `limit` of them. -/
def reconcileProjectedDeliverySweep (afterReservationId limit : Nat)
    (nowMs : Int) : Delivering Unit := do
  let db ← Process.read
  let page := (db.reservations.rows.filter
    fun row => afterReservationId < row.id).take 50
  let active := page.filter fun row =>
    (sweptRow db row).any (isActive ·.sendStatus)
  Process.forEach ((active.map (·.id)).take limit) fun reservationId => do
    let _ ← reconcileProjectedDelivery reservationId nowMs
    pure ()

end Operations

/-- The operations on deliveries. -/
inductive DeliveryOp
  | openReactive (input : OpenDeliveryInput) (duplicate : Option Nat)
      (firstBubbleDeadlineAtMs generationLeaseExpiresAtMs : Option Int)
  | openProactive (input : OpenDeliveryInput) (draftText : String)
      (planned : List String)
  | openOperational (input : OpenDeliveryInput) (draftText : String)
      (planned : List String)
  | attach (reservationId : Nat) (draftText : String) (planned : List String)
      (deliveryLeaseExpiresAtMs : Option Int)
  | enqueue (new : NewOutboxRow)
  | project (projectionKey : OutboxKey) (input : ProjectInput)
  | claim (input : ClaimInput)
  | dispatch (reservationId : Nat) (nowMs : Int)
  | receipt (reservationId ordinal : Nat) (discordMessageId : String)
      (sentAtMs : Int) (outcome : Option DeliveryFault)
  | finalize (input : FinalizeDeliveryInput)
  | cancel (input : CancelDeliveryInput)
  | suppress (criteria : SuppressCriteria) (reading : CancelReading)
      (registered : Bool)
  | expireDrafted (nowMs : Int) (outcome : Nat → Option DeliveryFault)
  | reconcileSweep (afterReservationId limit : Nat) (nowMs : Int)
  | wrongPrincipal (reading : SweepReading)
  | failedSpeech (reading : SweepReading)
  | orphaned (reading : SweepReading)

section Steps

variable [Host] [DeliveryHost]

/-- A transaction as a whole operation. -/
def only {α : Type} (transaction : DeliveryDb → DeliveryOutcome (α × DeliveryDb)) :
    Delivering Unit := do
  let _ ← Process.commit transaction
  pure ()

/-- What an operation does. -/
def DeliveryOp.process : DeliveryOp → Delivering Unit
  | .openReactive input duplicate deadline lease =>
    only (claimReactiveDelivery input duplicate deadline lease)
  | .openProactive input draftText planned =>
    only (claimProactiveDelivery input draftText planned)
  | .openOperational input draftText planned =>
    only (claimOperationalFulfillmentDelivery input draftText planned)
  | .attach reservationId draftText planned lease =>
    only (attachDraftAndBubbles reservationId draftText planned lease)
  | .enqueue new => only (insertOutboxPending new)
  | .project projectionKey input => Delivery.project projectionKey input
  | .claim input => claimDelivery input
  | .dispatch reservationId nowMs =>
    write (markDeliveryDispatchStarted reservationId nowMs)
  | .receipt reservationId ordinal discordMessageId sentAtMs outcome =>
    only (recordBubbleReceipt reservationId ordinal discordMessageId sentAtMs
      outcome)
  | .finalize input => finalizeDeliveryReservation input
  | .cancel input => write (cancelDeliveryReservation input)
  | .suppress criteria reading registered =>
    suppressUndeliveredOutbox criteria reading registered
  | .expireDrafted nowMs outcome => expireStaleDraftedReservations nowMs outcome
  | .reconcileSweep afterReservationId limit nowMs =>
    reconcileProjectedDeliverySweep afterReservationId limit nowMs
  | .wrongPrincipal reading =>
    reconcileLegacyWrongPrincipalSpeechReservations reading
  | .failedSpeech reading =>
    reconcileUnfulfilledFailedSpeechReservations reading
  | .orphaned reading => reconcileOrphanedSendingDeliveries reading

/-- One operation, which lives to make some of its commits. -/
def deliveryStep (input : DeliveryOp × Nat) (db : DeliveryDb) : DeliveryDb :=
  (input.1.process input.2 db).2

end Steps

end CognitiveSidecar.Delivery
