/-
Delivery reservations: the nuclear rows with their bubbles, their receipts and
their terminal decision, and the projection outboxes that they are made for.
-/
import CognitiveSidecar.EvidenceLog

namespace CognitiveSidecar.Delivery

open Relational

inductive DeliveryState
  | drafted | reserved | sending
  | committed | partiallyDelivered | aborted | cancelled | expired
deriving DecidableEq

def isTerminalDeliveryState : DeliveryState → Bool
  | .committed | .partiallyDelivered | .aborted | .cancelled | .expired => true
  | .drafted | .reserved | .sending => false

inductive DeliveryLane
  | reactive | proactive | operationalFulfillment | socialNotify
deriving DecidableEq

inductive FinalizeCause
  | complete | cancel | generationError | emptyDraft | sendFailure
  | firstBubbleDeadline | generationLease | deliveryLease

def FinalizeCause.text : FinalizeCause → String
  | .complete => "complete"
  | .cancel => "cancel"
  | .generationError => "generation_error"
  | .emptyDraft => "empty_draft"
  | .sendFailure => "send_failure"
  | .firstBubbleDeadline => "first_bubble_deadline"
  | .generationLease => "generation_lease"
  | .deliveryLease => "delivery_lease"

/-- A row of `delivery_bubbles`. -/
structure DeliveryBubble where
  ordinal : Nat
  text : String
  discordMessageId : Option String := none
  sentAtMs : Option Int := none
deriving DecidableEq

/-- What the code reads of `destination_json`; `unreadable` does not parse. -/
inductive Destination
  | owner | ownerPrivate
  | externalDm (principalId : String)
  | room (channelId : String)
  | invalid | unreadable
deriving DecidableEq

inductive ProjectionKind
  | speech | system | interim
deriving DecidableEq

/-- A projection key, `kind:id`: the row of an outbox. -/
structure OutboxKey where
  kind : ProjectionKind
  id : Nat
deriving DecidableEq

/-- A row of `delivery_reservations`, with its bubbles by ordinal. -/
structure DeliveryReservation where
  id : Nat
  (ownerId channel threadId : String)
  deliveryLane : DeliveryLane
  state : DeliveryState
  errorCategory : Option String := none
  finalizationReason : Option String := none
  draftText : Option String := none
  firstBubbleDeadlineAtMs : Option Int := none
  firstSentAtMs : Option Int := none
  dispatchStartedAtMs : Option Int := none
  generationLeaseExpiresAtMs : Option Int := none
  deliveryLeaseExpiresAtMs : Option Int := none
  finalizedAtMs : Option Int := none
  projectionKey : Option OutboxKey := none
  speechOutboxId : Option Nat := none
  destination : Option Destination := none
  attemptInputBasis : Option String := none
  hardDependencyBundle : Option String := none
  licenseRefs : String := "[]"
  bubbles : List DeliveryBubble := []
deriving DecidableEq

instance : Keyed DeliveryReservation Nat := ⟨DeliveryReservation.id⟩

/-- The part of a delivery intent that binds an external publication. -/
structure ExternalPublicationIntent where
  destination : Destination
  (attemptInputBasis hardDependencyBundle licenseRefs : String)
deriving DecidableEq

structure ProjectionIntent where
  ownerId : String
  channel : String := "discord"
  threadId : String
  deliveryLane : DeliveryLane := .reactive
  destination : Option Destination := none
  externalPublication : Option ExternalPublicationIntent := none
  recoveryAttempts : Nat := 0
deriving DecidableEq

/-- A row of `speech_outbox`, `system_notice_outbox` or
`operation_interim_outbox`; `noticeOf` is the speech row whose exhausted
delivery a notice reports. -/
structure ProjectableRow where
  projectionKey : OutboxKey
  settlementId : String := ""
  cycleId : Option String := none
  generation : Int := 0
  (conversationId text : String)
  sendStatus : OutboxSendStatus
  nuclearReservationId : Option Nat := none
  discordMessageIds : List String := []
  suppressed : Bool := false
  origin : OutboxOrigin := .live
  deliveryIntent : ProjectionIntent
  nuclearFinalizationReason : Option String := none
  noticeOf : Option Nat := none
deriving DecidableEq

instance : Keyed ProjectableRow OutboxKey := ⟨ProjectableRow.projectionKey⟩

/-- An assistant row of `mem_messages`; `reservationId` is the delivery whose
decision wrote it, which the column list of the source does not keep. -/
structure ArchivedMessage where
  reservationId : Nat
  (threadId ownerId text : String)

/-- `reservation_id` and `role` of a row of the evidence log. -/
structure DeliveredEvidence where
  reservationId : Nat
  role : EvidenceRole
  rowId : String

/-- The two databases of a delivery: the nuclear reservations and messages, and
the outboxes and the evidence log of the sidecar. -/
structure DeliveryDb where
  reservations : Table DeliveryReservation := Table.empty
  messages : List ArchivedMessage := []
  outbox : Table ProjectableRow := Table.empty
  evidence : Sidecar := {}
  delivered : List DeliveredEvidence := []

inductive DeliveryFault
  | kernel (fault : Fault)
  | reservationMissing | notDrafted | bindingConflict | bubbleMissing
  | rowMissing | claimLost | uniqueConstraint | outcome

abbrev DeliveryOutcome (α : Type) := Except DeliveryFault α

/-! Reading and writing rows. -/

def getDeliveryReservation (db : DeliveryDb) (reservationId : Nat) :
    Option DeliveryReservation :=
  db.reservations.get? reservationId

def getOutboxRow (db : DeliveryDb) (projectionKey : OutboxKey) :
    Option ProjectableRow :=
  db.outbox.get? projectionKey

/-- `UPDATE delivery_reservations … WHERE id = ? AND guard`. -/
def DeliveryDb.updateReservation (db : DeliveryDb) (reservationId : Nat)
    (guard : DeliveryReservation → Bool)
    (f : DeliveryReservation → DeliveryReservation)
    (hkey : ∀ row, key (f row) = key row := by intro; rfl) : DeliveryDb :=
  { db with
    reservations := db.reservations.update
      (fun row => decide (row.id = reservationId) && guard row) f hkey }

/-- `UPDATE … WHERE outbox_id = ? AND guard`, on the outbox of the key. -/
def DeliveryDb.updateRow (db : DeliveryDb) (projectionKey : OutboxKey)
    (guard : ProjectableRow → Bool) (f : ProjectableRow → ProjectableRow)
    (hkey : ∀ row, key (f row) = key row := by intro; rfl) : DeliveryDb :=
  { db with
    outbox := db.outbox.update
      (fun row => decide (row.projectionKey = projectionKey) && guard row)
      f hkey }

/-- `AUTOINCREMENT`. -/
def nextReservationId (db : DeliveryDb) : Nat :=
  (db.reservations.rows.map DeliveryReservation.id).foldl max 0 + 1

/-- A row of the reservations with the bubbles of the plan, none of them
sent. -/
def insertReservation (row : DeliveryReservation) (planned : List String)
    (db : DeliveryDb) : DeliveryOutcome (Nat × DeliveryDb) := do
  let id := nextReservationId db
  let row := { row with
    id
    bubbles := planned.zipIdx.map fun item =>
      { ordinal := item.2, text := item.1 } }
  let reservations ← orFault (db.reservations.insert? row) .uniqueConstraint
  pure (id, { db with reservations })

/-! Claims that open a reservation. -/

structure OpenDeliveryInput where
  (ownerId channel threadId : String)
  deliveryLeaseMs : Int := 120000
  nowMs : Int

/-- `duplicate` is the reservation that holds one of the inbound messages. -/
def claimReactiveDelivery (input : OpenDeliveryInput) (duplicate : Option Nat)
    (firstBubbleDeadlineAtMs generationLeaseExpiresAtMs : Option Int)
    (db : DeliveryDb) : DeliveryOutcome (Nat × DeliveryDb) :=
  match duplicate with
  | some existing => pure (existing, db)
  | none => insertReservation
      { id := 0, ownerId := input.ownerId, channel := input.channel
        threadId := input.threadId, deliveryLane := .reactive
        state := .drafted, firstBubbleDeadlineAtMs
        generationLeaseExpiresAtMs } [] db

/-- A reservation that is made with its draft. -/
def claimWithDraft (lane : DeliveryLane) (input : OpenDeliveryInput)
    (draftText : String) (planned : List String) (db : DeliveryDb) :
    DeliveryOutcome (Nat × DeliveryDb) :=
  insertReservation
    { id := 0, ownerId := input.ownerId, channel := input.channel
      threadId := input.threadId, deliveryLane := lane, state := .reserved
      draftText := some draftText
      deliveryLeaseExpiresAtMs := some (input.nowMs + input.deliveryLeaseMs) }
    planned db

def claimProactiveDelivery (input : OpenDeliveryInput) (draftText : String)
    (planned : List String) (db : DeliveryDb) :
    DeliveryOutcome (Nat × DeliveryDb) :=
  claimWithDraft .proactive input draftText planned db

def claimOperationalFulfillmentDelivery (input : OpenDeliveryInput)
    (draftText : String) (planned : List String) (db : DeliveryDb) :
    DeliveryOutcome (Nat × DeliveryDb) :=
  claimWithDraft .operationalFulfillment input draftText planned db

/-! Receipts. -/

/-- The bubble is receipted: it carries a message identifier. -/
def DeliveryBubble.receipted (bubble : DeliveryBubble) : Bool :=
  bubble.discordMessageId.any (· ≠ "")

/-- Something of the bubble is on record as sent. -/
def DeliveryBubble.hasReceipt (bubble : DeliveryBubble) : Bool :=
  bubble.discordMessageId.any (!blank ·) || bubble.sentAtMs.isSome

/-- Record a receipt once; a receipt of a reserved delivery makes it
sending. -/
def recordBubbleReceipt (reservationId ordinal : Nat) (discordMessageId : String)
    (sentAtMs : Int) (outcome : Option DeliveryFault) (db : DeliveryDb) :
    DeliveryOutcome (Unit × DeliveryDb) := do
  let reservation ← orFault (getDeliveryReservation db reservationId)
    .bubbleMissing
  let bubble ← orFault
    (reservation.bubbles.find? (·.ordinal = ordinal)) .bubbleMissing
  if bubble.discordMessageId.isSome then pure ((), db)
  else do
    let db := db.updateReservation reservationId (fun _ => true) fun row =>
      { row with
        bubbles := row.bubbles.map fun bubble =>
          if bubble.ordinal = ordinal ∧ bubble.discordMessageId = none then
            { bubble with
              discordMessageId := some discordMessageId
              sentAtMs := some sentAtMs }
          else bubble }
    let db := db.updateReservation reservationId (·.state = .reserved)
      fun row => { row with state := .sending }
    let db := db.updateReservation reservationId
      (fun row => !isTerminalDeliveryState row.state &&
        row.firstSentAtMs = none)
      fun row => { row with firstSentAtMs := some sentAtMs }
    -- A late receipt that completes the delivery settles a bound commitment.
    match outcome with
    | some fault => .error fault
    | none => pure ((), db)

/-- The external dispatch of a sending delivery began; the first mark stays. -/
def markDeliveryDispatchStarted (reservationId : Nat) (nowMs : Int)
    (db : DeliveryDb) : DeliveryDb :=
  db.updateReservation reservationId
    (fun row => row.state = .sending && row.dispatchStartedAtMs = none)
    fun row => { row with dispatchStartedAtMs := some nowMs }

/-! The terminal decision. -/

/-- The state and the reason of the decision. -/
def reasonFor (cause : FinalizeCause) (receiptCount plannedCount : Nat) :
    DeliveryState × String :=
  if 0 < receiptCount ∧ 0 < plannedCount ∧ plannedCount ≤ receiptCount then
    (.committed, "all_bubbles_delivered")
  else if 0 < receiptCount then
    match cause with
    | .cancel => (.partiallyDelivered, "cancelled_after_partial")
    | .deliveryLease =>
      (.partiallyDelivered, "delivery_lease_expired_after_partial")
    | .sendFailure | .complete | .generationError | .emptyDraft
    | .firstBubbleDeadline | .generationLease =>
      (.partiallyDelivered, "send_failure_after_partial")
  else
    match cause with
    | .cancel => (.cancelled, "cancelled")
    | .generationError => (.aborted, "generation_error")
    | .emptyDraft => (.aborted, "empty_draft")
    | .sendFailure => (.aborted, "send_failure")
    | .firstBubbleDeadline => (.expired, "first_bubble_deadline_expired")
    | .generationLease => (.expired, "generation_lease_expired")
    | .deliveryLease => (.expired, "delivery_lease_expired")
    | .complete =>
      if 0 < plannedCount then (.expired, "delivery_lease_expired")
      else (.aborted, "empty_draft")

/-- `outcome` is what settling the commitment or the relation raises. -/
structure FinalizeDeliveryInput where
  reservationId : Nat
  ownerId : String
  cause : FinalizeCause
  errorCategory : Option String := none
  nowMs : Int
  outcome : Option DeliveryFault := none

structure FinalizeDeliveryResult where
  state : DeliveryState
  (finalizationReason deliveredText : String)
  (receiptCount plannedCount : Nat)
  destination : Option Destination

/-- The receipted bubbles of a delivery. -/
def DeliveryReservation.receipted (row : DeliveryReservation) :
    List DeliveryBubble :=
  row.bubbles.filter DeliveryBubble.receipted

/-- Bubbles joined by blank lines. -/
def bubbleText (bubbles : List DeliveryBubble) : String :=
  String.intercalate "\n\n" (bubbles.map DeliveryBubble.text)

/-- The receipted text of a delivery, as it is archived. -/
def DeliveryReservation.deliveredText (row : DeliveryReservation) : String :=
  trim (bubbleText row.receipted)

/-- The terminal decision of a row. -/
@[reducible]
def DeliveryReservation.finalized (row : DeliveryReservation)
    (input : FinalizeDeliveryInput) : DeliveryReservation :=
  { row with
    state := (reasonFor input.cause row.receipted.length
      row.bubbles.length).1
    errorCategory := some (input.errorCategory.getD input.cause.text)
    finalizationReason := some (reasonFor input.cause row.receipted.length
      row.bubbles.length).2
    finalizedAtMs := some input.nowMs }

/-- Decide a delivery once, and archive its receipted text. -/
def finalizeDelivery (input : FinalizeDeliveryInput) (db : DeliveryDb) :
    DeliveryOutcome (FinalizeDeliveryResult × DeliveryDb) := do
  let reservation ← orFault
    ((getDeliveryReservation db input.reservationId).filter
      (·.ownerId = input.ownerId)) .reservationMissing
  match input.outcome with
  | some fault => .error fault
  | none =>
    if isTerminalDeliveryState reservation.state then
      pure (⟨reservation.state,
        reservation.finalizationReason.getD "all_bubbles_delivered",
        bubbleText reservation.receipted, reservation.receipted.length,
        reservation.bubbles.length, reservation.destination⟩, db)
    else
      let decided := reservation.finalized input
      let db := db.updateReservation input.reservationId (fun _ => true)
        (·.finalized input)
      let archived :=
        if reservation.deliveredText ≠ "" ∧ reservation.threadId ≠ "" then
          [{ reservationId := reservation.id, threadId := reservation.threadId
             ownerId := input.ownerId, text := reservation.deliveredText }]
        else []
      pure (⟨decided.state, decided.finalizationReason.getD "",
        reservation.deliveredText, reservation.receipted.length,
        reservation.bubbles.length, reservation.destination⟩,
        { db with messages := db.messages ++ archived })

/-- `abortOwner` is the owner of the abort controller of the reservation. -/
structure CancelDeliveryInput where
  reservationId : Nat
  ownerId : String
  abortOwner : Option String := none
  nowMs : Int
  outcome : Option DeliveryFault := none

/-- Cancel a delivery that is not sending; a fault is answered, not raised. -/
def cancelDeliveryReservation (input : CancelDeliveryInput) (db : DeliveryDb) :
    DeliveryDb :=
  if input.abortOwner.any (· ≠ input.ownerId) then db
  else match getDeliveryReservation db input.reservationId with
    | none => db
    | some reservation =>
      if reservation.ownerId ≠ input.ownerId ∨
          reservation.state = .sending then db
      else match finalizeDelivery
          { reservationId := input.reservationId, ownerId := input.ownerId
            cause := .cancel, nowMs := input.nowMs
            outcome := input.outcome } db with
        | .ok (_, after) => after
        | .error _ => db

/-! Binding and claiming. -/

/-- Bind a drafted reservation to its publication; a replay of the same binding
changes nothing. -/
def reserveExternalDeliveryInTransaction (reservationId : Nat)
    (binding : ExternalPublicationIntent) (db : DeliveryDb) :
    DeliveryOutcome (DeliveryReservation × DeliveryDb) := do
  let current ← orFault (getDeliveryReservation db reservationId)
    .reservationMissing
  if current.state = .reserved ∨ current.state = .sending then do
    require (current.destination = some binding.destination ∧
      current.attemptInputBasis = some binding.attemptInputBasis ∧
      current.hardDependencyBundle = some binding.hardDependencyBundle ∧
      current.licenseRefs = binding.licenseRefs) .bindingConflict
    pure (current, db)
  else do
    require (current.state = .drafted) .notDrafted
    let db := db.updateReservation reservationId (·.state = .drafted)
      fun row =>
        { row with
          state := .reserved, destination := some binding.destination
          attemptInputBasis := some binding.attemptInputBasis
          hardDependencyBundle := some binding.hardDependencyBundle
          licenseRefs := binding.licenseRefs }
    let updated ← orFault (getDeliveryReservation db reservationId)
      .reservationMissing
    pure (updated, db)

/-- The draft of a claimed delivery arrives, with its bubbles. -/
def attachDraftAndBubbles (reservationId : Nat) (draftText : String)
    (planned : List String) (deliveryLeaseExpiresAtMs : Option Int)
    (db : DeliveryDb) : DeliveryOutcome (Unit × DeliveryDb) := do
  let current ← orFault (getDeliveryReservation db reservationId) .notDrafted
  require (current.state = .drafted) .notDrafted
  pure ((), db.updateReservation reservationId (fun _ => true) fun row =>
    { row with
      draftText := some draftText, state := .reserved
      deliveryLeaseExpiresAtMs
      bubbles := planned.zipIdx.map fun item =>
        { ordinal := item.2, text := item.1 } })

/-- Expire the drafted deliveries whose lease or deadline ran out. -/
def isStaleDrafted (row : DeliveryReservation) (nowMs : Int) : Bool :=
  row.state = .drafted &&
    (row.generationLeaseExpiresAtMs.any (· ≤ nowMs) ||
      row.firstBubbleDeadlineAtMs.any (· ≤ nowMs))

end CognitiveSidecar.Delivery
