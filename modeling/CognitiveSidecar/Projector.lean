/-
The outbox projector: it makes a nuclear reservation for a row of an outbox,
and mirrors the state and the receipts of the reservation back to the row.
-/
import CognitiveSidecar.Delivery
import CognitiveSidecar.Lib.Process

namespace CognitiveSidecar.Delivery

open Relational

/-- What the delivery owners know of the deployment. -/
class DeliveryHost where
  isAuthorizedOwnerId : String → Bool
  isDomusLane : String → Bool

/-- A delivery operation in progress: each statement is its own commit. -/
abbrev Delivering (α : Type) := Process DeliveryDb DeliveryFault α

/-- A write that cannot fail. -/
def write (f : DeliveryDb → DeliveryDb) : Delivering Unit :=
  Process.commit fun db => pure ((), f db)

def isTerminal : OutboxSendStatus → Bool
  | .delivered | .partiallyDelivered | .sendFailure | .suppressed
  | .suppressedShadow => true
  | .pending | .projecting | .projected | .sending => false

/-! Rows of the outboxes. -/

/-- An absent option keeps the column. -/
structure StatusOptions where
  discordMessageIds : Option (List String) := none
  nuclearReservationId : Option Nat := none
  finalizationReason : Option String := none

@[reducible]
def ProjectableRow.withStatus (row : ProjectableRow) (status : OutboxSendStatus)
    (options : StatusOptions) : ProjectableRow :=
  { row with
    sendStatus := status
    suppressed := row.suppressed ||
      (row.projectionKey.kind = .speech &&
        (status = .suppressed || status = .suppressedShadow))
    discordMessageIds :=
      options.discordMessageIds.getD row.discordMessageIds
    nuclearReservationId :=
      options.nuclearReservationId.or row.nuclearReservationId
    nuclearFinalizationReason :=
      options.finalizationReason.or row.nuclearFinalizationReason }

/-- `updateOutboxStatus`, `updateSystemNoticeStatus` and
`updateInterimStatus`, on the outbox of the key. -/
def updateStatus (projectionKey : OutboxKey) (status : OutboxSendStatus)
    (options : StatusOptions) (db : DeliveryDb) : DeliveryDb :=
  db.updateRow projectionKey (fun _ => true) (·.withStatus status options)

/-- `AUTOINCREMENT`, in the outbox of the kind. -/
def nextRowId (db : DeliveryDb) (kind : ProjectionKind) : Nat :=
  ((db.outbox.rows.filter (·.projectionKey.kind = kind)).map
    (·.projectionKey.id)).foldl max 0 + 1

/-- A row of an outbox before it has its identifier. -/
structure NewOutboxRow where
  kind : ProjectionKind
  settlementId : String := ""
  cycleId : Option String := none
  generation : Int := 0
  (conversationId text : String)
  nuclearReservationId : Option Nat := none
  origin : OutboxOrigin := .live
  deliveryIntent : ProjectionIntent
  noticeOf : Option Nat := none
  /-- Only notices go out on the social lane. -/
  speechLane : kind = .speech → deliveryIntent.deliveryLane ≠ .socialNotify

/-- The row that already stands for the settlement or for the notice. -/
def existingRow (new : NewOutboxRow) (db : DeliveryDb) : Option ProjectableRow :=
  match new.kind with
  | .speech => db.outbox.rows.find? fun row =>
    row.projectionKey.kind = .speech && row.settlementId = new.settlementId
  | .system => db.outbox.rows.find? fun row =>
    row.projectionKey.kind = .system && new.noticeOf.isSome &&
      row.noticeOf = new.noticeOf
  | .interim => none

/-- A shadow row is suppressed from its start, any other one is pending. -/
def insertOutboxPending (new : NewOutboxRow) (db : DeliveryDb) :
    DeliveryOutcome (ProjectableRow × DeliveryDb) :=
  match existingRow new db with
  | some existing => pure (existing, db)
  | none => do
    let row : ProjectableRow :=
      { projectionKey := ⟨new.kind, nextRowId db new.kind⟩
        settlementId := new.settlementId, cycleId := new.cycleId
        generation := new.generation, conversationId := new.conversationId
        text := new.text
        sendStatus :=
          if new.origin = .shadow then .suppressedShadow else .pending
        nuclearReservationId := new.nuclearReservationId
        suppressed := new.kind = .speech && new.origin = .shadow
        origin := new.origin, deliveryIntent := new.deliveryIntent
        noticeOf := new.noticeOf }
    let outbox ← orFault (db.outbox.insert? row) .uniqueConstraint
    pure (row, { db with outbox })

/-! What the receipts of a reservation confirm. -/

structure ReceiptAssessment where
  confirmedPrefix : List DeliveryBubble
  (complete conflict : Bool)

/-- The confirmed bubbles before the first gap, and whether a receipt is
one-sided or lies behind a gap. -/
def confirm (gap : Bool) : List DeliveryBubble → List DeliveryBubble × Bool
  | [] => ([], false)
  | bubble :: rest =>
    let hasMessageId := bubble.discordMessageId.any (!blank ·)
    let hasSentAt := bubble.sentAtMs.isSome
    if hasMessageId && hasSentAt && !gap then
      let confirmed := confirm gap rest
      ({ bubble with discordMessageId := bubble.discordMessageId.map trim } ::
        confirmed.1, confirmed.2)
    else if !hasMessageId && !hasSentAt then confirm true rest
    else ((confirm gap rest).1, true)

def receiptAssessment (bubbles : List DeliveryBubble) : ReceiptAssessment :=
  let confirmed := confirm false bubbles
  { confirmedPrefix := confirmed.1
    complete := !confirmed.2 && !bubbles.isEmpty &&
      confirmed.1.length = bubbles.length
    conflict := confirmed.2 }

/-- A notice is one bubble, or its receipts conflict. -/
def assessFor (kind : ProjectionKind) (bubbles : List DeliveryBubble) :
    ReceiptAssessment :=
  let base := receiptAssessment bubbles
  if kind = .system ∧ bubbles.length ≠ 1 then
    { base with complete := false, conflict := true }
  else base

/-- The status that a terminal reservation gives its row; a conflict also gives
the reason. -/
def terminalReconciliation (state : DeliveryState)
    (assessment : ReceiptAssessment) : OutboxSendStatus × Option String :=
  if assessment.conflict then
    (.sendFailure, some "reconciliation_conflict")
  else if assessment.complete then (.delivered, none)
  else if state = .committed then
    (.sendFailure, some "reconciliation_conflict")
  else if state = .partiallyDelivered then
    if assessment.confirmedPrefix ≠ [] then (.partiallyDelivered, none)
    else (.sendFailure, some "reconciliation_conflict")
  else if assessment.confirmedPrefix ≠ [] then (.partiallyDelivered, none)
  else if state = .cancelled then (.suppressed, none)
  else (.sendFailure, none)

/-- The message identifiers that the row of a kind takes over, when they are
known. -/
def messageIdsFor (kind : ProjectionKind) (assessment : ReceiptAssessment)
    (known : Bool) : Option (List String) :=
  let ids := assessment.confirmedPrefix.filterMap (·.discordMessageId)
  match kind with
  | .speech => some ids
  | .system => some (if known then ids.head?.toList else [])
  | .interim => if known then ids.head?.map fun id => [id] else none

/-- The status of the reservation, as its row takes it over; a row that was
terminal when it was read takes over no terminal status. -/
def markTerminalFromDestination (row : ProjectableRow)
    (destination : DeliveryReservation) (db : DeliveryDb) : DeliveryDb :=
  let kind := row.projectionKey.kind
  let assessment := assessFor kind destination.bubbles
  if isTerminalDeliveryState destination.state then
    if isTerminal row.sendStatus then db
    else
      let terminal := terminalReconciliation destination.state assessment
      updateStatus row.projectionKey terminal.1
        { discordMessageIds :=
            messageIdsFor kind assessment (!assessment.conflict)
          nuclearReservationId := some destination.id
          finalizationReason :=
            if kind = .speech then
              terminal.2.or destination.finalizationReason
            else none } db
  else if destination.state = .sending then
    updateStatus row.projectionKey .sending
      { discordMessageIds := messageIdsFor kind assessment assessment.complete
        nuclearReservationId := some destination.id } db
  else
    updateStatus row.projectionKey .projected
      { nuclearReservationId := some destination.id } db

/-! Reconciliation. -/

/-- The row that the reservation was made for. -/
def projectedRow (db : DeliveryDb) (reservationId : Nat) :
    Option ProjectableRow :=
  ((getDeliveryReservation db reservationId).bind
    (·.projectionKey)).bind (getOutboxRow db)

def evidenceRole : ProjectionKind → EvidenceRole
  | .speech | .interim => .ashley
  | .system => .system

section Evidence

variable [Host] [DeliveryHost]

/-- The receipts of the reservation may become evidence. -/
def mayBecomeEvidence (state : DeliveryState)
    (assessment : ReceiptAssessment) : Bool :=
  isTerminalDeliveryState state && !assessment.conflict &&
    !(state = .committed && !assessment.complete) &&
    !(state = .partiallyDelivered && assessment.complete) &&
    assessment.confirmedPrefix ≠ []

/-- Record the confirmed text of a terminal reservation once. -/
def markDeliveredEvidence (reservationId : Nat) (row : ProjectableRow)
    (assessment : ReceiptAssessment) (nowMs : Int) (db : DeliveryDb) :
    DeliveryOutcome (Unit × DeliveryDb) :=
  let role := evidenceRole row.projectionKey.kind
  match getDeliveryReservation db reservationId with
  | none => pure ((), db)
  | some destination =>
    if !mayBecomeEvidence destination.state assessment ||
        db.delivered.any fun item =>
          item.reservationId = reservationId && item.role = role then
      pure ((), db)
    else do
      let discordMessageIds :=
        assessment.confirmedPrefix.filterMap (·.discordMessageId)
      let threadId := row.deliveryIntent.threadId
      let input : AppendEvidenceInput :=
        { conversationId :=
            if DeliveryHost.isDomusLane row.conversationId ∧ threadId ≠ "" then
              threadId
            else row.conversationId
          text := some (bubbleText assessment.confirmedPrefix)
          discordMessageIds, nowMs }
      -- A message that is on record already gives back its own row.
      let existing := existingByDiscordIds db.evidence
        (uniqueIds discordMessageIds)
      match appendEvidenceInTransaction db.evidence role input with
      | .error fault => .error (.kernel fault)
      | .ok (written, evidence) =>
        pure ((),
          { db with
            evidence
            delivered := db.delivered ++
              if existing.isSome then []
              else [⟨reservationId, role, written.rowId⟩] })

/-- Mirror a reservation back to its row, and record what it delivered. -/
def reconcileProjectedDelivery (reservationId : Nat) (nowMs : Int) :
    Delivering Bool := do
  let db ← Process.read
  match projectedRow db reservationId,
      getDeliveryReservation db reservationId with
  | some row, some destination => do
    write (markTerminalFromDestination row destination)
    Process.commit (markDeliveredEvidence reservationId row
      (assessFor row.projectionKey.kind destination.bubbles) nowMs)
    pure true
  | _, _ => pure false

end Evidence

/-- Mark the row of a claimed reservation as sending. -/
def markProjectedDeliverySending (reservationId : Nat) : Delivering Bool := do
  let db ← Process.read
  match projectedRow db reservationId with
  | none => pure false
  | some row => do
    write (updateStatus row.projectionKey .sending
      { nuclearReservationId := some reservationId })
    pure true

/-! Suppression. -/

/-- The readings of a cancellation: the clock, the abort controllers, and what
settling an outcome raises. -/
structure CancelReading where
  nowMs : Int
  abortOwner : Nat → Option String := fun _ => none
  outcome : Nat → Option DeliveryFault := fun _ => none

/-- Cancel the delivery of a row unless it is decided. -/
def cancelOpenReservation (reading : CancelReading) (reservationId : Nat)
    (db : DeliveryDb) : DeliveryDb :=
  match getDeliveryReservation db reservationId with
  | none => db
  | some reservation =>
    if isTerminalDeliveryState reservation.state then db
    else cancelDeliveryReservation
      { reservationId, ownerId := reservation.ownerId
        abortOwner := reading.abortOwner reservationId, nowMs := reading.nowMs
        outcome := reading.outcome reservationId } db

def projectionReservation (db : DeliveryDb) (projectionKey : OutboxKey) :
    Option DeliveryReservation :=
  db.reservations.rows.find? (·.projectionKey = some projectionKey)

/-- The reservation of a row: the one it names, or the one that names it. -/
def boundReservation (db : DeliveryDb) (row : ProjectableRow) : Option Nat :=
  row.nuclearReservationId.or
    ((projectionReservation db row.projectionKey).map (·.id))

structure SuppressCriteria where
  conversationId : Option String := none
  generation : Option Int := none
  outboxId : Option Nat := none
  reason : String := "preempted_by_new_generation"

def SuppressCriteria.selects (criteria : SuppressCriteria)
    (row : ProjectableRow) : Bool :=
  row.projectionKey.kind = .speech &&
    row.sendStatus ∉ [OutboxSendStatus.delivered, .suppressed,
      .suppressedShadow] &&
    criteria.conversationId.all (· = row.conversationId) &&
    criteria.generation.all (· = row.generation) &&
    criteria.outboxId.all (· = row.projectionKey.id)

/-- Suppress every speech row that is not delivered, then cancel what was
reserved for it. -/
def suppressUndeliveredOutbox (criteria : SuppressCriteria)
    (reading : CancelReading) (registered : Bool) : Delivering Unit := do
  let db ← Process.read
  let rows := db.outbox.rows.filter criteria.selects
  write fun db =>
    { db with
      outbox := db.outbox.update criteria.selects fun row =>
        { row with
          sendStatus := .suppressed, suppressed := true
          nuclearFinalizationReason := some criteria.reason } }
  if registered then
    Process.forEach (rows.filterMap (boundReservation db)) fun reservationId =>
      write (cancelOpenReservation reading reservationId)
  else pure ()

/-! Projection. -/

inductive GateDecision
  | ok
  | refused (reason : String) (defer : Bool)

/-- The readings of a projection: whether the generation is current, the gate,
the bubbles planned for the text, and why the admission of an external
publication refuses it, if it does. -/
structure ProjectInput where
  nowMs : Int
  leaseMs : Int := 120000
  isCurrentGeneration : Bool := true
  gate : GateDecision := .ok
  planned : List String
  refusal : Option String := none
  cancel : CancelReading

inductive ProjectDecision
  | ok
  | no (suppressed : Option String)

def shouldProject (row : ProjectableRow) (input : ProjectInput) :
    ProjectDecision :=
  if isTerminal row.sendStatus then .no none
  else if row.origin = .shadow then .no (some "shadow")
  else if !input.isCurrentGeneration then .no (some "superseded_generation")
  else match input.gate with
    | .ok => .ok
    | .refused reason defer =>
      if defer || reason = "daily_cap" then .no none else .no (some reason)

/-- The reservation made for a row. -/
def reservationFor (input : ProjectInput) (row : ProjectableRow) :
    DeliveryReservation :=
  let intent := row.deliveryIntent
  let external := intent.externalPublication
  { id := 0, ownerId := intent.ownerId, channel := intent.channel
    threadId := intent.threadId, deliveryLane := intent.deliveryLane
    state := if external.isSome then .drafted else .reserved
    draftText := some row.text
    deliveryLeaseExpiresAtMs := some (input.nowMs + input.leaseMs)
    projectionKey := some row.projectionKey
    speechOutboxId :=
      if row.projectionKey.kind = .speech then some row.projectionKey.id
      else none
    destination := (external.map (·.destination)).or intent.destination
    attemptInputBasis := external.map (·.attemptInputBasis)
    hardDependencyBundle := external.map (·.hardDependencyBundle)
    licenseRefs := (external.map (·.licenseRefs)).getD "[]" }

/-- Make the reservation of a row, or mirror the one there is. -/
def reserve (input : ProjectInput) (row : ProjectableRow) :
    Delivering Nat := do
  let db ← Process.read
  match projectionReservation db row.projectionKey with
  | some existing => do
    write (markTerminalFromDestination row existing)
    pure existing.id
  | none =>
    Process.commit (insertReservation (reservationFor input row)
      input.planned)

/-- A row that is suppressed has its open reservation cancelled. -/
def cancelSuppressedReservation (input : ProjectInput) (row : ProjectableRow) :
    Delivering Unit := do
  if row.sendStatus = .suppressed ∨ row.sendStatus = .suppressedShadow then do
    let db ← Process.read
    match boundReservation db row with
    | none => pure ()
    | some reservationId =>
      write (cancelOpenReservation input.cancel reservationId)
  else pure ()

/-- The admission of the publication, with what it answers when it refuses. -/
def admitPublication (input : ProjectInput) (reservationId : Nat)
    (binding : ExternalPublicationIntent) : Delivering (Option String) :=
  match input.refusal with
  | some reason => pure (some reason)
  | none => Process.orElse (fun _ => true)
      (do
        let _ ← Process.commit
          (reserveExternalDeliveryInTransaction reservationId binding)
        pure none)
      (pure (some "delivery_reservation_binding"))

/-- A refused publication aborts its drafted reservation and suppresses its
row. -/
def blockPublication (row : ProjectableRow) (reservationId : Nat)
    (reason : String) (nowMs : Int) : Delivering Unit := do
  write fun db => db.updateReservation reservationId (·.state = .drafted)
    fun reservation =>
      { reservation with
        state := .aborted, errorCategory := some reason
        finalizationReason := some "send_failure", finalizedAtMs := some nowMs }
  write (updateStatus row.projectionKey .suppressed
    (if row.projectionKey.kind = .speech then
      { nuclearReservationId := some reservationId
        finalizationReason := some ("external_publication_blocked:" ++ reason) }
    else {}))

/-- The row takes over the state of its reservation. -/
def mirrorReservation (row : ProjectableRow) (reservationId : Nat) :
    Delivering Unit := do
  let db ← Process.read
  match projectionReservation db row.projectionKey with
  | some destination => write (markTerminalFromDestination row destination)
  | none => write (updateStatus row.projectionKey .projected
      { nuclearReservationId := some reservationId })

/-- Reserve the delivery of a row, and admit it when it is external. -/
def projectRow (input : ProjectInput) (row : ProjectableRow) :
    Delivering Unit := do
  cancelSuppressedReservation input row
  match shouldProject row input with
  | .no none => pure ()
  | .no (some reason) =>
    write (updateStatus row.projectionKey .suppressed
      (if row.projectionKey.kind = .speech then
        { finalizationReason := some reason }
      else {}))
  | .ok => do
    write (updateStatus row.projectionKey .projecting {})
    let reservationId ← reserve input row
    match row.deliveryIntent.externalPublication with
    | none => mirrorReservation row reservationId
    | some binding => do
      let refused ← admitPublication input reservationId binding
      match refused with
      | some reason => blockPublication row reservationId reason input.nowMs
      | none => mirrorReservation row reservationId

/-- `project`, `projectSystem` and `projectInterim`. -/
def project (projectionKey : OutboxKey) (input : ProjectInput) :
    Delivering Unit := do
  let db ← Process.read
  let row ← Process.ofExcept
    (orFault (getOutboxRow db projectionKey) DeliveryFault.rowMissing)
  projectRow input row

end CognitiveSidecar.Delivery
