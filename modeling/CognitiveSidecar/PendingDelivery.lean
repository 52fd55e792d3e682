/-
Pending deliveries: the sweeps that repair what a delivery left behind, and the
claim that checks out one reserved delivery for the pump.
-/
import CognitiveSidecar.Projector

namespace CognitiveSidecar.Delivery

open Relational

variable [DeliveryHost]

inductive PendingLane
  | cognitiveV021 | systemNotice | socialNotify
deriving DecidableEq

/-! Lanes and claimability. -/

def PendingLane.covers (lane : PendingLane) (row : DeliveryReservation) : Bool :=
  match lane with
  | .socialNotify => row.deliveryLane = .socialNotify
  | .cognitiveV021 | .systemNotice =>
    row.deliveryLane = .reactive || row.deliveryLane = .proactive

def laneProjectionKind : PendingLane → Option ProjectionKind
  | .cognitiveV021 => some .speech
  | .systemNotice => some .system
  | .socialNotify => none

def projectionKind (row : DeliveryReservation) : Option ProjectionKind :=
  match row.projectionKey with
  | some projectionKey => some projectionKey.kind
  | none => if row.speechOutboxId.any (0 < ·) then some .speech else none

/-- The row of the kind that the reservation was made for. -/
def projectionRow (db : DeliveryDb) (row : DeliveryReservation)
    (kind : ProjectionKind) : Option ProjectableRow :=
  let byKey (kinds : List ProjectionKind) : Option ProjectableRow :=
    (row.projectionKey.filter (·.kind ∈ kinds)).bind (getOutboxRow db)
  match kind with
  | .speech =>
    ((row.speechOutboxId.filter (0 < ·)).bind fun outboxId =>
      getOutboxRow db ⟨.speech, outboxId⟩).or (byKey [.speech, .interim])
  | .system => byKey [.system]
  | .interim => byKey [.interim]

/-- Settlement speech and interim holds share the lane of the Owner. -/
def projectionClaimable (db : DeliveryDb) (row : DeliveryReservation)
    (kind : ProjectionKind) : Bool :=
  let rowKind := projectionKind row
  let fits := if kind = .speech then
      rowKind = some .speech || rowKind = some .interim
    else rowKind = some kind
  fits && (projectionRow db row (rowKind.getD kind)).any fun source =>
    source.sendStatus ≠ .suppressed && source.sendStatus ≠ .suppressedShadow

def isOwnerDmDestination : Option Destination → Bool
  | none | some .owner | some .ownerPrivate => true
  | _ => false

/-- The speech row of a reservation: by its column, else by its key. -/
def speechIdOf (row : DeliveryReservation) : Option Nat :=
  (row.speechOutboxId.filter (0 < ·)).or
    ((row.projectionKey.filter fun projectionKey =>
      projectionKey.kind = .speech && 0 < projectionKey.id).map (·.id))

def getSpeechOutbox (db : DeliveryDb) (outboxId : Nat) :
    Option ProjectableRow :=
  getOutboxRow db ⟨.speech, outboxId⟩

/-- The readings of a sweep: the clock, the page size, the Owner asked for, the
Owner that the durable lineage of a speech names, why a speech is superseded,
and what settling an outcome raises. -/
structure SweepReading where
  nowMs : Int
  limit : Nat := 50
  ownerId : Option String := none
  lineageOwner : ProjectableRow → Option String := fun _ => none
  supersession : ProjectableRow → Option String := fun _ => none
  outcome : Nat → Option DeliveryFault := fun _ => none

/-- The Owner asked for, when it is authorized. -/
def SweepReading.owner (reading : SweepReading) : Option String :=
  reading.ownerId.filter DeliveryHost.isAuthorizedOwnerId

/-- A Discord reservation of the lanes of the Owner that was made for speech. -/
def isSpeechReservation (row : DeliveryReservation) : Bool :=
  row.channel = "discord" &&
    (row.deliveryLane = .reactive || row.deliveryLane = .proactive) &&
    (row.projectionKey.any (·.kind = .speech) || row.speechOutboxId.isSome)

def DeliveryReservation.hasReceipt (row : DeliveryReservation) : Bool :=
  row.bubbles.any DeliveryBubble.hasReceipt

/-- Run a sweep over the first reservations of a query.  A sweep is
synchronous and a round writes its own reservation only, so a round finds the
row as the query read it. -/
def sweepReservations (limit : Nat) (query : DeliveryReservation → Bool)
    (round : DeliveryReservation → Delivering Unit) : Delivering Unit := do
  let db ← Process.read
  let ids := ((db.reservations.rows.filter query).map (·.id)).take limit
  Process.forEach ids fun reservationId => do
    let db ← Process.read
    match getDeliveryReservation db reservationId with
    | some row => if query row then round row else pure ()
    | none => pure ()

/-! Reservations under the wrong principal. -/

/-- The canonical Owner of a speech. -/
def targetOwner (reading : SweepReading) (speech : ProjectableRow) :
    Option String :=
  reading.owner.or
    ((reading.lineageOwner speech).filter DeliveryHost.isAuthorizedOwnerId)

def isLegacyWrongPrincipal (row : DeliveryReservation) : Bool :=
  isSpeechReservation row && row.state = .reserved &&
    row.ownerId = row.threadId

/-- Suppress the speech when it is stale, else correct its Owner; the sidecar
is written first. -/
def correctPrincipal (reading : SweepReading) (row : DeliveryReservation) :
    Delivering Unit := do
  let db ← Process.read
  if trim row.ownerId = "" ∨ !isOwnerDmDestination row.destination ∨
      row.hasReceipt then pure ()
  else match (speechIdOf row).bind (getSpeechOutbox db) with
    | none => pure ()
    | some speech =>
      match targetOwner reading speech with
      | none => pure ()
      | some owner =>
        match reading.supersession speech with
        | some reason => do
          write (updateStatus speech.projectionKey .suppressed
            { finalizationReason := some reason
              nuclearReservationId := some row.id })
          write fun db => db.updateReservation row.id (·.state = .reserved)
            fun row =>
              { row with
                state := .aborted, finalizationReason := some reason
                finalizedAtMs := some reading.nowMs }
        | none => do
          write fun db => db.updateRow speech.projectionKey (fun _ => true)
            fun speech =>
              { speech with
                deliveryIntent :=
                  { speech.deliveryIntent with ownerId := owner } }
          write fun db => db.updateReservation row.id (·.state = .reserved)
            fun row => { row with ownerId := owner }

def reconcileLegacyWrongPrincipalSpeechReservations (reading : SweepReading) :
    Delivering Unit :=
  sweepReservations reading.limit isLegacyWrongPrincipal
    (correctPrincipal reading)

/-! Failed speech. -/

def exhaustedNoticeText (dispatchAmbiguous : Bool) : String :=
  if dispatchAmbiguous then
    "[system] My reply may not have been delivered: the send did not " ++
    "confirm, so I did not retry automatically. Your message is still on " ++
    "record — please repeat it and I will answer again. Error code: " ++
    "DELIVERY_UNCONFIRMED"
  else
    "[system] My reply could not be delivered after a delivery retry, and " ++
    "nothing was sent. Your message is still on record — please repeat it " ++
    "and I will answer again. Error code: DELIVERY_FAILED"

/-- One notice tells of an exhausted or an unconfirmed delivery. -/
def ensureExhaustedDeliveryNotice (speech : ProjectableRow)
    (dispatchAmbiguous : Bool) : Delivering Unit :=
  let intent := speech.deliveryIntent
  let ownerId := trim intent.ownerId
  if ownerId = "" ∨ !DeliveryHost.isAuthorizedOwnerId ownerId then pure ()
  else Process.orElse (fun _ => true)
    (do
      let _ ← Process.commit (insertOutboxPending
        { kind := .system, cycleId := speech.cycleId
          conversationId := speech.conversationId
          text := exhaustedNoticeText dispatchAmbiguous
          deliveryIntent :=
            { ownerId
              channel := if trim intent.channel = "" then "discord"
                else trim intent.channel
              threadId := if trim intent.threadId = "" then
                  speech.conversationId
                else trim intent.threadId
              deliveryLane := if intent.deliveryLane = .proactive then
                  .proactive
                else .reactive }
          noticeOf := some speech.projectionKey.id
          speechLane := by intro hkind; cases hkind })
      pure ())
    (pure ())

def isUnfulfilledFailed (reading : SweepReading) (row : DeliveryReservation) :
    Bool :=
  isSpeechReservation row && row.state = .aborted &&
    (row.errorCategory = some "send_failure" ||
      row.finalizationReason = some "send_failure") &&
    row.firstSentAtMs = none && reading.owner.all (· = row.ownerId)

/-- The speech may be recovered: it is live, failed or already projected, and
nothing of it was sent. -/
def isRecoverableSpeech (speech : ProjectableRow) : Bool :=
  speech.origin = .live &&
    (speech.sendStatus = .sendFailure || speech.sendStatus = .projected) &&
    speech.discordMessageIds = [] && !blank speech.text

/-- A superseded speech is suppressed and its reservation says why. -/
def suppressSuperseded (row : DeliveryReservation) (speech : ProjectableRow)
    (reason : String) : Delivering Unit := do
  if row.finalizationReason = some reason then pure ()
  else
    write fun db => db.updateReservation row.id (·.state = .aborted)
      fun row => { row with finalizationReason := some reason }
  write (updateStatus speech.projectionKey .suppressed
    { finalizationReason := some reason, nuclearReservationId := some row.id })

/-- The speech is projected again, once, and then its reservation is reserved
again. -/
def rearmFailed (row : DeliveryReservation) (speech : ProjectableRow) :
    Delivering Unit := do
  if speech.sendStatus = .sendFailure then
    write fun db => db.updateRow speech.projectionKey
      (·.sendStatus = .sendFailure) fun speech =>
        { speech with
          sendStatus := .projected
          deliveryIntent :=
            { speech.deliveryIntent with
              recoveryAttempts := speech.deliveryIntent.recoveryAttempts + 1 }
          nuclearFinalizationReason := none }
  else pure ()
  write fun db => db.updateReservation row.id (·.state = .aborted) fun row =>
    { row with
      state := .reserved, errorCategory := none
      finalizationReason := none, finalizedAtMs := none
      deliveryLeaseExpiresAtMs := none }

/-- Recover a failed speech that provably never went out. -/
def recoverFailed (reading : SweepReading) (row : DeliveryReservation) :
    Delivering Unit := do
  let db ← Process.read
  if row.hasReceipt ∨ row.draftText.all blank ∨
      row.destination = some .invalid then pure ()
  else match (speechIdOf row).bind (getSpeechOutbox db) with
    | none => pure ()
    | some speech =>
      if !isRecoverableSpeech speech then pure ()
      else if 1 ≤ speech.deliveryIntent.recoveryAttempts ∧
          speech.sendStatus ≠ .projected then
        ensureExhaustedDeliveryNotice speech false
      else match reading.supersession speech with
        | some reason => suppressSuperseded row speech reason
        | none =>
          -- A marked dispatch may have gone out: it is never replayed.
          if row.dispatchStartedAtMs.isSome then
            ensureExhaustedDeliveryNotice speech true
          else rearmFailed row speech

def reconcileUnfulfilledFailedSpeechReservations (reading : SweepReading) :
    Delivering Unit :=
  sweepReservations reading.limit (isUnfulfilledFailed reading)
    (recoverFailed reading)

/-! Sending deliveries whose lease ran out. -/

def isLeaseExpired (nowMs : Int) (row : DeliveryReservation) : Bool :=
  row.state = .sending && row.deliveryLeaseExpiresAtMs.any (· ≤ nowMs)

/-- Decide a delivery whose lease ran out; a fault leaves it for the next
pass. -/
def expireLease (nowMs : Int) (outcome : Nat → Option DeliveryFault)
    (row : DeliveryReservation) (decided : Delivering Unit) :
    Delivering Unit :=
  Process.orElse (fun _ => true)
    (do
      let _ ← Process.commit (finalizeDelivery
        { reservationId := row.id, ownerId := row.ownerId
          cause := .deliveryLease, nowMs, outcome := outcome row.id })
      decided)
    (pure ())

def isOrphanedSending (reading : SweepReading) (row : DeliveryReservation) :
    Bool :=
  isSpeechReservation row && isLeaseExpired reading.nowMs row &&
    reading.owner.all (· = row.ownerId)

/-- A stranded delivery without receipts is expired, never replayed. -/
def expireOrphaned (reading : SweepReading) (row : DeliveryReservation) :
    Delivering Unit := do
  let db ← Process.read
  if row.firstSentAtMs.isSome ∨ row.hasReceipt then pure ()
  else match (speechIdOf row).bind (getSpeechOutbox db) with
    | none => pure ()
    | some speech =>
      if speech.origin ≠ .live ∨ row.ownerId = "" then pure ()
      else
        expireLease reading.nowMs reading.outcome row
          (ensureExhaustedDeliveryNotice speech true)

def reconcileOrphanedSendingDeliveries (reading : SweepReading) :
    Delivering Unit :=
  sweepReservations reading.limit (isOrphanedSending reading)
    (expireOrphaned reading)

/-- The reservations of a lane that wait for the Owner. -/
def isPendingFor (ownerId : String) (lane : PendingLane)
    (row : DeliveryReservation) : Bool :=
  row.ownerId = ownerId && row.channel = "discord" &&
    row.projectionKey.isSome && lane.covers row

/-- A delivery with a first receipt is decided when its lease runs out. -/
def reconcileExpiredSending (ownerId : String) (lane : PendingLane)
    (reading : SweepReading) : Delivering Unit := do
  let db ← Process.read
  let query := fun row : DeliveryReservation =>
    isPendingFor ownerId lane row && row.firstSentAtMs.isSome &&
      isLeaseExpired reading.nowMs row
  sweepReservations db.reservations.rows.length query
    fun row => expireLease reading.nowMs reading.outcome row (pure ())

/-! The claim. -/

/-- Between half a minute and ten minutes. -/
def clampLeaseMs (leaseMs : Option Int) : Int :=
  match leaseMs with
  | none => 120000
  | some value => if value < 30000 then 30000
      else if 600000 < value then 600000 else value

/-- `registered` tells that the projector bound the sidecar to the nuclear
database. -/
structure ClaimInput where
  ownerId : String
  leaseMs : Option Int := none
  lane : PendingLane
  registered : Bool := true
  reading : SweepReading

/-- The reservation that a claim checks out: the first claimable one. -/
def claimable (input : ClaimInput) (db : DeliveryDb) :
    Option DeliveryReservation :=
  db.reservations.rows.find? fun row =>
    isPendingFor input.ownerId input.lane row && row.state = .reserved &&
      (laneProjectionKind input.lane).all (projectionClaimable db row)

/-- Check out one reserved delivery. -/
def checkOut (input : ClaimInput) (db : DeliveryDb) :
    DeliveryOutcome (Option Nat × DeliveryDb) :=
  match claimable input db with
  | none => pure (none, db)
  | some row =>
    pure (some row.id, db.updateReservation row.id (·.state = .reserved)
      fun row =>
        { row with
          state := .sending
          deliveryLeaseExpiresAtMs :=
            some (input.reading.nowMs + clampLeaseMs input.leaseMs) })

/-- `claimPendingCognitiveDeliveries`, `claimPendingSystemNotifications` and
`claimPendingSocialNotifications`. -/
def claimPendingByLane (input : ClaimInput) : Delivering (Option Nat) := do
  let reading := { input.reading with ownerId := some input.ownerId }
  reconcileExpiredSending input.ownerId input.lane reading
  if (laneProjectionKind input.lane).isSome && !input.registered then
    pure none
  else do
    if input.lane = .cognitiveV021 then do
      reconcileLegacyWrongPrincipalSpeechReservations reading
      reconcileUnfulfilledFailedSpeechReservations reading
      reconcileOrphanedSendingDeliveries reading
    else pure ()
    Process.commit (checkOut input)

/-- The claim of the pump: what is checked out is marked as sending. -/
def claimDelivery (input : ClaimInput) : Delivering Unit := do
  let claimed ← claimPendingByLane input
  match claimed with
  | none => pure ()
  | some reservationId => do
    let _ ← markProjectedDeliverySending reservationId
    pure ()

end CognitiveSidecar.Delivery
