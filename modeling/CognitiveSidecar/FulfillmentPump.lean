/-
The fulfillment pump: a claimed delivery is rechecked, marked as dispatched and
sent bubble by bubble, each receipted as it goes out; what is known of it in the
end decides how its reservation is finalized.
-/
import CognitiveSidecar.Lib.Cuts
import CognitiveSidecar.Sidecar

namespace CognitiveSidecar.Fulfillment

open Relational

/-! Bubbles. -/

structure PlannedBubble where
  ordinal : Nat
  text : String

def discordLimit : Nat := 1990

def hardSlice (text : String) (limit : Nat) : List String := cuts limit text

/-- Cut at the runs of two newlines or more. -/
def splitParagraphs : List Char → Nat → List Char → List String
  | [], newlines, current =>
    if 2 ≤ newlines then [String.ofList current.reverse, ""]
    else [String.ofList (List.replicate newlines '\n' ++ current).reverse]
  | c :: rest, newlines, current =>
    if c = '\n' then splitParagraphs rest (newlines + 1) current
    else if 2 ≤ newlines then
      String.ofList current.reverse :: splitParagraphs rest 0 [c]
    else
      splitParagraphs rest 0
        (c :: (List.replicate newlines '\n' ++ current))

def splitMessage (text : String) : List String :=
  let paragraphs := ((splitParagraphs (trim text).toList 0 []).map trim).filter
    (· ≠ "")
  paragraphs.flatMap fun paragraph =>
    if utf16Length paragraph ≤ discordLimit then [paragraph]
    else hardSlice paragraph discordLimit

def roomBubbleCap : Nat := 3

def capRoomBubbles (bubbles : List PlannedBubble) : List PlannedBubble :=
  bubbles.take roomBubbleCap

/-! Sending. -/

/-- The identifier of a sent message is never blank. -/
structure MessageId where
  text : String
  nonempty : text ≠ ""

structure OutMessage where
  ordinal : Nat
  id : Option MessageId

structure Receipt where
  ordinal : Nat
  discordMessageId : MessageId

/-- The messages that are out, those with no identifier included whose send
answered with an error, and the receipts that are stored. -/
structure Wire where
  out : List OutMessage := []
  receipts : List Receipt := []

inductive SendReading
  | sent (id : MessageId) | failed (visible : Bool)

inductive ReceiptReading
  | stored | storedUnanswered | failed
deriving DecidableEq

inductive BubbleSendFailureCategory
  | discordSendFailed | aborted | deadlineExpired | emptyPlan
deriving DecidableEq

structure BubbleSendResult where
  attemptedOrdinal : Option Nat := none
  receiptedOrdinals : List Nat := []
  failureCategory : Option BubbleSendFailureCategory := none
  anySubstantiveContentVisible : Bool := false
  messages : List MessageId := []

structure DeliverySendError where
  message : String
  result : BubbleSendResult

/-- What a send of bubbles is given, and what it reads as it goes: the clock
before a bubble and after it, the recheck of a bubble, and its send, with the
one without the picture. -/
structure SendOptions where
  gif : Bool := false
  firstBubbleDeadlineAtMs : Option Int := none
  finalDeliveryDeadlineAtMs : Option Int := none
  clockBeforeMs : Nat → Int := fun _ => 0
  clockAfterMs : Nat → Int := fun _ => 0
  beforeBubbleSend : Nat → Option String
  send : Nat → SendReading
  sendPlain : Nat → SendReading
  onBubbleSent : Nat → Receipt → Wire → Wire

/-- One call of the transport. -/
def transmit (ordinal : Nat) (reading : SendReading) (wire : Wire) :
    Option MessageId × Wire :=
  match reading with
  | .sent id => (some id, { wire with out := wire.out ++ [⟨ordinal, some id⟩] })
  | .failed true => (none, { wire with out := wire.out ++ [⟨ordinal, none⟩] })
  | .failed false => (none, wire)

/-- A bubble with a picture is sent again without it. -/
def sendBubble (options : SendOptions) (index : Nat) (bubble : PlannedBubble)
    (wire : Wire) : Option MessageId × Wire :=
  match transmit bubble.ordinal (options.send index) wire with
  | (some id, wire) => (some id, wire)
  | (none, wire) =>
    if index = 0 ∧ options.gif = true then
      transmit bubble.ordinal (options.sendPlain index) wire
    else (none, wire)

def failWith (category : BubbleSendFailureCategory) (message : String)
    (result : BubbleSendResult) : Except DeliverySendError BubbleSendResult :=
  .error ⟨message, { result with failureCategory := some category }⟩

/-- The bubbles from an index on.  A receipt that fails does not stop them. -/
def sendPlanned (options : SendOptions) (firstSent : Bool) :
    Nat → List PlannedBubble → BubbleSendResult → Wire →
      Except DeliverySendError BubbleSendResult × Wire
  | _, [], result, wire => (.ok result, wire)
  | index, bubble :: rest, result, wire =>
    let result := { result with attemptedOrdinal := some bubble.ordinal }
    if firstSent = false ∧
        options.firstBubbleDeadlineAtMs.any
          (· ≤ options.clockBeforeMs index) = true then
      (failWith .deadlineExpired "first_bubble_deadline_expired" result, wire)
    else if options.finalDeliveryDeadlineAtMs.any
        (· ≤ options.clockBeforeMs index) = true then
      (failWith .deadlineExpired "final_delivery_deadline_expired" result,
        wire)
    else match options.beforeBubbleSend index with
    | some message => (failWith .aborted message result, wire)
    | none =>
      match sendBubble options index bubble wire with
      | (none, wire) =>
        (failWith .discordSendFailed "bubble_send_failed" result, wire)
      | (some id, wire) =>
        let result := { result with
          messages := result.messages ++ [id]
          anySubstantiveContentVisible := true
          receiptedOrdinals := result.receiptedOrdinals ++ [bubble.ordinal] }
        let wire := options.onBubbleSent index ⟨bubble.ordinal, id⟩ wire
        if options.finalDeliveryDeadlineAtMs.any
            (· ≤ options.clockAfterMs index) = true then
          (failWith .deadlineExpired "final_delivery_deadline_expired"
            result, wire)
        else sendPlanned options true (index + 1) rest result wire

def sendBubbles (planned : List PlannedBubble) (options : SendOptions)
    (wire : Wire) : Except DeliverySendError BubbleSendResult × Wire :=
  if planned = [] ∧ options.gif = false then
    (failWith .emptyPlan "empty_send_plan" {}, wire)
  else match sendPlanned options false 0 planned {} wire with
  | (.error error, wire) => (.error error, wire)
  | (.ok result, wire) =>
    if planned = [] then
      match transmit 0 (options.send 0) wire with
      | (some id, wire) =>
        (.ok { result with messages := result.messages ++ [id] }, wire)
      | (none, wire) =>
        (failWith .discordSendFailed "gif_only_send_failed" result, wire)
    else (.ok result, wire)

/-! Receipts. -/

/-- The attempts of a receipt, up to the first that is answered. -/
def persistAttempts (receipt : Receipt) : List ReceiptReading → Wire →
    Bool × Wire
  | [], wire => (false, wire)
  | .stored :: _, wire =>
    (true, { wire with receipts := wire.receipts ++ [receipt] })
  | .storedUnanswered :: rest, wire =>
    persistAttempts receipt rest
      { wire with receipts := wire.receipts ++ [receipt] }
  | .failed :: rest, wire => persistAttempts receipt rest wire

/-- Three attempts; the flag tells that one was answered. -/
def persistReceiptWithRetry (reading : Nat → ReceiptReading) (receipt : Receipt)
    (wire : Wire) : Bool × Wire :=
  persistAttempts receipt [reading 0, reading 1, reading 2] wire

/-! The pump. -/

/-- A destination as it was parsed; `none` for a field that is not a text. -/
structure Destination where
  kind : Option String := none
  principalId : Option String := none
  guildId : Option String := none
  channelId : Option String := none
  ownerRoom : Bool := false

inductive DestinationReading
  | absent | notObject | object (value : Destination)

inductive DeliveryTarget
  | owner
  | externalDm (principalId : String)
  | room (guildId channelId : String)
  | ownerRoom (guildId channelId : String)
  | invalid

def deliveryTarget (destination : DestinationReading) : DeliveryTarget :=
  match destination with
  | .absent => .owner
  | .notObject => .invalid
  | .object value =>
    let principalId := trim (value.principalId.getD "")
    let guildId := trim (value.guildId.getD "")
    let channelId := trim (value.channelId.getD "")
    if value.kind = some "owner" then .owner
    else if (value.kind = some "external_dm" ∨ value.kind = some "dm") ∧
        principalId ≠ "" then .externalDm principalId
    else if value.kind = some "room" ∧ guildId ≠ "" ∧ channelId ≠ "" then
      if value.ownerRoom then .ownerRoom guildId channelId
      else .room guildId channelId
    else .invalid

structure FulfillmentDelivery where
  reservationId : Nat
  draftText : String
  bubbles : List PlannedBubble
  destination : DestinationReading

/-- A recheck of a publication; one that is not available refuses. -/
inductive Verdict
  | ok | refused (reason : String) | raised (message : String)
deriving DecidableEq

inductive MarkReading
  | ok | notOk | raised (message : String)
deriving DecidableEq

/-- What the pump meets while it works on a delivery. -/
structure PumpReading where
  inFlight : Bool := false
  dmPublicationEnabled : Bool := true
  roomSeedActive : Bool := true
  roomPublicationChannelId : Option String := none
  channelRaised : Bool := false
  recheck : Verdict := .ok
  mark : MarkReading := .ok
  bubbleRecheck : Nat → Verdict := fun _ => .ok
  send : Nat → SendReading
  receipt : Nat → Nat → ReceiptReading := fun _ _ => .stored
  receiptAgain : Nat → Nat → ReceiptReading := fun _ _ => .stored

inductive FinalizeCause
  | complete | cancel | sendFailure | firstBubbleDeadline | deliveryLease
deriving DecidableEq

/-- An error that the queued job ends with. -/
inductive Thrown
  | delivery (error : DeliverySendError) | generic (message : String)

def DeliveryTarget.enabled (target : DeliveryTarget) (reading : PumpReading) :
    Bool :=
  match target with
  | .invalid => false
  | .owner => true
  | .externalDm _ => reading.dmPublicationEnabled
  | .room _ channelId | .ownerRoom _ channelId =>
    reading.roomSeedActive &&
      reading.roomPublicationChannelId = some channelId

def DeliveryTarget.isRoom : DeliveryTarget → Bool
  | .room _ _ | .ownerRoom _ _ => true
  | _ => false

/-- The prefix of the errors with which a target's recheck blocks it. -/
def DeliveryTarget.blockedPrefix : DeliveryTarget → String
  | .owner => "owner_dm_publication_blocked:"
  | .ownerRoom _ _ => "owner_room_publication_blocked:"
  | _ => "external_publication_blocked:"

def FulfillmentDelivery.allBubbles (delivery : FulfillmentDelivery) :
    List PlannedBubble :=
  if delivery.bubbles ≠ [] then delivery.bubbles
  else (splitMessage delivery.draftText).mapIdx fun ordinal text =>
    ⟨ordinal, text⟩

/-- The bubbles that the pump plans to send. -/
def FulfillmentDelivery.sentBubbles (delivery : FulfillmentDelivery) :
    List PlannedBubble :=
  if (deliveryTarget delivery.destination).isRoom then
    capRoomBubbles delivery.allBubbles
  else delivery.allBubbles

/-- The error of a job that is blocked before it sends. -/
def dispatchBlocked (message : String) : Thrown :=
  .delivery ⟨message, { failureCategory := some .aborted }⟩

def PumpReading.sendOptions (reading : PumpReading) (target : DeliveryTarget) :
    SendOptions where
  beforeBubbleSend index :=
    match reading.bubbleRecheck index with
    | .ok => none
    | .refused reason => some (target.blockedPrefix ++ reason)
    | .raised message => some message
  send := reading.send
  sendPlain := reading.send
  onBubbleSent index receipt wire :=
    (persistReceiptWithRetry (reading.receipt index) receipt wire).2

/-- How the queued job ended, what it put on the wire, and whether it had marked
the dispatch. -/
structure JobEnd where
  ended : Except Thrown BubbleSendResult
  wire : Wire
  dispatchStarted : Bool

/-- The queued job of a delivery. -/
def dispatchJob (reservationId : Nat) (target : DeliveryTarget)
    (bubbles : List PlannedBubble) (reading : PumpReading) : JobEnd :=
  match reading.recheck with
  | .refused reason =>
    ⟨.error (dispatchBlocked (target.blockedPrefix ++ reason)), {}, false⟩
  | .raised message => ⟨.error (.generic message), {}, false⟩
  | .ok =>
    match reading.mark with
    | .notOk =>
      ⟨.error (dispatchBlocked
        ("dispatch_boundary_failed:dispatch_boundary_unmarked:" ++
          toString reservationId)), {}, false⟩
    | .raised message =>
      ⟨.error (dispatchBlocked ("dispatch_boundary_failed:" ++ message)), {},
        false⟩
    | .ok =>
      match sendBubbles bubbles (reading.sendOptions target) {} with
      | (.ok result, wire) => ⟨.ok result, wire, true⟩
      | (.error error, wire) => ⟨.error (.delivery error), wire, true⟩

/-- The finalization of a job that ended with an error. -/
def finalizeThrown (thrown : Thrown) (dispatchStarted : Bool) :
    Option FinalizeCause :=
  match thrown with
  | .delivery error =>
    let result := error.result
    if result.receiptedOrdinals ≠ [] then some .sendFailure
    else if result.failureCategory = some .aborted ∨
        result.failureCategory = some .deadlineExpired ∨
        result.failureCategory = some .emptyPlan then some .sendFailure
    else if dispatchStarted = false ∧ result.attemptedOrdinal = none then
      some .sendFailure
    else none
  | .generic _ => if dispatchStarted then none else some .sendFailure

/-- The second round of receipts, with the numbers of those that failed and of
those that succeeded. -/
def persistAll (reading : Nat → Nat → ReceiptReading) :
    Nat → List Receipt → Wire → Nat × Nat × Wire
  | _, [], wire => (0, 0, wire)
  | index, receipt :: rest, wire =>
    let (answered, wire) :=
      persistReceiptWithRetry (reading index) receipt wire
    let (failures, successes, wire) :=
      persistAll reading (index + 1) rest wire
    if answered then (failures, successes + 1, wire)
    else (failures + 1, successes, wire)

/-- The receipts of a send, one for each ordinal that has a message. -/
def BubbleSendResult.receipts (result : BubbleSendResult) : List Receipt :=
  List.zipWith Receipt.mk result.receiptedOrdinals result.messages

/-- The finalization of a job that sent its bubbles. -/
def finalizeSent (result : BubbleSendResult) (reading : PumpReading)
    (wire : Wire) : Option FinalizeCause × Wire :=
  if result.anySubstantiveContentVisible = false then (some .sendFailure, wire)
  else
    let receipts := result.receipts
    let (receiptFailures, successfulReceipts, wire) :=
      persistAll reading.receiptAgain 0 receipts wire
    if 0 < receiptFailures then
      (if 0 < successfulReceipts then some .deliveryLease else none, wire)
    else if successfulReceipts = 0 ∧ receipts ≠ [] then (none, wire)
    else if successfulReceipts = 0 ∧ receipts = [] ∧ result.messages ≠ [] then
      (none, wire)
    else (some .complete, wire)

/-- What the pump did with a delivery. -/
structure DeliveryReport where
  planned : List PlannedBubble := []
  wire : Wire := {}
  dispatchStarted : Bool := false
  finalized : Option FinalizeCause

def fulfillDelivery (delivery : FulfillmentDelivery) (reading : PumpReading) :
    DeliveryReport :=
  let target := deliveryTarget delivery.destination
  if target.enabled reading = false then { finalized := some .sendFailure }
  else if reading.channelRaised then { finalized := some .deliveryLease }
  else if delivery.allBubbles = [] then { finalized := some .sendFailure }
  else
    let planned := delivery.sentBubbles
    let job := dispatchJob delivery.reservationId target planned reading
    match job.ended with
    | .error thrown =>
      { planned, wire := job.wire, dispatchStarted := job.dispatchStarted
        finalized := finalizeThrown thrown job.dispatchStarted }
    | .ok result =>
      let (finalized, wire) := finalizeSent result reading job.wire
      { planned, wire, dispatchStarted := job.dispatchStarted, finalized }

/-- A reservation that another drain has in flight is passed over. -/
def drainPendingDeliveries
    (deliveries : List (FulfillmentDelivery × PumpReading)) :
    List DeliveryReport :=
  deliveries.filterMap fun (delivery, reading) =>
    if reading.inFlight then none else some (fulfillDelivery delivery reading)

end CognitiveSidecar.Fulfillment
