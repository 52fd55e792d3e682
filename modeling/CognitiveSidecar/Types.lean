/-
The vocabulary of the cognitive sidecar: states, kinds and reasons as the
schema's CHECK constraints and the record types name them, and one row type for
each durable table.
-/
import CognitiveSidecar.Lib.Table

namespace CognitiveSidecar

open Relational

inductive WakeState
  | pending | claimed | authorized | consequencePending | reconciling | terminal
deriving DecidableEq

inductive WakeTerminalReason
  | completed | noAction | refused | cancelled | expired | quarantined
  | superseded
deriving DecidableEq

inductive WakeSourceKind
  | inbox | futureTrigger | idle | subscription
deriving DecidableEq

/-- The text stored in `wakes.source_kind`. -/
def WakeSourceKind.text : WakeSourceKind → String
  | inbox => "inbox"
  | futureTrigger => "future_trigger"
  | idle => "idle"
  | subscription => "subscription"

inductive CycleTriggerKind
  | ownerMessage | externalMessage | idleOpportunity | commitmentDue
  | subscriptionItem | futureTriggerDue | observationOrReceipt
  | selfChangeResult | domusNotification | recovery
deriving DecidableEq

/-- The text stored in `cycle_records.trigger_kind`. -/
def CycleTriggerKind.text : CycleTriggerKind → String
  | ownerMessage => "owner_message"
  | externalMessage => "external_message"
  | idleOpportunity => "idle_opportunity"
  | commitmentDue => "commitment_due"
  | subscriptionItem => "subscription_item"
  | futureTriggerDue => "future_trigger_due"
  | observationOrReceipt => "observation_or_receipt"
  | selfChangeResult => "self_change_result"
  | domusNotification => "domus_notification"
  | recovery => "recovery"

inductive CycleState
  | admitted | assembling | thinking | awaitingOperation | authorityCheck
  | publishing | sending | capacityWait | silent | idle
deriving DecidableEq

inductive DurableWorkState
  | pending | leased | retryWait | reconciling | terminal | quarantined
deriving DecidableEq

inductive InboxConsumerStatus
  | pending | claimed | consumed | failedRetryable | failedTerminal
deriving DecidableEq

inductive DurableDispatchTruth
  | notStarted | attempted | providerResponded | unknown
deriving DecidableEq

inductive DurableFailureClass
  | transientRetryable | rateLimitedRetryable | permanentTerminal
  | unclassifiedInternal | outcomeUnknownReconcile | staleOrCancelled
deriving DecidableEq

inductive DeferredFrontierState
  | waiting | running | resolved | exhausted
deriving DecidableEq

inductive InFlightState
  | inFlight | receipted | unknown
deriving DecidableEq

inductive EffectOutcome
  | succeeded | failed | outcomeUnknown | notAttempted | inProgress
deriving DecidableEq

inductive PrivateReservationState
  | held | committed | released | reconcileRequired | expired
deriving DecidableEq

inductive PrivateDispatchTruth
  | notBound | notStarted | attempted | responded | unknown
deriving DecidableEq

inductive OutboxSendStatus
  | pending | projecting | projected | sending | delivered
  | partiallyDelivered | sendFailure | suppressed | suppressedShadow
deriving DecidableEq

inductive OutboxOrigin
  | live | shadow
deriving DecidableEq

inductive DeliveryTrigger
  | ownerMessageReactive | externalMessage | idle | commitmentDue
  | futureTrigger | subscription | recovery | operationCompletion
  | selfChangeResult | domusNotification
deriving DecidableEq

inductive DeliveryLane
  | reactive | proactive | socialNotify
deriving DecidableEq

inductive DeliveryPurpose
  | licensedSpeech | systemNotice
deriving DecidableEq

inductive WorkerUndertakingState
  | queued | dispatching | running | succeeded | failed | outcomeUnknown
  | cancelled | superseded | expired
deriving DecidableEq

inductive FutureTriggerStatus
  | scheduled | fired | cancelled | suppressedStale | needsReview
deriving DecidableEq

inductive EvidenceRole
  | owner | ashley | system | externalDialog
deriving DecidableEq

/-- A row of `wakes`. -/
structure Wake where
  (wakeId occurrenceId triggerRef : String)
  sourceKind : WakeSourceKind
  (conversationId cycleId : String)
  state : WakeState
  terminalReason : Option WakeTerminalReason
  capturedTriggerGeneration : Option Int
  capturedAuthorityRevision : Int
  (consequenceChainId leaseOwner leaseToken : Option String)
  leaseExpiresAtMs : Option Int
  cancellationId : Option String
  (createdAtMs updatedAtMs : Int)

instance : Keyed Wake String := ⟨Wake.wakeId⟩

/-- The keys of `payload_json` that the kernel reads back. -/
structure InboxPayload where
  cycleId : Option String := none
  wakeId : Option String := none
  evidenceRowId : Option String := none
  triggerRef : Option String := none
  occupantId : Option String := none
  authorityEpoch : Option Int := none
  ownerId : Option String := none
  discordMessageIds : List String := []
  privateBudgetReservationId : Option String := none
  detachedOperationId : Option String := none
  subsumedByFrontierId : Option String := none
  repairOfEventId : Option String := none

/-- A row of `inbox_events`. -/
structure InboxEvent where
  (id conversationId kind : String)
  payload : InboxPayload
  createdAtMs : Int
  status : InboxConsumerStatus
  state : DurableWorkState
  (claimToken workerId : Option String)
  leaseExpiresAtMs : Option Int
  attemptCount : Nat
  (firstAttemptAtMs nextEligibleAtMs : Option Int)
  lane : String
  priority : Int
  wakeId : Option String
  (claimedAtMs consumedAtMs : Option Int)
  lastError : Option String
  lastFailureClass : Option DurableFailureClass
  (terminalReason quarantineReason repairOfEventId : Option String)

instance : Keyed InboxEvent String := ⟨InboxEvent.id⟩

/-- A row of `durable_work_attempts`. -/
structure Attempt where
  (attemptId eventId : String)
  wakeId : Option String
  ordinal : Nat
  workerId : String
  startedAtMs : Int
  finishedAtMs : Option Int
  dispatchTruth : DurableDispatchTruth
  failureClass : Option DurableFailureClass
  errorCode : Option String

instance : Keyed Attempt String := ⟨Attempt.attemptId⟩

/-- A row of `durable_work_repairs`. -/
structure Repair where
  (repairEventId predecessorEventId authorizationRef : String)
  createdAtMs : Int

instance : Keyed Repair String := ⟨Repair.repairEventId⟩

/-- A row of `cycle_records`. -/
structure Cycle where
  (cycleId conversationId : String)
  generation : Int
  wakeId : Option String
  state : CycleState
  triggerKind : CycleTriggerKind
  triggerRef : String
  occupantId : Option String
  (authorityEpoch admittedAtMs updatedAtMs : Int)
  composeLogIds : List String
  preemptedGeneration : Option Int
  attemptId : Option String
  attemptInputBasis : Option (List String)
  disposition : Option String

instance : Keyed Cycle String := ⟨Cycle.cycleId⟩

/-- A row of `deferred_reactive_frontiers`. -/
structure Frontier where
  (frontierId conversationId cycleId : String)
  generation : Int
  state : DeferredFrontierState
  (nextEligibleAtMs capacityDeadlineAtMs : Int)
  latestEvidenceRowId : String
  claimToken : Option String
  leaseExpiresAtMs : Option Int
  attemptCount : Nat
  (createdAtMs updatedAtMs : Int)
  terminalReason : Option String
deriving DecidableEq

instance : Keyed Frontier String := ⟨Frontier.frontierId⟩

/-- A row of `in_flight_effects`. -/
structure InFlightEffect where
  (effectId cycleId : String)
  generation : Int
  state : InFlightState
  (wakeId originEventId : Option String)

instance : Keyed InFlightEffect String := ⟨InFlightEffect.effectId⟩

/-- A row of `effect_receipts`; the effect has at most one receipt. -/
structure EffectReceipt where
  effectId : String
  outcome : EffectOutcome

instance : Keyed EffectReceipt String := ⟨EffectReceipt.effectId⟩

/-- A row of `private_budget_reservations`. -/
structure PrivateReservation where
  (reservationId wakeId : String)
  state : PrivateReservationState
  (invocationId attemptId : Option String)
  dispatchTruth : PrivateDispatchTruth

instance : Keyed PrivateReservation String := ⟨PrivateReservation.reservationId⟩

/-- A row of `private_budget_attempt_bindings`. -/
structure PrivateAttemptBinding where
  (bindingId reservationId : String)
  ordinal : Nat
  dispatchTruth : PrivateDispatchTruth

instance : Keyed PrivateAttemptBinding String := ⟨PrivateAttemptBinding.bindingId⟩

/-- The social lifecycle that a delivery carries. -/
structure SocialLifecycle where
  consequenceChainId : String
  attemptId : Option String
deriving DecidableEq

/-- Where a speech row is to be delivered; `other` is the text of the keys that
are carried through unread. -/
structure DeliveryIntent where
  (ownerId channel threadId conversationId : String)
  trigger : DeliveryTrigger
  deliveryLane : DeliveryLane
  purpose : DeliveryPurpose
  commitmentBindings : List String := []
  socialLifecycle : Option SocialLifecycle := none
  other : String := ""
deriving DecidableEq

/-- A row of `speech_outbox`. -/
structure OutboxRow where
  outboxId : Nat
  (settlementId projectionKey conversationId cycleId : String)
  generation : Int
  licensedText : String
  sendStatus : OutboxSendStatus
  nuclearReservationId : Option Nat
  discordMessageIds : List String
  suppressed : Bool
  origin : OutboxOrigin
  deliveryIntent : DeliveryIntent
  finalizationReason : Option String
deriving DecidableEq

instance : Keyed OutboxRow Nat := ⟨OutboxRow.outboxId⟩

/-- A row of `worker_undertakings` that originates in an Owner request. -/
structure OwnerUndertaking where
  (undertakingId conversationId originCycleId : String)
  state : WorkerUndertakingState

instance : Keyed OwnerUndertaking String := ⟨OwnerUndertaking.undertakingId⟩

/-- A row of `retry_lane_fairness`. -/
structure LaneFairness where
  (lane conversationId : String)
  lastServedAtMs : Int

instance : Keyed LaneFairness (String × String) :=
  ⟨fun row => (row.lane, row.conversationId)⟩

/-- A row of `future_triggers`. -/
structure FutureTrigger where
  (triggerId conversationId concernId snapshotHash : String)
  dueAtMs : Int
  status : FutureTriggerStatus
  wakeId : Option String

instance : Keyed FutureTrigger String := ⟨FutureTrigger.triggerId⟩

/-- A row of `conversation_evidence_log`. -/
structure Evidence where
  (rowId lineageId : String)
  version : Nat
  conversationId : String
  role : EvidenceRole
  text : Option String
  createdAtMs : Int
  discordMessageIds : List String
  secretOmitted : Bool

instance : Keyed Evidence String := ⟨Evidence.rowId⟩

/-- A row of `conversation_evidence_discord_ids`. -/
structure DiscordBinding where
  (discordMessageId conversationId lineageId : String)
  ordinal : Nat

instance : Keyed DiscordBinding String := ⟨DiscordBinding.discordMessageId⟩

end CognitiveSidecar
