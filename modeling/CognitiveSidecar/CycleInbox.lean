/-
Cycle records and the inbox: admission of a cycle under its wake, the compose
log, ownership of an occupied conversation, and the insertion of an inbox event.
-/
import CognitiveSidecar.WakeLedger

namespace CognitiveSidecar

open Relational

variable [Host]

def Cycle.isOccupying (row : Cycle) : Bool :=
  row.state ≠ .silent && row.state ≠ .idle

/-- A row without a wake is legacy residue and reads as absent. -/
def getCycle (db : Sidecar) (cycleId : String) : Option Cycle :=
  (db.cycles.get? cycleId).filter (·.wakeId.any (· ≠ ""))

def cycleForWake (db : Sidecar) (wakeId : String) : Option Cycle :=
  (db.cycles.rows.find? (·.wakeId = some wakeId)).filter
    (·.wakeId.any (· ≠ ""))

/-- `ORDER BY generation DESC, updated_at_ms DESC`. -/
def Cycle.newerThan (left right : Cycle) : Prop :=
  right.generation < left.generation ∨
    (left.generation = right.generation ∧ right.updatedAtMs ≤ left.updatedAtMs)

instance : DecidableRel Cycle.newerThan := fun _ _ =>
  inferInstanceAs (Decidable (_ ∨ _))

def getCurrentCycle (db : Sidecar) (conversationId : String)
    (includeIdle : Bool := false) : Option Cycle :=
  ((db.cycles.rows.filter fun row =>
      row.conversationId = conversationId &&
        (includeIdle || row.isOccupying)).insertionSort Cycle.newerThan).head?.filter
    (·.wakeId.any (· ≠ ""))

/-- Wake states that allow composition and durable claim without prior
reconciliation. -/
def isComposableWake (wake : Wake) : Bool :=
  wake.state ≠ .terminal && wake.state ≠ .reconciling &&
    wake.state ≠ .consequencePending

def hasActiveOwnerWorkerUndertaking (db : Sidecar)
    (conversationId originCycleId : String) : Bool :=
  !blank conversationId && db.undertakings.rows.any fun row =>
    row.conversationId = conversationId &&
      (originCycleId = "" || row.originCycleId = originCycleId) &&
      (row.state = .queued || row.state = .dispatching || row.state = .running)

/-- An outbox row that delivery has not finished with. -/
def OutboxRow.isUndelivered (row : OutboxRow) : Bool :=
  row.sendStatus ∉ [OutboxSendStatus.delivered, .partiallyDelivered,
    .sendFailure, .suppressed, .suppressedShadow] && !row.suppressed

def hasValidDurableContinuationOwner (db : Sidecar) (cycle : Cycle) : Bool :=
  cycle.isOccupying &&
    (hasActiveOwnerWorkerUndertaking db cycle.conversationId cycle.cycleId ||
      match cycle.state with
      | .capacityWait =>
        db.frontiers.rows.any fun row =>
          row.cycleId = cycle.cycleId && row.isActive
      | .sending =>
        db.outbox.rows.any fun row =>
          row.cycleId = cycle.cycleId && row.isUndelivered
      | _ => (cycle.wakeId.bind (getWake db)).any (·.state ≠ .terminal))

inductive DurableContinuationOwnerResolution
  | validOwner (cycle : Cycle) (wake : Wake)
  | provenNoOwner (cycle : Cycle) (wake : Wake)
  | indeterminateIdentity

/-- From a reservation's wake to its exact cycle; a missing or contradictory
identity is never read as ownerless. -/
def resolveDurableContinuationOwner (db : Sidecar)
    (wakeId conversationId : String) : DurableContinuationOwnerResolution :=
  if wakeId = "" ∨ conversationId = "" then .indeterminateIdentity
  else
    match getWake db wakeId with
    | none => .indeterminateIdentity
    | some wake =>
      if wake.cycleId = "" then .indeterminateIdentity
      else
        match getCycle db wake.cycleId with
        | none => .indeterminateIdentity
        | some cycle =>
          if cycle.conversationId ≠ conversationId ∨
              cycle.wakeId ≠ some wakeId then .indeterminateIdentity
          else if hasValidDurableContinuationOwner db cycle then
            .validOwner cycle wake
          else .provenNoOwner cycle wake

def updateCycleState (db : Sidecar) (cycleId : String) (state : CycleState)
    (nowMs : Int) : Outcome Sidecar := do
  let db := db.updateCycle cycleId fun row =>
    { row with state, updatedAtMs := nowMs }
  let _ ← orFault (getCycle db cycleId) .cycleMissing
  pure db

/-- Evidence references join the compose log once, in arrival order. -/
def appendCycleLogIds (db : Sidecar) (cycleId : String) (logIds : List String)
    (nowMs : Int) : Outcome (Cycle × Sidecar) := do
  let cycle ← orFault (getCycle db cycleId) .cycleMissing
  let merged := (cycle.composeLogIds ++ logIds.filter (· ≠ "")).eraseDups
  let db := db.updateCycle cycleId fun row =>
    { row with composeLogIds := merged, updatedAtMs := nowMs }
  let cycle ← orFault (getCycle db cycleId) .cycleMissing
  pure (cycle, db)

structure AdmitCycleInput where
  (conversationId wakeId : String)
  cycleId : Option String := none
  triggerKind : CycleTriggerKind
  triggerRef : Option String := none
  occupantId : Option String := none
  authorityEpoch : Int := 1
  nowMs : Int
  preemptedGeneration : Option Int := none

/-- Admit only a cycle that already belongs to a durable wake. -/
def admitCycleInTransaction (db : Sidecar) (input : AdmitCycleInput) :
    Outcome (Cycle × Sidecar) := do
  require (!blank input.conversationId) .conversationIdRequired
  require (!blank input.wakeId) .wakeRequired
  let wake ← getWakeRequired db input.wakeId
  require (wake.state ≠ .terminal) .wakeTerminal
  require (wake.conversationId = input.conversationId)
    .wakeConversationConflict
  require (∀ requested ∈ input.cycleId, requested ≠ "" →
    requested = wake.cycleId) .wakeCycleConflict
  match cycleForWake db wake.wakeId with
  | some existing => do
    require (∀ requested ∈ input.cycleId, requested ≠ "" →
      existing.cycleId = requested) .wakeCycleConflict
    pure (existing, db)
  | none => do
    let cycleId := input.cycleId.getD wake.cycleId
    match db.cycles.get? cycleId with
    | some existing => do
      require (existing.wakeId = some wake.wakeId) .wakeCycleConflict
      pure (existing, db)
    | none => do
      require (∀ frontier ∈
        getActiveDeferredFrontier db input.conversationId,
        frontier.cycleId = cycleId) .conversationOccupiedByFrontier
      let cycle := admittedCycle cycleId input.conversationId
        (nextConversationGeneration db input.conversationId) wake.wakeId
        input.triggerKind (input.triggerRef.getD wake.triggerRef)
        input.occupantId input.authorityEpoch input.nowMs
        input.preemptedGeneration
      let db ← insertCycle db cycle
      pure (cycle, db)

structure AppendInboxEventInput where
  wakeId : Option String := none
  (conversationId kind : String)
  payload : InboxPayload := {}
  createdAtMs : Int
  capturedAuthorityRevision : Int := 0
  initialTerminalReason : Option String := none

def triggerKindForInbox (kind : String) : CycleTriggerKind :=
  if kind = "external_message" ∨ kind = "external_utterance" then
    .externalMessage
  else if kind = "future_trigger_due" then .futureTriggerDue
  else if kind = "idle_opportunity" then .idleOpportunity
  else if kind = "commitment_due" then .commitmentDue
  else if kind = "subscription_item" then .subscriptionItem
  else if kind = "self_change_result" then .selfChangeResult
  else if kind = "domus_notification" then .domusNotification
  else if kind = "observation_or_receipt" then .observationOrReceipt
  else if kind = "recovery" then .recovery
  else if kind = "control_settlement_receipt" then .observationOrReceipt
  else .ownerMessage

def getInboxEvent (db : Sidecar) (id : String) : Option InboxEvent :=
  (db.events.get? id).filter (·.wakeId.any (· ≠ ""))

/-- The row written for a new inbox event. -/
def newInboxEvent (input : AppendInboxEventInput) (id cycleId wakeId : String) :
    InboxEvent :=
  let isTerminal := input.initialTerminalReason.any (· ≠ "")
  { id, conversationId := input.conversationId, kind := input.kind
    payload :=
      { input.payload with cycleId := some cycleId, wakeId := some wakeId }
    createdAtMs := input.createdAtMs
    status := if isTerminal then .consumed else .pending
    state := if isTerminal then .terminal else .pending
    claimToken := none, workerId := none, leaseExpiresAtMs := none
    attemptCount := 0, firstAttemptAtMs := none, nextEligibleAtMs := none
    lane := "interactive", priority := 0, wakeId := some wakeId
    claimedAtMs := none
    consumedAtMs := if isTerminal then some input.createdAtMs else none
    lastError := none, lastFailureClass := none
    terminalReason := input.initialTerminalReason, quarantineReason := none
    repairOfEventId := none }

/-- The wake a new event belongs to: the one it names, the one of the cycle it
names, or a freshly admitted one. -/
def wakeForNewEvent (db : Sidecar) (input : AppendInboxEventInput)
    (id : String) : Outcome (String × Sidecar) :=
  let named := input.wakeId.filter (· ≠ "")
  let ofCycle := (input.payload.cycleId.filter (· ≠ "")).bind fun cycleId =>
    (getCycle db cycleId).bind Cycle.wakeId
  match named.or ofCycle with
  | some wakeId => pure (wakeId, db)
  | none => do
    let (admission, db) ← admitWakeInTransaction db
      { occurrenceId := occurrenceIdFor .inbox id input.conversationId
        triggerRef := id, sourceKind := .inbox
        conversationId := input.conversationId, cycleId := input.payload.cycleId
        triggerKind := some (triggerKindForInbox input.kind)
        occupantId := input.payload.occupantId
        authorityEpoch := input.payload.authorityEpoch.getD 1
        capturedAuthorityRevision := input.capturedAuthorityRevision
        nowMs := input.createdAtMs }
    require (admission.kind ≠ .cancelled ∧ admission.kind ≠ .stale)
      .wakeTerminal
    pure (admission.wake.wakeId, db)

def appendInboxEventInTransaction (db : Sidecar) (input : AppendInboxEventInput)
    (id : String) : Outcome (InboxEvent × Sidecar) :=
  match getInboxEvent db id with
  | some existing => pure (existing, db)
  | none => do
    let (wakeId, db) ← wakeForNewEvent db input id
    let wake ← getWakeRequired db wakeId
    require (wake.conversationId = input.conversationId)
      .wakeConversationConflict
    let (cycle, db) ← admitCycleInTransaction db
      { conversationId := input.conversationId, wakeId
        cycleId := input.payload.cycleId
        triggerKind := triggerKindForInbox input.kind
        triggerRef := some (input.payload.triggerRef.getD wake.triggerRef)
        occupantId := input.payload.occupantId
        authorityEpoch := input.payload.authorityEpoch.getD 1
        nowMs := input.createdAtMs }
    let event := newInboxEvent input id cycle.cycleId wakeId
    let events ← orFault (db.events.insert? event) .uniqueConstraint
    pure (event, { db with events })

/-- Inbox admission with an optional caller-chosen identifier. -/
def appendInboxEvent (db : Sidecar) (input : AppendInboxEventInput)
    (id : Option String) : Outcome (InboxEvent × Sidecar) :=
  match id with
  | some id => appendInboxEventInTransaction db input id
  | none =>
    let (uuid, db) := db.drawUUID
    appendInboxEventInTransaction db input uuid

end CognitiveSidecar
