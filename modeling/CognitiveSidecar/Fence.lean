/-
The composition fence: an incoming message either joins the current cycle or
preempts it with a new generation.
-/
import CognitiveSidecar.CycleInbox

namespace CognitiveSidecar

open Relational

variable [Host]

structure ComposeOrPreemptInput where
  conversationId : String
  evidenceRowIds : List String := []
  triggerKind : CycleTriggerKind := .ownerMessage
  triggerRef : Option String := none
  occupantId : Option String := none
  authorityEpoch : Option Int := none
  nowMs : Int

inductive FenceAction
  | compose | preempt
deriving DecidableEq

structure ComposeOrPreemptResult where
  action : FenceAction
  cycle : Cycle
  preemptedGeneration : Option Int

/-- Cycles nobody asked for. -/
def isUnsolicitedTriggerKind (kind : CycleTriggerKind) : Bool :=
  kind ∈ [CycleTriggerKind.idleOpportunity, .futureTriggerDue,
    .subscriptionItem, .selfChangeResult, .domusNotification]

def hasPublishedOutbox (db : Sidecar) (conversationId : String)
    (generation : Int) : Bool :=
  db.outbox.rows.any fun row =>
    row.conversationId = conversationId && row.generation = generation

def hasEffectfulInFlight (db : Sidecar) (cycleId : String)
    (generation : Int) : Bool :=
  db.effects.rows.any fun row =>
    row.cycleId = cycleId && row.generation = generation &&
      (row.state = .inFlight || row.state = .unknown)

def isOwnerObligationEventKind (kind : String) : Bool :=
  kind = "owner_message" || kind = "owner_utterance"

/-- A live Owner event keeps its preempted wake claimable. -/
def hasLiveOwnerContinuation (db : Sidecar) (wakeId : String) : Bool :=
  db.events.rows.any fun row =>
    row.wakeId = some wakeId && isOwnerObligationEventKind row.kind &&
      (row.state = .pending || row.state = .retryWait || row.state = .leased)

def retainWakeForOwnerContinuation (db : Sidecar) (wakeId : String)
    (nowMs : Int) : Sidecar :=
  db.updateWake wakeId (fun row => row.state ≠ .terminal) fun row =>
    row.unleased .pending nowMs

def suppressUndeliveredOutbox (db : Sidecar) (conversationId : String)
    (generation : Int) (reason : String) : Sidecar :=
  { db with
    outbox := db.outbox.update
      (fun row =>
        row.sendStatus ∉ [OutboxSendStatus.delivered, .suppressed,
          .suppressedShadow] &&
        (conversationId = "" || row.conversationId = conversationId) &&
        row.generation = generation)
      fun row =>
        { row with
          sendStatus := .suppressed, suppressed := true
          finalizationReason := some reason } }

/-- What preemption does to the wake of the preempted cycle. -/
def releasePreemptedWake (db : Sidecar) (wakeId : String)
    (isZombie effectful : Bool) (nowMs : Int) : Outcome Sidecar :=
  match getWake db wakeId with
  | none => pure db
  | some wake =>
    if wake.state = .terminal then pure db
    else do
      let (_, db) ← recordWakeCancellationInTransaction db wakeId none nowMs
      if !isZombie && effectful then
        reconcileWakeInTransaction db wakeId nowMs
      else if wake.state = .reconciling ∨ wake.state = .consequencePending then
        pure db
      else if !isZombie && hasLiveOwnerContinuation db wakeId then
        -- The covered Owner obligation settles before the wake closes.
        pure (retainWakeForOwnerContinuation db wakeId nowMs)
      else
        finishWakeInTransaction db wakeId wake.leaseToken .cancelled nowMs

/-- The current cycle after evidence was appended, or the cycle appended to. -/
def finalCycle (db : Sidecar) (input : ComposeOrPreemptInput) (cycle : Cycle) :
    Cycle :=
  if input.evidenceRowIds = [] then cycle
  else (getCurrentCycle db input.conversationId).getD cycle

def ComposeOrPreemptInput.ref (input : ComposeOrPreemptInput) : String :=
  input.triggerRef.getD (input.triggerKind.text ++ ":" ++ toString input.nowMs)

/-- The wake that the fence admits for a new generation. -/
def ComposeOrPreemptInput.wakeAdmission (input : ComposeOrPreemptInput)
    (generation : Option Int) (occupantId : Option String)
    (authorityEpoch preemptedGeneration : Option Int) : WakeAdmissionInput :=
  { occurrenceId := occurrenceIdFor .inbox input.ref input.conversationId
    triggerRef := input.ref, sourceKind := .inbox
    conversationId := input.conversationId, generation
    triggerKind := some input.triggerKind, occupantId
    authorityEpoch := authorityEpoch.getD 1, nowMs := input.nowMs
    preemptedGeneration }

/-- Admit the wake and the cycle of a new generation. -/
def admitGeneration (db : Sidecar) (input : ComposeOrPreemptInput)
    (generation : Option Int) (occupantId : Option String)
    (authorityEpoch : Option Int) (preemptedGeneration : Option Int) :
    Outcome (Cycle × Sidecar) := do
  let (admission, db) ← admitWakeInTransaction db
    (input.wakeAdmission generation occupantId authorityEpoch
      preemptedGeneration)
  require (admission.kind ≠ .cancelled ∧ admission.kind ≠ .stale) .wakeTerminal
  admitCycleInTransaction db
    { conversationId := input.conversationId, wakeId := admission.wake.wakeId
      triggerKind := input.triggerKind, triggerRef := some input.ref, occupantId
      authorityEpoch := authorityEpoch.getD 1, nowMs := input.nowMs
      preemptedGeneration }

/-- Append evidence to a cycle unless there is none. -/
def appendEvidenceRefs (db : Sidecar) (cycle : Cycle) (refs : List String)
    (nowMs : Int) : Outcome (Cycle × Sidecar) :=
  if refs = [] then pure (cycle, db)
  else do
    let (_, db) ← appendCycleLogIds db cycle.cycleId refs nowMs
    pure (cycle, db)

def composeOrPreemptInTransaction (db : Sidecar)
    (input : ComposeOrPreemptInput) :
    Outcome (ComposeOrPreemptResult × Sidecar) :=
  match getCurrentCycle db input.conversationId with
  | none => do
    let (cycle, db) ← admitGeneration db input none input.occupantId
      input.authorityEpoch none
    let (cycle, db) ← appendEvidenceRefs db cycle input.evidenceRowIds
      input.nowMs
    pure (⟨.compose, finalCycle db input cycle, none⟩, db)
  | some current => do
    let wake := current.wakeId.bind (getWake db)
    -- An Owner message never folds into a pass started on her own.
    let ownerInterruptsPrivatePass := input.triggerKind = .ownerMessage &&
      isUnsolicitedTriggerKind current.triggerKind
    let composable := wake.any isComposableWake && !ownerInterruptsPrivatePass
    let isZombie := !hasValidDurableContinuationOwner db current
    let effectful := !isZombie &&
      hasEffectfulInFlight db current.cycleId current.generation
    let published := !isZombie &&
      hasPublishedOutbox db input.conversationId current.generation
    if !isZombie && composable && !effectful && !published then do
      let (cycle, db) ← appendCycleLogIds db current.cycleId
        input.evidenceRowIds input.nowMs
      let db ← match cycle.wakeId with
        | some wakeId => do
          let (_, db) ← recordWakeCancellationInTransaction db wakeId none
            input.nowMs
          pure db
        | none => pure db
      pure (⟨.compose, cycle, none⟩, db)
    else do
      let db := suppressUndeliveredOutbox db input.conversationId
        current.generation
        (if isZombie then "preempted_zombie_cycle"
          else "preempted_by_new_generation")
      let db := db.updateCycle current.cycleId fun row =>
        { row with state := .silent, updatedAtMs := input.nowMs }
      let db ← match current.wakeId with
        | some wakeId =>
          releasePreemptedWake db wakeId isZombie effectful input.nowMs
        | none => pure db
      let (cycle, db) ← admitGeneration db input
        (some (nextConversationGeneration db input.conversationId))
        (input.occupantId.or (some (current.occupantId.getD "")))
        (input.authorityEpoch.or (some current.authorityEpoch))
        (some current.generation)
      -- The successor inherits the outstanding obligation refs.
      let (cycle, db) ← appendEvidenceRefs db cycle
        (current.composeLogIds ++ input.evidenceRowIds).eraseDups input.nowMs
      pure (⟨.preempt, finalCycle db input cycle,
        some current.generation⟩, db)

/-- `conversation_id LIKE 'room:%'`, which ignores case. -/
def isRoomConversation (conversationId : String) : Bool :=
  (conversationId.toList.take 5).map Char.toLower = "room:".toList

/-- Suspend external work for an Owner turn, keeping its basis and queue. -/
def preemptExternalAttemptInTransaction (db : Sidecar) (nowMs : Int)
    (cycleId : String) : Outcome Sidecar := do
  let cycle ← orFault (getCycle db cycleId) .cycleMissing
  require ("dm:".toList <+: cycle.conversationId.toList ∨
    "room:".toList <+: cycle.conversationId.toList ∨
    cycle.triggerKind = .externalMessage) .externalCycleRequired
  let db ← match cycle.wakeId with
    | some wakeId => do
      let (_, db) ← recordWakeCancellationInTransaction db wakeId none nowMs
      pure db
    | none => pure db
  require (cycle.attemptId.any (· ≠ "") → cycle.attemptInputBasis.isSome)
    .basisMissing
  pure (db.updateCycle cycleId fun row =>
    { row with
      state := .silent, disposition := some "owner_preempted"
      updatedAtMs := nowMs })

/-- `ORDER BY admitted_at_ms ASC, cycle_id ASC`. -/
def Cycle.admittedBefore (left right : Cycle) : Prop :=
  left.admittedAtMs < right.admittedAtMs ∨
    (left.admittedAtMs = right.admittedAtMs ∧ left.cycleId ≤ right.cycleId)

instance : DecidableRel Cycle.admittedBefore := fun _ _ =>
  inferInstanceAs (Decidable (_ ∨ _))

/-- Persist Owner precedence over all active room work. -/
def preemptExternalRoomAttemptsInTransaction (db : Sidecar) (nowMs : Int) :
    Outcome Sidecar :=
  let ids := ((db.cycles.rows.filter fun row =>
    isRoomConversation row.conversationId &&
      row.triggerKind = .externalMessage && row.isOccupying).insertionSort
    Cycle.admittedBefore).map Cycle.cycleId
  eachOf (fun db cycleId =>
    preemptExternalAttemptInTransaction db nowMs cycleId) db
    (ids.filter fun cycleId => !blank cycleId)

end CognitiveSidecar
