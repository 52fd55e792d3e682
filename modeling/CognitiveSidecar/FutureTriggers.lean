/-
Future triggers: scheduling, maturity into a wake with its inbox event, and
cancellation.  Whether a due trigger has gone stale is judged from the concern
tables, so the verdict is an input here.
-/
import CognitiveSidecar.CycleInbox

namespace CognitiveSidecar

open Relational

variable [Host]

structure ScheduleFutureTriggerInput where
  (triggerId conversationId concernId snapshotHash : String)
  dueAtMs : Int
  cancelled : Bool := false

def getFutureTrigger (db : Sidecar) (triggerId : String) :
    Option FutureTrigger :=
  db.triggers.get? triggerId

def updateTrigger (db : Sidecar) (triggerId : String)
    (guard : FutureTrigger → Bool) (f : FutureTrigger → FutureTrigger)
    (hkey : ∀ row, key (f row) = key row := by intro; rfl) : Sidecar :=
  { db with
    triggers := db.triggers.update
      (fun row => decide (row.triggerId = triggerId) && guard row) f hkey }

/-- A trigger that already fired or ended answers an identical schedule and
refuses a different one; a scheduled trigger is overwritten. -/
def scheduleFutureTrigger (db : Sidecar) (input : ScheduleFutureTriggerInput) :
    Outcome (FutureTrigger × Sidecar) := do
  require (!blank input.triggerId) .futureTriggerIdRequired
  require (!blank input.conversationId) .futureTriggerConversationRequired
  require (!blank input.concernId) .futureTriggerConcernRequired
  require (!blank input.snapshotHash) .futureTriggerSnapshotRequired
  let status := if input.cancelled then FutureTriggerStatus.cancelled
    else .scheduled
  match getFutureTrigger db input.triggerId with
  | some existing =>
    if existing.status = .scheduled then
      let db := updateTrigger db input.triggerId (fun _ => true) fun row =>
        { row with
          conversationId := input.conversationId
          concernId := input.concernId, dueAtMs := input.dueAtMs
          snapshotHash := input.snapshotHash, status }
      let trigger ← orFault (getFutureTrigger db input.triggerId)
        .futureTriggerScheduleLost
      pure (trigger, db)
    else do
      require (existing.conversationId = input.conversationId ∧
        existing.concernId = input.concernId ∧
        existing.snapshotHash = input.snapshotHash ∧
        existing.dueAtMs = input.dueAtMs) .futureTriggerTerminal
      pure (existing, db)
  | none => do
    let trigger : FutureTrigger :=
      { triggerId := input.triggerId, conversationId := input.conversationId
        concernId := input.concernId, snapshotHash := input.snapshotHash
        dueAtMs := input.dueAtMs, status, wakeId := none }
    let triggers ← orFault (db.triggers.insert? trigger) .uniqueConstraint
    pure (trigger, { db with triggers })

/-- `UPDATE future_triggers SET status, wake_id`; a wake serves one trigger. -/
def bindTriggerWake (db : Sidecar) (triggerId wakeId : String)
    (status : FutureTriggerStatus) (guard : FutureTrigger → Bool) :
    Outcome Sidecar := do
  require (∀ row ∈ db.triggers.rows, row.triggerId ≠ triggerId →
    row.wakeId ≠ some wakeId) .uniqueConstraint
  pure (updateTrigger db triggerId guard fun row =>
    { row with status, wakeId := some wakeId })

def FutureTrigger.eventId (trigger : FutureTrigger) : String :=
  "future-trigger:" ++ trigger.triggerId

/-- The inbox event of a matured trigger, appended unless it exists. -/
def ensureTriggerEvent (db : Sidecar) (trigger : FutureTrigger)
    (wakeId : String) (nowMs : Int) : Outcome (InboxEvent × Sidecar) :=
  match getInboxEvent db trigger.eventId with
  | some existing => pure (existing, db)
  | none =>
    appendInboxEventInTransaction db
      { wakeId := some wakeId, conversationId := trigger.conversationId
        kind := "future_trigger_due", createdAtMs := nowMs } trigger.eventId

inductive TriggerStaleVerdict
  | snapshotMismatch
  | other

inductive FutureTriggerMaturityKind
  | created | existing | needsReview | stale | cancelled

def isTriggerOpen (row : FutureTrigger) : Bool :=
  row.status = .scheduled || row.status = .needsReview

/-- Claim, validate and bind one due trigger. -/
def matureFutureTriggerToWake (db : Sidecar) (triggerId : String)
    (nowMs : Int) (stale : Option TriggerStaleVerdict)
    (capturedTriggerGeneration : Option Int)
    (capturedAuthorityRevision : Int) :
    Outcome (Option FutureTriggerMaturityKind × Sidecar) :=
  match getFutureTrigger db triggerId with
  | none => pure (none, db)
  | some current =>
    if current.status = .cancelled ∨
        (isTriggerOpen current ∧ nowMs < current.dueAtMs) ∨
        (getActiveDeferredFrontier db current.conversationId).isSome then
      pure (none, db)
    else do
      let (admission, db) ← admitWakeInTransaction db
        { occurrenceId := occurrenceIdFor .futureTrigger current.triggerId
            current.conversationId
          triggerRef := current.triggerId, sourceKind := .futureTrigger
          conversationId := current.conversationId
          triggerKind := some .futureTriggerDue, capturedTriggerGeneration
          capturedAuthorityRevision, nowMs }
      let wake := admission.wake
      match admission.kind with
      | .cancelled => pure (some .cancelled, db)
      | .stale => pure (some .stale, db)
      | kind =>
        if current.status = .fired ∧ current.wakeId.any (· ≠ "") ∧
            (getInboxEvent db current.eventId).isSome then
          pure (some .existing, db)
        else
          match if isTriggerOpen current then stale else none with
          | some .snapshotMismatch => do
            let db ← bindTriggerWake db triggerId wake.wakeId
              .needsReview isTriggerOpen
            let (_, db) ← ensureTriggerEvent db current wake.wakeId nowMs
            pure (some .needsReview, db)
          | some .other => do
            let db ← bindTriggerWake db triggerId wake.wakeId
              .suppressedStale isTriggerOpen
            if wake.state = .terminal then pure (some .stale, db)
            else do
              let db ← finishWakeInTransaction db wake.wakeId none
                .noAction nowMs
              pure (some .stale, db)
          | none => do
            let db ← bindTriggerWake db triggerId wake.wakeId .fired
              fun row => isTriggerOpen row || row.status = .fired
            let (_, db) ← ensureTriggerEvent db current wake.wakeId nowMs
            pure (some (if kind = .created then .created else .existing),
              db)

/-- The wake side of a cancelled trigger. -/
def cancelTriggerWake (db : Sidecar) (wakeId : String) (nowMs : Int) :
    Outcome Sidecar :=
  match getWake db wakeId with
  | none => pure db
  | some wake =>
    if wake.state = .terminal then pure db
    else do
      let unresolved := hasAmbiguousEffect db wakeId
      let (_, db) ← recordWakeCancellationInTransaction db wakeId none nowMs
      if unresolved ∨ wake.state = .consequencePending ∨
          wake.state = .reconciling then
        reconcileWakeInTransaction db wakeId nowMs
      else
        -- A lost lease keeps the recorded fence and leaves the wake open.
        match finishWakeInTransaction db wakeId wake.leaseToken .cancelled
          nowMs with
        | .ok db => pure db
        | .error _ => pure db

def isTriggerCancellable (row : FutureTrigger) : Bool :=
  row.status = .scheduled || row.status = .needsReview || row.status = .fired

/-- Cancel a trigger; reports whether the trigger changed. -/
def cancelFutureTrigger (db : Sidecar) (triggerId : String) (nowMs : Int) :
    Outcome (Bool × Sidecar) :=
  match getFutureTrigger db triggerId with
  | none => pure (false, db)
  | some trigger =>
    let wakeBefore := trigger.wakeId.bind (getWake db)
    if trigger.status = .cancelled ∨ trigger.status = .suppressedStale ∨
        (trigger.status = .fired ∧ ¬ trigger.wakeId.any (· ≠ "")) ∨
        wakeBefore.any (fun wake =>
          wake.state = .terminal && wake.terminalReason = some .completed) then
      pure (false, db)
    else do
      let db := updateTrigger db triggerId isTriggerCancellable fun row =>
        { row with status := .cancelled }
      let db ← match trigger.wakeId with
        | some wakeId => cancelTriggerWake db wakeId nowMs
        | none => pure db
      pure (true, db)

end CognitiveSidecar
