/-
The wake ledger: admission, lease, authorization, consequence, cancellation,
terminalization and recovery of wakes.
-/
import CognitiveSidecar.FrontierLedger
import Mathlib.Data.List.Sort

namespace CognitiveSidecar

open Relational

variable [Host]

def occurrenceIdFor (sourceKind : WakeSourceKind)
    (triggerRef conversationId : String) : String :=
  "wake-occurrence:" ++
    Host.sha256 [[sourceKind.text], [triggerRef], [conversationId]]

def wakeIdFor (occurrenceId : String) : String :=
  "wake:" ++ Host.sha256 [[occurrenceId]]

def cycleIdFor (wakeId : String) : String := "cycle:" ++ Host.sha256 [[wakeId]]

omit [Host] in
def getWake (db : Sidecar) (wakeId : String) : Option Wake :=
  db.wakes.get? wakeId

def getWakeRequired (db : Sidecar) (wakeId : String) : Outcome Wake :=
  orFault (getWake db wakeId) .wakeMissing

/-- An effect of the wake that is in flight or whose outcome is unknown. -/
def getUnresolvedInFlightForWake (db : Sidecar) (wakeId : String) :
    Option InFlightEffect :=
  db.effects.rows.find? fun row =>
    row.wakeId = some wakeId && (row.state = .inFlight || row.state = .unknown)

def hasAmbiguousEffect (db : Sidecar) (wakeId : String) : Bool :=
  (getUnresolvedInFlightForWake db wakeId).isSome

structure WakeAdmissionInput where
  (occurrenceId triggerRef : String)
  sourceKind : WakeSourceKind
  conversationId : String
  cycleId : Option String := none
  generation : Option Int := none
  triggerKind : Option CycleTriggerKind := none
  occupantId : Option String := none
  authorityEpoch : Int := 1
  preemptedGeneration : Option Int := none
  capturedTriggerGeneration : Option Int := none
  capturedAuthorityRevision : Int := 0
  nowMs : Int

inductive WakeAdmissionKind
  | created | existing | stale | cancelled
deriving DecidableEq

structure WakeAdmissionResult where
  kind : WakeAdmissionKind
  wake : Wake

def sourceTriggerKind : WakeSourceKind → CycleTriggerKind
  | .futureTrigger => .futureTriggerDue
  | .idle => .idleOpportunity
  | .subscription => .subscriptionItem
  | .inbox => .ownerMessage

/-- `MAX(generation) + 1` over the cycles of a conversation. -/
def nextConversationGeneration (db : Sidecar) (conversationId : String) : Int :=
  ((db.cycles.rows.filter (·.conversationId = conversationId)).map
    Cycle.generation).max?.getD 0 + 1

/-- Insert a cycle row; a wake owns at most one cycle. -/
def insertCycle (db : Sidecar) (row : Cycle) : Outcome Sidecar := do
  require (∀ old ∈ db.cycles.rows, old.wakeId ≠ row.wakeId) .uniqueConstraint
  let cycles ← orFault (db.cycles.insert? row) .uniqueConstraint
  pure { db with cycles }

/-- The fresh cycle row written for a wake. -/
def admittedCycle (cycleId conversationId : String) (generation : Int)
    (wakeId : String) (triggerKind : CycleTriggerKind) (triggerRef : String)
    (occupantId : Option String) (authorityEpoch nowMs : Int)
    (preemptedGeneration : Option Int) : Cycle :=
  { cycleId, conversationId, generation, wakeId := some wakeId
    state := .admitted, triggerKind, triggerRef, occupantId, authorityEpoch
    admittedAtMs := nowMs, updatedAtMs := nowMs, composeLogIds := []
    preemptedGeneration, attemptId := none, attemptInputBasis := none
    disposition := none }

def ensureCycleInTransaction (db : Sidecar) (input : WakeAdmissionInput)
    (wake : Wake) : Outcome Sidecar := do
  require (∀ requested ∈ input.cycleId, requested ≠ "" → wake.cycleId ≠ "" →
    requested = wake.cycleId) .wakeCycleConflict
  let cycleId := input.cycleId.getD wake.cycleId
  match db.cycles.get? cycleId with
  | some existing => do
    require (existing.wakeId = none ∨ existing.wakeId = some wake.wakeId)
      .wakeCycleConflict
    require (existing.conversationId = input.conversationId)
      .wakeConversationConflict
    if existing.wakeId = none then do
      -- Only a legacy row lacks its wake; the unique index still applies.
      require (∀ old ∈ db.cycles.rows, old.wakeId ≠ some wake.wakeId)
        .uniqueConstraint
      pure (db.updateCycle cycleId fun row =>
        { row with wakeId := some wake.wakeId })
    else pure db
  | none => do
    require (∀ frontier ∈ getActiveDeferredFrontier db input.conversationId,
      frontier.cycleId = cycleId) .conversationOccupiedByFrontier
    insertCycle db <| admittedCycle cycleId input.conversationId
      (input.generation.getD
        (nextConversationGeneration db input.conversationId))
      wake.wakeId (input.triggerKind.getD (sourceTriggerKind input.sourceKind))
      input.triggerRef input.occupantId input.authorityEpoch input.nowMs
      input.preemptedGeneration

/-- How an occurrence that already has a wake answers a second admission. -/
def existingAdmissionKind (wake : Wake) : WakeAdmissionKind :=
  if wake.state = .terminal ∧ wake.terminalReason = some .cancelled then
    .cancelled
  else if wake.state = .terminal ∧
      wake.terminalReason ∈ [some WakeTerminalReason.noAction, some .expired,
        some .quarantined, some .superseded] then
    .stale
  else .existing

def admitWakeInTransaction (db : Sidecar) (input : WakeAdmissionInput) :
    Outcome (WakeAdmissionResult × Sidecar) := do
  require (!blank input.occurrenceId) .occurrenceRequired
  require (!blank input.triggerRef) .triggerRefRequired
  require (!blank input.conversationId) .conversationRequired
  require (0 ≤ input.capturedAuthorityRevision) .authorityRevisionInvalid
  match db.wakes.rows.find? (·.occurrenceId = input.occurrenceId) with
  | some existing => do
    require (existing.triggerRef = input.triggerRef ∧
      existing.sourceKind = input.sourceKind ∧
      existing.conversationId = input.conversationId ∧
      ∀ requested ∈ input.cycleId, existing.cycleId = requested)
      .occurrenceConflict
    let db ← ensureCycleInTransaction db input existing
    pure (⟨existingAdmissionKind existing, existing⟩, db)
  | none => do
    let wakeId := wakeIdFor input.occurrenceId
    require (getWake db wakeId = none) .occurrenceConflict
    let cycleId := input.cycleId.getD (cycleIdFor wakeId)
    require (∀ row ∈ db.cycles.get? cycleId,
      row.wakeId = none ∨ row.wakeId = some wakeId) .wakeCycleConflict
    -- `cycle_id` is unique over the wakes.
    require (∀ row ∈ db.wakes.rows, row.cycleId ≠ cycleId) .uniqueConstraint
    let wake : Wake :=
      { wakeId, occurrenceId := input.occurrenceId
        triggerRef := input.triggerRef, sourceKind := input.sourceKind
        conversationId := input.conversationId, cycleId
        state := .pending, terminalReason := none
        capturedTriggerGeneration := input.capturedTriggerGeneration
        capturedAuthorityRevision := input.capturedAuthorityRevision
        consequenceChainId := none, leaseOwner := none, leaseToken := none
        leaseExpiresAtMs := none, cancellationId := none
        createdAtMs := input.nowMs, updatedAtMs := input.nowMs }
    let wakes ← orFault (db.wakes.insert? wake) .uniqueConstraint
    let db ← ensureCycleInTransaction { db with wakes } input wake
    pure (⟨.created, wake⟩, db)

/-- Longest lease that a caller may ask for. -/
def maxLeaseMs : Int := 15 * 60000

/-- `Math.max(1, Math.min(15 * 60_000, leaseMs))`. -/
def boundedLeaseMs (leaseMs : Int) : Int := max 1 (min maxLeaseMs leaseMs)

/-- `Number.isSafeInteger`. -/
def isSafeInteger (n : Int) : Bool :=
  -9007199254740991 ≤ n && n ≤ 9007199254740991

/-- The lease has an expiry that lies at or before `nowMs`. -/
def Wake.leaseRanOut (row : Wake) (nowMs : Int) : Bool :=
  row.leaseExpiresAtMs.any (· ≤ nowMs)

/-- The lease has an expiry that lies after `nowMs`. -/
def Wake.leaseRuns (row : Wake) (nowMs : Int) : Bool :=
  row.leaseExpiresAtMs.any (nowMs < ·)

/-- Move a wake to a state and drop its lease. -/
@[reducible]
def Wake.released (row : Wake) (state : WakeState) (nowMs : Int) : Wake :=
  { row with
    state, leaseOwner := none, leaseToken := none, leaseExpiresAtMs := none
    updatedAtMs := nowMs }

/-- Move a wake to an open state and drop its lease. -/
@[reducible]
def Wake.unleased (row : Wake) (state : WakeState) (nowMs : Int) : Wake :=
  { row.released state nowMs with terminalReason := none }

/-- Close a wake with its terminal reason. -/
@[reducible]
def Wake.closed (row : Wake) (reason : WakeTerminalReason) (nowMs : Int) : Wake :=
  { row.released .terminal nowMs with terminalReason := some reason }

omit [Host] in
theorem Wake.released_key (state : WakeState) (nowMs : Int) (row : Wake) :
    key (row.released state nowMs) = key row := rfl

omit [Host] in
theorem Wake.unleased_key (state : WakeState) (nowMs : Int) (row : Wake) :
    key (row.unleased state nowMs) = key row := rfl

omit [Host] in
theorem Wake.closed_key (reason : WakeTerminalReason) (nowMs : Int)
    (row : Wake) : key (row.closed reason nowMs) = key row := rfl

@[reducible]
def Wake.leased (row : Wake) (workerId leaseToken : String)
    (leaseMs nowMs : Int) : Wake :=
  { row with
    state := .claimed, leaseOwner := some workerId
    leaseToken := some leaseToken, leaseExpiresAtMs := some (nowMs + leaseMs)
    updatedAtMs := nowMs }

/-- The guard of the claiming UPDATE. -/
def Wake.isClaimable (row : Wake) (nowMs : Int) : Bool :=
  row.state = .pending ||
    (row.state = .claimed && !row.leaseRuns nowMs)

def claimWakeInTransaction (db : Sidecar) (wakeId workerId : String)
    (nowMs leaseMs : Int) : Outcome (String × Sidecar) := do
  let current ← getWakeRequired db wakeId
  require (current.state ≠ .terminal) .wakeTerminal
  require (current.state ≠ .reconciling ∧ current.state ≠ .consequencePending)
    .wakeReconciliationRequired
  require (current.state = .authorized → current.leaseRanOut nowMs)
    .wakeNotClaimable
  require (current.state = .authorized → ¬ hasAmbiguousEffect db wakeId)
    .receiptReconciliationRequired
  -- An expired authorization first falls back to a pending wake.
  let db := db.updateWake wakeId
    (fun row => current.state = .authorized && row.state = .authorized)
    fun row => row.released .pending nowMs
  require (¬ (current.state = .claimed ∧ current.leaseRuns nowMs)) .leaseHeld
  let (uuid, db) := db.drawUUID
  let leaseToken := "wake-lease:" ++ uuid
  require ((getWake db wakeId).any (·.isClaimable nowMs)) .wakeClaimLost
  require (∀ row ∈ db.wakes.rows, row.leaseToken ≠ some leaseToken)
    .uniqueConstraint
  pure (leaseToken, db.updateWake wakeId (·.isClaimable nowMs) fun row =>
    row.leased workerId leaseToken leaseMs nowMs)

structure RenewWakeLeaseInput where
  (wakeId conversationId cycleId workerId leaseToken : String)
  (nowMs leaseMs : Int)

/-- The guard of the renewing UPDATE. -/
def Wake.isRenewable (row : Wake) (input : RenewWakeLeaseInput) : Bool :=
  row.conversationId = input.conversationId && row.cycleId = input.cycleId &&
    row.state = .authorized && row.leaseOwner = some input.workerId &&
    row.leaseToken = some input.leaseToken && row.cancellationId = none &&
    row.leaseRuns input.nowMs

def renewWakeLeaseInTransaction (db : Sidecar) (input : RenewWakeLeaseInput) :
    Bool × Sidecar :=
  if blank input.wakeId ∨ blank input.conversationId ∨ blank input.cycleId ∨
      blank input.workerId ∨ blank input.leaseToken ∨
      !isSafeInteger input.nowMs ∨ input.nowMs < 0 ∨
      !isSafeInteger input.leaseMs ∨ input.leaseMs ≤ 0 then
    (false, db)
  else
    ((getWake db input.wakeId).any (·.isRenewable input),
      db.updateWake input.wakeId (·.isRenewable input) fun row =>
        { row with
          leaseExpiresAtMs := some (input.nowMs + min maxLeaseMs input.leaseMs)
          updatedAtMs := input.nowMs })

def claimWake (db : Sidecar) (wakeId workerId : String) (nowMs leaseMs : Int) :
    Outcome (String × Sidecar) := do
  require (!blank workerId) .workerRequired
  claimWakeInTransaction db wakeId workerId nowMs (boundedLeaseMs leaseMs)

def authorizeWakeInTransaction (db : Sidecar) (wakeId leaseToken : String)
    (nowMs : Int) : Outcome (Wake × Sidecar) := do
  let current ← getWakeRequired db wakeId
  require (current.state ≠ .terminal) .wakeTerminal
  require (current.state = .claimed ∧ current.leaseToken = some leaseToken)
    .leaseLost
  require (¬ current.leaseRanOut nowMs) .leaseExpired
  let db := db.updateWake wakeId
    (fun row => row.state = .claimed && row.leaseToken = some leaseToken &&
      !row.leaseRanOut nowMs)
    fun row => { row with state := .authorized, updatedAtMs := nowMs }
  let wake ← getWakeRequired db wakeId
  pure (wake, db)

def beginConsequenceInTransaction (db : Sidecar) (wakeId leaseToken : String)
    (semanticPass nowMs : Int) : Outcome (String × Sidecar) := do
  require (1 ≤ semanticPass) .semanticPassInvalid
  let current ← getWakeRequired db wakeId
  require (current.state ≠ .terminal) .wakeTerminal
  match current.state, current.consequenceChainId with
  | .consequencePending, some chainId => pure (chainId, db)
  | _, _ => do
    require (current.state ≠ .reconciling) .receiptReconciliationRequired
    require (current.state = .authorized ∧
      current.leaseToken = some leaseToken) .leaseLost
    require (¬ current.leaseRanOut nowMs) .leaseExpired
    let (uuid, db) := db.drawUUID
    let chainId := "consequence:" ++ uuid
    require (∀ row ∈ db.wakes.rows, row.consequenceChainId ≠ some chainId)
      .uniqueConstraint
    pure (chainId, db.updateWake wakeId
      (fun row => row.state = .authorized && row.leaseToken = some leaseToken)
      fun row =>
        { row with
          state := .consequencePending, consequenceChainId := some chainId
          updatedAtMs := nowMs })

/-- States in which a wake is held under a lease token. -/
def Wake.holdsLease (row : Wake) : Bool :=
  row.state = .claimed || row.state = .authorized ||
    row.state = .consequencePending

/-- The guard of the finishing UPDATE. -/
def Wake.isFinishable (row : Wake) (leaseToken : Option String) : Bool :=
  row.state ≠ .terminal &&
    ((leaseToken.isSome && row.leaseToken = leaseToken) ||
      (row.state = .pending && row.leaseToken = none))

def finishWakeInTransaction (db : Sidecar) (wakeId : String)
    (leaseToken : Option String) (reason : WakeTerminalReason) (nowMs : Int) :
    Outcome Sidecar := do
  let current ← getWakeRequired db wakeId
  if current.state = .terminal then do
    require (current.terminalReason = some reason) .terminalImmutable
    pure db
  else do
    require (current.state ≠ .reconciling) .wakeReconciliationRequired
    require (current.holdsLease → leaseToken.any (· ≠ "") ∧
      current.leaseToken = leaseToken) .leaseLost
    require (¬ (current.holdsLease ∧ current.leaseRanOut nowMs ∧
      reason = .completed)) .leaseExpired
    require (current.isFinishable leaseToken) .wakeFinishLost
    pure (db.updateWake wakeId (·.isFinishable leaseToken) fun row =>
      row.closed reason nowMs)

/-- Record the durable cancellation fence; a terminal wake keeps its ending. -/
def recordWakeCancellationInTransaction (db : Sidecar) (wakeId : String)
    (cancellationId : Option String) (nowMs : Int) :
    Outcome (Wake × Sidecar) := do
  let (uuid, drawn) := db.drawUUID
  let db := if cancellationId.isSome then db else drawn
  let cancellationId := cancellationId.getD ("cancellation:" ++ uuid)
  let current ← getWakeRequired db wakeId
  if current.state = .terminal then pure (current, db)
  else do
    let db := db.updateWake wakeId (fun _ => true) fun row =>
      { row with
        cancellationId := some (row.cancellationId.getD cancellationId)
        updatedAtMs := nowMs }
    let wake ← getWakeRequired db wakeId
    pure (wake, db)

def reconcileWakeInTransaction (db : Sidecar) (wakeId : String) (nowMs : Int) :
    Outcome Sidecar := do
  let current ← getWakeRequired db wakeId
  if current.state = .terminal ∨ current.state = .reconciling then pure db
  else
    pure (db.updateWake wakeId (fun row => row.state ≠ .terminal) fun row =>
      row.unleased .reconciling nowMs)

def cancelWake (db : Sidecar) (wakeId : String) (cancellationId : Option String)
    (nowMs : Int) : Outcome Sidecar := do
  let (current, db) ←
    recordWakeCancellationInTransaction db wakeId cancellationId nowMs
  if current.state = .reconciling ∨ current.state = .consequencePending then
    pure db
  else finishWakeInTransaction db wakeId current.leaseToken .cancelled nowMs

structure WakeRecoveryResult where
  reclaimed : Nat := 0
  reconciling : Nat := 0
  quarantined : Nat := 0

/-- The cycle named by the wake exists and names the wake in return. -/
def Wake.hasCycleLineage (db : Sidecar) (wake : Wake) : Bool :=
  (db.cycles.get? wake.cycleId).any (·.wakeId = some wake.wakeId)

/-- One iteration of `recoverWakes`, a transaction of its own. -/
def recoverWake (nowMs : Int) (acc : WakeRecoveryResult × Sidecar)
    (wakeId : String) : WakeRecoveryResult × Sidecar :=
  let (result, db) := acc
  match getWake db wakeId with
  | none => acc
  | some current =>
    if current.state = .terminal then acc
    else if !current.hasCycleLineage db then
      ({ result with quarantined := result.quarantined + 1 },
        db.updateWake wakeId (fun row => row.state ≠ .terminal) fun row =>
          row.closed .quarantined nowMs)
    else if current.state = .consequencePending then
      ({ result with reconciling := result.reconciling + 1 },
        db.updateWake wakeId (fun row => row.state = .consequencePending)
          fun row => { row with state := .reconciling, updatedAtMs := nowMs })
    else if current.state = .reconciling then acc
    else if (current.state = .claimed ∨ current.state = .authorized) ∧
        current.leaseRanOut nowMs then
      if hasAmbiguousEffect db wakeId then
        ({ result with reconciling := result.reconciling + 1 },
          db.updateWake wakeId
            (fun row => row.state = .claimed || row.state = .authorized)
            fun row =>
              { row with state := .reconciling, updatedAtMs := nowMs })
      else
        ({ result with reclaimed := result.reclaimed + 1 },
          db.updateWake wakeId
            (fun row => row.state = .claimed || row.state = .authorized)
            fun row => row.released .pending nowMs)
    else acc

/-- `ORDER BY created_at_ms ASC, wake_id ASC`. -/
def Wake.admittedBefore (left right : Wake) : Prop :=
  left.createdAtMs < right.createdAtMs ∨
    (left.createdAtMs = right.createdAtMs ∧ left.wakeId ≤ right.wakeId)

instance : DecidableRel Wake.admittedBefore := fun _ _ =>
  inferInstanceAs (Decidable (_ ∨ _))

/-- Recover one safe lease or one ambiguous consequence at a time. -/
def recoverWakes (db : Sidecar) (nowMs : Int) : WakeRecoveryResult × Sidecar :=
  let ids := ((db.wakes.rows.filter (·.state ≠ .terminal)).insertionSort
    Wake.admittedBefore).map Wake.wakeId
  ids.foldl (recoverWake nowMs) ({}, db)

end CognitiveSidecar
