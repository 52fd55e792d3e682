/-
Claiming durable work: recovery of expired leases, normalization of waiting
rows, fair selection, and the transaction that grants one attempt.
-/
import CognitiveSidecar.RetryLedger

namespace CognitiveSidecar

open Relational

variable [Host]

structure DurableWorkRecoveryResult where
  reclaimed : Nat := 0
  reconciling : Nat := 0
  quarantined : Nat := 0

/-- `ORDER BY created_at_ms ASC, id ASC`. -/
def InboxEvent.createdBefore (left right : InboxEvent) : Prop :=
  left.createdAtMs < right.createdAtMs ∨
    (left.createdAtMs = right.createdAtMs ∧ left.id ≤ right.id)

instance : DecidableRel InboxEvent.createdBefore := fun _ _ =>
  inferInstanceAs (Decidable (_ ∨ _))

/-- The identifiers of the selected events, oldest first. -/
def eventIdsWhere (db : Sidecar) (p : InboxEvent → Bool) : List String :=
  ((db.events.rows.filter p).insertionSort InboxEvent.createdBefore).map
    InboxEvent.id

/-- A scan limited to one event when an identifier is given. -/
def InboxEvent.inScope (row : InboxEvent) (eventId : Option String) : Bool :=
  eventId.all (row.id = ·)

def InboxEvent.leaseRanOut (row : InboxEvent) (nowMs : Int) : Bool :=
  row.state = .leased && row.leaseExpiresAtMs.any (· ≤ nowMs)

/-- Give an expired event back before any dispatch happened. -/
@[reducible]
def InboxEvent.reclaimed (row : InboxEvent) : InboxEvent :=
  { row with
    state := .pending, status := .pending
    lastError := some "recovered_before_dispatch", nextEligibleAtMs := none
    claimToken := none, workerId := none, leaseExpiresAtMs := none }

/-- Fence an expired event whose dispatch may have happened. -/
@[reducible]
def InboxEvent.fenced (row : InboxEvent) (lastError : String) : InboxEvent :=
  { row with
    state := .reconciling, status := .claimed
    lastFailureClass := some .outcomeUnknownReconcile
    lastError := some lastError, nextEligibleAtMs := none
    claimToken := none, workerId := none, leaseExpiresAtMs := none }

omit [Host] in
theorem InboxEvent.reclaimed_key (row : InboxEvent) :
    key row.reclaimed = key row := rfl

omit [Host] in
theorem InboxEvent.fenced_key (lastError : String) (row : InboxEvent) :
    key (row.fenced lastError) = key row := rfl

/-- One iteration of `recoverExpiredDurableWorkInTransaction`. -/
def recoverExpiredEvent (nowMs : Int)
    (acc : DurableWorkRecoveryResult × Sidecar) (id : String) :
    Outcome (DurableWorkRecoveryResult × Sidecar) :=
  let (result, db) := acc
  if id = "" then pure acc
  else do
    let current ← eventRow db id
    match current.wakeId.filter (· ≠ ""), latestAttempt db id,
        (ensureWakeLineage db current).toOption with
    | some wakeId, some latest, some _ =>
      if latest.dispatchTruth = .notStarted ∧ ¬ hasAmbiguousEffect db wakeId
      then
        let db := db.updateEvent id (fun row => row.state = .leased)
          fun row => row.reclaimed
        pure ({ result with reclaimed := result.reclaimed + 1 },
          wakeToPending db wakeId nowMs)
      else
        let db := db.updateEvent id (fun row => row.state = .leased)
          fun row => row.fenced "recovered_after_possible_dispatch"
        pure ({ result with reconciling := result.reconciling + 1 },
          wakeToReconciling db wakeId nowMs)
    | wakeId, _, _ => do
      let db ← quarantineEvent db current
        (if wakeId.isNone then "wake_missing"
          else "attempt_lineage_unverifiable") nowMs
      pure ({ result with quarantined := result.quarantined + 1 }, db)

def recoverExpiredDurableWorkInTransaction (db : Sidecar) (nowMs : Int)
    (eventId : Option String) :
    Outcome (DurableWorkRecoveryResult × Sidecar) :=
  eachOf (recoverExpiredEvent nowMs) ({}, db)
    (eventIdsWhere db fun row => row.leaseRanOut nowMs && row.inScope eventId)

def normalizeEligibleRetryWait (db : Sidecar) (nowMs : Int)
    (eventId : Option String) : Sidecar :=
  { db with
    events := db.events.update
      (fun row => row.state = .retryWait &&
        row.nextEligibleAtMs.any (· ≤ nowMs) && row.inScope eventId)
      fun row => { row with state := .pending, status := .pending } }

/-- Out of attempts, or past the age deadline. -/
def InboxEvent.isBounded (row : InboxEvent) (nowMs : Int) : Bool :=
  row.wakeId.isSome && row.isClaimableContinuation &&
    (maxAttempts ≤ row.attemptCount ||
      row.firstAttemptAtMs.any fun first => first + maxRetryAgeMs ≤ nowMs)

/-- One iteration of `normalizeBoundedRows`. -/
def quarantineBoundedEvent (nowMs : Int) (db : Sidecar) (id : String) :
    Outcome Sidecar :=
  if id = "" then pure db
  else do
    let current ← eventRow db id
    quarantineEvent db current
      (if maxAttempts ≤ current.attemptCount then "attempts_exhausted"
        else "age_exhausted") nowMs

def normalizeBoundedRows (db : Sidecar) (nowMs : Int)
    (eventId : Option String) : Outcome Sidecar :=
  eachOf (quarantineBoundedEvent nowMs) db
    (eventIdsWhere db fun row => row.isBounded nowMs && row.inScope eventId)

/-- What every claim does first: recover, wake up, retire. -/
def sweepDurableWork (db : Sidecar) (nowMs : Int) (eventId : Option String) :
    Outcome Sidecar := do
  let (_, db) ← recoverExpiredDurableWorkInTransaction db nowMs eventId
  normalizeBoundedRows (normalizeEligibleRetryWait db nowMs eventId) nowMs
    eventId

structure ClaimDurableWorkInput where
  workerId : String
  conversationId : Option String := none
  eventId : Option String := none
  lane : Option String := none
  excludeConversationPrefix : Option String := none
  nowMs : Int
  leaseMs : Int := durableWorkCoordinationLeaseMs

/-- An absent or empty filter text selects everything. -/
def matchesFilter (filter : Option String) (value : String) : Bool :=
  filter.all fun wanted => wanted = "" || value = wanted

def InboxEvent.isCandidate (row : InboxEvent) (input : ClaimDurableWorkInput) :
    Bool :=
  row.wakeId.isSome && (row.state = .pending || row.state = .leased) &&
    matchesFilter input.conversationId row.conversationId &&
    matchesFilter input.eventId row.id && matchesFilter input.lane row.lane &&
    input.excludeConversationPrefix.all fun excluded =>
      excluded = "" || !(excluded.toList.isPrefixOf row.conversationId.toList)

def lastServedAtMs (db : Sidecar) (lane conversationId : String) : Int :=
  ((db.fairness.get? (lane, conversationId)).map
    LaneFairness.lastServedAtMs).getD 0

def fairCandidate (db : Sidecar) (row : InboxEvent) : FairWorkCandidate :=
  { eventId := row.id, lane := row.lane, conversationId := row.conversationId
    state := row.state, nextEligibleAtMs := row.nextEligibleAtMs
    createdAtMs := row.createdAtMs
    lastServedAtMs := lastServedAtMs db row.lane row.conversationId }

def candidates (db : Sidecar) (input : ClaimDurableWorkInput) :
    List FairWorkCandidate :=
  ((db.events.rows.filter (·.isCandidate input)).insertionSort
    InboxEvent.createdBefore).map (fairCandidate db)

structure DurableAttempt where
  (attemptId eventId : String)
  wakeId : Option String
  ordinal : Nat
  claimToken : String
  dispatchTruth : DurableDispatchTruth
  workerId : String
  startedAtMs : Int
  lane : String
  priority : Int

/-- Lease an event to a worker under a claim token. -/
@[reducible]
def InboxEvent.leasedTo (row : InboxEvent) (claimToken workerId : String)
    (nowMs leaseMs : Int) (ordinal : Nat) (firstAttemptAtMs : Int) :
    InboxEvent :=
  { row with
    state := .leased, status := .claimed, claimToken := some claimToken
    workerId := some workerId, leaseExpiresAtMs := some (nowMs + leaseMs)
    claimedAtMs := some nowMs, attemptCount := ordinal
    firstAttemptAtMs := some firstAttemptAtMs, nextEligibleAtMs := none
    lastError := none }

def recordLaneServed (db : Sidecar) (lane conversationId : String)
    (nowMs : Int) : Outcome Sidecar :=
  let row : LaneFairness := ⟨lane, conversationId, nowMs⟩
  if (db.fairness.get? (key row)).isSome then
    pure { db with
      fairness := db.fairness.update (fun old => key old = key row) fun old =>
        { old with lastServedAtMs := nowMs } }
  else do
    let fairness ← orFault (db.fairness.insert? row) .uniqueConstraint
    pure { db with fairness }

/-- Write the lease of an event and the row of its new attempt. -/
def recordAttempt (db : Sidecar) (current : InboxEvent)
    (wakeId claimToken workerId : String) (nowMs leaseMs : Int) :
    Outcome (Attempt × Sidecar) := do
  let (uuid, db) := db.drawUUID
  let ordinal := current.attemptCount + 1
  -- One leased event for each conversation and lane.
  require (∀ row ∈ db.events.rows, row.state = .leased → row.id ≠ current.id →
    ¬ (row.conversationId = current.conversationId ∧ row.lane = current.lane))
    .uniqueConstraint
  let db := db.updateEvent current.id (fun row => row.state = .pending)
    fun row => row.leasedTo claimToken workerId nowMs leaseMs ordinal
      (current.firstAttemptAtMs.getD nowMs)
  require (∀ row ∈ db.attempts.rows,
    ¬ (row.eventId = current.id ∧ row.ordinal = ordinal)) .uniqueConstraint
  let attempt : Attempt :=
    { attemptId := "attempt:" ++ uuid, eventId := current.id
      wakeId := some wakeId, ordinal, workerId, startedAtMs := nowMs
      finishedAtMs := none, dispatchTruth := .notStarted
      failureClass := none, errorCode := none }
  let attempts ← orFault (db.attempts.insert? attempt) .uniqueConstraint
  pure (attempt, { db with attempts })

def claimCandidateInTransaction (db : Sidecar) (current : InboxEvent)
    (workerId : String) (nowMs leaseMs : Int) :
    Outcome (DurableAttempt × Sidecar) := do
  require (!blank workerId) .workerRequired
  require (current.state = .pending) .durableWorkNotEligible
  require (current.nextEligibleAtMs.all (· ≤ nowMs)) .durableWorkNotEligible
  let _ ← ensureWakeLineage db current
  let wakeId ← orFault (current.wakeId.filter (· ≠ "")) .wakeRequired
  require ((getWake db wakeId).any isComposableWake) .wakeReconciliationRequired
  require (current.attemptCount + 1 ≤ maxAttempts) .durableWorkAttemptsExhausted
  require (nowMs < current.firstAttemptAtMs.getD nowMs + maxRetryAgeMs)
    .durableWorkAgeExhausted
  let (leaseToken, db) ←
    claimWakeInTransaction db wakeId workerId nowMs leaseMs
  let (authorized, db) ←
    authorizeWakeInTransaction db wakeId leaseToken nowMs
  require (authorized.leaseToken = some leaseToken) .wakeAuthorizationLost
  let (attempt, db) ←
    recordAttempt db current wakeId leaseToken workerId nowMs leaseMs
  let db ← recordLaneServed db current.lane current.conversationId nowMs
  pure (⟨attempt.attemptId, current.id, some wakeId, attempt.ordinal,
    leaseToken, .notStarted, workerId, nowMs, current.lane,
    current.priority⟩, db)

structure StartDurableAttemptInput where
  (eventId workerId : String)
  nowMs : Int
  leaseMs : Int := durableWorkCoordinationLeaseMs

def startDurableAttempt (db : Sidecar) (input : StartDurableAttemptInput) :
    Outcome (DurableAttempt × Sidecar) := do
  let db ← sweepDurableWork db input.nowMs (some input.eventId)
  let current ← eventRow db input.eventId
  require (current.state = .pending) .durableWorkNotEligible
  claimCandidateInTransaction db current input.workerId input.nowMs
    (boundedLeaseMs input.leaseMs)

def claimNextDurableWork (db : Sidecar) (input : ClaimDurableWorkInput) :
    Outcome (Option DurableAttempt × Sidecar) := do
  let db ← sweepDurableWork db input.nowMs none
  match selectFairEligibleHead (candidates db input) input.nowMs with
  | none => pure (none, db)
  | some selected => do
    let current ← eventRow db selected.eventId
    let (attempt, db) ← claimCandidateInTransaction db current
      input.workerId input.nowMs (boundedLeaseMs input.leaseMs)
    pure (some attempt, db)

def recoverDurableWork (db : Sidecar) (nowMs : Int) :
    Outcome (DurableWorkRecoveryResult × Sidecar) :=
  recoverExpiredDurableWorkInTransaction db nowMs none

structure RenewDurableWorkClaimInput where
  (eventId conversationId wakeId attemptId workerId claimToken : String)
  (nowMs leaseMs : Int)

/-- The attempt is the open one of the row it renews. -/
def Attempt.isOpenFor (attempt : Attempt) (row : InboxEvent) : Bool :=
  attempt.eventId = row.id && attempt.wakeId = row.wakeId &&
    some attempt.workerId = row.workerId &&
    attempt.ordinal = row.attemptCount && attempt.finishedAtMs = none

/-- The guard of the renewing UPDATE. -/
def InboxEvent.isRenewable (db : Sidecar) (input : RenewDurableWorkClaimInput)
    (row : InboxEvent) : Bool :=
  row.conversationId = input.conversationId && row.wakeId = some input.wakeId &&
    row.state = .leased && row.status = .claimed &&
    row.claimToken = some input.claimToken &&
    row.workerId = some input.workerId &&
    row.leaseExpiresAtMs.any (input.nowMs < ·) &&
    (db.attempts.get? input.attemptId).any (·.isOpenFor row)

def renewDurableWorkClaimInTransaction (db : Sidecar)
    (input : RenewDurableWorkClaimInput) : Bool × Sidecar :=
  if blank input.eventId ∨ blank input.conversationId ∨ blank input.wakeId ∨
      blank input.attemptId ∨ blank input.workerId ∨ blank input.claimToken ∨
      !isSafeInteger input.nowMs ∨ input.nowMs < 0 ∨
      !isSafeInteger input.leaseMs ∨ input.leaseMs ≤ 0 then
    (false, db)
  else
    ((db.events.get? input.eventId).any (InboxEvent.isRenewable db input),
      db.updateEvent input.eventId (InboxEvent.isRenewable db input) fun row =>
        { row with
          leaseExpiresAtMs :=
            some (input.nowMs + min maxLeaseMs input.leaseMs) })

/-- The open attempt of a leased event. -/
def getOpenDurableAttempt (db : Sidecar) (eventId : String) :
    Outcome (Option DurableAttempt) := do
  let current ← eventRow db eventId
  match latestAttempt db eventId, current.claimToken with
  | some value, some claimToken =>
    if value.finishedAtMs.isSome ∨ current.state ≠ .leased ∨
        claimToken = "" then
      pure none
    else
      pure (some ⟨value.attemptId, value.eventId, value.wakeId,
        value.ordinal, claimToken, value.dispatchTruth, value.workerId,
        value.startedAtMs, current.lane, current.priority⟩)
  | _, _ => pure none

end CognitiveSidecar
