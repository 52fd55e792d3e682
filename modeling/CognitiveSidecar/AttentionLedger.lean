/-
The attention ledger: queued requests, their admission by priority under the
limits of their bucket, and what each of them is charged.
-/
import CognitiveSidecar.Lib.Order
import CognitiveSidecar.Sidecar
import Mathlib.Algebra.BigOperators.Group.List.Basic
import Mathlib.Algebra.Ring.Int.Defs

namespace CognitiveSidecar

open Relational

inductive AttentionLane
  | interactive | urgentGrounded | exchangeCognition | curiosityMaintenance
deriving DecidableEq

inductive AttentionPurpose
  | expression | thought | thoughtObservation | exchangeCognition
  | curiosityConsolidation | maintenance
deriving DecidableEq

inductive AttentionState
  | queued | reserved | running | terminal
deriving DecidableEq

inductive AttentionOutcome
  | completed | cancelled | timeout | rateLimited | error | aborted
deriving DecidableEq

def rpsWindowMs : Int := 1000

def tpmWindowMs : Int := 60000

def starvationCognitionMs : Int := 6 * 60 * 60 * 1000

def starvationCuriosityMs : Int := 24 * 60 * 60 * 1000

def starvationMaintenanceMs : Int := 72 * 60 * 60 * 1000

/-- The limits of one bucket; a bucket that is dispatched to at all has at
least one request per second. -/
structure QuotaContract where
  rps : Nat
  tpm : Int
  rps_pos : 0 < rps

/-- What the governor takes from its process: the configured limits and models,
which providers have their key, and the identities it is built with. -/
class AttentionHost where
  quotaContractFor : String → QuotaContract
  defaultModelFor : String → String
  providerReady : String → Bool
  (currentContractId currentBuildIdentity : String)

/-- A row of `attention_requests`. -/
structure AttentionRequest where
  id : Nat
  lane : AttentionLane
  purpose : AttentionPurpose
  (modelAlias providerId : String)
  routeAlias : Option String
  quotaBucket : String
  state : AttentionState := .queued
  outcome : Option AttentionOutcome := none
  errorClass : Option String := none
  (queuedAt eligibleAt ageOriginAt : Int)
  deadlineAt : Option Int
  reservedAt : Option Int := none
  dispatchStartedAt : Option Int := none
  endedAt : Option Int := none
  dispatchSequence : Option Nat := none
  (estimatedInputTokens estimatedOutputTokens : Int)
  reservedInputTokens : Int := 0
  reservedOutputTokens : Int := 0
  actualInputTokens : Option Int := none
  actualOutputTokens : Option Int := none
  budgetRetainUntil : Option Int := none
  resolvedModelId : Option String := none
  modelEpoch : Option Nat := none
  acceptedContractId : Option String := none
  acceptedBuildIdentity : Option String := none
  thoughtInvocationId : Option String := none
  mfAttemptId : Option String := none
  providerAttemptId : Option String := none
deriving DecidableEq

instance : Keyed AttentionRequest Nat := ⟨AttentionRequest.id⟩

/-- The requests, the next row id, and the dispatch counter. -/
structure AttentionDb where
  requests : Table AttentionRequest := Table.empty
  nextId : Nat := 1
  nextSeq : Nat := 1

/-- `UPDATE attention_requests … WHERE id = ? AND guard`. -/
def AttentionDb.updateRequest (db : AttentionDb) (requestId : Nat)
    (guard : AttentionRequest → Bool) (f : AttentionRequest → AttentionRequest)
    (hkey : ∀ row, key (f row) = key row) : AttentionDb :=
  { db with
    requests := db.requests.update
      (fun row => decide (row.id = requestId) && guard row) f hkey }

/-- The error codes raised inside an admission. -/
inductive AttentionFault
  | requestExceedsTpmBudget | thoughtAttemptContextIncomplete
  | thoughtAttemptIdentityIncomplete | thoughtAttemptAlreadyBound
  | staleAttentionState
deriving DecidableEq

structure EnqueueInput where
  lane : AttentionLane
  purpose : AttentionPurpose
  (modelAlias providerId quotaBucket : String)
  routeAlias : Option String
  (estimatedInputTokens estimatedOutputTokens : Int)
  (deadlineAtMs ageOriginAtMs : Option Int)

def insertQueuedRequest (db : AttentionDb) (input : EnqueueInput)
    (nowMs : Int) : Nat × AttentionDb :=
  (db.nextId,
    { db with
      requests := db.requests.insertNew
        { id := db.nextId, lane := input.lane, purpose := input.purpose
          modelAlias := input.modelAlias, providerId := input.providerId
          routeAlias := input.routeAlias, quotaBucket := input.quotaBucket
          queuedAt := nowMs, eligibleAt := nowMs
          ageOriginAt := input.ageOriginAtMs.getD nowMs
          deadlineAt := input.deadlineAtMs
          estimatedInputTokens := input.estimatedInputTokens
          estimatedOutputTokens := input.estimatedOutputTokens }
      nextId := db.nextId + 1 })

/-- The state of a request that has been admitted and has not ended. -/
def AttentionRequest.isInFlight (row : AttentionRequest) : Bool :=
  row.state = .reserved || row.state = .running

/-- The tokens a row counts for in the window from `windowStart` to `now`. -/
def AttentionRequest.tokens (row : AttentionRequest)
    (windowStart now : Int) : Int :=
  if row.isInFlight then row.reservedInputTokens + row.reservedOutputTokens
  else if row.state = .terminal ∧ row.actualInputTokens.isSome = true ∧
      row.dispatchStartedAt.any (windowStart ≤ ·) then
    row.actualInputTokens.getD 0 + row.actualOutputTokens.getD 0
  else if row.state = .terminal ∧ row.budgetRetainUntil.any (now < ·) then
    row.reservedInputTokens + row.reservedOutputTokens
  else 0

/-- The rows that `tokensInWindow` selects. -/
def AttentionRequest.inTokenWindow (row : AttentionRequest)
    (windowStart now : Int) (quotaBucket : String) : Bool :=
  row.quotaBucket = quotaBucket &&
    (row.isInFlight && row.reservedAt.any (windowStart ≤ ·) ||
      row.state = .terminal && (row.dispatchStartedAt.any (windowStart ≤ ·) ||
        row.budgetRetainUntil.any (now < ·)))

def tokensInWindow (db : AttentionDb) (windowStart now : Int)
    (quotaBucket : String) : Int :=
  ((db.requests.rows.filter (·.inTokenWindow windowStart now quotaBucket)).map
    (·.tokens windowStart now)).sum

def rpsStartsInWindow (db : AttentionDb) (windowStart : Int)
    (quotaBucket : String) : Nat :=
  db.requests.rows.countP fun row =>
    row.dispatchStartedAt.any (windowStart ≤ ·) &&
      row.quotaBucket = quotaBucket &&
      (row.isInFlight || row.state = .terminal)

/-- The first dispatch start of a bucket in the window. -/
def oldestStartInWindow (db : AttentionDb) (windowStart : Int)
    (quotaBucket : String) : Option Int :=
  ((db.requests.rows.filter (·.quotaBucket = quotaBucket)).filterMap fun row =>
    row.dispatchStartedAt.filter (windowStart ≤ ·)).min?

/-- Wait until the oldest dispatch leaves the window; eight turns at most. -/
def rpsCandidate (db : AttentionDb) (quotaBucket : String) (rpsLimit : Nat) :
    Nat → Int → Int
  | 0, candidate => candidate
  | turns + 1, candidate =>
    let windowStart := candidate - rpsWindowMs + 1
    if rpsStartsInWindow db windowStart quotaBucket < rpsLimit then candidate
    else
      match oldestStartInWindow db windowStart quotaBucket with
      | none => candidate
      | some oldest =>
        rpsCandidate db quotaBucket rpsLimit turns (oldest + rpsWindowMs)

/-- Advance by a second until the demand fits; sixty turns at most. -/
def tpmCandidate (db : AttentionDb) (quotaBucket : String)
    (tpmLimit demandTokens : Int) : Nat → Int → Int
  | 0, candidate => candidate
  | turns + 1, candidate =>
    if tokensInWindow db (candidate - tpmWindowMs + 1) candidate quotaBucket +
        demandTokens ≤ tpmLimit then candidate
    else tpmCandidate db quotaBucket tpmLimit demandTokens turns
      (candidate + 1000)

def earliestLegalDispatchMs [AttentionHost] (db : AttentionDb)
    (demandTokens nowMs : Int) (quotaBucket : String) :
    Except AttentionFault Int :=
  let contract := AttentionHost.quotaContractFor quotaBucket
  let candidate := rpsCandidate db quotaBucket contract.rps 8 nowMs
  if contract.tpm < demandTokens then .error .requestExceedsTpmBudget
  else .ok (tpmCandidate db quotaBucket contract.tpm demandTokens 60 candidate)

def overdueMs (row : AttentionRequest) (nowMs : Int) : Option Int :=
  let age := nowMs - row.ageOriginAt
  let threshold := match row.lane with
    | .exchangeCognition => some starvationCognitionMs
    | .curiosityMaintenance =>
      if row.purpose = AttentionPurpose.curiosityConsolidation then
        some starvationCuriosityMs
      else some starvationMaintenanceMs
    | _ => none
  (threshold.filter (· ≤ age)).map (age - ·)

def attentionTier (row : AttentionRequest) (nowMs : Int) : Nat :=
  match row.lane with
  | .interactive => 0
  | .urgentGrounded => 1
  | _ =>
    if (overdueMs row nowMs).isSome then 2
    else if row.lane = .exchangeCognition then 3
    else if row.purpose = .curiosityConsolidation then 4
    else 5

/-- Interactive first, then urgent, then the oldest overdue, then cognition,
curiosity and maintenance; among equals by age, eligibility and id. -/
def compareAttentionPriority (a b : AttentionRequest) (nowMs : Int) :
    Ordering :=
  (compare (attentionTier a nowMs) (attentionTier b nowMs)).then <|
    (if attentionTier a nowMs = 2 then
      compare ((overdueMs b nowMs).getD 0) ((overdueMs a nowMs).getD 0)
    else .eq).then <|
    (compare a.ageOriginAt b.ageOriginAt).then <|
    (compare a.eligibleAt b.eligibleAt).then (compare a.id b.id)

def selectNextEligibleRequestId (db : AttentionDb) (nowMs : Int) :
    Option Nat :=
  (firstBy (fun a b => compareAttentionPriority a b nowMs ≠ .gt)
    (db.requests.rows.filter fun row =>
      row.state = .queued && decide (row.eligibleAt ≤ nowMs) &&
        !row.deadlineAt.any (· ≤ nowMs))).map (·.id)

inductive Admission
  | admitted (dispatchSequence : Nat)
  | notQueued
  | deadline (nextEligibleAtMs : Option Int)
  | preempted
  | budgetWait (nextEligibleAtMs : Int)
deriving DecidableEq

def AttentionRequest.timedOut (row : AttentionRequest) (now : Int) :
    AttentionRequest :=
  { row with
    state := .terminal, outcome := some .timeout
    errorClass := some "deadline_before_dispatch", endedAt := some now }

theorem AttentionRequest.timedOut_key (row : AttentionRequest) (now : Int) :
    key (row.timedOut now) = key row := rfl

def AttentionRequest.reserve (row : AttentionRequest) (now : Int)
    (dispatchSequence : Nat) : AttentionRequest :=
  { row with
    state := .reserved, reservedAt := some now
    dispatchSequence := some dispatchSequence
    reservedInputTokens := row.estimatedInputTokens
    reservedOutputTokens := row.estimatedOutputTokens }

theorem AttentionRequest.reserve_key (row : AttentionRequest) (now : Int)
    (dispatchSequence : Nat) :
    key (row.reserve now dispatchSequence) = key row := rfl

/-- The tokens that a request asks for. -/
def AttentionRequest.demand (row : AttentionRequest) : Int :=
  row.estimatedInputTokens + row.estimatedOutputTokens

/-- Admit a queued request when it is the first eligible one and both limits
allow it now.  `clock` are the readings in their order, `maximumOciSequence`
the greatest generation order of the open cognitive items. -/
def tryAdmitRequest [AttentionHost] (db : AttentionDb) (requestId : Nat)
    (maximumOciSequence : Nat) (clock : Nat → Int) :
    Except AttentionFault Admission × AttentionDb :=
  match (db.requests.get? requestId).filter
      fun row => row.state = AttentionState.queued with
  | none => (.ok .notQueued, db)
  | some row =>
    let now := clock 0
    let expired := db.updateRequest requestId (fun _ => true) (·.timedOut now)
      (AttentionRequest.timedOut_key · now)
    if row.deadlineAt.any (· ≤ now) then (.ok (.deadline none), expired)
    else if selectNextEligibleRequestId db (clock 1) ≠ some requestId then
      (.ok .preempted, db)
    else
      match earliestLegalDispatchMs db row.demand (clock 2)
          row.quotaBucket with
      | .error fault => (.error fault, db)
      | .ok earliest =>
        if row.deadlineAt.any (· ≤ earliest) then
          (.ok (.deadline (some earliest)), expired)
        else if now < earliest then (.ok (.budgetWait earliest), db)
        else
          let seq := max db.nextSeq (maximumOciSequence + 1)
          let counted : AttentionDb := { db with nextSeq := seq + 1 }
          (.ok (.admitted seq),
            counted.updateRequest requestId (·.state = .queued)
              (·.reserve now seq) (AttentionRequest.reserve_key · now seq))

def AttentionRequest.started [AttentionHost] (row : AttentionRequest)
    (now : Int) : AttentionRequest :=
  { row with
    state := .running, dispatchStartedAt := some now
    acceptedContractId := some AttentionHost.currentContractId
    acceptedBuildIdentity := some AttentionHost.currentBuildIdentity }

theorem AttentionRequest.started_key [AttentionHost] (row : AttentionRequest)
    (now : Int) : key (row.started now) = key row := rfl

def markRunning [AttentionHost] (db : AttentionDb) (requestId : Nat)
    (now : Int) : AttentionDb :=
  db.updateRequest requestId (·.state = .reserved) (·.started now)
    (AttentionRequest.started_key · now)

/-- The identities that `bindThoughtAttempt` checks and stores. -/
structure ThoughtAttemptBinding where
  thoughtInvocationId : String
  mfInvocationId : Option String := none
  mfAttemptId : Option String := none
  providerInvocationId : Option String := none
  providerAttemptId : Option String := none

/-- Both identities of a pair are given. -/
def bothGiven (first second : Option String) : Bool :=
  first.any (· ≠ "") && second.any (· ≠ "")

def AttentionRequest.isUnbound (row : AttentionRequest) : Bool :=
  row.mfAttemptId.isNone && row.providerAttemptId.isNone &&
    row.thoughtInvocationId.isNone

def AttentionRequest.bound (row : AttentionRequest)
    (binding : ThoughtAttemptBinding) : AttentionRequest :=
  { row with
    thoughtInvocationId := some binding.thoughtInvocationId
    mfAttemptId := binding.mfAttemptId
    providerAttemptId := binding.providerAttemptId }

theorem AttentionRequest.bound_key (row : AttentionRequest)
    (binding : ThoughtAttemptBinding) : key (row.bound binding) = key row := rfl

def bindThoughtAttempt (db : AttentionDb) (allocationId : Nat)
    (binding : ThoughtAttemptBinding) : Except AttentionFault AttentionDb := do
  require (0 < allocationId) .thoughtAttemptContextIncomplete
  require (bothGiven binding.mfInvocationId binding.mfAttemptId ≠
    bothGiven binding.providerInvocationId binding.providerAttemptId)
    .thoughtAttemptIdentityIncomplete
  match db.requests.get? allocationId with
  | none => .error .staleAttentionState
  | some row =>
    require (row.isUnbound = true) .thoughtAttemptAlreadyBound
    pure (db.updateRequest allocationId (·.isUnbound) (·.bound binding)
      (AttentionRequest.bound_key · binding))

structure CompleteInput where
  outcome : AttentionOutcome
  errorClass : Option String := none
  resolvedModelId : Option String := none
  actualInput : Option Int := none
  actualOutput : Option Int := none
  retainUnknownBudget : Bool := false

/-- A request that ends before its admission consumes nothing. -/
def AttentionRequest.dropped (row : AttentionRequest) (input : CompleteInput)
    (now : Int) : AttentionRequest :=
  { row with
    state := .terminal, outcome := some input.outcome
    errorClass := input.errorClass, endedAt := some now
    reservedInputTokens := 0, reservedOutputTokens := 0
    budgetRetainUntil := none }

theorem AttentionRequest.dropped_key (row : AttentionRequest)
    (input : CompleteInput) (now : Int) :
    key (row.dropped input now) = key row := rfl

/-- A dispatched request ends with its reported usage, or keeps its reservation
for a window from the time it was made. -/
def AttentionRequest.ended (row : AttentionRequest) (input : CompleteInput)
    (now : Int) : AttentionRequest :=
  { row with
    state := .terminal, outcome := some input.outcome
    errorClass := input.errorClass, endedAt := some now
    resolvedModelId := input.resolvedModelId.or row.resolvedModelId
    actualInputTokens := input.actualInput
    actualOutputTokens := input.actualOutput
    reservedInputTokens := input.actualInput.getD row.reservedInputTokens
    reservedOutputTokens := input.actualOutput.getD row.reservedOutputTokens
    budgetRetainUntil := if input.retainUnknownBudget then
      some (row.reservedAt.getD now + tpmWindowMs) else none }

theorem AttentionRequest.ended_key (row : AttentionRequest)
    (input : CompleteInput) (now : Int) :
    key (row.ended input now) = key row := rfl

def completeRequest (db : AttentionDb) (requestId : Nat)
    (input : CompleteInput) (now : Int) : AttentionDb :=
  match db.requests.get? requestId with
  | none => db
  | some current =>
    match current.state with
    | .terminal => db
    | .queued => db.updateRequest requestId (·.state = .queued)
        (·.dropped input now) (AttentionRequest.dropped_key · input now)
    | _ => db.updateRequest requestId (·.isInFlight)
        (·.ended input now) (AttentionRequest.ended_key · input now)

def AttentionRequest.inEpoch (row : AttentionRequest) (modelEpoch : Nat) :
    AttentionRequest :=
  { row with modelEpoch := some modelEpoch }

theorem AttentionRequest.inEpoch_key (row : AttentionRequest)
    (modelEpoch : Nat) : key (row.inEpoch modelEpoch) = key row := rfl

def setRequestModelEpoch (db : AttentionDb) (requestId modelEpoch : Nat) :
    AttentionDb :=
  db.updateRequest requestId
    (fun row => row.state = .terminal && row.outcome = some .completed)
    (·.inEpoch modelEpoch) (AttentionRequest.inEpoch_key · modelEpoch)

end CognitiveSidecar
