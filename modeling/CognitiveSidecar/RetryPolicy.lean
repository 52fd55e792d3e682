/-
The retry policy of durable work and the fair selection of the next item.
-/
import CognitiveSidecar.Lib.Order
import CognitiveSidecar.Sidecar

namespace CognitiveSidecar

open Relational

/-- `RETRY_DELAYS_MS`. -/
def retryDelaysMs : List Int := [1000, 5000, 30000, 120000]

/-- `DURABLE_RETRY_POLICY.maxAttempts`. -/
def maxAttempts : Nat := 5

/-- `DURABLE_RETRY_POLICY.maxRetryAgeMs`. -/
def maxRetryAgeMs : Int := 15 * 60 * 1000

/-- `DURABLE_WORK_COORDINATION_LEASE_MS`. -/
def durableWorkCoordinationLeaseMs : Int := 360000

inductive RetryTerminalReason
  | attemptsExhausted | ageExhausted | notRetryable
deriving DecidableEq

/-- The text stored as the terminal reason. -/
def RetryTerminalReason.text : RetryTerminalReason → String
  | attemptsExhausted => "attempts_exhausted"
  | ageExhausted => "age_exhausted"
  | notRetryable => "not_retryable"

inductive RetryDecision
  | retryWait (nextEligibleAtMs : Int)
  | terminal (reason : RetryTerminalReason)
deriving DecidableEq

def isRetryable (failureClass : DurableFailureClass) : Bool :=
  failureClass ∈ [DurableFailureClass.transientRetryable,
    .rateLimitedRetryable, .unclassifiedInternal]

/-- The delay of the ordinal, the last of them for an ordinal without one. -/
def retryDelayMs : Nat → Int
  | 0 => 120000
  | ordinal + 1 => retryDelaysMs.getD ordinal 120000

/-- The delay before the next attempt, which a hint may only lengthen. -/
def retryBackoffMs (ordinal : Nat) (retryAfterMs : Option Int) : Int :=
  max (retryDelayMs ordinal) (max 0 (retryAfterMs.getD 0))

def nextRetryAt (ordinal : Nat) (firstAttemptAtMs nowMs : Int)
    (failureClass : DurableFailureClass) (retryAfterMs : Option Int) :
    RetryDecision :=
  let ageDeadline := firstAttemptAtMs + maxRetryAgeMs
  if !isRetryable failureClass then .terminal .notRetryable
  else if maxAttempts ≤ ordinal then .terminal .attemptsExhausted
  else if ageDeadline ≤ nowMs then .terminal .ageExhausted
  else
    -- Retry-After cannot move work beyond the age boundary.
    .retryWait (min (nowMs + retryBackoffMs ordinal retryAfterMs) ageDeadline)

structure FairWorkCandidate where
  (eventId lane conversationId : String)
  state : DurableWorkState
  nextEligibleAtMs : Option Int
  (createdAtMs lastServedAtMs : Int)

def laneRank (lane : String) : Nat :=
  if lane = "interactive" ∨ lane = "owner_interactive" then 0
  else if lane = "proactive" then 1
  else if lane = "background" then 2
  else 3

/-- The comparator of the scheduler's sort. -/
def FairWorkCandidate.compareFair [Host] (left right : FairWorkCandidate) :
    Ordering :=
  (compare (laneRank left.lane) (laneRank right.lane)).then <|
    (compare left.lastServedAtMs right.lastServedAtMs).then <|
      (compare left.createdAtMs right.createdAtMs).then <|
        Host.localeCompare left.eventId right.eventId

def FairWorkCandidate.fairBefore [Host] (left right : FairWorkCandidate) :
    Prop :=
  left.compareFair right ≠ .gt

instance [Host] : DecidableRel FairWorkCandidate.fairBefore := fun _ _ =>
  inferInstanceAs (Decidable (_ ≠ _))

/-- Pending, eligible by now, in a conversation lane that holds no lease. -/
def FairWorkCandidate.isEligibleAmong (candidates : List FairWorkCandidate)
    (nowMs : Int) (candidate : FairWorkCandidate) : Bool :=
  candidate.state = .pending &&
    candidate.nextEligibleAtMs.all (· ≤ nowMs) &&
    candidates.all fun other =>
      !(other.state = .leased && other.lane = candidate.lane &&
        other.conversationId = candidate.conversationId)

/-- Pure selector used by the durable claim transaction. -/
def selectFairEligibleHead [Host] (candidates : List FairWorkCandidate)
    (nowMs : Int) : Option FairWorkCandidate :=
  firstBy FairWorkCandidate.fairBefore
    (candidates.filter (·.isEligibleAmong candidates nowMs))

end CognitiveSidecar
