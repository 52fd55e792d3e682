/-
The ledger of deferred reactive frontiers: one row owns the capacity wait of a
conversation until a coordinator resolves or exhausts it.
-/
import CognitiveSidecar.Sidecar

namespace CognitiveSidecar

open Relational

/-- `CAPACITY_WAIT_MAX_DURATION_MS`. -/
def capacityWaitMaxDurationMs : Int := 120000

/-- A frontier that still owns its conversation's continuation. -/
def Frontier.isActive (row : Frontier) : Bool :=
  row.state = .waiting || row.state = .running

def getDeferredFrontier (db : Sidecar) (frontierId : String) : Option Frontier :=
  db.frontiers.get? frontierId

def getActiveDeferredFrontier (db : Sidecar) (conversationId : String) :
    Option Frontier :=
  db.frontiers.rows.find? fun row =>
    row.conversationId = conversationId && row.isActive

structure CreateDeferredFrontierInput where
  (conversationId cycleId : String)
  (generation nextEligibleAtMs : Int)
  latestEvidenceRowId : String
  nowMs : Int

/-- The insertion meets the partial unique index on active conversations. -/
def insertDeferredFrontierRecord [Host] (db : Sidecar)
    (input : CreateDeferredFrontierInput) : Outcome (Frontier × Sidecar) := do
  let (frontierId, db) := db.drawUUID
  require (input.nowMs < input.nextEligibleAtMs) .invalidFrontierSchedule
  require (getActiveDeferredFrontier db input.conversationId = none)
    .uniqueConstraint
  let frontier : Frontier :=
    { frontierId
      conversationId := input.conversationId, cycleId := input.cycleId
      generation := input.generation, state := .waiting
      nextEligibleAtMs := input.nextEligibleAtMs
      capacityDeadlineAtMs := input.nowMs + capacityWaitMaxDurationMs
      latestEvidenceRowId := input.latestEvidenceRowId, claimToken := none
      leaseExpiresAtMs := none, attemptCount := 0, createdAtMs := input.nowMs
      updatedAtMs := input.nowMs, terminalReason := none }
  let frontiers ← orFault (db.frontiers.insert? frontier) .uniqueConstraint
  pure (frontier, { db with frontiers })

def advanceDeferredFrontierEvidence (db : Sidecar)
    (frontierId latestEvidenceRowId : String) (nowMs : Int) : Sidecar :=
  db.updateFrontier frontierId Frontier.isActive fun row =>
    { row with latestEvidenceRowId, updatedAtMs := nowMs }

/-- Due: waiting and eligible, or running with an expired lease. -/
def Frontier.isDue (row : Frontier) (nowMs : Int) : Bool :=
  (row.state = .waiting && row.nextEligibleAtMs ≤ nowMs) ||
    (row.state = .running && row.leaseExpiresAtMs.any (· ≤ nowMs))

def claimDueDeferredFrontier (db : Sidecar) (frontierId claimToken : String)
    (leaseMs nowMs : Int) : Option Frontier × Sidecar :=
  if (getDeferredFrontier db frontierId).any (·.isDue nowMs) then
    let db := db.updateFrontier frontierId (·.isDue nowMs) fun row =>
      { row with
        state := .running, claimToken := some claimToken
        leaseExpiresAtMs := some (nowMs + leaseMs)
        attemptCount := row.attemptCount + 1, updatedAtMs := nowMs }
    (getDeferredFrontier db frontierId, db)
  else (none, db)

def resolveDeferredFrontier (db : Sidecar) (frontierId : String)
    (nowMs : Int) : Sidecar :=
  db.updateFrontier frontierId (fun row => row.state = .running) fun row =>
    { row with
      state := .resolved, claimToken := none, leaseExpiresAtMs := none
      updatedAtMs := nowMs }

def exhaustDeferredFrontier (db : Sidecar) (frontierId : String)
    (nowMs : Int) (terminalReason : Option String := none) : Sidecar :=
  db.updateFrontier frontierId Frontier.isActive fun row =>
    { row with
      state := .exhausted, terminalReason, claimToken := none
      leaseExpiresAtMs := none, updatedAtMs := nowMs }

inductive RescheduleOutcome
  | rescheduled
  | exhausted (reason : String)

def rescheduleDeferredFrontier (db : Sidecar) (frontierId : String)
    (nextEligibleAtMs nowMs : Int) : Outcome (RescheduleOutcome × Sidecar) := do
  let current ← orFault (getDeferredFrontier db frontierId) .frontierNotFound
  require current.isActive .frontierRescheduleInvalidState
  if current.capacityDeadlineAtMs ≤ nowMs ∨
      current.capacityDeadlineAtMs < nextEligibleAtMs then
    let reason := "capacity_wait_max_duration_exceeded"
    pure (.exhausted reason,
      exhaustDeferredFrontier db frontierId nowMs (some reason))
  else if nextEligibleAtMs ≤ nowMs then
    let reason := "non_forward_scheduling_hint"
    pure (.exhausted reason,
      exhaustDeferredFrontier db frontierId nowMs (some reason))
  else
    pure (.rescheduled, db.updateFrontier frontierId Frontier.isActive fun row =>
      { row with
        state := .waiting, nextEligibleAtMs, claimToken := none
        leaseExpiresAtMs := none, updatedAtMs := nowMs })

end CognitiveSidecar
