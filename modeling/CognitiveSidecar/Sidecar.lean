/-
The sidecar database as one state, the faults its operations raise, and the
host functions (digests, random identifiers, collation) it is opened with.
-/
import CognitiveSidecar.Lib.Outcome
import CognitiveSidecar.Types

namespace CognitiveSidecar

open Relational

/-- What the kernel takes from its host.  `sha256` digests a record whose
fields are texts or lists of texts; nothing below assumes it is injective. -/
class Host where
  sha256 : List (List String) → String
  randomUUID : Nat → String
  randomUUID_injective : Function.Injective randomUUID
  randomUUID_nonempty : ∀ drawn, randomUUID drawn ≠ ""
  localeCompare : String → String → Ordering
  hasCredentialShape : String → Bool

/-- An executable host: a digest is the concatenation of its fields, and the
identifiers are told apart by their lengths. -/
@[reducible]
def plainHost : Host where
  sha256 := fun fields => String.join (fields.map String.join)
  randomUUID := fun drawn => String.ofList (List.replicate (drawn + 1) 'u')
  randomUUID_injective := by
    intro first second heq
    have hlength := congrArg (fun text => text.toList.length) heq
    simpa using hlength
  randomUUID_nonempty := by
    intro drawn heq
    have hlength := congrArg (fun text => text.toList.length) heq
    simp at hlength
  localeCompare := compare
  hasCredentialShape := fun text => text = "secret"

/-- The error codes raised by the modelled operations. -/
inductive Fault
  | durableWorkMissing | durableAttemptMissing | durableClaimMissing
  | durableWorkNotEligible | durableWorkClaimLost | durableWorkAttemptsExhausted
  | durableWorkAgeExhausted | durableSettlementStateInvalid | workerRequired
  | wakeRequired | wakeMissing | wakeCycleLineageInvalid
  | wakeReconciliationRequired | wakeAuthorizationLost | wakeTerminalConflict
  | wakeTerminal | wakeNotClaimable | wakeClaimLost | wakeFinishLost
  | receiptReconciliationRequired | leaseHeld | leaseLost | leaseExpired
  | terminalImmutable | semanticPassInvalid | consequenceExists
  | occurrenceRequired | triggerRefRequired | conversationRequired
  | authorityRevisionInvalid | occurrenceConflict | wakeCycleConflict
  | wakeConversationConflict | conversationOccupiedByFrontier
  | conversationIdRequired | cycleMissing | externalCycleRequired
  | basisMissing
  | outcomeNotReconciling | repairAuthorityMissing
  | repairPredecessorNotReconciling | repairContinuityRecoveryInvalid
  | repairWakeTerminal
  | supersessionCoverageHashInvalid | supersessionPrimaryNotCovered
  | supersessionCoverageDuplicate | supersessionCoverageOverlap
  | supersessionOldWakeInvalid | supersessionSuccessorSameWake
  | supersessionSuccessorInvalid | supersessionOwnerEventInvalid
  | supersessionCoverageIncomplete
  | invalidFrontierSchedule | frontierNotFound | frontierRescheduleInvalidState
  | channelRetired | messageRequired | sourceSentAtInvalid
  | evidenceEditParentMissing
  | corruptDuplicateMissingInbox | corruptDuplicateMissingCycle
  | corruptDuplicateConflictingCycles | corruptDuplicateCycleMissing
  | corruptDuplicateCycleInconsistent
  | futureTriggerIdRequired | futureTriggerConversationRequired
  | futureTriggerConcernRequired | futureTriggerSnapshotRequired
  | futureTriggerScheduleLost | futureTriggerTerminal
  | uniqueConstraint
deriving DecidableEq

/-- A fallible computation of the kernel. -/
abbrev Outcome (α : Type) := Except Fault α

/-- The durable tables, and the number of random identifiers drawn so far. -/
structure Sidecar where
  wakes : Table Wake := Table.empty
  events : Table InboxEvent := Table.empty
  attempts : Table Attempt := Table.empty
  repairs : Table Repair := Table.empty
  cycles : Table Cycle := Table.empty
  frontiers : Table Frontier := Table.empty
  effects : Table InFlightEffect := Table.empty
  receipts : Table EffectReceipt := Table.empty
  reservations : Table PrivateReservation := Table.empty
  bindings : Table PrivateAttemptBinding := Table.empty
  outbox : Table OutboxRow := Table.empty
  undertakings : Table OwnerUndertaking := Table.empty
  fairness : Table LaneFairness := Table.empty
  triggers : Table FutureTrigger := Table.empty
  evidence : Table Evidence := Table.empty
  discordIds : Table DiscordBinding := Table.empty
  uuidsDrawn : Nat := 0

/-- The characters that `String.prototype.trim` strips. -/
def isTrimmed (c : Char) : Bool :=
  (0x09 ≤ c.val && c.val ≤ 0x0d) || c.val = 0x20 || c.val = 0xa0 ||
    c.val = 0x1680 || (0x2000 ≤ c.val && c.val ≤ 0x200a) || c.val = 0x2028 ||
    c.val = 0x2029 || c.val = 0x202f || c.val = 0x205f || c.val = 0x3000 ||
    c.val = 0xfeff

/-- `String.prototype.trim`. -/
def trim (text : String) : String :=
  String.ofList
    ((text.toList.dropWhile isTrimmed).reverse.dropWhile isTrimmed).reverse

/-- A text that `trim` reduces to the empty text. -/
def blank (text : String) : Bool := text.toList.all isTrimmed

namespace Sidecar

/-- One more random identifier has been drawn. -/
def drew (db : Sidecar) : Sidecar := { db with uuidsDrawn := db.uuidsDrawn + 1 }

/-- `crypto.randomUUID`: the next unused identifier of the host. -/
def drawUUID [Host] (db : Sidecar) : String × Sidecar :=
  (Host.randomUUID db.uuidsDrawn, db.drew)

/-- `UPDATE wakes … WHERE wake_id = ? AND guard`. -/
def updateWake (db : Sidecar) (wakeId : String) (guard : Wake → Bool)
    (f : Wake → Wake) (hkey : ∀ row, key (f row) = key row := by intro; rfl) :
    Sidecar :=
  { db with
    wakes := db.wakes.update
      (fun row => decide (row.wakeId = wakeId) && guard row) f hkey }

/-- `UPDATE inbox_events … WHERE id = ? AND guard`. -/
def updateEvent (db : Sidecar) (eventId : String) (guard : InboxEvent → Bool)
    (f : InboxEvent → InboxEvent)
    (hkey : ∀ row, key (f row) = key row := by intro; rfl) : Sidecar :=
  { db with
    events := db.events.update
      (fun row => decide (row.id = eventId) && guard row) f hkey }

/-- `UPDATE cycle_records … WHERE cycle_id = ?`. -/
def updateCycle (db : Sidecar) (cycleId : String) (f : Cycle → Cycle)
    (hkey : ∀ row, key (f row) = key row := by intro; rfl) : Sidecar :=
  { db with cycles := db.cycles.update (fun row => row.cycleId = cycleId) f hkey }

/-- `UPDATE deferred_reactive_frontiers … WHERE frontier_id = ? AND guard`. -/
def updateFrontier (db : Sidecar) (frontierId : String)
    (guard : Frontier → Bool) (f : Frontier → Frontier)
    (hkey : ∀ row, key (f row) = key row := by intro; rfl) : Sidecar :=
  { db with
    frontiers := db.frontiers.update
      (fun row => decide (row.frontierId = frontierId) && guard row) f hkey }

section Lookup

variable {db : Sidecar}
variable {guard : InboxEvent → Bool} {f : InboxEvent → InboxEvent}
variable {eventId k : String}
variable {wakeId : String} {hkey : ∀ row, key (f row) = key row}

theorem get?_updateWake {guard : Wake → Bool} {f : Wake → Wake}
    {hkey : ∀ row, key (f row) = key row} (k : String) :
    (db.updateWake wakeId guard f hkey).wakes.get? k =
      (db.wakes.get? k).map fun row =>
        if k = wakeId ∧ guard row = true then f row else row := by
  rw [updateWake, get?_update]
  exact map_get?_congr fun row (hid : row.wakeId = k) => by simp [hid]

theorem get?_updateEvent (k : String) :
    (db.updateEvent eventId guard f hkey).events.get? k =
      (db.events.get? k).map fun row =>
        if k = eventId ∧ guard row = true then f row else row := by
  rw [updateEvent, get?_update]
  exact map_get?_congr fun row (hid : row.id = k) => by simp [hid]

theorem keys_updateEvent :
    (db.updateEvent eventId guard f hkey).events.rows.map key =
      db.events.rows.map key :=
  Table.keys_update hkey

theorem get?_updateEvent_of_ne (hk : k ≠ eventId) :
    (db.updateEvent eventId guard f hkey).events.get? k = db.events.get? k := by
  rw [get?_updateEvent]
  simp [hk]

theorem get?_updateWake_of_ne {guard : Wake → Bool} {f : Wake → Wake}
    {hkey : ∀ row, key (f row) = key row} (hk : k ≠ wakeId) :
    (db.updateWake wakeId guard f hkey).wakes.get? k = db.wakes.get? k := by
  rw [get?_updateWake]
  simp [hk]

/-- A rewritten event comes from the event it was. -/
theorem of_get?_updateEvent {hkey : ∀ row, key (f row) = key row}
    {row : InboxEvent}
    (hrow : (db.updateEvent eventId guard f hkey).events.get? k = some row) :
    ∃ old, db.events.get? k = some old ∧
      row = if k = eventId ∧ guard old = true then f old else old := by
  rw [get?_updateEvent, Option.map_eq_some_iff] at hrow
  obtain ⟨old, hold, heq⟩ := hrow
  exact ⟨old, hold, heq.symm⟩

end Lookup

end Sidecar

end CognitiveSidecar
