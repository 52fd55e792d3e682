/-
The scan over the events whose outcome is unknown: each pass looks at one page
of them and goes on where the pass before it ended.
-/
import CognitiveSidecar.Lib.Passes
import CognitiveSidecar.OutcomeReconciliation
import Mathlib.Data.Prod.Lex
import Mathlib.Data.String.Basic

namespace CognitiveSidecar

open List Relational

/-- The identity of a scanned row, after which a pass resumes. -/
structure OutcomeUnknownScanCursor where
  createdAtMs : Int
  id : String

/-- `ORDER BY created_at_ms ASC, id ASC`. -/
def OutcomeUnknownScanCursor.rank (row : OutcomeUnknownScanCursor) :
    Int ×ₗ String :=
  toLex (row.createdAtMs, row.id)

abbrev OutcomeUnknownScanCursor.before :=
  RankedBefore OutcomeUnknownScanCursor.rank

def outcomeUnknownRows (db : Sidecar) : List OutcomeUnknownScanCursor :=
  orderedBy OutcomeUnknownScanCursor.rank
    ((db.events.rows.filter fun row => row.state = .reconciling &&
      row.lastFailureClass = some .outcomeUnknownReconcile).map
        fun row => ⟨row.createdAtMs, row.id⟩)

/-- What a proof reads in the tables of publications and deliveries: a
settlement of the cycles or wakes, speech of the cycles, and a notice of the
cycles, whose query may fail. -/
structure DispatchReading where
  settlementPresent : List String → List String → Bool
  speechPresent : List String → Bool
  noticePresent : List String → Option Bool

/-- Nothing that the lineage of the event left tells of an external dispatch. -/
def proveNoExternalDispatch (reading : DispatchReading) (db : Sidecar)
    (eventId : String) : Bool :=
  let wakeOf (id : String) : Option String :=
    ((db.events.get? id).bind (·.wakeId)).filter (· ≠ "")
  let cycleOf (wakeId : String) : Option String :=
    ((db.wakes.get? wakeId).map (·.cycleId)).filter (· ≠ "")
  match wakeOf eventId with
  | none => false
  | some wakeId =>
    match (cycleOf wakeId).filter fun id => (db.cycles.get? id).isSome with
    | none => false
    | some cycleId =>
      let eventIds := repairLineage db eventId
      let wakeIds := wakeId :: eventIds.filterMap wakeOf
      let cycleIds := cycleId :: wakeIds.filterMap cycleOf
      boundEffects db eventIds = [] &&
        !db.effects.rows.any (fun row => row.wakeId.any (· ∈ wakeIds)) &&
        !reading.settlementPresent cycleIds wakeIds &&
        !reading.speechPresent cycleIds &&
        reading.noticePresent cycleIds = some false &&
        db.attempts.rows.all fun row => row.eventId ≠ eventId ||
          row.dispatchTruth = .unknown || row.dispatchTruth = .notStarted

structure StartupOutcomeRecoveryResult where
  scanned : Nat := 0
  recoveredToPending : Nat := 0
  leftReconciling : Nat := 0
  recoveredEventIds : List String := []
  nextCursor : Option OutcomeUnknownScanCursor := none

structure ScanInput where
  nowMs : Int
  limit : Int := 100
  cursor : Option OutcomeUnknownScanCursor := none

/-- The rows of one page. -/
def scanLimit (limit : Int) : Nat := (max 1 (min 500 limit)).toNat

def ScanInput.page (input : ScanInput) (db : Sidecar) :
    List OutcomeUnknownScanCursor :=
  pageAfter OutcomeUnknownScanCursor.before (outcomeUnknownRows db) input.cursor
    (scanLimit input.limit)

/-- The events that a pass attempts. -/
def ScanInput.attempted (input : ScanInput) (db : Sidecar) : List String :=
  ((input.page db).map (·.id)).filter (· ≠ "")

/-- One attempt; a fault leaves the event as it is. -/
def attemptRecovery (reading : DispatchReading) (nowMs : Int)
    (acc : StartupOutcomeRecoveryResult × Sidecar) (id : String) :
    StartupOutcomeRecoveryResult × Sidecar :=
  let (result, db) := acc
  let left :=
    { result with
      scanned := result.scanned + 1
      leftReconciling := result.leftReconciling + 1 }
  if proveNoExternalDispatch reading db id then
    match reconcileOutcomeUnknown db
        { eventId := id, nowMs, noExternalDispatchProof := true
          proofRef := some s!"startup-no-dispatch:{id}:{nowMs}" } with
    | .ok (.safeToRetry, db) =>
      ({ result with
          scanned := result.scanned + 1
          recoveredToPending := result.recoveredToPending + 1
          recoveredEventIds := result.recoveredEventIds ++ [id] }, db)
    | .ok (_, db) => (left, db)
    | .error _ => (left, db)
  else (left, db)

/-- One pass of the scan. -/
def reconcileStrandedOutcomeUnknownAtStartup (reading : DispatchReading)
    (db : Sidecar) (input : ScanInput) :
    StartupOutcomeRecoveryResult × Sidecar :=
  let (result, after) := (input.attempted db).foldl
    (attemptRecovery reading input.nowMs) ({}, db)
  ({ result with
      nextCursor := (resumeAfter (input.page db)
        (scanLimit input.limit)).filter (·.id ≠ "") }, after)

theorem stranded_ids_nodup (db : Sidecar) :
    (((db.events.rows.filter fun row => row.state = .reconciling &&
      row.lastFailureClass = some .outcomeUnknownReconcile).map
        fun row => OutcomeUnknownScanCursor.mk row.createdAtMs row.id).map
          (·.id)).Nodup := by
  rw [map_map]
  exact db.events.keys_nodup.sublist (filter_sublist.map _)

/-- The rows of a scan follow each other strictly: each has its own
identifier. -/
theorem outcomeUnknownRows_sorted (db : Sidecar) :
    (outcomeUnknownRows db).Pairwise OutcomeUnknownScanCursor.before :=
  orderedBy_pairwise (·.id)
    (fun _ _ hsame => congrArg (fun rank => (ofLex rank).2) hsame)
    (stranded_ids_nodup db)

theorem page_ids_nodup (input : ScanInput) (db : Sidecar) :
    ((input.page db).map (·.id)).Nodup := by
  have hids : ((outcomeUnknownRows db).map (·.id)).Nodup :=
    (((perm_insertionSort _ _).map _).nodup_iff).mpr
      (stranded_ids_nodup db)
  exact hids.sublist
    (((take_sublist _ _).trans filter_sublist).map _)

/-- Each attempt is counted. -/
theorem scanned_attempts {reading : DispatchReading} {nowMs : Int}
    (ids : List String) (acc : StartupOutcomeRecoveryResult × Sidecar) :
    (ids.foldl (attemptRecovery reading nowMs) acc).1.scanned =
      acc.1.scanned + ids.length := by
  induction ids generalizing acc with
  | nil => rfl
  | cons id _ ih =>
    have hone : (attemptRecovery reading nowMs acc id).1.scanned =
        acc.1.scanned + 1 := by
      unfold attemptRecovery
      dsimp only
      split
      · split <;> rfl
      · rfl
    rw [foldl_cons, ih, length_cons]
    omega

/-- A notice that cannot be read leaves the event as it is. -/
def unread : DispatchReading where
  settlementPresent _ _ := false
  speechPresent _ := false
  noticePresent _ := none

/-- One event waits for the truth of its outcome. -/
def stranded : Sidecar where
  events := Table.empty.insertNew
    { newInboxEvent { conversationId := "c", kind := "owner_message"
                      createdAtMs := 5 } "e" "y" "w" with
      state := .reconciling, lastFailureClass := some .outcomeUnknownReconcile }

end CognitiveSidecar
