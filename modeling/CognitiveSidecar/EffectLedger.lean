/-
The in-flight effects: an effect is begun under its wake, its receipt decides
what becomes of it, and recovery marks the effects whose outcome was lost.
-/
import CognitiveSidecar.MindTables
import CognitiveSidecar.WakeLedger

namespace CognitiveSidecar

open Relational

/-- The error codes raised by the effect ledger. -/
inductive EffectFault
  | originEventIdRequired | wakeRequired | wakeEffectOccupancyHeld
  | inFlightMissing | uniqueConstraint | foreignKeyConstraint

/-- A fallible computation of the effect ledger. -/
abbrev EffectAnswer (α : Type) := Except EffectFault α

/-- A row of `in_flight_effects`. -/
structure EffectRow where
  (effectId cycleId : String)
  generation : Int
  (correlationId idempotencyKey : String)
  state : InFlightState
  dispatchedAtMs : Int
  (originJobId wakeId : Option String)
  originEventId : String
  originAttemptId : Option String

instance : Keyed EffectRow String := ⟨EffectRow.effectId⟩

/-- The states that occupy the wake of an effect. -/
def EffectRow.isUnresolved (row : EffectRow) : Bool :=
  row.state = .inFlight || row.state = .unknown

def EffectRow.inState (row : EffectRow) (state : InFlightState) : EffectRow :=
  { row with state }

theorem EffectRow.inState_key (row : EffectRow) (state : InFlightState) :
    key (row.inState state) = key row := rfl

/-- `claims_json`: the claim that decides the state of the effect, the claim
that names how its execution ended, and the text of the others. -/
structure ReceiptClaims where
  executionTruth : Option String := none
  terminationClass : Option String := none
  other : String := ""
deriving DecidableEq

/-- A row of `effect_receipts`, found by its effect: the effect id is unique
in the table. -/
structure ReceiptRow where
  (receiptId effectId idempotencyKey : String)
  outcome : EffectOutcome
  claims : ReceiptClaims
  atMs : Int
  dataClassification : DataClassification
  secretOmitted : Bool
deriving DecidableEq

instance : Keyed ReceiptRow String := ⟨ReceiptRow.effectId⟩

/-- The effects, their receipts, and the random identifiers drawn. -/
structure EffectLedger where
  effects : Table EffectRow := Table.empty
  receipts : Table ReceiptRow := Table.empty
  uuidsDrawn : Nat := 0

namespace EffectLedger

def getInFlightByEffectId (ledger : EffectLedger) (effectId : String) :
    Option EffectRow :=
  ledger.effects.get? effectId

def getInFlightByIdempotencyKey (ledger : EffectLedger)
    (idempotencyKey : String) : Option EffectRow :=
  ledger.effects.rows.find? fun row => row.idempotencyKey = idempotencyKey

def getUnresolvedForWake (ledger : EffectLedger) (wakeId : String) :
    Option EffectRow :=
  ledger.effects.rows.find? fun row =>
    row.wakeId = some wakeId && row.isUnresolved

/-- `idx_in_flight_effects_wake`: a wake has one unresolved effect at most. -/
def WakeIndex (effects : Table EffectRow) : Prop :=
  ∀ row ∈ effects.rows, ∀ other ∈ effects.rows, row.isUnresolved = true →
    other.isUnresolved = true → row.wakeId ≠ none →
    row.wakeId = other.wakeId → row.effectId = other.effectId

instance (effects : Table EffectRow) : Decidable (WakeIndex effects) :=
  inferInstanceAs (Decidable (∀ row ∈ effects.rows, ∀ other ∈ effects.rows,
    row.isUnresolved = true → other.isUnresolved = true → row.wakeId ≠ none →
    row.wakeId = other.wakeId → row.effectId = other.effectId))

/-- `UPDATE in_flight_effects SET state = ? WHERE effect_id = ? AND guard`. -/
def setState (ledger : EffectLedger) (effectId : String)
    (guard : EffectRow → Bool) (state : InFlightState) :
    EffectAnswer EffectLedger := do
  let effects := ledger.effects.update
    (fun row => decide (row.effectId = effectId) && guard row)
    (·.inState state) (EffectRow.inState_key · state)
  require (WakeIndex effects) .uniqueConstraint
  pure { ledger with effects }

end EffectLedger

structure PutInFlightInput where
  effectId : Option String := none
  cycleId : String
  generation : Int
  wakeId : Option String := none
  (correlationId idempotencyKey : String)
  dispatchedAtMs : Option Int := none
  originJobId : Option String := none
  originEventId : String
  originAttemptId : Option String := none

/-- The id an effect begins under: the caller's own, or a random one. -/
def PutInFlightInput.identifiedIn [Host] (input : PutInFlightInput)
    (ledger : EffectLedger) : String × EffectLedger :=
  match input.effectId with
  | some effectId => (effectId, ledger)
  | none => (Host.randomUUID ledger.uuidsDrawn,
      { ledger with uuidsDrawn := ledger.uuidsDrawn + 1 })

/-- Begin an effect.  The sidecar `db` holds the cycles, wakes, events and
attempts that the row refers to. -/
def putInFlight [Host] (db : Sidecar) (ledger : EffectLedger)
    (input : PutInFlightInput) (nowMs : Int) :
    EffectAnswer (EffectRow × EffectLedger) :=
  match ledger.getInFlightByIdempotencyKey input.idempotencyKey with
  | some existing => pure (existing, ledger)
  | none => do
    require (blank input.originEventId = false) .originEventIdRequired
    let cycleWakeId := (db.cycles.get? input.cycleId).bind (·.wakeId)
    let wakeId ← orFault ((input.wakeId.or cycleWakeId).filter (· ≠ ""))
      .wakeRequired
    require (ledger.getUnresolvedForWake wakeId = none)
      .wakeEffectOccupancyHeld
    let identified := input.identifiedIn ledger
    let row : EffectRow :=
      { effectId := identified.1, cycleId := input.cycleId
        generation := input.generation, correlationId := input.correlationId
        idempotencyKey := input.idempotencyKey, state := .inFlight
        dispatchedAtMs := input.dispatchedAtMs.getD nowMs
        originJobId := input.originJobId, wakeId := some wakeId
        originEventId := input.originEventId
        originAttemptId := input.originAttemptId }
    let effects ← orFault (identified.2.effects.insert? row) .uniqueConstraint
    require ((db.wakes.get? wakeId).isSome ∧
      (db.events.get? input.originEventId).isSome ∧
      ∀ attemptId ∈ input.originAttemptId, (db.attempts.get? attemptId).isSome)
      .foreignKeyConstraint
    pure (row, { identified.2 with effects })

def markInFlightUnknown (ledger : EffectLedger) (effectId : String) :
    EffectAnswer (EffectRow × EffectLedger) := do
  let ledger ← ledger.setState effectId (·.state = .inFlight) .unknown
  let row ← orFault (ledger.getInFlightByEffectId effectId) .inFlightMissing
  pure (row, ledger)

def getEffectReceipt (ledger : EffectLedger) (effectId : String) :
    Option ReceiptRow :=
  ledger.receipts.get? effectId

def getEffectReceiptByIdempotencyKey (ledger : EffectLedger)
    (idempotencyKey : String) : Option ReceiptRow :=
  ledger.receipts.rows.find? fun row => row.idempotencyKey = idempotencyKey

/-- The state that a receipt gives its effect. -/
def effectStateForReceipt (receipt : ReceiptRow) : InFlightState :=
  if receipt.claims.executionTruth = some "effect_unknown" ∨
      receipt.claims.executionTruth = some "effect_partial" ∨
      receipt.claims.executionTruth = some "effect_indeterminate" then .unknown
  else
    match receipt.outcome with
    | .succeeded => .receipted
    | .notAttempted => .receipted
    | .inProgress => .inFlight
    | .failed =>
      if receipt.claims.executionTruth = some "no_effect_proven" ∨
          receipt.claims.executionTruth = some "effect_verified" then
        .receipted
      else .unknown
    | .outcomeUnknown => .unknown

def markInFlightReceipted (ledger : EffectLedger) (effectId : String) :
    EffectAnswer (EffectRow × EffectLedger) := do
  let state := ((getEffectReceipt ledger effectId).map
    effectStateForReceipt).getD .unknown
  let ledger ← ledger.setState effectId (fun _ => true) state
  let row ← orFault (ledger.getInFlightByEffectId effectId) .inFlightMissing
  pure (row, ledger)

def updateInFlightOccupancyFromReceipt (ledger : EffectLedger)
    (receipt : ReceiptRow) : EffectAnswer EffectLedger :=
  ledger.setState receipt.effectId (fun _ => true)
    (effectStateForReceipt receipt)

/-- `ORDER BY dispatched_at_ms ASC`. -/
def listInFlight (ledger : EffectLedger) : List EffectRow :=
  ledger.effects.rows.mergeSort fun row other =>
    row.dispatchedAtMs ≤ other.dispatchedAtMs

/-- Mark every effect whose process is gone. -/
def recoverInFlight (ledger : EffectLedger) : EffectAnswer EffectLedger :=
  eachOf (fun ledger row =>
    if row.state = .inFlight then
      Prod.snd <$> markInFlightUnknown ledger row.effectId
    else .ok ledger) ledger (listInFlight ledger)

/-- The later receipt's outcome and claims under the first receipt's keys. -/
def ReceiptRow.promotedBy (row receipt : ReceiptRow) : ReceiptRow :=
  { row with
    outcome := receipt.outcome, claims := receipt.claims
    atMs := receipt.atMs, dataClassification := receipt.dataClassification
    secretOmitted := receipt.secretOmitted }

theorem ReceiptRow.promotedBy_key (row receipt : ReceiptRow) :
    key (row.promotedBy receipt) = key row := rfl

/-- `INSERT INTO effect_receipts`, under its three unique keys. -/
def EffectLedger.insertReceipt (ledger : EffectLedger) (receipt : ReceiptRow) :
    EffectAnswer EffectLedger := do
  require (∀ row ∈ ledger.receipts.rows, row.receiptId ≠ receipt.receiptId ∧
    row.idempotencyKey ≠ receipt.idempotencyKey) .uniqueConstraint
  let receipts ← orFault (ledger.receipts.insert? receipt) .uniqueConstraint
  pure { ledger with receipts }

/-- `UPDATE effect_receipts … WHERE effect_id = ? AND outcome = 'in_progress'`. -/
def EffectLedger.promoteReceipt (ledger : EffectLedger) (receipt : ReceiptRow) :
    EffectLedger :=
  { ledger with
    receipts := ledger.receipts.update
      (fun row => row.effectId = receipt.effectId && row.outcome = .inProgress)
      (·.promotedBy receipt) (ReceiptRow.promotedBy_key · receipt) }

/-- The receipt already stored for the effect, or under the same key. -/
def existingReceipt (ledger : EffectLedger) (receipt : ReceiptRow) :
    Option ReceiptRow :=
  (getEffectReceipt ledger receipt.effectId).or
    (getEffectReceiptByIdempotencyKey ledger receipt.idempotencyKey)

/-- Bring the effect to the state its receipt gives it, the receipt being
stored already: a refused `UPDATE` leaves the receipt. -/
def settleOccupancy (ledger : EffectLedger) (receipt : ReceiptRow) :
    EffectAnswer ReceiptRow × EffectLedger :=
  match updateInFlightOccupancyFromReceipt ledger receipt with
  | .ok after => (.ok receipt, after)
  | .error fault => (.error fault, ledger)

/-- Store a receipt and settle its effect: two statements, each committed by
itself, so the ledger is returned with a fault too. -/
def recordEffectReceipt (ledger : EffectLedger) (receipt : ReceiptRow) :
    EffectAnswer ReceiptRow × EffectLedger :=
  match existingReceipt ledger receipt with
  | some existing =>
    if existing.effectId = receipt.effectId then
      if existing.outcome = .inProgress ∧ receipt.outcome ≠ .inProgress then
        let promoted := ledger.promoteReceipt receipt
        settleOccupancy promoted
          ((getEffectReceipt promoted receipt.effectId).getD existing)
      else settleOccupancy ledger existing
    else (.ok existing, ledger)
  | none =>
    match ledger.insertReceipt receipt with
    | .error fault => (.error fault, ledger)
    | .ok inserted => settleOccupancy inserted receipt

/-- The operations on the effect ledger, with their arguments. -/
inductive EffectOp
  | putInFlight (db : Sidecar) (input : PutInFlightInput) (nowMs : Int)
  | recordEffectReceipt (receipt : ReceiptRow)
  | markInFlightUnknown (effectId : String)
  | markInFlightReceipted (effectId : String)
  | recoverInFlight

/-- One call.  A fault leaves what was committed before it. -/
def effectStep [Host] (op : EffectOp) (ledger : EffectLedger) : EffectLedger :=
  match op with
  | .putInFlight db input nowMs =>
    commit ledger (Prod.snd <$> putInFlight db ledger input nowMs)
  | .recordEffectReceipt receipt =>
    (CognitiveSidecar.recordEffectReceipt ledger receipt).2
  | .markInFlightUnknown effectId =>
    commit ledger
      (Prod.snd <$> CognitiveSidecar.markInFlightUnknown ledger effectId)
  | .markInFlightReceipted effectId =>
    commit ledger
      (Prod.snd <$> CognitiveSidecar.markInFlightReceipted ledger effectId)
  | .recoverInFlight => commit ledger (CognitiveSidecar.recoverInFlight ledger)

end CognitiveSidecar
