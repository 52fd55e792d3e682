/-
Effect continuations: a develop effect that leaves the cognition claim for a
lease of its own, and ends once, from its receipt or when its worker is lost.
-/
import CognitiveSidecar.DetachedOperations
import CognitiveSidecar.EffectLedger
import CognitiveSidecar.Lib.Text

namespace CognitiveSidecar.Completions

open Relational

def effectContinuationLeaseMs : Int := 360000

def effectContinuationPublicationMarginMs : Int := 5000

def maxEffectRounds : Int := 4

inductive ContinuationState
  | running | succeeded | failed | outcomeUnknown | cancelled
deriving DecidableEq

/-- The text of `state`. -/
def ContinuationState.text : ContinuationState → String
  | running => "running"
  | succeeded => "succeeded"
  | failed => "failed"
  | outcomeUnknown => "outcome_unknown"
  | cancelled => "cancelled"

structure EffectTarget where
  projectId : Option String := none
  workspaceId : Option String := none
deriving DecidableEq

/-- A row of `effect_continuations`. -/
structure EffectContinuation where
  (effectId conversationId cycleId : String)
  (generation deadlineAtMs remainingEffectRounds : Int)
  purpose : String
  target : EffectTarget
  (runtimeId leaseToken : String)
  leaseExpiresAtMs : Int
  state : ContinuationState := .running
  terminalClass : Option String := none
  effectTruth : Option String := some "in_progress"
  diagnosticRef : Option String
  completionEventRef : Option String := none
  (startedAtMs updatedAtMs : Int)
deriving DecidableEq

instance : Keyed EffectContinuation String := ⟨EffectContinuation.effectId⟩

inductive ContinuationFault
  | inputInvalid | effectNotDurablyAdmitted | conversationConflict
  | leaseInvalid | receiptAlreadyExists | alreadyExists | cognitionClaimLost
  | cognitionReleaseFailed | persistFailed

/-- `stringValue`: an empty text reads as none. -/
def stringValue (value : Option String) : Option String :=
  value.filter (· ≠ "")

/-- A row as it is read: an empty optional text is none. -/
def EffectContinuation.asRead (row : EffectContinuation) : EffectContinuation :=
  { row with
    terminalClass := stringValue row.terminalClass
    effectTruth := stringValue row.effectTruth
    diagnosticRef := stringValue row.diagnosticRef
    completionEventRef := stringValue row.completionEventRef }

/-- A row without one of its names is not read at all. -/
def mapContinuation (row : EffectContinuation) : Option EffectContinuation :=
  if row.effectId = "" ∨ row.conversationId = "" ∨ row.cycleId = "" ∨
      row.runtimeId = "" ∨ row.leaseToken = "" then none
  else some row.asRead

def getEffectContinuation (continuations : Table EffectContinuation)
    (effectId : String) : Option EffectContinuation :=
  if blank effectId then none
  else (continuations.get? effectId).bind mapContinuation

/-- A text without a credential, trimmed and cut to a length. -/
def safeText [Host] (value : Option String) (maxLength : Nat) : Option String :=
  match value with
  | none => none
  | some value =>
    let trimmed := trim value
    if trimmed = "" || Host.hasCredentialShape trimmed then none
    else some (slice trimmed maxLength)

structure AcceptContinuationInput where
  (kind effectId cycleId : String)
  generation : Int
  purpose : Option String
  requestProjectId : Option String := none
  requestWorkspaceId : Option String := none
  conversationId : String
  (deadlineAtMs remainingEffectRounds : Int)
  (cognitionClaimToken runtimeId : String)
  nowMs : Int
  leaseMs : Int := effectContinuationLeaseMs

/-- What the other tables answer while a continuation is accepted. -/
structure AcceptReading where
  operationKind : String := "candidate.develop"
  hasAudienceScope : Bool := true
  cycleConversationId : Option String
  holdsCognitionClaim : Bool := true
  releasesCognitionClaim : Bool := true
  diagnosticId : String

def AcceptContinuationInput.isValid (input : AcceptContinuationInput) : Bool :=
  input.kind = "candidate.develop" && !blank input.effectId &&
    !blank input.conversationId && !blank input.cognitionClaimToken &&
    !blank input.runtimeId && safeMs input.deadlineAtMs &&
    input.nowMs < input.deadlineAtMs && 0 ≤ input.remainingEffectRounds &&
    input.remainingEffectRounds ≤ maxEffectRounds && safeMs input.nowMs &&
    1 ≤ input.leaseMs && safeMs input.leaseMs

/-- The in-flight row under which an effect is durably admitted. -/
def isDurablyAdmitted (reading : AcceptReading) (input : AcceptContinuationInput)
    (inFlight : EffectRow) : Bool :=
  inFlight.state = .inFlight && reading.operationKind = "candidate.develop" &&
    inFlight.cycleId = input.cycleId &&
    inFlight.generation = input.generation && reading.hasAudienceScope

/-- Transfer a durably admitted develop effect from the cognition claim to a
lease of its own. -/
def acceptEffectContinuation [Host] (continuations : Table EffectContinuation)
    (ledger : EffectLedger) (reading : AcceptReading)
    (input : AcceptContinuationInput) (drawn : Nat) :
    Except ContinuationFault (EffectContinuation × Table EffectContinuation) :=
  do
  require (input.isValid = true) .inputInvalid
  require ((ledger.getInFlightByEffectId input.effectId).any
    (isDurablyAdmitted reading input) = true) .effectNotDurablyAdmitted
  require (reading.cycleConversationId = some input.conversationId)
    .conversationConflict
  let leaseExpiresAtMs := min (input.nowMs + input.leaseMs)
    (input.deadlineAtMs + effectContinuationPublicationMarginMs)
  require (safeMs leaseExpiresAtMs = true ∧ input.nowMs < leaseExpiresAtMs)
    .leaseInvalid
  require (getEffectReceipt ledger input.effectId = none) .receiptAlreadyExists
  require (getEffectContinuation continuations input.effectId = none)
    .alreadyExists
  require (reading.holdsCognitionClaim = true) .cognitionClaimLost
  let row : EffectContinuation :=
    { effectId := input.effectId, conversationId := input.conversationId
      cycleId := input.cycleId, generation := input.generation
      deadlineAtMs := input.deadlineAtMs
      remainingEffectRounds := input.remainingEffectRounds
      purpose := (safeText input.purpose 280).getD "Purpose unavailable"
      target :=
        { projectId := safeText input.requestProjectId 256
          workspaceId := safeText input.requestWorkspaceId 256 }
      runtimeId := input.runtimeId, leaseToken := Host.randomUUID drawn
      leaseExpiresAtMs, diagnosticRef := some reading.diagnosticId
      startedAtMs := input.nowMs, updatedAtMs := input.nowMs }
  let continuations ← orFault (continuations.insert? row) .alreadyExists
  require (reading.releasesCognitionClaim = true) .cognitionReleaseFailed
  let continuation ← orFault
    (getEffectContinuation continuations input.effectId) .persistFailed
  pure (continuation, continuations)

def EffectContinuation.renewed (leaseExpiresAtMs nowMs : Int)
    (row : EffectContinuation) : EffectContinuation :=
  { row with leaseExpiresAtMs, updatedAtMs := nowMs }

theorem EffectContinuation.renewed_key (leaseExpiresAtMs nowMs : Int)
    (row : EffectContinuation) :
    key (row.renewed leaseExpiresAtMs nowMs) = key row := rfl

def renewEffectContinuationLease (continuations : Table EffectContinuation)
    (effectId leaseToken : String) (nowMs leaseMs : Int) :
    Bool × Table EffectContinuation :=
  match getEffectContinuation continuations effectId with
  | none => (false, continuations)
  | some row =>
    if blank leaseToken ∨ safeMs nowMs = false ∨ safeMs leaseMs = false ∨
        leaseMs < 1 ∨ row.state ≠ .running ∨ row.leaseToken ≠ leaseToken ∨
        row.deadlineAtMs + effectContinuationPublicationMarginMs ≤ nowMs ∨
        row.leaseExpiresAtMs ≤ nowMs then (false, continuations)
    else
      let expiresAtMs := min (nowMs + leaseMs)
        (row.deadlineAtMs + effectContinuationPublicationMarginMs)
      let current := fun (held : EffectContinuation) =>
        decide (held.effectId = effectId) && decide (held.state = .running) &&
          decide (held.leaseToken = leaseToken) &&
          decide (nowMs < held.leaseExpiresAtMs) &&
          decide (held.deadlineAtMs = row.deadlineAtMs)
      (continuations.rows.any current, continuations.update current
        (EffectContinuation.renewed expiresAtMs nowMs)
        (EffectContinuation.renewed_key expiresAtMs nowMs))

/-- A continuation ends; its class and truth are stored cut to 80 units. -/
def EffectContinuation.ended (state : ContinuationState)
    (terminalClass effectTruth : String) (nowMs : Int)
    (row : EffectContinuation) : EffectContinuation :=
  { row with
    state, terminalClass := some (slice terminalClass 80)
    effectTruth := some (slice effectTruth 80), leaseExpiresAtMs := nowMs
    updatedAtMs := nowMs }

theorem EffectContinuation.ended_key (state : ContinuationState)
    (terminalClass effectTruth : String) (nowMs : Int)
    (row : EffectContinuation) :
    key (row.ended state terminalClass effectTruth nowMs) = key row := rfl

structure FinishContinuationInput where
  (effectId leaseToken : String)
  state : ContinuationState
  (terminalClass effectTruth : String)
  nowMs : Int

def finishEffectContinuation (continuations : Table EffectContinuation)
    (input : FinishContinuationInput) : Bool × Table EffectContinuation :=
  if blank input.effectId ∨ blank input.leaseToken ∨
      blank input.terminalClass ∨ blank input.effectTruth ∨
      safeMs input.nowMs = false then (false, continuations)
  else
    let held := fun (row : EffectContinuation) =>
      decide (row.effectId = input.effectId) &&
        decide (row.state = .running) &&
        decide (row.leaseToken = input.leaseToken)
    (continuations.rows.any held, continuations.update held
      (EffectContinuation.ended input.state input.terminalClass
        input.effectTruth input.nowMs)
      (EffectContinuation.ended_key input.state input.terminalClass
        input.effectTruth input.nowMs))

structure AbandonContinuationInput where
  effectId : String
  nowMs : Int
  (terminalClass effectTruth : String)
  state : ContinuationState := .outcomeUnknown

/-- Terminalize a lost process or expired worker without dispatching it
again. -/
def abandonEffectContinuation (continuations : Table EffectContinuation)
    (input : AbandonContinuationInput) :
    Option EffectContinuation × Table EffectContinuation :=
  if blank input.effectId ∨ safeMs input.nowMs = false then
    (none, continuations)
  else
    let continuations := continuations.update
      (fun row => row.effectId = input.effectId && row.state = .running)
      (EffectContinuation.ended input.state input.terminalClass
        input.effectTruth input.nowMs)
      (EffectContinuation.ended_key input.state input.terminalClass
        input.effectTruth input.nowMs)
    ((getEffectContinuation continuations input.effectId).filter
      (·.state = input.state), continuations)

def EffectContinuation.linked (eventId : String) (nowMs : Int)
    (row : EffectContinuation) : EffectContinuation :=
  { row with
    completionEventRef := row.completionEventRef.or (some eventId)
    updatedAtMs := nowMs }

theorem EffectContinuation.linked_key (eventId : String) (nowMs : Int)
    (row : EffectContinuation) : key (row.linked eventId nowMs) = key row := rfl

def recordEffectContinuationCompletion
    (continuations : Table EffectContinuation) (effectId eventId : String)
    (nowMs : Int) : Table EffectContinuation :=
  if blank effectId ∨ blank eventId ∨ safeMs nowMs = false then continuations
  else continuations.update
    (fun row => row.effectId = effectId && row.state ≠ .running)
    (EffectContinuation.linked eventId nowMs)
    (EffectContinuation.linked_key eventId nowMs)

/-- `effectContinuationBindingHash`. -/
def effectContinuationBindingHash [Host] (record : EffectContinuation) :
    String :=
  Host.sha256
    [[record.effectId], [record.conversationId], [record.cycleId],
      [toString record.generation], [toString record.deadlineAtMs],
      [toString record.remainingEffectRounds], [record.purpose],
      record.target.projectId.toList, record.target.workspaceId.toList,
      record.diagnosticRef.toList]

/-- The terminal class that a receipt names, or the one of its outcome. -/
def receiptTerminalClass (receipt : ReceiptRow) : String :=
  receipt.claims.terminationClass.getD
    (if receipt.outcome = .succeeded then "SUCCESS" else "FAILED")

/-- The effect truth that a receipt names, or the one of its outcome. -/
def receiptEffectTruth (receipt : ReceiptRow) : String :=
  receipt.claims.executionTruth.getD
    (if receipt.outcome = .succeeded then "unknown" else "effect_unknown")

def receiptState (receipt : ReceiptRow) : ContinuationState :=
  if receiptTerminalClass receipt = "CANCELLED" then .cancelled
  else match receipt.outcome with
    | .succeeded => .succeeded
    | .failed => .failed
    | _ => .outcomeUnknown

/-- The state that `onTerminal` gives a receipt. -/
def workerState (receipt : ReceiptRow) : ContinuationState :=
  if receiptTerminalClass receipt = "CANCELLED" then .cancelled
  else match receipt.outcome with
    | .succeeded => .succeeded
    | .outcomeUnknown => .outcomeUnknown
    | _ => .failed

/-- The truth that `onTerminal` gives a receipt: one that names none counts as
unknown, whatever its outcome. -/
def workerEffectTruth (receipt : ReceiptRow) : String :=
  receipt.claims.executionTruth.getD "unknown"

/-- `onTerminal`: end a continuation by the receipt of its worker. -/
def finishFromReceipt (continuations : Table EffectContinuation)
    (effectId leaseToken : String) (receipt : ReceiptRow) (nowMs : Int) :
    Bool × Table EffectContinuation :=
  finishEffectContinuation continuations
    { effectId
      leaseToken, state := workerState receipt
      terminalClass := receiptTerminalClass receipt
      effectTruth := workerEffectTruth receipt, nowMs }

end CognitiveSidecar.Completions
