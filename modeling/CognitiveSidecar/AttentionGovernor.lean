/-
The attention governor: each dispatch is a call that queues a request, tries to
have it admitted, sleeps between its attempts, and waits for its provider.  The
calls interleave at these waits and share one ledger.
-/
import CognitiveSidecar.AttentionLedger
import CognitiveSidecar.ModelContinuity

namespace CognitiveSidecar

open Relational

/-- A message as the estimator reads it: the number of its image addresses and
the sizes of its inline images. -/
structure EstimateMessage where
  (role content : String)
  imageUrls : Nat := 0
  inlineImages : List Int := []

structure TokenEstimate where
  (estimatedInputTokens estimatedOutputTokens : Int)

def bytesPerToken : Nat := 2

def imageTokenReserve : Int := 1200

def framingTokenOverhead : Int := 64

/-- `Math.ceil(bytes / BYTES_PER_TOKEN)`. -/
def tokensOfBytes (bytes : Int) : Int := (bytes + bytesPerToken - 1) / bytesPerToken

def inlineImageTokens (inlineImages : List Int) : Int :=
  (inlineImages.map fun bytes =>
    max imageTokenReserve (tokensOfBytes (max 0 bytes) + framingTokenOverhead)).sum

def estimateRequestInputBytes (messages : List EstimateMessage)
    (toolsJson : Option String) (wireAdditionalBytes : Option Int) : Int :=
  (messages.map fun message =>
    (message.role.utf8ByteSize + message.content.utf8ByteSize : Int)).sum +
    ((toolsJson.map fun text => (text.utf8ByteSize : Int)).getD 0) +
    max 0 (wireAdditionalBytes.getD 0)

def estimateRequestTokens (messages : List EstimateMessage)
    (maxTokens : Option Int) (toolsJson : Option String)
    (wireAdditionalBytes : Option Int) : TokenEstimate where
  estimatedInputTokens :=
    tokensOfBytes (estimateRequestInputBytes messages toolsJson
      wireAdditionalBytes) + framingTokenOverhead +
      (let inlineImages := messages.flatMap (·.inlineImages)
      if inlineImages = [] then
        (messages.map fun message => (message.imageUrls : Int)).sum *
          imageTokenReserve
      else inlineImageTokens inlineImages)
  estimatedOutputTokens := max 1 (maxTokens.getD 2048)

structure AttentionDispatchInput where
  messages : List EstimateMessage
  purpose : AttentionPurpose
  lane : Option AttentionLane := none
  modelAlias : Option String := none
  providerId : Option String := none
  routeAlias : Option String := none
  quotaBucket : Option String := none
  maxTokens : Option Int := none
  toolsJson : Option String := none
  wireAdditionalBytes : Option Int := none
  signalAborted : Bool := false
  deadlineAtMs : Option Int := none
  ageOriginAtMs : Option Int := none
  cognitiveJobId : Option Int := none
  ownerId : Option String := none
  thoughtAttemptBinding : Option ThoughtAttemptBinding := none

def mapPurposeToLane : AttentionPurpose → AttentionLane
  | .expression | .thought => .interactive
  | .thoughtObservation | .exchangeCognition => .exchangeCognition
  | .curiosityConsolidation | .maintenance => .curiosityMaintenance

namespace AttentionDispatchInput

def estimate (input : AttentionDispatchInput) : TokenEstimate :=
  estimateRequestTokens input.messages input.maxTokens input.toolsJson
    input.wireAdditionalBytes

def totalDemand (input : AttentionDispatchInput) : Int :=
  input.estimate.estimatedInputTokens + input.estimate.estimatedOutputTokens

def provider (input : AttentionDispatchInput) : String :=
  input.providerId.getD "mistral"

variable [AttentionHost]

def modelAliasUsed (input : AttentionDispatchInput) : String :=
  input.modelAlias.getD (AttentionHost.defaultModelFor input.provider)

def bucket (input : AttentionDispatchInput) : String :=
  input.quotaBucket.getD (input.provider ++ ":" ++ input.modelAliasUsed)

def toEnqueueInput (input : AttentionDispatchInput) : EnqueueInput where
  lane := input.lane.getD (mapPurposeToLane input.purpose)
  purpose := input.purpose
  modelAlias := input.modelAliasUsed
  providerId := input.provider
  quotaBucket := input.bucket
  routeAlias := input.routeAlias
  estimatedInputTokens := input.estimate.estimatedInputTokens
  estimatedOutputTokens := input.estimate.estimatedOutputTokens
  deadlineAtMs := input.deadlineAtMs
  ageOriginAtMs := input.ageOriginAtMs

end AttentionDispatchInput

/-- The counts a provider reports; either may be missing from its report. -/
structure TokenUsage where
  (promptTokens completionTokens : Option Int)

/-- How the awaited dispatch settles. -/
inductive ProviderAnswer
  | resolved (providerModel : Option String) (usage : Option TokenUsage)
  | aborted
  | rejected (code : String)

structure AcceptedDispatchIdentity where
  (requestId dispatchSequence : Nat)
  routeAlias : Option String
  modelAlias : String
  resolvedModelId : Option String
  modelEpoch : Nat
  modelIdentity : Option String
  (contractId buildIdentity : String)
  ownerId : Option String
  cognitiveJobId : Option Int
deriving DecidableEq

/-- How a call ends: with its accepted identity, or with an error. -/
inductive CallEnd
  | accepted (identity : AcceptedDispatchIdentity)
  | failed (code : String)
deriving DecidableEq

/-- Where a call is: before its first attempt, asleep after an attempt, waiting
for its provider, or over. -/
inductive CallPhase
  | attempting
  | sleeping (attempt : Nat) (waitMs : Int)
  | dispatching (dispatchSequence : Nat)
  | ended (result : CallEnd)
deriving DecidableEq

structure DispatchCall where
  requestId : Nat
  input : AttentionDispatchInput
  aborted : Bool
  phase : CallPhase

instance : Keyed DispatchCall Nat := ⟨DispatchCall.requestId⟩

def DispatchCall.inPhase (call : DispatchCall) (phase : CallPhase) :
    DispatchCall :=
  { call with phase }

theorem DispatchCall.inPhase_key (call : DispatchCall) (phase : CallPhase) :
    key (call.inPhase phase) = key call := rfl

def DispatchCall.isLive (call : DispatchCall) : Bool :=
  match call.phase with
  | .ended _ => false
  | _ => true

def attemptLimit : Nat := 120

section Calls

variable [AttentionHost]

/-- The outcome of a dispatch that was aborted or rejected. -/
def rejectDispatch (db : AttentionDb) (requestId : Nat)
    (code : Option String) (now : Int) : AttentionDb :=
  completeRequest db requestId
    (match code with
      | none =>
        { outcome := .timeout, errorClass := some "aborted_in_flight"
          retainUnknownBudget := true }
      | some code =>
        { outcome :=
            if code = "rate_limited" then .rateLimited
            else if code = "attention_deadline" ∨ code = "timeout" then
              .timeout
            else .error
          errorClass := some code, retainUnknownBudget := true }) now

/-- The wait before the next attempt. -/
def attentionWaitMs (db : AttentionDb) (input : AttentionDispatchInput)
    (clock : Nat → Int) : Int :=
  match earliestLegalDispatchMs db input.totalDemand (clock 0) input.bucket with
  | .ok earliest => max 25 (min 250 (earliest - clock 1))
  | .error _ => 50

/-- An admitted request starts at once; its Thought attempt is bound before the
provider is called. -/
def startDispatch (db : AttentionDb) (call : DispatchCall)
    (clock : Nat → Int) : CallPhase × AttentionDb :=
  let running := markRunning db call.requestId (clock 0)
  let dispatchSequence := ((running.requests.get? call.requestId).bind
    (·.dispatchSequence)).getD 0
  match call.input.thoughtAttemptBinding with
  | none => (.dispatching dispatchSequence, running)
  | some binding =>
    match bindThoughtAttempt running call.requestId binding with
    | .ok bound => (.dispatching dispatchSequence, bound)
    | .error _ => (.ended (.failed "error"),
        rejectDispatch running call.requestId (some "error") (clock 2))

/-- One turn of the admission loop. -/
def attemptAdmission (db : AttentionDb) (call : DispatchCall) (attempt : Nat)
    (maximumOciSequence : Nat) (clock : Nat → Int) :
    CallPhase × AttentionDb :=
  if call.aborted then
    (.ended (.failed "AbortError"), completeRequest db call.requestId
      { outcome := .cancelled, errorClass := some "aborted" } (clock 0))
  else if call.input.deadlineAtMs.any (· ≤ clock 0) then
    (.ended (.failed "attention_deadline"), completeRequest db call.requestId
      { outcome := .timeout, errorClass := some "deadline_before_dispatch" }
      (clock 1))
  else
    match tryAdmitRequest db call.requestId maximumOciSequence
        fun k => clock (k + 1) with
    | (.ok (.admitted _), admitted) =>
      startDispatch admitted call fun k => clock (k + 4)
    | (.ok (.deadline _), after) =>
      (.ended (.failed "attention_deadline"), after)
    | (.ok _, after) =>
      (.sleeping attempt
        (attentionWaitMs after call.input fun k => clock (k + 4)), after)
    | (.error .requestExceedsTpmBudget, after) =>
      (.ended (.failed "request_exceeds_tpm_budget"),
        completeRequest after call.requestId
          { outcome := .aborted
            errorClass := some "request_exceeds_tpm_budget" } (clock 4))
    | (.error _, after) => (.ended (.failed "error"), after)

/-- The admission loop from the given turn on, up to its next wait. -/
def admissionTurn (db : AttentionDb) (call : DispatchCall) (attempt : Nat)
    (maximumOciSequence : Nat) (clock : Nat → Int) :
    CallPhase × AttentionDb :=
  if attempt < attemptLimit then
    attemptAdmission db call attempt maximumOciSequence clock
  else
    (.ended (.failed "attention_deadline"), completeRequest db call.requestId
      { outcome := .timeout, errorClass := some "admission_wait_exhausted" }
      (clock 0))

/-- The usage that a settled dispatch reports. -/
def CompleteInput.reporting (input : CompleteInput)
    (usage : Option TokenUsage) : CompleteInput :=
  { input with
    actualInput := usage.bind (·.promptTokens)
    actualOutput := usage.bind (·.completionTokens)
    retainUnknownBudget := usage.isNone }

def dispatchModelIdentity (modelAlias : String)
    (resolvedModelId : Option String) : Option String :=
  resolvedModelId.map fun resolved =>
    "model-continuity-v1:" ++ modelAlias ++ "|" ++ resolved

/-- The rest of a call, from the answer of its provider on. -/
def settleDispatch (db : AttentionDb) (continuity : ModelContinuity)
    (call : DispatchCall) (dispatchSequence : Nat) (answer : ProviderAnswer)
    (clock : Nat → Int) : CallEnd × AttentionDb × ModelContinuity :=
  let requestId := call.requestId
  match answer with
  | .aborted => (.failed "AbortError",
      rejectDispatch db requestId none (clock 0), continuity)
  | .rejected code => (.failed code,
      rejectDispatch db requestId (some code) (clock 0), continuity)
  | .resolved providerModel usage =>
    let modelAlias := call.input.modelAliasUsed
    let resolved := resolveProviderModelId modelAlias providerModel
    if call.input.deadlineAtMs.any (· ≤ clock 0) then
      let late : CompleteInput :=
        { outcome := .timeout, errorClass := some "late_result_after_deadline"
          resolvedModelId := resolved.resolvedModelId }
      -- The error thrown here is caught below, where the row is terminal.
      (.failed "attention_deadline",
        rejectDispatch
          (completeRequest db requestId (late.reporting usage) (clock 1))
          requestId (some "attention_deadline") (clock 2), continuity)
    else
      let (applied, continuity) := applyModelContinuity continuity
        { resolved with modelAlias, dispatchSequence }
      if applied.1 = .stale then
        let stale : CompleteInput :=
          { outcome := .error, errorClass := some "stale_model_continuity"
            resolvedModelId := resolved.resolvedModelId }
        (.failed "stale_model_continuity",
          rejectDispatch
            (completeRequest db requestId (stale.reporting usage) (clock 1))
            requestId (some "stale_model_continuity") (clock 2), continuity)
      else
        let modelEpoch := if resolved.resolvedModelId = none then 0
          else applied.2
        let completed : CompleteInput :=
          { outcome := .completed, resolvedModelId := resolved.resolvedModelId }
        (.accepted
          { requestId
            dispatchSequence, routeAlias := call.input.routeAlias, modelAlias
            resolvedModelId := resolved.resolvedModelId, modelEpoch
            modelIdentity :=
              dispatchModelIdentity modelAlias resolved.resolvedModelId
            contractId := AttentionHost.currentContractId
            buildIdentity := AttentionHost.currentBuildIdentity
            ownerId := call.input.ownerId
            cognitiveJobId := call.input.cognitiveJobId },
          setRequestModelEpoch
            (completeRequest db requestId (completed.reporting usage)
              (clock 1)) requestId modelEpoch, continuity)

/-- The database, the calls that share it, and the clock readings taken. -/
structure AttentionSystem where
  db : AttentionDb := {}
  continuity : ModelContinuity := {}
  calls : Table DispatchCall := Table.empty
  reads : Nat := 0

/-- What moves the system on: a new call, the next attempt of a call (its first
one, or when its timer fires), its signal, and the answer of its provider. -/
inductive AttentionOp
  | call (input : AttentionDispatchInput)
  | attempt (requestId maximumOciSequence : Nat)
  | abort (requestId : Nat)
  | settle (requestId : Nat) (answer : ProviderAnswer)

namespace AttentionSystem

/-- The readings of the next step, in their order; a step takes eight at most. -/
def clockFrom (s : AttentionSystem) (clock : Nat → Int) : Nat → Int :=
  fun k => clock (s.reads + k)

def setPhase (s : AttentionSystem) (requestId : Nat) (phase : CallPhase) :
    Table DispatchCall :=
  s.calls.update (fun call => call.requestId = requestId) (·.inPhase phase)
    (DispatchCall.inPhase_key · phase)

/-- Start a call, unless its provider has no key or its demand can never be
admitted; these refusals leave no request. -/
def beginCall (s : AttentionSystem) (input : AttentionDispatchInput)
    (clock : Nat → Int) : AttentionSystem :=
  if AttentionHost.providerReady input.provider = true ∧
      input.totalDemand ≤ (AttentionHost.quotaContractFor input.bucket).tpm then
    let (requestId, db) :=
      insertQueuedRequest s.db input.toEnqueueInput (clock 0)
    { s with
      db
      calls := s.calls.insertNew
        ⟨requestId, input, input.signalAborted, .attempting⟩ }
  else s

/-- Continue a call that waits for its next attempt. -/
def attemptCall (s : AttentionSystem) (call : DispatchCall) (attempt : Nat)
    (maximumOciSequence : Nat) (clock : Nat → Int) : AttentionSystem :=
  let (phase, db) :=
    admissionTurn s.db call attempt maximumOciSequence clock
  { s with db, calls := s.setPhase call.requestId phase }

/-- The signal of a call aborts.  A call that sleeps is rejected by its sleep;
any other call sees the signal later. -/
def abortCall (s : AttentionSystem) (call : DispatchCall) : AttentionSystem :=
  match call.phase with
  | .sleeping _ _ =>
    { s with
      calls := s.setPhase call.requestId (.ended (.failed "AbortError")) }
  | _ =>
    { s with
      calls := s.calls.update (fun row => row.requestId = call.requestId)
        (fun row => { row with aborted := true }) (fun _ => rfl) }

end AttentionSystem

open AttentionSystem in
/-- One step of the system: the code of one call between two of its waits. -/
def attentionStep (clock : Nat → Int) (op : AttentionOp) (s : AttentionSystem) :
    AttentionSystem :=
  let readings := s.clockFrom clock
  let next : AttentionSystem :=
    match op with
    | .call input => s.beginCall input readings
    | .attempt requestId maximumOciSequence =>
      match s.calls.get? requestId with
      | none => s
      | some call =>
        match call.phase with
        | .attempting => s.attemptCall call 0 maximumOciSequence readings
        | .sleeping attempt _ =>
          s.attemptCall call (attempt + 1) maximumOciSequence readings
        | _ => s
    | .abort requestId =>
      match s.calls.get? requestId with
      | none => s
      | some call => s.abortCall call
    | .settle requestId answer =>
      match s.calls.get? requestId with
      | none => s
      | some call =>
        match call.phase with
        | .dispatching dispatchSequence =>
          let (result, db, continuity) := settleDispatch s.db s.continuity
            call dispatchSequence answer readings
          { s with
            db, continuity
            calls := s.setPhase requestId (.ended result) }
        | _ => s
  { next with reads := s.reads + 8 }

end Calls

end CognitiveSidecar
