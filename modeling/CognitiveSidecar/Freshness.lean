/-
Evidence freshness of one cycle: the basis of its current attempt, the pending
queue, the supersession budget, and the operations that move evidence.
-/
import CognitiveSidecar.Sidecar

namespace CognitiveSidecar.Freshness

open Relational

inductive AttachmentCoverage
  | complete | truncatedAtLimit | failed | unsupported

def AttachmentCoverage.text : AttachmentCoverage → String
  | complete => "complete"
  | truncatedAtLimit => "truncated_at_limit"
  | failed => "failed"
  | unsupported => "unsupported"

/-- What an attempt reads: evidence references in conversation order, with what
is known of each. -/
structure AttemptInputBasis where
  orderedRefs : List String
  versions : List (String × Int)
  speakerAttributionHash : String
  replyEdges : List (String × String)
  attachmentCoverage : List (String × AttachmentCoverage)
  projectionVersion : String

/-- The freshness columns of a row of `cycle_records`; a basis or a queue that
cannot be read is `none`. -/
structure FreshCycle where
  (cycleId conversationId : String)
  wakeId : Option String
  triggerKind : CycleTriggerKind
  state : CycleState := .admitted
  composeLogIds : List String := []
  attemptId : Option String := none
  attemptInputBasis : Option AttemptInputBasis := none
  supersessionsUsed : Int := 0
  pendingQueue : Option (List String) := some []
  disposition : Option String := none
  updatedAtMs : Int := 0

inductive CycleFreshnessIntegrity
  | valid | counterCorrupt | basisMissing | queueCorrupt
deriving DecidableEq

structure CycleFreshnessState where
  attemptId : Option String
  attemptInputBasis : Option AttemptInputBasis
  supersessionsUsed : Int
  pendingQueue : List String
  disposition : Option String
  integrity : CycleFreshnessIntegrity

inductive FreshnessFault
  | cycleMissing | freshEvidenceRequired | queueCorrupt | counterInvalid
  | queueInvalid | basisMissing | externalCycleRequired | orderedRefsEmpty
  | speakerAttributionMissing | projectionVersionMissing
  | versionMissing (ref : String)
  | attemptBasisImmutable | wakeCancellationRefused

/-- A text that counts as an attempt id. -/
def named (attemptId : Option String) : Bool := attemptId.any (· ≠ "")

def counterValid (counter : Int) : Bool := 0 ≤ counter && counter ≤ 2

def parsePendingQueue (stored : Option (List String)) : Option (List String) :=
  stored.bind fun queue =>
    if queue.all (fun item => trim item ≠ "") = true then
      some (queue.map trim) else none

def cycleFreshnessFromRow (row : FreshCycle) : CycleFreshnessState where
  attemptId := row.attemptId
  attemptInputBasis := row.attemptInputBasis
  supersessionsUsed :=
    if counterValid row.supersessionsUsed then row.supersessionsUsed else 2
  pendingQueue := (parsePendingQueue row.pendingQueue).getD []
  disposition := row.disposition
  integrity :=
    if counterValid row.supersessionsUsed = false then .counterCorrupt
    else if (parsePendingQueue row.pendingQueue).isNone then .queueCorrupt
    else if named row.attemptId && row.attemptInputBasis.isNone then
      .basisMissing
    else .valid

/-- A cycle without a wake is not read. -/
def getCycle (row : FreshCycle) : Except FreshnessFault FreshCycle := do
  require (named row.wakeId = true) .cycleMissing
  pure row

/-- What a write sets; what is not given stays. -/
structure FreshnessWrite where
  attemptId : Option String := none
  attemptInputBasis : Option AttemptInputBasis := none
  supersessionsUsed : Option Int := none
  pendingQueue : Option (List String) := none
  disposition : Option (Option String) := none
  state : Option CycleState := none
  allowMissingBasis : Bool := false
  nowMs : Int

def writeFreshnessStateInTransaction (row : FreshCycle)
    (input : FreshnessWrite) : Except FreshnessFault FreshCycle := do
  let current := cycleFreshnessFromRow row
  let counter := input.supersessionsUsed.getD current.supersessionsUsed
  require (counterValid counter = true) .counterInvalid
  let queue := input.pendingQueue.getD current.pendingQueue
  require (queue.all (fun item => trim item ≠ "") = true) .queueInvalid
  let attemptId := input.attemptId.or current.attemptId
  let basis := input.attemptInputBasis.or current.attemptInputBasis
  require (named attemptId = true → basis.isSome = true ∨
    input.allowMissingBasis = true) .basisMissing
  pure { row with
    attemptId, attemptInputBasis := basis
    supersessionsUsed := counter, pendingQueue := some queue
    disposition := input.disposition.getD current.disposition
    state := input.state.getD row.state, updatedAtMs := input.nowMs }

/-- Set the value of a name, in place or at the end. -/
def assign {α : Type} (entries : List (String × α)) (entry : String × α) :
    List (String × α) :=
  if entries.any (·.1 = entry.1) then
    entries.map fun other => if other.1 = entry.1 then entry else other
  else entries ++ [entry]

def assignAll {α : Type} (first second : List (String × α)) :
    List (String × α) :=
  second.foldl assign first

/-- Every reference has a version. -/
def AttemptInputBasis.hasVersions (basis : AttemptInputBasis) (ref : String) :
    Bool :=
  basis.versions.any fun entry => entry.1 = ref && decide (0 ≤ entry.2)

/-- The text that a basis is compared by. -/
def hashAttemptBasis [Host] (basis : AttemptInputBasis) :
    Except FreshnessFault String := do
  require (basis.orderedRefs ≠ []) .orderedRefsEmpty
  require (trim basis.speakerAttributionHash ≠ "") .speakerAttributionMissing
  require (trim basis.projectionVersion ≠ "") .projectionVersionMissing
  match basis.orderedRefs.find? (fun ref => !basis.hasVersions ref) with
  | some ref => .error (.versionMissing ref)
  | none =>
    pure (Host.sha256
      ([["1"], [basis.projectionVersion]] ++
        basis.orderedRefs.zipIdx.map (fun (ref, position) =>
          [ref, toString ((basis.versions.find? (·.1 = ref)).map (·.2)),
            basis.speakerAttributionHash, toString position]) ++
        basis.replyEdges.map (fun (first, second) => [first, second]) ++
        basis.attachmentCoverage.map fun (ref, coverage) =>
          [ref, coverage.text]))

/-- What is stored about a row of evidence. -/
structure EvidenceFacts where
  version : Int
  speakerPrincipalId : Option String := none
  speakerKind : Option String := none
  replyToMessageId : Option String := none
  location : Option String := none
  hasAttachments : Bool := false

/-- New evidence as a caller names it: a reference, or a row with some of its
facts. -/
structure FreshEvidenceRow where
  rowId : Option String := none
  evidenceRowId : Option String := none
  version : Option Int := none
  speakerPrincipalId : Option String := none
  speakerKind : Option String := none
  replyToMessageId : Option String := none
  attachmentCoverage : Option AttachmentCoverage := none

/-- A bare reference. -/
def FreshEvidenceRow.ofRef (ref : String) : FreshEvidenceRow :=
  { evidenceRowId := some ref }

def freshEvidenceRef (row : FreshEvidenceRow) : String :=
  trim ((row.evidenceRowId.or row.rowId).getD "")

/-- The rows whose reference is new, each reference once. -/
def uniqueFreshEvidenceRows (seen : List String) :
    List FreshEvidenceRow → List FreshEvidenceRow
  | [] => []
  | row :: rest =>
    let ref := freshEvidenceRef row
    if ref = "" ∨ ref ∈ seen then uniqueFreshEvidenceRows seen rest
    else { row with evidenceRowId := some ref } ::
      uniqueFreshEvidenceRows (ref :: seen) rest

/-- The version of a row of evidence. -/
def FreshEvidenceRow.versionOf (row : FreshEvidenceRow)
    (evidence : Option EvidenceFacts) : Int :=
  (row.version.or (evidence.map (·.version))).getD 1

/-- The facts of one row join the basis. -/
def addEvidence (evidence : String → Option EvidenceFacts)
    (basis : AttemptInputBasis × List (List String)) (row : FreshEvidenceRow) :
    Except FreshnessFault (AttemptInputBasis × List (List String)) :=
  let ref := freshEvidenceRef row
  if ref = "" then pure basis
  else do
    let facts := evidence ref
    let version := row.versionOf facts
    require (0 ≤ version) (.versionMissing ref)
    let principal := row.speakerPrincipalId.or (facts.bind (·.speakerPrincipalId))
    let kind := row.speakerKind.or (facts.bind (·.speakerKind))
    let replyTo := row.replyToMessageId.or (facts.bind (·.replyToMessageId))
    let coverage := row.attachmentCoverage.getD
      (if facts.any (·.hasAttachments) then .unsupported else .complete)
    pure ({ basis.1 with
      versions := assign basis.1.versions (ref, version)
      replyEdges := basis.1.replyEdges ++
        (replyTo.filter (· ≠ "")).toList.map fun reply => (ref, reply)
      attachmentCoverage := assign basis.1.attachmentCoverage (ref, coverage) },
      basis.2 ++ [[ref, principal.getD "", kind.getD "",
        (facts.bind (·.location)).getD ""]])

def basisFromEvidenceRows [Host] (evidence : String → Option EvidenceFacts)
    (rows : List FreshEvidenceRow) (projectionVersion : Option String) :
    Except FreshnessFault AttemptInputBasis := do
  let orderedRefs := (rows.map freshEvidenceRef).filter (· ≠ "")
  require (orderedRefs ≠ []) .orderedRefsEmpty
  let empty : AttemptInputBasis :=
    { orderedRefs
      versions := [], speakerAttributionHash := "", replyEdges := []
      attachmentCoverage := []
      projectionVersion := projectionVersion.getD "ra-p14-v1" }
  let (basis, speakerMaterial) ← eachOf (addEvidence evidence) (empty, []) rows
  pure { basis with
    orderedRefs
    speakerAttributionHash := Host.sha256 speakerMaterial }

/-- The references of a basis that the other one adds join its end. -/
def AttemptInputBasis.joined [Host] (base incoming : AttemptInputBasis)
    (projectionVersion : Option String) : AttemptInputBasis where
  orderedRefs := base.orderedRefs ++
    incoming.orderedRefs.filter (· ∉ base.orderedRefs)
  versions := assignAll base.versions incoming.versions
  speakerAttributionHash := Host.sha256
    [[base.speakerAttributionHash], [incoming.speakerAttributionHash]]
  replyEdges := base.replyEdges ++ incoming.replyEdges
  attachmentCoverage := assignAll base.attachmentCoverage
    incoming.attachmentCoverage
  projectionVersion := projectionVersion.getD base.projectionVersion

def appendAttemptBasis [Host] (row : FreshCycle)
    (evidence : String → Option EvidenceFacts) (newRows : List FreshEvidenceRow)
    (projectionVersion : Option String) :
    Except FreshnessFault AttemptInputBasis := do
  let incoming ← basisFromEvidenceRows evidence newRows
    (projectionVersion.or (row.attemptInputBasis.map (·.projectionVersion)))
  match row.attemptInputBasis with
  | some base => pure (base.joined incoming projectionVersion)
  | none =>
    -- Evidence composed before the first attempt belongs to its basis.
    let existingRefs := if named row.wakeId then row.composeLogIds else []
    if existingRefs = [] then pure incoming
    else do
      let existing ← basisFromEvidenceRows evidence
        (existingRefs.map FreshEvidenceRow.ofRef) projectionVersion
      pure (existing.joined incoming projectionVersion)

def maxSafeInteger : Nat := 9007199254740991

/-- The number at the end of an attempt id, after its last colon. -/
def attemptOrdinal (attemptId : String) : Option Nat :=
  let reversed := attemptId.toList.reverse
  let digits := reversed.takeWhile (·.isDigit)
  if digits ≠ [] ∧ (reversed.dropWhile (·.isDigit)).head? = some ':' then
    some (Nat.ofDigitChars 10 digits.reverse 0)
  else none

def attemptIdFor (cycleId : String) (ordinal : Nat) : String :=
  "attempt:" ++ cycleId ++ ":" ++ toString ordinal

/-- An ordinal that is not a safe integer starts again at one. -/
def nextOrdinal (previous : Option Nat) : Nat :=
  match previous with
  | some ordinal => if ordinal + 1 ≤ maxSafeInteger then ordinal + 1 else 1
  | none => 1

def nextAttemptId (cycleId : String) (previous : Option String) : String :=
  attemptIdFor cycleId (nextOrdinal (previous.bind attemptOrdinal))

/-- Evidence references join the compose log once, in arrival order. -/
def appendCycleLogIds (row : FreshCycle) (logIds : List String) (nowMs : Int) :
    Except FreshnessFault FreshCycle := do
  let cycle ← getCycle row
  pure { cycle with
    composeLogIds :=
      (cycle.composeLogIds ++ logIds.filter (· ≠ "")).eraseDups
    updatedAtMs := nowMs }

inductive FreshnessKind
  | started | superseded | queued | hardInvalidated | ownerPreempted | resumed
deriving DecidableEq

/-- The answer of an operation, beside the row it leaves. -/
structure FreshnessAttemptResult where
  kind : FreshnessKind
  previousAttemptId : Option String
  reason : Option String := none
  diagnostic : Option String := none
  cancels : Bool := false

def socialCycle (cycle : FreshCycle) : Bool :=
  cycle.conversationId.startsWith "dm:" ||
    cycle.conversationId.startsWith "room:" ||
    cycle.triggerKind = .externalMessage

/-- The outcome of an operation on the cycle. -/
abbrev FreshnessOutcome := Except FreshnessFault
  (FreshnessAttemptResult × FreshCycle)

/-- Fence the cycle without using its budget.  `recordsCancellation` tells
whether the wake takes the cancellation. -/
def hardInvalidateInTransaction (row : FreshCycle) (reason : Option String)
    (recordsCancellation : Bool) (nowMs : Int) : FreshnessOutcome := do
  let cycle ← getCycle row
  require (recordsCancellation = true) .wakeCancellationRefused
  let after ← writeFreshnessStateInTransaction cycle
    { disposition := some (some "hard_invalidated"), state := some .silent
      nowMs }
  let after ← getCycle after
  pure ({ kind := .hardInvalidated, previousAttemptId := cycle.attemptId
          reason := some (reason.getD "hard_invalidated")
          cancels := true }, after)

structure FreshnessAbsorbOptions where
  nowMs : Int
  projectionVersion : Option String := none
  hardInvalidation : Option String := none
  recordsCancellation : Bool := true

/-- What is left out of the basis waits in the queue, each reference once. -/
def queueWith (queue refs : List String) : List String :=
  queue ++ refs.filter (· ∉ queue)

/-- One initial attempt and two supersessions; then new evidence waits. -/
def absorbFreshMessagesInTransaction [Host] (row : FreshCycle)
    (evidence : String → Option EvidenceFacts)
    (newEvidenceRows : List FreshEvidenceRow)
    (options : FreshnessAbsorbOptions) : FreshnessOutcome := do
  let cycle ← getCycle row
  match options.hardInvalidation with
  | some reason =>
    hardInvalidateInTransaction row (some reason) options.recordsCancellation
      options.nowMs
  | none => do
  let current := cycleFreshnessFromRow cycle
  let rows := uniqueFreshEvidenceRows
    ((current.attemptInputBasis.map (·.orderedRefs)).getD cycle.composeLogIds)
    newEvidenceRows
  require (rows ≠ []) .freshEvidenceRequired
  let refs := rows.map freshEvidenceRef
  require (current.integrity ≠ .queueCorrupt) .queueCorrupt
  if named current.attemptId = false then do
    let basis ← appendAttemptBasis cycle evidence rows options.projectionVersion
    let started ← writeFreshnessStateInTransaction cycle
      { attemptId := some (attemptIdFor cycle.cycleId 1)
        attemptInputBasis := some basis, state := some .thinking
        disposition := some none, nowMs := options.nowMs }
    let after ← appendCycleLogIds started refs options.nowMs
    pure ({ kind := .started, previousAttemptId := current.attemptId }, after)
  else if current.attemptInputBasis.isNone ∨
      current.integrity = .basisMissing then do
    let after ← writeFreshnessStateInTransaction cycle
      { pendingQueue := some (queueWith current.pendingQueue refs)
        allowMissingBasis := true, nowMs := options.nowMs }
    pure ({ kind := .queued, previousAttemptId := current.attemptId
            reason := some "basis_missing"
            diagnostic := some "attempt_refused_basis_missing" }, after)
  else
    let corruptCounter := current.integrity = .counterCorrupt
    let used := if corruptCounter then 2 else current.supersessionsUsed
    if 2 ≤ used then do
      let after ← writeFreshnessStateInTransaction cycle
        { pendingQueue := some (queueWith current.pendingQueue refs)
          nowMs := options.nowMs }
      pure ({ kind := .queued, previousAttemptId := current.attemptId
              reason := some "supersession_budget_exhausted"
              diagnostic := if corruptCounter then
                some "freshness_counter_corrupt_treated_as_exhausted"
                else none }, after)
    else do
      let basis ← appendAttemptBasis cycle evidence rows
        options.projectionVersion
      let logged ← appendCycleLogIds cycle refs options.nowMs
      let after ← writeFreshnessStateInTransaction logged
        { attemptId := some (nextAttemptId cycle.cycleId current.attemptId)
          attemptInputBasis := some basis, supersessionsUsed := some (used + 1)
          state := some .thinking, disposition := some none
          nowMs := options.nowMs }
      pure ({ kind := .superseded, previousAttemptId := current.attemptId
              cancels := true }, after)

/-- Suspend external work for an Owner turn; basis and queue stay. -/
def preemptExternalAttemptInTransaction (row : FreshCycle)
    (recordsCancellation : Bool) (nowMs : Int) : FreshnessOutcome := do
  let cycle ← getCycle row
  require (socialCycle cycle = true) .externalCycleRequired
  require (recordsCancellation = true) .wakeCancellationRefused
  let after ← writeFreshnessStateInTransaction cycle
    { state := some .silent, disposition := some (some "owner_preempted")
      nowMs }
  let after ← getCycle after
  pure ({ kind := .ownerPreempted, previousAttemptId := cycle.attemptId
          reason := some "owner_preempted", cancels := true }, after)

/-- Resume on the same ordered basis without using the budget. -/
def resumeExternalAttempt (row : FreshCycle) (nowMs : Int) :
    FreshnessOutcome := do
  let cycle ← getCycle row
  require (socialCycle cycle = true) .externalCycleRequired
  let current := cycleFreshnessFromRow cycle
  if current.attemptInputBasis.isNone then
    pure ({ kind := .queued, previousAttemptId := current.attemptId
            reason := some "basis_missing"
            diagnostic := some "attempt_refused_basis_missing" }, cycle)
  else do
    let after ← writeFreshnessStateInTransaction cycle
      { attemptId := some (nextAttemptId cycle.cycleId current.attemptId)
        state := some .thinking, disposition := some none, nowMs }
    let after ← getCycle after
    pure ({ kind := .resumed, previousAttemptId := current.attemptId }, after)

/-- Store the basis of the first attempt; a stored one is never replaced.  The
flag tells whether it was stored now. -/
def initializeAttemptInputBasis [Host] (row : FreshCycle)
    (basis : AttemptInputBasis) (attemptId : Option String) (nowMs : Int) :
    Except FreshnessFault (Bool × FreshCycle) := do
  let hash ← hashAttemptBasis basis
  let current := cycleFreshnessFromRow row
  match current.attemptInputBasis.filter (fun _ => named current.attemptId) with
  | some stored => do
    let storedHash ← hashAttemptBasis stored
    require (storedHash = hash) .attemptBasisImmutable
    pure (false, row)
  | none => do
    let after ← writeFreshnessStateInTransaction row
      { attemptId := some (attemptId.getD (attemptIdFor row.cycleId 1))
        attemptInputBasis := some basis, nowMs }
    pure (true, after)

end CognitiveSidecar.Freshness
