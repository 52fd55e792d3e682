/-
Memory admission: published nominations become assertions.  An immediate
admission of an Owner's claim and a bounded catch-up share one admission step.
-/
import CognitiveSidecar.MindDeltas

namespace CognitiveSidecar.Admission

open Relational

/-- The evidence that a kind of memory asks for. -/
inductive AdmissionGrounding
  | ownerQuote | ownerQuoteOrObservation | conversationQuote | ashleyAuthored

def automaticAdmissionGrounding (memoryKind : String) :
    Option AdmissionGrounding :=
  if memoryKind ∈ ["owner_preference", "owner_self_description", "owner_goal",
      "relational_boundary", "commitment"] then some .ownerQuote
  else if memoryKind ∈ ["owner_world_claim", "project_knowledge"] then
    some .ownerQuoteOrObservation
  else if memoryKind = "shared_episode" then some .conversationQuote
  else if memoryKind ∈ ["ashley_interpretation", "open_question",
      "learned_self_evidence"] then some .ashleyAuthored
  else none

/-- `GROUNDING_RANK`. -/
def AdmissionGrounding.rank : AdmissionGrounding → Nat
  | .ownerQuote => 3
  | .ownerQuoteOrObservation => 2
  | .conversationQuote => 1
  | .ashleyAuthored => 0

/-- A memory may replace another only if its kind needs at least the same
grounding. -/
def canReplaceMemoryKind (next previous : String) : Bool :=
  match automaticAdmissionGrounding next,
      automaticAdmissionGrounding previous with
  | some nextGrounding, some previousGrounding =>
    previousGrounding.rank ≤ nextGrounding.rank
  | _, _ => false

/-- `CLASSIFICATION_RANK`. -/
def classificationRank : DataClassification → Nat
  | .ordinary => 0
  | .sensitive => 1
  | .neverPublic => 2
  | .secret => 3

/-- The stronger of a classification and another that may be missing. -/
def strongerClassification (best : DataClassification) :
    Option DataClassification → DataClassification
  | some value => if classificationRank best < classificationRank value
      then value else best
  | none => best

def maxClassification (values : List (Option DataClassification)) :
    DataClassification :=
  values.foldl strongerClassification .ordinary

/-- `canEnterModelContext` on the private surface. -/
def canEnterModelContext (classification : DataClassification) : Bool :=
  classification ≠ .secret

def credentialOmittedPlaceholder : String := "[credential omitted]"

def redactedStatement : String := "[redacted]"

/-- A durable nomination as the payload of its settlement states it. -/
structure PublishedNomination where
  (nominationId assertionKey statement memoryKind : String)
  source : Option EpistemicSource := none
  sourceRefs : List String := []

/-- A row of `settlements`; an unreadable payload publishes nothing. -/
structure PublishedSettlement where
  (settlementId cycleId : String)
  generation : Int
  durableNominations : List PublishedNomination

instance : Keyed PublishedSettlement String := ⟨fun row => row.settlementId⟩

/-- A row of `cycle_records`. -/
structure CycleGeneration where
  (cycleId conversationId : String)
  generation : Int

instance : Keyed CycleGeneration String := ⟨fun row => row.cycleId⟩

/-- A row of `sidecar_memory_assertions`. -/
structure MemoryAssertion where
  (assertionKey statement memoryKind : String)
  dimensions : EpistemicDimensions
  dataClassification : DataClassification
  lineageParentKey : Option String
  admittedGeneration : Option Int
  live : Bool
  channel : String
deriving DecidableEq

instance : Keyed MemoryAssertion String := ⟨fun row => row.assertionKey⟩

inductive AdmissionDecision
  | admitted | skippedSuperseded | skippedSecret | skippedUnpublished
  | skippedGeneration | skippedRetracted | skippedProvenance
deriving DecidableEq

structure AdmissionResult where
  (nominationId assertionKey : String)
  result : AdmissionDecision
  assertion : Option MemoryAssertion

/-- A row of `admission_log`. -/
structure AdmissionLogRow where
  (nominationId assertionKey : String)
  result : AdmissionDecision
  generation : Int

/-- The tables that admission reads and writes. -/
structure MemoryStore where
  mind : Mind := {}
  cycles : Table CycleGeneration := Table.empty
  settlements : Table PublishedSettlement := Table.empty
  assertions : Table MemoryAssertion := Table.empty
  admissionLog : List AdmissionLogRow := []

inductive MemoryFault
  | mind (fault : MindFault)
  | settlementConflict | settlementCycleMissing
  | assertionKeyRequired | assertionStatementRequired | assertionKindInvalid
  | secretAssertionForbidden | liveAssertionGenerationRequired
  | supportRefused

/-- A support that resolved, with the principal and the channel of its source. -/
structure ResolvedSupport where
  (kind evidenceRowId principalKind channel : String)

/-- What the evidence tables say when a nomination is considered: the typed
support of its settlement (`none` where a reference does not resolve), the
support that replaced assertions pass on, and the checks on evidence rows. -/
structure AdmissionReading where
  typed : Option (List ResolvedSupport) := some []
  inherited : List String → Bool → List ResolvedSupport := fun _ _ => []
  isVerifiedOwnerEvidence : String → Bool := fun _ => true
  isSecretEvidence : String → Bool := fun _ => false
  entitled : Bool := false
  isExternalDialog : String → Bool := fun _ => false
  prepareExternalSocial : List String → Option DataClassification :=
    fun _ => none
  supportsWritable : Bool := true

def publishedNominationMatches (published : PublishedNomination)
    (nomination : NominationRow) : Bool :=
  published.nominationId = nomination.nominationId &&
    published.assertionKey = nomination.assertionKey &&
    published.statement = nomination.statement &&
    published.memoryKind = nomination.memoryKind

def isAshleyInterpretationForStatement (published : PublishedNomination)
    (statement : String) : Bool :=
  published.memoryKind = "learned_self_evidence" &&
    published.statement = statement &&
    published.source = some .ashleyInterpretation

/-- Published nominations are the only witness that a learned self was
adopted; an Owner's own words need a second one of Ashley's. -/
def isLearnedSelfThoughtAdopted (nomination : NominationRow)
    (settlement : PublishedSettlement) : Bool :=
  let published := settlement.durableNominations
  let ownerOrigin := nomination.dimensions.source = .ownerUtterance ∧
    nomination.dimensions.reliability = .ownerSupplied
  published.any (publishedNominationMatches · nomination) &&
    (!decide ownerOrigin ||
      (published.eraseP (publishedNominationMatches · nomination)).any
        (isAshleyInterpretationForStatement · nomination.statement))

/-- The highest generation of the conversation of a cycle; a cycle that is not
recorded reads as no conversation at generation zero. -/
def currentConversationGeneration (store : MemoryStore) (cycleId : String) :
    String × Int :=
  match store.cycles.get? cycleId with
  | none => ("", 0)
  | some cycle => (cycle.conversationId,
      ((store.cycles.rows.filter
        (·.conversationId = cycle.conversationId)).map
          (·.generation)).foldl max cycle.generation)

def settlementForNomination (store : MemoryStore)
    (nomination : NominationRow) : Option PublishedSettlement :=
  store.settlements.rows.find? fun settlement =>
    settlement.cycleId = nomination.cycleId &&
      settlement.generation = nomination.generation

/-- `ORDER BY generation, nomination_id`. -/
def NominationRow.before (a b : NominationRow) : Bool :=
  a.generation < b.generation ||
    (a.generation = b.generation && a.nominationId ≤ b.nominationId)

/-- A published nomination of a later generation, in the conversation, that
supersedes the assertion of this one. -/
def laterPublishedSuperseder (store : MemoryStore)
    (nomination : NominationRow) (conversationId : String) :
    Option NominationRow :=
  firstBy (NominationRow.before · ·)
    (store.mind.nominations.rows.filter fun other =>
      other.supersedesAssertionKey = some nomination.assertionKey &&
        nomination.generation < other.generation &&
        (settlementForNomination store other).isSome &&
        (store.cycles.get? other.cycleId).any
          (·.conversationId = conversationId))

/-- `logAdmission`: a result is logged once for each nomination. -/
def logAdmission (store : MemoryStore) (result : AdmissionResult) :
    MemoryStore :=
  if store.admissionLog.any (fun row =>
      row.nominationId = result.nominationId && row.result = result.result)
  then store
  else { store with
    admissionLog := store.admissionLog ++
      [{ nominationId := result.nominationId
         assertionKey := result.assertionKey, result := result.result
         generation := (result.assertion.bind (·.admittedGeneration)).getD 0 }] }

def resolveNominationSourceRefs (store : MemoryStore)
    (nomination : NominationRow) (settlement : PublishedSettlement) :
    List String :=
  let own := nomination.sourceRefs.getD []
  let published := ((settlement.durableNominations.find? fun published =>
    published.nominationId = nomination.nominationId ||
      published.assertionKey = nomination.assertionKey).map
        (·.sourceRefs)).getD []
  if own ≠ [] then own
  else if published ≠ [] then published
  else ((store.mind.nominations.get? nomination.nominationId).bind
    (·.sourceRefs)).getD []

def isSocialConversationId (conversationId : String) : Bool :=
  "dm:".toList.isPrefixOf conversationId.toList ||
    "room:".toList.isPrefixOf conversationId.toList

def observationRefKinds : List String :=
  ["observation_ref", "receipt_ref", "artifact_text_span",
    "document_page_region", "image_region", "structured_path"]

/-- Row ids of messages of a principal that are quoted. -/
def quotedRowIds (principalKind : String) (supports : List ResolvedSupport) :
    List String :=
  (supports.filter fun support => support.kind = "conversation_text_span" &&
    support.principalKind = principalKind).map (·.evidenceRowId)

def isGroundedForKind (memoryKind : String) (supports : List ResolvedSupport)
    (socialConversation : Bool) : Bool :=
  let ownerQuote := quotedRowIds "owner" supports ≠ []
  match automaticAdmissionGrounding memoryKind with
  | some .ownerQuote => ownerQuote
  | some .ownerQuoteOrObservation =>
    ownerQuote || supports.any (·.kind ∈ observationRefKinds)
  | some .conversationQuote =>
    ownerQuote || quotedRowIds "ashley" supports ≠ [] ||
      (socialConversation && quotedRowIds "external_human" supports ≠ [])
  | some .ashleyAuthored => true
  | none => false

structure AdmitOptions where
  requireCurrentGeneration : Option Int := none
  currentnessEntitled : Option Bool := none
  requireGrounding : Bool := false

/-- What a nomination that passes every check is written with. -/
structure Approval where
  channel : String
  effectiveClassification : DataClassification

/-- An assertion that a nomination would replace: by key or by supersession. -/
def replacedKeys (nomination : NominationRow) : List String :=
  nomination.assertionKey ::
    (nomination.supersedesAssertionKey.filter (· ≠ "")).toList

def isOwnerOrigin (nomination : NominationRow) : Bool :=
  nomination.dimensions.source = .ownerUtterance ||
    nomination.dimensions.reliability = .ownerSupplied

/-- The checks on the order of publication and on what would be replaced. -/
def approveOrder (store : MemoryStore) (options : AdmitOptions)
    (nomination : NominationRow) :
    Except AdmissionDecision PublishedSettlement := do
  require (nomination.dataClassification ≠ .secret) .skippedSecret
  require (nomination.statement ≠ redactedStatement) .skippedRetracted
  let settlement ← orFault (settlementForNomination store nomination)
    .skippedUnpublished
  require (nomination.memoryKind = "learned_self_evidence" →
    settlement.durableNominations.any
      (publishedNominationMatches · nomination) = true) .skippedUnpublished
  require (nomination.memoryKind = "learned_self_evidence" →
    isLearnedSelfThoughtAdopted nomination settlement = true)
    .skippedProvenance
  let current := currentConversationGeneration store nomination.cycleId
  require (options.requireCurrentGeneration.all (· = current.2) = true)
    .skippedGeneration
  require (laterPublishedSuperseder store nomination current.1 = none)
    .skippedSuperseded
  require ((replacedKeys nomination).all (fun key =>
    (store.assertions.get? key).all fun previous => !previous.live ||
      canReplaceMemoryKind nomination.memoryKind previous.memoryKind) = true)
    .skippedProvenance
  pure settlement

/-- The checks on the evidence of a nomination. -/
def approveEvidence (store : MemoryStore) (reading : AdmissionReading)
    (options : AdmitOptions) (nomination : NominationRow)
    (settlement : PublishedSettlement) :
    Except AdmissionDecision Approval := do
  let conversationId :=
    (currentConversationGeneration store nomination.cycleId).1
  let typed ← orFault reading.typed .skippedProvenance
  let channels := (typed.map (·.channel)).eraseDups
  require (channels.length ≤ 1) .skippedProvenance
  let channel := channels.head?.getD "discord"
  let ownerOrigin := isOwnerOrigin nomination
  require (ownerOrigin = true →
    typed.all (·.principalKind = "owner") = true) .skippedProvenance
  let supports := typed ++
    (reading.inherited (replacedKeys nomination) ownerOrigin).filter
      (·.channel = channel)
  require (options.requireGrounding = true →
    isGroundedForKind nomination.memoryKind supports
      (isSocialConversationId conversationId) = true) .skippedProvenance
  let sourceRefs := resolveNominationSourceRefs store nomination settlement
  let verified := (sourceRefs ++ quotedRowIds "owner" supports).any
    reading.isVerifiedOwnerEvidence
  require (ownerOrigin = true → verified = true)
    (if sourceRefs.any reading.isSecretEvidence then .skippedSecret
      else .skippedProvenance)
  require (nomination.dimensions.time = .current →
    options.currentnessEntitled.getD reading.entitled = true)
    .skippedProvenance
  let socialSourceRefs :=
    (sourceRefs ++ quotedRowIds "external_human" supports).eraseDups
  let social ←
    if socialSourceRefs.any reading.isExternalDialog ||
        (isSocialConversationId conversationId &&
          nomination.memoryKind = "learned_self_evidence") then do
      require (nomination.memoryKind = "learned_self_evidence" ∨
        nomination.memoryKind = "shared_episode") .skippedProvenance
      let prepared ← orFault (reading.prepareExternalSocial socialSourceRefs)
        .skippedProvenance
      pure (some prepared)
    else pure none
  let effectiveClassification := maxClassification
    [(store.assertions.get? nomination.assertionKey).map
        (·.dataClassification), some nomination.dataClassification, social]
  require (canEnterModelContext effectiveClassification = true) .skippedSecret
  pure { channel, effectiveClassification }

/-- A nomination that no check turns away. -/
def approve (store : MemoryStore) (reading : AdmissionReading)
    (options : AdmitOptions) (nomination : NominationRow) :
    Except AdmissionDecision Approval := do
  let settlement ← approveOrder store options nomination
  approveEvidence store reading options nomination settlement

/-- `ON CONFLICT(assertion_key) DO UPDATE`. -/
def putAssertion (assertions : Table MemoryAssertion)
    (row : MemoryAssertion) : Table MemoryAssertion :=
  assertions.upsert row
    (fun old => { row with assertionKey := old.assertionKey })
    (fun _ => rfl)

/-- The internal admission writer. -/
def upsertMemoryAssertion (store : MemoryStore) (input : MemoryAssertion) :
    Except MemoryFault (MemoryAssertion × MemoryStore) := do
  require (!blank input.assertionKey) .assertionKeyRequired
  require (!blank input.statement) .assertionStatementRequired
  require (input.memoryKind ∈ memoryKinds) .assertionKindInvalid
  require (input.dataClassification = .secret →
    input.statement = credentialOmittedPlaceholder ∨
      input.statement = redactedStatement) .secretAssertionForbidden
  require (input.live = true → input.admittedGeneration ≠ none)
    .liveAssertionGenerationRequired
  let existing := store.assertions.get? input.assertionKey
  let effective : MemoryAssertion := { input with
    dataClassification := maxClassification
      [existing.map (·.dataClassification), some input.dataClassification]
    lineageParentKey := input.lineageParentKey.or
      (existing.bind (·.lineageParentKey))
    admittedGeneration := match existing with
      | none => input.admittedGeneration
      | some old => if input.live then
          input.admittedGeneration.or old.admittedGeneration else none }
  pure (effective, { store with
    assertions := putAssertion store.assertions effective })

def MemoryAssertion.retired (row : MemoryAssertion) : MemoryAssertion :=
  { row with live := false, admittedGeneration := none }

theorem MemoryAssertion.retired_key (row : MemoryAssertion) :
    key row.retired = key row := rfl

/-- The superseded assertion is no longer live. -/
def retireSuperseded (store : MemoryStore) (nomination : NominationRow) :
    MemoryStore :=
  match nomination.supersedesAssertionKey.filter (· ≠ "") with
  | some superseded =>
    if superseded ≠ nomination.assertionKey then
      { store with
        assertions := store.assertions.update
          (·.assertionKey = superseded) MemoryAssertion.retired
          MemoryAssertion.retired_key }
    else store
  | none => store

def NominationRow.markAdmitted (row : NominationRow) : NominationRow :=
  { row with admitted := true }

theorem NominationRow.markAdmitted_key (row : NominationRow) :
    key (NominationRow.markAdmitted row) = key row := rfl

/-- `UPDATE durable_nominations SET admitted = 1`. -/
def setAdmitted (store : MemoryStore) (nominationId : String) : MemoryStore :=
  { store with
    mind := { store.mind with
      nominations := store.mind.nominations.update
        (·.nominationId = nominationId) NominationRow.markAdmitted
        NominationRow.markAdmitted_key } }

/-- The assertion of an approved nomination. -/
def assertionOf (nomination : NominationRow) (approval : Approval) :
    MemoryAssertion where
  assertionKey := nomination.assertionKey
  statement := nomination.statement
  memoryKind := nomination.memoryKind
  dimensions := nomination.dimensions
  dataClassification := approval.effectiveClassification
  lineageParentKey := nomination.supersedesAssertionKey
  admittedGeneration := some nomination.generation
  live := true
  channel := approval.channel

/-- Admit one nomination, or log why it is skipped. -/
def admitOne (store : MemoryStore) (reading : AdmissionReading)
    (options : AdmitOptions) (nomination : NominationRow) :
    Except MemoryFault (AdmissionResult × MemoryStore) :=
  match approve store reading options nomination with
  | .error skipped =>
    let result : AdmissionResult :=
      { nominationId := nomination.nominationId
        assertionKey := nomination.assertionKey, result := skipped
        assertion := none }
    .ok (result, logAdmission store result)
  | .ok approval => do
    let (assertion, store) ← upsertMemoryAssertion store
      (assertionOf nomination approval)
    let store := retireSuperseded store nomination
    require (reading.supportsWritable = true) .supportRefused
    let store := setAdmitted store nomination.nominationId
    let result : AdmissionResult :=
      { nominationId := nomination.nominationId
        assertionKey := nomination.assertionKey, result := .admitted
        assertion := some assertion }
    pure (result, logAdmission store result)

structure AdmissionOptions where
  nominationIds : Option (List String) := none
  limit : Option Int := none
  allowedKinds : Option (List String) := none
  memoryKinds : Option (List String) := none
  requireGrounding : Bool := false
  undecidedOnly : Bool := false

/-- The nominations of a state, in the order of their generations. -/
def listDurableNominations (store : MemoryStore) (admitted : Bool)
    (options : AdmissionOptions) : List NominationRow :=
  let limit := max 1 (min 10000 (options.limit.getD 10000))
  let allowedKinds := options.allowedKinds.or options.memoryKinds
  (((store.mind.nominations.rows.filter fun row =>
    row.admitted = admitted &&
      allowedKinds.all (fun kinds => kinds.contains row.memoryKind) &&
      (!options.undecidedOnly || !store.admissionLog.any
        (·.nominationId = row.nominationId))).insertionSort
          (NominationRow.before · ·)).take limit.toNat).filter
            (·.memoryKind ∈ memoryKinds)

/-- One nomination of a tick. -/
def tickOne (readings : String → AdmissionReading)
    (options : AdmissionOptions) (progress : List AdmissionResult × MemoryStore)
    (nomination : NominationRow) :
    Except MemoryFault (List AdmissionResult × MemoryStore) := do
  let (result, store) ← admitOne progress.2 (readings nomination.nominationId)
    { requireGrounding := options.requireGrounding } nomination
  pure (progress.1 ++ [result], store)

/-- The nominations that a tick considers. -/
def selectedNominations (store : MemoryStore) (options : AdmissionOptions) :
    List NominationRow :=
  (listDurableNominations store false options).filter fun nomination =>
    options.nominationIds.all (·.contains nomination.nominationId)

def tickAdmission (store : MemoryStore) (readings : String → AdmissionReading)
    (options : AdmissionOptions) :
    Except MemoryFault (List AdmissionResult × MemoryStore) :=
  eachOf (tickOne readings options) ([], store)
    (selectedNominations store options)

/-- The evidence row that an immediate admission is given. -/
structure ClaimEvidence where
  (rowId role : String)
  hasText : Bool
  dataClassification : DataClassification
  secretOmitted : Bool

structure AdmitOwnerSuppliedClaimInput where
  (settlementId nominationId : String)
  evidence : Option ClaimEvidence := none
  currentnessEntitled : Option Bool := none

/-- Why an immediate admission ends before the nomination is considered. -/
def claimSkip (reading : AdmissionReading)
    (input : AdmitOwnerSuppliedClaimInput) (nomination : NominationRow) :
    Option AdmissionDecision :=
  if input.evidence.any (fun evidence =>
      evidence.dataClassification = .secret || evidence.secretOmitted) then
    some .skippedSecret
  else if isOwnerOrigin nomination && !input.evidence.any (fun evidence =>
      evidence.role = "owner" && evidence.hasText) then
    some .skippedProvenance
  else if nomination.dimensions.time = .current &&
      !input.currentnessEntitled.getD reading.entitled then
    some .skippedProvenance
  else none

/-- The nomination with the evidence row that it came with. -/
def withEvidence (nomination : NominationRow)
    (evidence : Option ClaimEvidence) : NominationRow :=
  match evidence with
  | some evidence =>
    if nomination.sourceRefs.getD [] = [] then
      { nomination with sourceRefs := some [evidence.rowId] }
    else nomination
  | none => nomination

def claimOptions (reading : AdmissionReading)
    (input : AdmitOwnerSuppliedClaimInput) (nomination : NominationRow) :
    AdmitOptions where
  requireCurrentGeneration := some nomination.generation
  currentnessEntitled :=
    if nomination.dimensions.time = .current then
      some (input.currentnessEntitled.getD reading.entitled)
    else input.currentnessEntitled

/-- The nomination of an immediate admission, when its settlement is that of
the input. -/
def claimedNomination (store : MemoryStore)
    (input : AdmitOwnerSuppliedClaimInput) : Option NominationRow :=
  ((store.mind.nominations.get? input.nominationId).filter
    (·.memoryKind ∈ memoryKinds)).filter fun nomination =>
      (store.settlements.get? input.settlementId).any fun settlement =>
        settlement.cycleId = nomination.cycleId &&
          settlement.generation = nomination.generation

/-- Immediate admission of an Owner's claim. -/
def admitOwnerSuppliedClaim (store : MemoryStore) (reading : AdmissionReading)
    (input : AdmitOwnerSuppliedClaimInput) :
    Except MemoryFault (Option AdmissionResult × MemoryStore) :=
  match claimedNomination store input with
  | none => .ok (none, store)
  | some nomination =>
    match claimSkip reading input nomination with
    | some skipped =>
      let result : AdmissionResult :=
        { nominationId := nomination.nominationId
          assertionKey := nomination.assertionKey, result := skipped
          assertion := none }
      .ok (some result, logAdmission store result)
    | none => do
      let (result, store) ← admitOne store reading
        (claimOptions reading input nomination)
        (withEvidence nomination input.evidence)
      pure (some result, store)

end CognitiveSidecar.Admission
