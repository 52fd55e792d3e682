/-
How a settlement's deltas are applied to the tables of the mind: each applier
checks its delta, writes its rows, or raises the fault that rolls the
publication back.
-/
import CognitiveSidecar.FutureTriggers
import CognitiveSidecar.Lib.Order
import CognitiveSidecar.MindTables

namespace CognitiveSidecar

open Relational

/-- What the appliers ask of readers of tables that they never write: the
sources behind support references, the live assertions, the URL parser and the
digest of a concern. -/
structure MindReads where
  resolveSources : List SourceSupportRef → String →
    Minded (List ResolvedSource)
  isLiveAssertion : String → Bool
  isFetchableUrl : String → Bool
  concernSnapshotHash : ConcernDraft → String

/-- The settlement on whose behalf a delta is applied. -/
structure DeltaContext where
  cycleId : String
  generation : Int
  conversationId : String
  nowMs : Int

def validateSourceSupportRefs (reads : MindReads)
    (refs : List SourceSupportRef) (conversationId : String) :
    Minded (List ResolvedSource) := do
  require (!blank conversationId) .supportRefConversationRequired
  reads.resolveSources refs conversationId

/-! Working context. -/

/-- The principals that a directive may and may not rest on. -/
def requireDirectiveSources (resolved : List ResolvedSource) : Minded Unit := do
  require (resolved.any (·.principalKind = .owner)) .supportRefPrincipalInvalid
  require (resolved.all fun source => source.principalKind ∉
    [PrincipalKind.ashley, .externalHuman, .externalBot])
    .supportRefPrincipalInvalid
  require (((resolved.filter (·.principalKind = .owner)).filterMap
    ResolvedSource.principalId).eraseDups.length ≤ 1) .supportRefPrincipalInvalid

/-- A revision names a stored interpretation of the conversation and brings a
source that the interpretation did not have. -/
def requireRevision (mind : Mind) (itemId conversationId revisionOf : String)
    (evidence : List SourceSupportRef) : Minded Unit := do
  let prior ← orFault (((mind.workingContext.get? revisionOf).filter
    (·.conversationId = conversationId)).filter fun _ => revisionOf ≠ itemId)
    .interpretationRevisionUnresolvable
  let envelope ← orFault (prior.payload.bind (·.interpretation))
    .interpretationRevisionUnresolvable
  require (evidence ≠ []) .interpretationRevisionEvidenceRequired
  require (∃ ref ∈ evidence, ref.sourceIdentity ∉
    (envelope.support ++ envelope.revisionEvidenceRefs).map
      SourceSupportRef.sourceIdentity) .interpretationRevisionEvidenceNotNew

/-- The principal that an interpretation is attributed to. -/
def interpretationAttribution (kind : InterpretationKind)
    (resolved : List ResolvedSource) : PrincipalKind × Option String :=
  let named := resolved.filter fun source => source.principalKind ∉
    [PrincipalKind.observation, .receipt, .unknown] ∧
      (kind = .directiveInterpretation → source.principalKind = .owner)
  match named with
  | [] =>
    if resolved.any (·.principalKind = .observation) then (.observation, none)
    else if resolved.any (·.principalKind = .receipt) then (.receipt, none)
    else (.unknown, none)
  | first :: rest =>
    if rest.all fun source => source.principalKind = first.principalKind &&
        source.principalId = first.principalId then
      (first.principalKind, first.principalId)
    else (.mixed, none)

def buildInterpretationEnvelope (reads : MindReads) (mind : Mind)
    (itemId conversationId : String) (draft : InterpretationDraft)
    (context : DeltaContext) : Minded InterpretationEnvelope := do
  require (draft.applicableConversationId = conversationId)
    .interpretationApplicabilityConversationMismatch
  let resolved ← validateSourceSupportRefs reads draft.support conversationId
  let _ ← validateSourceSupportRefs reads draft.revisionEvidenceRefs
    conversationId
  if draft.kind = .directiveInterpretation then
    requireDirectiveSources resolved
  require (∀ parent ∈ draft.derivationParents, parent ≠ itemId ∧
    (mind.workingContext.get? parent).any
      (·.conversationId = conversationId)) .interpretationParentUnresolvable
  match draft.revisionOf with
  | some revisionOf =>
    requireRevision mind itemId conversationId revisionOf
      draft.revisionEvidenceRefs
  | none => pure ()
  let attribution := interpretationAttribution draft.kind resolved
  let timed := resolved.find? fun source => source.sourceTimeMs.isSome &&
    (draft.kind ≠ .directiveInterpretation || source.principalKind = .owner)
  pure
    { draft with
      owningRecordId := itemId, revision := context.generation
      authoringCycleId := context.cycleId, supportIntact := true
      attributionKind := attribution.1, attributionId := attribution.2
      sourceTimeMs := timed.bind (·.sourceTimeMs)
      interpretationTimeMs := context.nowMs
      applicabilityLifecycle := .current }

/-- The first conversation row that the interpretation rests on. -/
def firstConversationRef (support : List SourceSupportRef) : Option String :=
  support.findSome? fun
    | .conversationTextSpan evidenceRowId _ _ _ => some evidenceRowId
    | _ => none

def normalizeItemForPublish (reads : MindReads) (mind : Mind)
    (item : WorkingContextItem InterpretationDraft) (context : DeltaContext) :
    Minded (WorkingContextItem InterpretationEnvelope) :=
  match item.interpretation with
  | none => pure { item with interpretation := none }
  | some draft => do
    let envelope ← buildInterpretationEnvelope reads mind item.id
      item.conversationId draft context
    pure
      { item with
        audienceScope := envelope.audience
        sourcePrincipal := envelope.attributionId
        sourceEvidenceRef := firstConversationRef envelope.support
        interpretation := some envelope }

def workingContextDependencyKey (id : String) : String :=
  "working_context:" ++ id

/-- The dependencies that an interpretation stores. -/
def interpretationLinks (id : String) (envelope : InterpretationEnvelope) :
    List InterpretationDependency :=
  ((envelope.support ++ envelope.revisionEvidenceRefs).filterMap
      SourceSupportRef.dependencyKey).map
    (fun target => ⟨id, target, .support⟩) ++
  (envelope.derivationParents ++
      (envelope.revisionOf.filter (· ≠ "")).toList).map
    (fun parent => ⟨id, workingContextDependencyKey parent, .revision⟩)

def persistInterpretationDependencies (mind : Mind) (id : String)
    (envelope : Option InterpretationEnvelope) : Mind :=
  { mind with
    dependencies := ((envelope.map (interpretationLinks id)).getD []).foldl
      Table.insertNew (mind.dependencies.delete (·.fromId = id)) }

/-- Store an item, over any row of its identifier. -/
def putWorkingContext (mind : Mind)
    (item : WorkingContextItem InterpretationEnvelope)
    (context : DeltaContext) : Mind :=
  let row : WorkingContextRow :=
    { id := item.id, conversationId := item.conversationId
      payload := some item, superseded := item.status ≠ .active
      updatedCycle := some context.cycleId
      updatedGeneration := some context.generation
      applicabilityLifecycle := item.interpretation.map
        (·.applicabilityLifecycle)
      audienceKnown := match item.interpretation with
        | some envelope => envelope.audience.isSome
        | none => item.audienceScope.isSome
      legacyScope := false }
  persistInterpretationDependencies
    { mind with
      workingContext := mind.workingContext.upsert row
        fun old => { row with id := old.id } } item.id item.interpretation

/-- The row of an item that is superseded or abandoned. -/
def WorkingContextRow.retired (row : WorkingContextRow)
    (status : WorkingContextStatus) (lifecycle : ApplicabilityLifecycle)
    (context : DeltaContext) : WorkingContextRow :=
  let retired :=
    { row with
      superseded := true, updatedCycle := some context.cycleId
      updatedGeneration := some context.generation }
  match row.payload with
  | none => retired
  | some item =>
    { retired with
      payload := some
        { item with
          status
          interpretation := item.interpretation.map fun envelope =>
            { envelope with applicabilityLifecycle := lifecycle } }
      applicabilityLifecycle :=
        if item.interpretation.isSome then some lifecycle
        else row.applicabilityLifecycle }

theorem WorkingContextRow.retired_id (row : WorkingContextRow)
    (status : WorkingContextStatus) (lifecycle : ApplicabilityLifecycle)
    (context : DeltaContext) :
    (row.retired status lifecycle context).id = row.id := by
  unfold WorkingContextRow.retired
  cases row.payload <;> rfl

def updateStoredWorkingContextStatus (mind : Mind) (id : String)
    (status : WorkingContextStatus) (lifecycle : ApplicabilityLifecycle)
    (context : DeltaContext) : Mind :=
  { mind with
    workingContext := mind.workingContext.update (·.id = id)
      (·.retired status lifecycle context)
      fun row => row.retired_id status lifecycle context }

/-- The row of an interpretation whose parent was superseded. -/
def WorkingContextRow.forReview (row : WorkingContextRow) : WorkingContextRow :=
  { row with
    payload := row.payload.map fun item =>
      { item with
        interpretation := item.interpretation.map fun envelope =>
          { envelope with applicabilityLifecycle := .needsReview } },
    applicabilityLifecycle := some .needsReview
    superseded := row.payload.any (·.status ≠ .active) }

def markInterpretationDependentsForReview (mind : Mind) (id exceptId : String) :
    Mind :=
  { mind with
    workingContext := mind.workingContext.update
      (fun row => row.id ≠ exceptId &&
        mind.dependencies.rows.any (fun link => link.fromId = row.id &&
          link.toId = workingContextDependencyKey id && link.kind = .revision) &&
        row.applicabilityLifecycle = some .current &&
        row.payload.any (·.interpretation.isSome))
      WorkingContextRow.forReview }

def applyWorkingContextDelta (reads : MindReads) (context : DeltaContext)
    (mind : Mind) (delta : WorkingContextDelta) : Minded Mind :=
  match delta with
  | .upsert draft => do
    let item ← normalizeItemForPublish reads mind draft context
    require (∀ envelope ∈ item.interpretation, envelope.revisionOf = none)
      .interpretationRevisionRequiresSupersede
    pure (putWorkingContext mind item context)
  | .supersede id draft => do
    let item ← normalizeItemForPublish reads mind draft context
    require (item.interpretation.isSome ∨
      ¬ ((mind.workingContext.get? id).bind (·.payload)).any
        (·.interpretation.isSome)) .interpretationRevisionEnvelopeRequired
    require (∀ envelope ∈ item.interpretation, envelope.revisionOf = some id)
      .interpretationRevisionTargetMismatch
    let mind := updateStoredWorkingContextStatus mind id .superseded
      .superseded context
    let mind := markInterpretationDependentsForReview mind id item.id
    pure (putWorkingContext mind item context)
  | .abandon id =>
    pure (updateStoredWorkingContextStatus mind id .abandoned .withdrawn
      context)

/-! Desk. -/

/-- External audiences never widen what the desk shows. -/
def ownerScopedAudience : SocialAudience → SocialAudience
  | .ownerDm threadId => .ownerDm threadId
  | _ => .ownerPrivate

def validateDraft (reads : MindReads) (context : DeltaContext)
    (input : DeskEntryDraft) : Minded DeskEntryDraft := do
  require (!blank input.id) .deskEntryIdRequired
  require (!blank input.body) .deskEntryBodyRequired
  require (input.concernRef ≠ some "") .deskEntryConcernInvalid
  require (∀ ref ∈ input.sourceRefs, !blank ref) .deskEntrySourceRefsInvalid
  require (input.verbatim = decide (input.authorKind = .quotedExternal))
    .deskAttributionMixed
  if input.supportRefs ≠ [] then do
    require (context.conversationId ≠ "") .supportRefConversationRequired
    let resolved ← validateSourceSupportRefs reads input.supportRefs
      context.conversationId
    require (input.authorKind = .owner →
      resolved.all (·.principalKind = .owner)) .deskSupportOwnerAttributionExternal
  require (∀ ref ∈ input.endorsementRef,
    ref ≠ "" ∧ reads.isLiveAssertion ref = true) .deskEndorsementInvalid
  pure { input with audienceScope := ownerScopedAudience input.audienceScope }

/-- The fresh row of a desk entry. -/
def insertedDeskEntry (input : DeskEntryDraft) (context : DeltaContext) :
    DeskEntry :=
  { input with
    lifecycle := .active, supersededBy := none
    updatedCycle := context.cycleId, updatedGeneration := context.generation
    createdAtMs := context.nowMs, updatedAtMs := context.nowMs }

def attributionChanged (existing : DeskEntry) (replacement : DeskEntryDraft) :
    Bool :=
  existing.body ≠ replacement.body ||
    existing.authorKind ≠ replacement.authorKind ||
    existing.verbatim ≠ replacement.verbatim ||
    existing.sourceRefs ≠ replacement.sourceRefs ||
    existing.supportRefs ≠ replacement.supportRefs

/-- Rewrite an active desk entry and stamp it with the settlement. -/
def updateDeskEntry (mind : Mind) (id : String) (context : DeltaContext)
    (f : DeskEntry → DeskEntry) (hkey : ∀ row, (f row).id = row.id) : Mind :=
  { mind with
    desk := mind.desk.update (fun row => row.id = id && row.lifecycle = .active)
      (fun row =>
        { f row with
          updatedCycle := context.cycleId
          updatedGeneration := context.generation
          updatedAtMs := context.nowMs }) hkey }

def insertDeskEntry (mind : Mind) (input : DeskEntryDraft)
    (context : DeltaContext) : Minded Mind := do
  let desk ← orFault (mind.desk.insert? (insertedDeskEntry input context))
    (.kernel .uniqueConstraint)
  pure { mind with desk }

def applyOneDeskDelta (reads : MindReads) (context : DeltaContext)
    (mind : Mind) (delta : DeskDelta) : Minded Mind :=
  match delta with
  | .upsert entry => do
    let input ← validateDraft reads context entry
    match mind.desk.get? input.id with
    | none => insertDeskEntry mind input context
    | some existing => do
      require (existing.lifecycle = .active) .deskEntryNotActive
      pure (updateDeskEntry mind input.id context
        (fun row =>
          { row with
            concernRef := input.concernRef, body := input.body
            authorKind := input.authorKind, sourceRefs := input.sourceRefs
            supportRefs := input.supportRefs, verbatim := input.verbatim
            form := input.form
            endorsementRef :=
              if attributionChanged existing input then none
              else input.endorsementRef
            audienceScope := input.audienceScope })
        fun _ => rfl)
  | .supersede id replacement => do
    require ((mind.desk.get? id).any (·.lifecycle = .active))
      .deskEntryNotActive
    let input ← validateDraft reads context replacement
    require (input.id ≠ id ∧ mind.desk.get? input.id = none)
      .deskEntryReplacementExists
    let mind ← insertDeskEntry mind input context
    pure (updateDeskEntry mind id context
      (fun row =>
        { row with lifecycle := .archived, supersededBy := some input.id })
      fun _ => rfl)
  | .archive id => do
    require ((mind.desk.get? id).any (·.lifecycle = .active))
      .deskEntryNotActive
    pure (updateDeskEntry mind id context
      (fun row => { row with lifecycle := .archived }) fun _ => rfl)
  | .tombstone id => do
    require ((mind.desk.get? id).any (·.lifecycle = .active))
      .deskEntryNotActive
    pure (updateDeskEntry mind id context
      (fun row => { row with lifecycle := .tombstoned }) fun _ => rfl)

/-! Concerns and occupancy. -/

/-- An objective states one outcome or one question, and no empty text. -/
def ConcernObjectiveFacet.isValid (facet : ConcernObjectiveFacet) : Bool :=
  (facet.intendedOutcome.isNone || facet.unresolvedQuestion.isNone) &&
    facet.intendedOutcome.all (· ≠ "") && facet.unresolvedQuestion.all (· ≠ "") &&
    facet.adoptionRevision.all (0 ≤ ·) && facet.delegationRef.all (· ≠ "") &&
    facet.target.all (·.2 ≠ "") &&
    facet.continuationConsiderations.all (· ≠ "") &&
    facet.stoppingConsiderations.all (· ≠ "") &&
    facet.relatedRefs.all (· ≠ "")

/-- The typed support references that the concern row stores. -/
def ConcernDraft.typedSupportRefs (record : ConcernDraft) :
    List SourceSupportRef :=
  if record.supportRefs ≠ [] then record.supportRefs
  else (record.objective.map (·.supportRefs)).getD []

/-- The sources behind the concern, checked when there are any. -/
def requireConcernSupport (reads : MindReads) (record : ConcernDraft) :
    Minded Unit := do
  let refs := record.supportRefs ++
    (record.objective.map (·.supportRefs)).getD []
  if refs ≠ [] then do
    let resolved ← validateSourceSupportRefs reads refs record.conversationId
    require ((record.dimensions.source = .ownerUtterance ∨
        record.dimensions.reliability = .ownerSupplied) →
      resolved.all (·.principalKind = .owner)) .supportRefOwnerAttributionExternal

/-- The concern row that an upsert writes over `old`. -/
def ConcernDraft.over (record : ConcernDraft) (reads : MindReads)
    (context : DeltaContext) (old : Concern) : Concern :=
  { record with
    concernId := old.concernId
    supportRefs := record.typedSupportRefs
    quarantineKind := old.quarantineKind, forgotten := old.forgotten
    snapshotHash := reads.concernSnapshotHash record
    updatedCycle := some context.cycleId }

/-- A forgotten concern is never written again. -/
def applyConcernDelta (reads : MindReads) (context : DeltaContext)
    (mind : Mind) (delta : ConcernDelta) : Minded Mind :=
  match delta with
  | .resolve concernId =>
    pure { mind with
      concerns := mind.concerns.update
        (fun row => row.concernId = concernId && !row.forgotten)
        fun row =>
          { row with
            status := some .resolved, updatedCycle := some context.cycleId } }
  | .upsert record => do
    require (record.objective.all ConcernObjectiveFacet.isValid)
      .concernObjectiveInvalid
    requireConcernSupport reads record
    let fresh : Concern :=
      { record with
        supportRefs := record.typedSupportRefs
        quarantineKind := none, forgotten := false
        snapshotHash := reads.concernSnapshotHash record
        updatedCycle := some context.cycleId }
    pure { mind with
      concerns := mind.concerns.upsert fresh
        (fun old => if old.forgotten then old
          else record.over reads context old)
        (by intro old; by_cases hforgotten : old.forgotten <;>
              simp [hforgotten, key, ConcernDraft.over]) }

def applyOccupancyDelta (context : DeltaContext) (mind : Mind)
    (delta : OccupancyDelta) : Mind :=
  let row : MindOccupancy :=
    { conversationId := delta.conversationId, concernId := delta.concernId
      status := delta.status, priority := delta.priority
      updatedCycle := context.cycleId, updatedGeneration := context.generation }
  { mind with
    occupancy := mind.occupancy.upsert row
      (fun old => if old.updatedGeneration ≤ row.updatedGeneration then
        { row with
          conversationId := old.conversationId, concernId := old.concernId }
        else old)
      (by intro old; by_cases hold : old.updatedGeneration ≤ row.updatedGeneration <;>
            simp [hold, key]) }

/-- The concern under its identifier, unless it is forgotten. -/
def getConcern (mind : Mind) (concernId : String) : Option Concern :=
  (mind.concerns.get? concernId).filter (!·.forgotten)

/-- Paired concern and occupancy deltas agree, and a first authored status
comes with its occupancy. -/
def assertPairedConcernOccupancyCoherence (mind : Mind)
    (concernDeltas : List ConcernDelta) (occupancyDeltas : List OccupancyDelta) :
    Minded Unit :=
  eachOf (fun _ concernId =>
    let expected := (concernDeltas.reverse.find?
      (·.concernId = concernId)).bind ConcernDelta.status
    match occupancyDeltas.reverse.find? (·.concernId = concernId) with
    | some paired =>
      require (expected = some paired.status) .concernOccupancyStatusMismatch
    | none =>
      match expected, mind.concerns.get? concernId with
      | some _, some facts =>
        require (facts.forgotten ∨
          mind.occupancy.rows.any (·.concernId = concernId) ∨
          facts.status.isSome) .concernFirstAuthorshipOccupancyRequired
      | _, _ => pure ()) ()
    (concernDeltas.map ConcernDelta.concernId).eraseDups

/-- The occupancy mirrors the cognition-authored status, and no other. -/
def applyConcernCognitiveStatus (context : DeltaContext) (mind : Mind)
    (concernId : String) (status : Option CognitiveStatus) (forgotten : Bool) :
    Mind :=
  match if forgotten then none else status with
  | none => { mind with
      occupancy := mind.occupancy.delete (·.concernId = concernId) }
  | some status => { mind with
      occupancy := mind.occupancy.update
        (fun row => row.concernId = concernId &&
          row.updatedGeneration ≤ context.generation)
        fun row =>
          { row with
            status, updatedCycle := context.cycleId
            updatedGeneration := context.generation } }

def reconcileConcernOccupancyCoherence (context : DeltaContext) (mind : Mind)
    (concernDeltas : List ConcernDelta) (occupancyDeltas : List OccupancyDelta) :
    Mind :=
  ((concernDeltas.map ConcernDelta.concernId ++
      occupancyDeltas.map OccupancyDelta.concernId).eraseDups).foldl
    (fun mind concernId =>
      match mind.concerns.get? concernId with
      | none => mind
      | some facts => applyConcernCognitiveStatus context mind concernId
          facts.status facts.forgotten) mind

/-! Observation subscriptions. -/

def minExternalWatchPollIntervalMs : Int := 60000

def maxExternalWatchPollIntervalMs : Int := 14400000

def defaultMaxSubscriptions : Nat := 16

/-- `*` stands only at the end of a pattern. -/
def pollUrl (urlPattern : String) : String :=
  if urlPattern.endsWith "*" then (urlPattern.dropEnd 1).toString
  else urlPattern

def validateExternalSource (reads : MindReads)
    (source : ExternalSubscriptionSource) : Minded Unit := do
  let pattern := trim source.urlPattern
  require (pattern ≠ "" ∧ pattern.length ≤ 2048 ∧
    ('*' ∈ pattern.toList → pattern.endsWith "*" = true))
    .subscriptionExternalSourceInvalid
  require (reads.isFetchableUrl (pollUrl pattern))
    .subscriptionExternalSourceInvalid

def validateSubscription (reads : MindReads) (input : SubscriptionDraft) :
    Minded Unit := do
  require (!blank input.subscriptionId) .subscriptionIdRequired
  require (!blank input.conversationId) .subscriptionConversationRequired
  require (input.topicKeys ≠ [] ∧ ∀ topic ∈ input.topicKeys, !blank topic)
    .subscriptionTopicKeysRequired
  require (∀ expiry ∈ input.expiresAtMs, isSafeInteger expiry ∧ 0 < expiry)
    .subscriptionExpiryInvalid
  match input.externalSource with
  | some source => do
    validateExternalSource reads source
    require input.expiresAtMs.isSome .subscriptionExternalExpiryRequired
    require (input.pollIntervalMs.any fun interval =>
      isSafeInteger interval && minExternalWatchPollIntervalMs ≤ interval &&
        interval ≤ maxExternalWatchPollIntervalMs)
      .subscriptionPollIntervalInvalid
    require (∀ requester ∈ input.requesterId, !blank requester)
      .subscriptionRequesterInvalid
  | none =>
    require input.pollIntervalMs.isNone .subscriptionExternalSourceRequired

/-- A renewal changes a subscription when any authored column differs. -/
def subscriptionMutationChanged (existing : ObservationSubscription)
    (input : SubscriptionDraft) : Bool :=
  existing.toSubscriptionDraft ≠ input

/-- `ORDER BY subscription_id ASC LIMIT 1000`. -/
def listObservationSubscriptions (mind : Mind)
    (conversationId : Option String) : List ObservationSubscription :=
  (((mind.subscriptions.rows.filter fun row =>
      conversationId.all (row.conversationId = ·)).mergeSort
    fun left right => left.subscriptionId ≤ right.subscriptionId)).take 1000

/-- The stored column of an external source is trimmed. -/
def SubscriptionDraft.stored (input : SubscriptionDraft) : SubscriptionDraft :=
  { input with
    externalSource := input.externalSource.map fun source =>
      { source with urlPattern := trim source.urlPattern } }

/-- The row of a created or renewed subscription; its polling starts over
unless the renewal changed nothing. -/
def SubscriptionDraft.row (input : SubscriptionDraft)
    (kept : Option ObservationSubscription) : ObservationSubscription :=
  { input.stored with
    cancelled := false
    lastPolledAtMs := kept.bind (·.lastPolledAtMs)
    lastPollOutcome := kept.bind (·.lastPollOutcome)
    expiryOpportunityEmittedAtMs := kept.bind (·.expiryOpportunityEmittedAtMs)
    pollClaimToken := kept.bind (·.pollClaimToken)
    pollClaimExpiresAtMs := kept.bind (·.pollClaimExpiresAtMs)
    pollGeneration := (kept.map (·.pollGeneration)).getD 0
    ingestedFrontierAtMs := kept.bind (·.ingestedFrontierAtMs) }

def createObservationSubscription (reads : MindReads) (mind : Mind)
    (input : SubscriptionDraft)
    (authority : Option SubscriptionMutationAuthority) : Minded Mind := do
  validateSubscription reads input
  let existing := (listObservationSubscriptions mind none).find?
    (·.subscriptionId = input.subscriptionId)
  let changed := existing.any (subscriptionMutationChanged · input)
  let reactivating := existing.any (·.cancelled)
  require ((changed ∨ reactivating) → authority.isSome)
    .subscriptionRenewalAuthorityRequired
  require (existing.any (fun row => !row.cancelled &&
      row.conversationId = input.conversationId) ∨
    (mind.subscriptions.rows.filter fun row =>
      row.conversationId = input.conversationId && !row.cancelled &&
        row.subscriptionId ≠ input.subscriptionId).length <
      defaultMaxSubscriptions) .subscriptionCapacityExceeded
  let row := input.row (if changed || reactivating then none else existing)
  let mind := { mind with
    subscriptions := mind.subscriptions.upsert row
      (fun old => { row with subscriptionId := old.subscriptionId }) }
  require ((listObservationSubscriptions mind input.conversationId).any
    (·.subscriptionId = input.subscriptionId)) .subscriptionCreateLost
  pure mind

def applySubscriptionDelta (reads : MindReads) (mind : Mind)
    (delta : SubscriptionDelta) : Minded Mind :=
  match delta with
  | .cancel subscriptionId =>
    pure { mind with
      subscriptions := mind.subscriptions.update
        (·.subscriptionId = subscriptionId)
        fun row => { row with cancelled := true } }
  | .create subscription authority =>
    createObservationSubscription reads mind subscription authority

/-- The subscriptions as the capacity check sees them after some deltas, and
the active ones with their conversations. -/
structure SubscriptionCapacity where
  existing : List ObservationSubscription
  active : List (String × String)

def SubscriptionCapacity.find? (capacity : SubscriptionCapacity)
    (subscriptionId : String) : Option ObservationSubscription :=
  capacity.existing.find? (·.subscriptionId = subscriptionId)

def assertOneSubscription (reads : MindReads) (capacity : SubscriptionCapacity)
    (delta : SubscriptionDelta) : Minded SubscriptionCapacity :=
  match delta with
  | .cancel subscriptionId =>
    pure { capacity with
      active := capacity.active.filter fun entry =>
        ¬ (capacity.find? subscriptionId).any fun existing =>
          entry = (existing.conversationId, subscriptionId) }
  | .create input authority => do
    validateSubscription reads input
    let existing := capacity.find? input.subscriptionId
    require ((existing.any fun row => subscriptionMutationChanged row input ||
      row.cancelled) → authority.isSome) .subscriptionRenewalAuthorityRequired
    let active := capacity.active.filter fun entry =>
      ¬ existing.any fun row => !row.cancelled &&
        entry = (row.conversationId, input.subscriptionId)
    let entry := (input.conversationId, input.subscriptionId)
    require (entry ∈ active ∨
      (active.filter (·.1 = input.conversationId)).length <
        defaultMaxSubscriptions) .subscriptionCapacityExceeded
    pure
      { existing :=
          { input.row none with toSubscriptionDraft := input } ::
            capacity.existing.filter (·.subscriptionId ≠ input.subscriptionId)
        active := if entry ∈ active then active else entry :: active }

/-- Validate a settlement's create and cancel sequence before any is applied. -/
def assertSubscriptionCapacity (reads : MindReads) (mind : Mind)
    (deltas : List SubscriptionDelta) : Minded SubscriptionCapacity :=
  let stored := listObservationSubscriptions mind none
  eachOf (assertOneSubscription reads)
    { existing := stored
      active := (stored.filter (!·.cancelled)).map fun row =>
        (row.conversationId, row.subscriptionId) } deltas

/-! Nominations. -/

def memoryKinds : List String :=
  ["owner_preference", "owner_self_description", "owner_goal",
    "owner_world_claim", "project_knowledge", "commitment",
    "relational_boundary", "shared_episode", "open_question",
    "ashley_interpretation", "learned_self_evidence"]

variable [Host]

def assertSafeNomination (nomination : DurableNomination) : Minded Unit := do
  require (!blank nomination.nominationId) .nominationIdRequired
  require (!blank nomination.cycleId) .nominationCycleIdRequired
  require (!blank nomination.assertionKey) .nominationAssertionKeyRequired
  require (!blank nomination.statement) .nominationStatementRequired
  require (nomination.memoryKind ∈ memoryKinds) .nominationMemoryKindInvalid
  require (nomination.dataClassification ≠ .secret ∧
    Host.hasCredentialShape nomination.statement = false)
    .secretNominationForbidden

/-- Queue a nomination unless its identifier is queued already. -/
def enqueueDurableNomination (mind : Mind) (nomination : DurableNomination) :
    Minded Mind := do
  assertSafeNomination nomination
  let mind := { mind with
    nominations := mind.nominations.insertNew
      { nomination with admitted := false } }
  require ((mind.nominations.get? nomination.nominationId).any
    (·.memoryKind ∈ memoryKinds)) .nominationInsertLost
  pure mind

end CognitiveSidecar
