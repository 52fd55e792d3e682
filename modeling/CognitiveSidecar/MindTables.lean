/-
The tables that cognition authors: working context, desk, concerns, occupancy,
observation subscriptions and nominations, with the deltas that a settlement
carries for them.
-/
import CognitiveSidecar.Sidecar

namespace CognitiveSidecar

open Relational

inductive SocialAudience
  | ownerPrivate
  | ownerDm (threadId : String)
  | dm (principalId : String)
  | room (roomId : String)

inductive ArtifactSupportKind
  | textSpan | pageRegion | imageRegion | structuredPath
deriving DecidableEq

/-- A reference to the source that supports a claim; `locator` is the text of
the place inside an artifact. -/
inductive SourceSupportRef
  | conversationTextSpan (evidenceRowId : String) (start stop : Nat)
      (quote : String)
  | artifact (kind : ArtifactSupportKind)
      (artifactId representationId locator : String)
  | observationRef (observationId : String)
  | domusObservation (observationId : String)
  | teachingLesson (lessonId : String)
  | receiptRef (receiptId : String)
deriving DecidableEq

/-- The table-qualified target of a dependency on a source. -/
def SourceSupportRef.dependencyKey : SourceSupportRef → Option String
  | conversationTextSpan evidenceRowId _ _ _ =>
    some ("conversation_evidence:" ++ evidenceRowId)
  | artifact _ artifactId representationId _ =>
    some ("artifact:" ++ artifactId ++ ":" ++ representationId)
  | observationRef observationId => some ("observation:" ++ observationId)
  | domusObservation _ => none
  | teachingLesson _ => none
  | receiptRef receiptId => some ("receipt:" ++ receiptId)

/-- The identity under which two references name the same source. -/
def SourceSupportRef.sourceIdentity : SourceSupportRef → String
  | conversationTextSpan evidenceRowId _ _ _ =>
    "conversation_evidence:" ++ evidenceRowId
  | artifact _ artifactId representationId _ =>
    "artifact:" ++ artifactId ++ ":" ++ representationId
  | observationRef observationId => "observation:" ++ observationId
  | domusObservation observationId => "domus_observation:" ++ observationId
  | teachingLesson lessonId => "teaching_lesson:" ++ lessonId
  | receiptRef receiptId => "receipt:" ++ receiptId

inductive PrincipalKind
  | owner | externalHuman | externalBot | ashley | observation | receipt
  | mixed | unknown
deriving DecidableEq

/-- What a readable source says about its author and its time. -/
structure ResolvedSource where
  principalKind : PrincipalKind
  principalId : Option String
  sourceTimeMs : Option Int

inductive InterpretationKind
  | directiveInterpretation | descriptiveBelief | selfConclusion | adoption
deriving DecidableEq

inductive ApplicabilityLifecycle
  | current | needsReview | superseded | withdrawn
deriving DecidableEq

/-- The part of an interpretation that cognition authors; an absent audience is
unknown, and `other` is the text of the keys carried through unread. -/
structure InterpretationDraft where
  kind : InterpretationKind
  support : List SourceSupportRef
  audience : Option SocialAudience
  applicableConversationId : String
  derivationParents : List String
  revisionOf : Option String
  revisionEvidenceRefs : List SourceSupportRef
  other : String := ""

/-- An interpretation as the host completes and stores it. -/
structure InterpretationEnvelope extends InterpretationDraft where
  owningRecordId : String
  revision : Int
  authoringCycleId : String
  supportIntact : Bool
  attributionKind : PrincipalKind
  attributionId : Option String
  sourceTimeMs : Option Int
  interpretationTimeMs : Int
  applicabilityLifecycle : ApplicabilityLifecycle

inductive WorkingContextStatus
  | active | superseded | abandoned
deriving DecidableEq

/-- A working-context item; `envelope` is the interpretation as authored in a
delta and as completed in a stored row. -/
structure WorkingContextItem (envelope : Type) where
  (id conversationId type text : String)
  concernId : Option String
  sourceTurnIds : List String
  status : WorkingContextStatus
  supersedesId : Option String
  audienceScope : Option SocialAudience
  (sourcePrincipal sourceEvidenceRef : Option String)
  interpretation : Option envelope
  other : String := ""

/-- A row of `working_context_items`; an unreadable payload is absent. -/
structure WorkingContextRow where
  (id conversationId : String)
  payload : Option (WorkingContextItem InterpretationEnvelope)
  superseded : Bool
  updatedCycle : Option String
  updatedGeneration : Option Int
  applicabilityLifecycle : Option ApplicabilityLifecycle
  (audienceKnown legacyScope : Bool)

instance : Keyed WorkingContextRow String := ⟨WorkingContextRow.id⟩

inductive DependencyKind
  | support | revision
deriving DecidableEq

/-- A row of `interpretation_dependencies`; the whole row is its key. -/
structure InterpretationDependency where
  (fromId toId : String)
  kind : DependencyKind
deriving DecidableEq

instance : Keyed InterpretationDependency InterpretationDependency := ⟨id⟩

inductive WorkingContextDelta
  | upsert (item : WorkingContextItem InterpretationDraft)
  | supersede (id : String) (replacement : WorkingContextItem InterpretationDraft)
  | abandon (id : String)

inductive DeskAuthorKind
  | ashley | owner | quotedExternal
deriving DecidableEq

inductive DeskForm
  | note | draft | observation | brainstorm

inductive DeskLifecycle
  | active | archived | tombstoned
deriving DecidableEq

structure DeskEntryDraft where
  id : String
  concernRef : Option String
  body : String
  authorKind : DeskAuthorKind
  sourceRefs : List String
  supportRefs : List SourceSupportRef := []
  verbatim : Bool
  form : DeskForm
  endorsementRef : Option String
  audienceScope : SocialAudience

/-- A row of `desk_entries`. -/
structure DeskEntry extends DeskEntryDraft where
  lifecycle : DeskLifecycle
  supersededBy : Option String
  updatedCycle : String
  (updatedGeneration createdAtMs updatedAtMs : Int)

instance : Keyed DeskEntry String := ⟨fun row => row.id⟩

inductive DeskDelta
  | upsert (entry : DeskEntryDraft)
  | supersede (id : String) (replacement : DeskEntryDraft)
  | archive (id : String)
  | tombstone (id : String)

inductive CognitiveStatus
  | active | investigating | waitingForEvidence | dormantButRevisitable
  | resolved
deriving DecidableEq

inductive QuarantineKind
  | legacyUnavailableSource | legacyQuarantineReasonUnavailable

inductive EpistemicSource
  | ownerUtterance | ashleyInterpretation | tool | perception | receipt
  | priorSettlement
deriving DecidableEq

inductive EpistemicStatus
  | asserted | interpreted | unverified | contradicted | superseded
  | unresolved
deriving DecidableEq

inductive EpistemicTime
  | current | historical | unknownFreshness
deriving DecidableEq

inductive EpistemicReliability
  | ownerSupplied | fallibleObservation | receiptBacked | inferred
  | unavailableSource
deriving DecidableEq

structure EpistemicDimensions where
  source : EpistemicSource
  status : EpistemicStatus
  time : EpistemicTime
  reliability : EpistemicReliability
deriving DecidableEq

inductive ObjectiveDisposition
  | active | waiting | satisfied | abandoned | needsReview

structure ConcernObjectiveFacet where
  intendedOutcome : Option String := none
  unresolvedQuestion : Option String := none
  adoptionRevision : Option Int := none
  supportRefs : List SourceSupportRef := []
  delegationRef : Option String := none
  audience : Option SocialAudience := none
  target : List (String × String) := []
  continuationConsiderations : Option String := none
  stoppingConsiderations : Option String := none
  disposition : Option ObjectiveDisposition := none
  relatedRefs : List String := []

/-- A concern as a delta authors it. -/
structure ConcernDraft where
  (concernId conversationId statement : String)
  sourceTurnIds : List String
  supportRefs : List SourceSupportRef := []
  dimensions : EpistemicDimensions
  assertionKey : Option String
  status : Option CognitiveStatus
  objective : Option ConcernObjectiveFacet := none

/-- A row of `concerns`; `status` is the cognition-authored one. -/
structure Concern extends ConcernDraft where
  quarantineKind : Option QuarantineKind
  forgotten : Bool
  snapshotHash : String
  updatedCycle : Option String

instance : Keyed Concern String := ⟨fun row => row.concernId⟩

inductive ConcernDelta
  | upsert (record : ConcernDraft)
  | resolve (concernId : String)

def ConcernDelta.concernId : ConcernDelta → String
  | upsert record => record.concernId
  | resolve concernId => concernId

/-- The status that the delta leaves on its concern. -/
def ConcernDelta.status : ConcernDelta → Option CognitiveStatus
  | upsert record => record.status
  | resolve _ => some .resolved

/-- A row of `mind_occupancy`. -/
structure MindOccupancy where
  (conversationId concernId : String)
  status : CognitiveStatus
  priority : Int
  updatedCycle : String
  updatedGeneration : Int
deriving DecidableEq

instance : Keyed MindOccupancy (String × String) :=
  ⟨fun row => (row.conversationId, row.concernId)⟩

structure OccupancyDelta where
  (conversationId concernId : String)
  status : CognitiveStatus
  priority : Int

structure FutureTriggerDraft where
  (triggerId conversationId concernId snapshotHash : String)
  dueAtMs : Int

inductive FutureTriggerDelta
  | create (trigger : FutureTriggerDraft)
  | cancel (triggerId : String)

inductive ExternalSourceKind
  | url | urlPattern | rss | atom | json
deriving DecidableEq

structure ExternalSubscriptionSource where
  kind : ExternalSourceKind
  urlPattern : String
deriving DecidableEq

inductive SubscriptionMatch
  | equality | substring
deriving DecidableEq

inductive SubscriptionPollOutcome
  | notDue | completeNoMatch | matched | fetchFailure | timeout | incomplete
  | unavailable | rejected | expired

/-- What cognition may ask to watch. -/
structure SubscriptionDraft where
  (subscriptionId conversationId : String)
  concernId : Option String
  (source scope : String)
  topicKeys : List String
  matchMode : SubscriptionMatch
  expiresAtMs : Option Int
  externalSource : Option ExternalSubscriptionSource := none
  pollIntervalMs : Option Int := none
  requesterId : Option String := none
deriving DecidableEq

/-- A row of `observation_subscriptions`. -/
structure ObservationSubscription extends SubscriptionDraft where
  cancelled : Bool
  lastPolledAtMs : Option Int
  lastPollOutcome : Option SubscriptionPollOutcome
  expiryOpportunityEmittedAtMs : Option Int
  pollClaimToken : Option String
  pollClaimExpiresAtMs : Option Int
  pollGeneration : Int
  ingestedFrontierAtMs : Option Int

instance : Keyed ObservationSubscription String :=
  ⟨fun row => row.subscriptionId⟩

inductive SubscriptionMutationAuthority
  | thoughtAdoption | ownerRequest

inductive SubscriptionDelta
  | create (subscription : SubscriptionDraft)
      (authority : Option SubscriptionMutationAuthority)
  | cancel (subscriptionId : String)

inductive DataClassification
  | ordinary | sensitive | neverPublic | secret
deriving DecidableEq

structure DurableNomination where
  (nominationId cycleId : String)
  generation : Int
  (assertionKey statement memoryKind : String)
  dimensions : EpistemicDimensions
  dataClassification : DataClassification
  (supersedesAssertionKey concernId : Option String)
  sourceRefs : Option (List String) := none
deriving DecidableEq

/-- A row of `durable_nominations`. -/
structure NominationRow extends DurableNomination where
  admitted : Bool
deriving DecidableEq

instance : Keyed NominationRow String := ⟨fun row => row.nominationId⟩

/-- The tables of the mind. -/
structure Mind where
  workingContext : Table WorkingContextRow := Table.empty
  dependencies : Table InterpretationDependency := Table.empty
  desk : Table DeskEntry := Table.empty
  concerns : Table Concern := Table.empty
  occupancy : Table MindOccupancy := Table.empty
  subscriptions : Table ObservationSubscription := Table.empty
  nominations : Table NominationRow := Table.empty

/-- The error codes raised while deltas are applied. -/
inductive MindFault
  | kernel (fault : Fault)
  | supportRefUnresolvable | supportRefConversationRequired
  | supportRefPrincipalInvalid | supportRefOwnerAttributionExternal
  | interpretationApplicabilityConversationMismatch
  | interpretationParentUnresolvable | interpretationRevisionUnresolvable
  | interpretationRevisionEvidenceRequired
  | interpretationRevisionEvidenceNotNew
  | interpretationRevisionRequiresSupersede
  | interpretationRevisionEnvelopeRequired
  | interpretationRevisionTargetMismatch
  | deskEntryIdRequired | deskEntryBodyRequired | deskEntryConcernInvalid
  | deskEntrySourceRefsInvalid | deskAttributionMixed
  | deskSupportOwnerAttributionExternal | deskEndorsementInvalid
  | deskEntryNotActive | deskEntryReplacementExists
  | concernObjectiveInvalid
  | concernOccupancyStatusMismatch | concernFirstAuthorshipOccupancyRequired
  | subscriptionIdRequired | subscriptionConversationRequired
  | subscriptionTopicKeysRequired | subscriptionExpiryInvalid
  | subscriptionExternalSourceInvalid | subscriptionExternalExpiryRequired
  | subscriptionPollIntervalInvalid | subscriptionRequesterInvalid
  | subscriptionExternalSourceRequired | subscriptionRenewalAuthorityRequired
  | subscriptionCapacityExceeded | subscriptionCreateLost
  | futureTriggerConcernMissing | futureTriggerSnapshotConflict
  | futureTriggerTerminal
  | nominationIdRequired | nominationCycleIdRequired
  | nominationAssertionKeyRequired | nominationStatementRequired
  | nominationMemoryKindInvalid | secretNominationForbidden
  | nominationInsertLost

/-- A fallible computation over the mind. -/
abbrev Minded (α : Type) := Except MindFault α

/-- Run a step of the kernel inside a step of the mind. -/
def ofKernel {α : Type} : Outcome α → Minded α
  | .ok value => .ok value
  | .error fault => .error (.kernel fault)

end CognitiveSidecar
