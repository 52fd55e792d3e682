/-
The forget of a topic: which rows it hits, the plan that lists them, and the
two ways to carry it out, by the topic itself and by the targets of a plan.

A loop over the hits of a table updates each by its primary key; it is one pass
over the table here, and a refused statement rolls the whole forget back.
-/
import CognitiveSidecar.ForgetTables

namespace CognitiveSidecar.Forget

open Relational

inductive ForgetFault
  | forgetTopicRequired | uniqueConstraint
  | forgetDeliveryReservationMissing | forgetDeliveryCancelFailed

abbrev ForgetAnswer (α : Type) := Except ForgetFault α

/-- The action recorded with a target of each kind. -/
def ForgetEntity.action : ForgetEntity → ForgetAction
  | .concern | .workingContext | .occupancy | .attentionWatch => .detach
  | .futureTrigger | .subscription | .speechOutbox | .systemNotice
  | .inFlight => .cancel
  | .causalLedger => .keepMetadataOnly
  | _ => .redact

def targetIds (targets : List ForgetTarget) (entity : ForgetEntity) :
    List String :=
  (targets.filter (·.entityType = entity)).map ForgetTarget.entityUuid

/-- A target without a text, or one that is listed already, is not added. -/
def addTarget (targets : List ForgetTarget) (target : ForgetTarget) :
    List ForgetTarget :=
  if target.entityUuid = "" ∨ ∃ listed ∈ targets,
      listed.entityType = target.entityType ∧
        listed.entityUuid = target.entityUuid then targets
  else targets ++ [target]

/-- What the forget has found so far and later tables are matched against. -/
structure Found where
  (evidenceIds conversations concernIds observationIds : List String)
  assertionKeys : List String

def ForgetDb.found (db : ForgetDb) (targets : List ForgetTarget) : Found :=
  let evidenceIds := targetIds targets .conversationEvidence
  { evidenceIds
    conversations := ((db.rows .conversationEvidence).filter
      (·.rowId ∈ evidenceIds)).map (·.conversationId)
    concernIds := targetIds targets .concern
    observationIds := targetIds targets .observation
    assertionKeys := targetIds targets .memoryAssertion }

section Matching

variable [ForgetHost] (topic : String)

/-- `hasTypedInterpretationEnvelope`. -/
def isTypedEnvelope (fields : List (String × JsonValue)) : Bool :=
  match getField fields "interpretationEnvelope" with
  | some (.object envelope) =>
    match getField envelope "kind" with
    | some (.text kind) =>
      kind ∈ ["directive_interpretation", "descriptive_belief",
        "self_conclusion", "adoption"]
    | _ => false
  | _ => false

/-- `workingContextHasOwnTopic`: beside a typed envelope only the text of the
item itself counts. -/
def workingContextHasOwnTopic (payload : JsonColumn) : Bool :=
  match payload.parsed with
  | .object fields =>
    if isTypedEnvelope fields then
      (getField fields "text").any (hasTopic topic)
    else mentions payload.raw topic
  | _ => mentions payload.raw topic

/-- The observations that a journal entry cites as read. -/
def JournalRow.readObservations (row : JournalRow) : List String :=
  match row.readRefs.parsed with
  | .array items => items.filterMap fun item =>
    (JsonColumn.json item).textField "observationId"
  | _ => []

/-- The words of a journal entry, one column a line. -/
def JournalRow.words (row : JournalRow) : String :=
  row.entry.getD "" ++ "\n" ++ row.readRefs.raw ++ "\n" ++ row.interests.raw

/-- The rows that the forget of the topic takes in. -/
def isHit (found : Found) : (entity : ForgetEntity) → Row entity → Bool
  | .conversationEvidence, row => row.text.any (mentions · topic)
  | .episode, row =>
    row.forgottenAtMs.isNone &&
      (row.evidenceRowIds.any (· ∈ found.evidenceIds) ||
        [some row.summary, row.tone, row.takeaway,
          some row.unresolvedThreads].any (·.any (mentions · topic)))
  | .threadStory, row =>
    row.forgottenAtMs.isNone && (mentions row.story topic ||
      decide (row.conversationId ∈ found.conversations))
  | .concern, row => mentions row.statement topic
  | .workingContext, row => workingContextHasOwnTopic topic row.payload
  | .deskEntry, row => mentions row.body topic
  | .occupancy, row => decide (row.concernId ∈ found.concernIds)
  | .futureTrigger, row =>
    mentions row.payload.raw topic ||
      decide (row.concernId ∈ found.concernIds)
  | .subscription, row => mentions row.spec.raw topic
  | .thoughtStep, row => mentions row.payload.raw topic
  | .observation, row => mentions row.payload.raw topic
  | .effectReceipt, row => mentions row.payload.raw topic
  | .effectDiagnostic, row => mentions row.payload.raw topic
  | .settlement, row => mentions row.payload.raw topic
  | .inboxEvent, row => mentions row.payload.raw topic
  | .nomination, row => mentions row.statement topic
  | .memoryAssertion, row => mentions row.statement topic
  | .memorySupport, row => decide (row.assertionKey ∈ found.assertionKeys)
  | .speechOutbox, row => mentions row.licensedText topic
  | .systemNotice, row => mentions row.noticeText topic
  | .causalLedger, row => mentions row.payload.raw topic
  | .inFlight, row => mentions row.payload.raw topic
  | .journalEntry, row =>
    row.forgottenAtMs.isNone && (mentionsLower row.words topic ||
      row.readObservations.any (· ∈ found.observationIds))
  | .interestBranch, row =>
    row.forgottenAtMs.isNone &&
      mentionsLower (row.label ++ "\n" ++ row.lastNote.getD "") topic
  | .growthRevision, row =>
    row.status ≠ "forgotten" &&
      [row.topic, row.previousText, some row.proposedText, row.rationale,
        row.ashleyRationale, row.ownerRationale].any
          (·.any (mentionsLower · topic))
  | .moodEvent, row =>
    row.forgottenAtMs.isNone && row.appraisal.any (mentionsLower · topic)
  | .expectation, row =>
    row.forgottenAtMs.isNone &&
      mentionsLower (row.statement ++ "\n" ++ row.lesson.getD "") topic
  | .diaryEntry, row =>
    row.forgottenAtMs.isNone && row.text.any (mentionsLower · topic)
  | .growthGap, row => row.note.any (mentionsLower · topic)
  | .growthDimensionHistory, row =>
    [row.reason, row.before, row.after].any (·.any (mentionsLower · topic))
  | .selfNarrative, row =>
    row.forgottenAtMs.isNone && row.text.any (mentionsLower · topic)
  | .attentionWatch, row =>
    [row.note, row.matchJson, row.expiresJson].any (mentions · topic)
  | .personaSnapshot, row => mentionsLower row.snapshot.raw topic

def ForgetDb.hits (db : ForgetDb) (found : Found) (entity : ForgetEntity) :
    List (Row entity) :=
  (db.rows entity).filter (isHit topic found entity)

/-- List the hits of one table. -/
def ForgetDb.discover (db : ForgetDb) (targets : List ForgetTarget)
    (entity : ForgetEntity) : List ForgetTarget :=
  (db.hits topic (db.found targets) entity).foldl (fun targets row =>
    addTarget targets ⟨entity, entityUuid entity row, entity.action⟩) targets

end Matching

/-- The order in which a plan goes through the tables. -/
def planOrder : List ForgetEntity :=
  [.conversationEvidence, .episode, .threadStory, .concern, .workingContext,
    .deskEntry, .occupancy, .futureTrigger, .subscription, .thoughtStep,
    .observation, .effectReceipt, .effectDiagnostic, .settlement, .inboxEvent,
    .nomination, .memoryAssertion, .memorySupport, .speechOutbox,
    .systemNotice, .causalLedger, .inFlight, .journalEntry, .interestBranch,
    .growthRevision, .moodEvent, .expectation, .diaryEntry, .growthGap,
    .growthDimensionHistory, .selfNarrative, .attentionWatch, .personaSnapshot]

/-- Discover the exact targets without changing a row. -/
def planV021Forget [ForgetHost] (db : ForgetDb) (input : String) :
    ForgetAnswer (List ForgetTarget) := do
  require (trim input ≠ "") .forgetTopicRequired
  pure (planOrder.foldl (db.discover (trim input)) [])

section Statements

variable [ForgetHost]

/-- How a JSON column is redacted: the topic only, or all of it. -/
inductive Redaction
  | ofTopic (topic : String)
  | whole

def Redaction.column : Redaction → JsonColumn → JsonColumn
  | .ofTopic topic, column => redactJson topic column
  | .whole, _ => redactedColumn

/-- `json_remove(payload_json, '$.attention')`. -/
def removeAttention : JsonColumn → JsonColumn
  | .json (.object fields) =>
    .json (.object (fields.filter fun field => field.1 ≠ "attention"))
  | column => column

/-- `redactWorkingContextOwnText`. -/
def redactWorkingContextOwnText (row : WorkingContextRow) :
    WorkingContextRow :=
  let repair : WorkingContextRow :=
    { row with
      payload := .json (.object
        [("type", .text "repair"), ("text", .text ""), ("concernId", .null),
          ("sourceTurnIds", .array []), ("status", .text "abandoned"),
          ("supersedesId", .null)])
      superseded := true }
  match row.payload.parsed with
  | .object fields =>
    if isTypedEnvelope fields then
      { row with payload := .json (.object (setField fields "text" (.text ""))) }
    else repair
  | _ => repair

/-- A delivery status that a forget leaves alone. -/
def isTerminalSend (status : OutboxSendStatus) : Bool :=
  status ∈ [OutboxSendStatus.delivered, .partiallyDelivered, .sendFailure,
    .suppressed, .suppressedShadow]

/-- The status that a forget gives an outbox row. -/
def forgottenSendStatus (status : OutboxSendStatus) : OutboxSendStatus :=
  if isTerminalSend status then status else .suppressed

/-- The cycle and generation that the causal ledger keeps. -/
def LedgerRow.metadata (row : LedgerRow) : JsonColumn :=
  .json (.object [("cycleId", .text row.cycleId),
    ("generation", .number (Int.repr row.generation))])

/-- The emptied snapshot; only when it was taken remains. -/
def emptiedSnapshot (takenAtMs : Nat) : JsonColumn :=
  .json (.object
    [("takenAtMs", .number (Nat.repr takenAtMs)), ("redacted", .bool true),
      ("identity", .array []), ("opinions", .array []), ("narrative", .null),
      ("mood", .object [("valence", .number "0"), ("energy", .number "0"),
        ("openness", .number "0"), ("tension", .number "0")])])

/-- What its UPDATE or DELETE makes of a row that a forget reaches. -/
def forgotten (mode : Redaction) (nowMs : Int) :
    (entity : ForgetEntity) → Row entity → Option (Row entity)
  | .conversationEvidence, row =>
    some { row with text := none, sourceStatus := "redacted" }
  | .episode, row =>
    some { row with
      summary := redactedMemoryStatement, tone := none, takeaway := none
      unresolvedThreads := "[]", forgottenAtMs := some nowMs }
  | .threadStory, row =>
    some { row with
      story := redactedMemoryStatement, forgottenAtMs := some nowMs }
  | .concern, row =>
    some { row with
      statement := "", sourceRefs := "[]", supportRefs := .array []
      objective := none, assertionKey := none, cognitiveStatus := none
      forgotten := true }
  | .workingContext, row => some (redactWorkingContextOwnText row)
  | .deskEntry, row =>
    some { row with
      body := redactedMemoryStatement, sourceRefs := "[]"
      supportRefs := .array [], endorsementRef := none }
  | .occupancy, _ => none
  | .futureTrigger, row =>
    some { row with status := .cancelled, payload := emptyColumn }
  | .subscription, row =>
    some { row with cancelled := true, spec := emptyColumn }
  | .thoughtStep, row => some { row with payload := mode.column row.payload }
  | .observation, row => some { row with payload := mode.column row.payload }
  | .effectReceipt, row => some { row with payload := mode.column row.payload }
  | .effectDiagnostic, row => some { row with payload := redactedColumn }
  | .settlement, row =>
    some { row with payload := removeAttention (mode.column row.payload) }
  | .inboxEvent, row => some { row with payload := mode.column row.payload }
  | .nomination, row =>
    some { row with statement := redactedMemoryStatement, admitted := false }
  | .memoryAssertion, row =>
    some { row with
      statement := redactedMemoryStatement, live := false
      admittedGeneration := none }
  | .memorySupport, row =>
    some { row with
      sourceRef := none, settlementId := none, evidenceLineageId := none
      observationId := none, receiptId := none, supportRef := none }
  | .speechOutbox, row =>
    some { row with
      licensedText := redactedMemoryStatement
      sendStatus := forgottenSendStatus row.sendStatus
      suppressed := forgottenSendStatus row.sendStatus = .suppressed ||
        row.suppressed
      finalizationReason := some "forgotten_content" }
  | .systemNotice, row =>
    some { row with
      noticeText := redactedMemoryStatement
      sendStatus := forgottenSendStatus row.sendStatus }
  | .causalLedger, row => some { row with payload := row.metadata }
  | .inFlight, row =>
    some { row with state := .unknown, payload := redactedColumn }
  | .journalEntry, row =>
    some (if row.forgottenAtMs = none then
      { row with
        entry := none, readRefs := .json (.array [])
        interests := .json (.array []), forgottenAtMs := some nowMs }
      else row)
  | .interestBranch, _ => none
  | .growthRevision, row =>
    some (if row.status ≠ "forgotten" then
      { row with
        topic := none, previousText := none
        proposedText := redactedMemoryStatement, rationale := none
        ashleyRationale := none, ownerRationale := none
        status := "forgotten", forgottenAtMs := some nowMs }
      else row)
  | .moodEvent, row =>
    some (if row.forgottenAtMs = none then
      { row with appraisal := none, forgottenAtMs := some nowMs } else row)
  | .expectation, row =>
    some (if row.forgottenAtMs = none then
      { row with statement := "", lesson := none, forgottenAtMs := some nowMs }
      else row)
  | .diaryEntry, row =>
    some (if row.forgottenAtMs = none then
      { row with text := none, forgottenAtMs := some nowMs } else row)
  | .growthGap, row =>
    some (if row.note.isSome then
      { row with note := none, supportRefs := "[]" } else row)
  | .growthDimensionHistory, row =>
    some { row with reason := none, before := none, after := none }
  | .selfNarrative, row =>
    some (if row.forgottenAtMs = none then
      { row with text := none, forgottenAtMs := some nowMs } else row)
  | .attentionWatch, _ => none
  | .personaSnapshot, row =>
    some { row with snapshot := emptiedSnapshot row.takenAtMs }

theorem forgotten_key (mode : Redaction) (nowMs : Int) (entity : ForgetEntity)
    (row row' : Row entity)
    (hrow : forgotten mode nowMs entity row = some row') :
    rowKey entity row' = rowKey entity row := by
  cases entity with
  | workingContext =>
    cases hrow
    unfold redactWorkingContextOwnText
    split
    · split <;> rfl
    · rfl
  | journalEntry | growthRevision | moodEvent | expectation | diaryEntry
  | growthGap | selfNarrative =>
    cases hrow
    split <;> rfl
  | _ => cases hrow <;> rfl

/-- `indexOf(":")` and the two slices around it. -/
def splitKey (uuid : String) : Option (String × String) :=
  let first := uuid.toList.takeWhile (· ≠ ':')
  if first = [] ∨ first = uuid.toList then none
  else some (String.ofList first,
    String.ofList (uuid.toList.drop (first.length + 1)))

/-- The rows that the statement for a recorded target reaches. -/
def reaches : (entity : ForgetEntity) → String → Row entity → Bool
  | .occupancy, uuid, row =>
    splitKey uuid = some (row.conversationId, row.concernId)
  | .growthGap, uuid, row => splitKey uuid = some (row.passId, row.dimensionId)
  | entity, uuid, row => entityUuid entity row = uuid

/-- The rows that the statement for a hit reaches while the topic is being
forgotten: an occupancy is deleted by its two columns. -/
def hitReaches : (entity : ForgetEntity) → Row entity → Row entity → Bool
  | .occupancy, hit, row =>
    hit.conversationId = row.conversationId && hit.concernId = row.concernId
  | entity, hit, row => reaches entity (entityUuid entity hit) row

/-- Run the statement of a table on the rows it reaches. -/
def ForgetDb.forgetWhere (db : ForgetDb) (mode : Redaction) (nowMs : Int)
    (entity : ForgetEntity) (p : Row entity → Bool) : ForgetDb :=
  db.rewrite entity
    (fun row => if p row then forgotten mode nowMs entity row else some row)
    (by
      intro row row' hrow
      by_cases hp : p row = true
      · rw [if_pos hp] at hrow
        exact forgotten_key mode nowMs entity row row' hrow
      · rw [if_neg hp, Option.some.injEq] at hrow
        rw [hrow])

/-- The cycles that published the settlements. -/
def ForgetDb.settledCycles (db : ForgetDb) (settlementIds : List String) :
    List String :=
  ((db.rows .settlement).filter (·.settlementId ∈ settlementIds)).map
    (·.cycleId)

/-- Delete the watches of a cycle whose settlement is forgotten. -/
def ForgetDb.deleteWatches (db : ForgetDb) (cycleIds : List String) :
    ForgetDb :=
  db.rewrite .attentionWatch
    (fun row => if row.cycleId.any (· ∈ cycleIds) then none else some row)
    (by
      intro row row' hrow
      split at hrow
      · cases hrow
      · cases hrow
        rfl)

/-- The flags that stay of a claim whose settlement is forgotten. -/
def ThalamusRow.detached (settlementIds : List String) (row : ThalamusRow) :
    ThalamusRow :=
  if row.lastSettlementId.any (· ∈ settlementIds) then
    { row with otherFlags := "" }
  else row

/-- What the helpers of some tables change beside the table itself: the index
of the episodes, the reason of the mood, the attention of a settlement. -/
def ForgetDb.forgetBeside (db : ForgetDb) (entity : ForgetEntity)
    (ids : List String) : ForgetDb :=
  match entity with
  | .episode =>
    { db with episodeIndex := db.episodeIndex.filter fun entry => entry.1 ∉ ids }
  | .moodEvent =>
    { db with
      moodState := db.moodState.map fun mood =>
        if mood.sourceEventId.any (· ∈ ids) then { mood with reason := none }
        else mood }
  | .settlement =>
    { db.deleteWatches (db.settledCycles ids) with
      thalamus := db.thalamus.map (ThalamusRow.detached ids) }
  | _ => db

mutual

/-- `redactTypedSupportValue`. -/
def redactTypedSupportValue (evidenceIds : List String) : JsonValue → JsonValue
  | .array items => .array (redactTypedSupportItems evidenceIds items)
  | .object fields =>
    match (JsonColumn.json (.object fields)).textField "kind",
        (JsonColumn.json (.object fields)).textField "evidenceRowId" with
    | some kind, some rowId =>
      if kind = "conversation_text_span" ∧ rowId ∈ evidenceIds then
        .object (setField fields "quote" (.text redactedMemoryStatement))
      else .object fields
    | _, _ => .object fields
  | value => value

def redactTypedSupportItems (evidenceIds : List String) :
    List JsonValue → List JsonValue
  | [] => []
  | item :: rest =>
    redactTypedSupportValue evidenceIds item ::
      redactTypedSupportItems evidenceIds rest

end

/-- The quotes that a row repeats from forgotten evidence. -/
def redactQuotes (evidenceIds : List String) :
    (entity : ForgetEntity) → Row entity → Row entity
  | .memorySupport, row =>
    { row with
      supportRef := row.supportRef.map (redactTypedSupportValue evidenceIds) }
  | .concern, row =>
    { row with
      supportRefs := redactTypedSupportValue evidenceIds row.supportRefs
      objective := row.objective.map (redactTypedSupportValue evidenceIds) }
  | .deskEntry, row =>
    { row with
      supportRefs := redactTypedSupportValue evidenceIds row.supportRefs }
  | _, row => row

omit [ForgetHost] in
theorem redactQuotes_key (evidenceIds : List String) (entity : ForgetEntity)
    (row row' : Row entity)
    (hrow : some (redactQuotes evidenceIds entity row) = some row') :
    rowKey entity row' = rowKey entity row := by
  cases hrow
  cases entity <;> rfl

/-- `redactTypedSupportRefsForEvidence`. -/
def ForgetDb.redactTypedSupportRefs (db : ForgetDb)
    (evidenceIds : List String) : ForgetDb :=
  [ForgetEntity.memorySupport, .concern, .deskEntry].foldl (fun db entity =>
    db.rewrite entity (fun row => some (redactQuotes evidenceIds entity row))
      (redactQuotes_key evidenceIds entity)) db

/-- `supportRefDependencyKey`. -/
def supportRefDependencyKey (ref : JsonValue) : Option String :=
  let text := (JsonColumn.json ref).textField
  match text "kind" with
  | some "conversation_text_span" =>
    (text "evidenceRowId").map ("conversation_evidence:" ++ ·)
  | some "observation_ref" => (text "observationId").map ("observation:" ++ ·)
  | some "receipt_ref" => (text "receiptId").map ("receipt:" ++ ·)
  | some kind =>
    if kind ∈ ["artifact_text_span", "document_page_region", "image_region",
        "structured_path"] then
      match text "artifactId", text "representationId" with
      | some artifactId, some representationId =>
        some ("artifact:" ++ artifactId ++ ":" ++ representationId)
      | _, _ => none
    else none
  | none => none

/-- The support of an envelope without the references to a source. -/
def withoutSource (sourceKey : String) : Option JsonValue → JsonValue
  | some (.array refs) =>
    .array (refs.filter fun ref => supportRefDependencyKey ref ≠ some sourceKey)
  | _ => .array []

/-- The lifecycle of an interpretation that lost a source. -/
def reviewedLifecycle (lifecycle : String) : String :=
  if lifecycle = "current" ∨ lifecycle = "needs_review" then "needs_review"
  else lifecycle

/-- `markDependentSupportUnavailable`: an accepted envelope loses the source,
and says so. -/
def WorkingContextRow.withoutSupport (sourceKey : String)
    (row : WorkingContextRow) : WorkingContextRow :=
  match row.payload.parsed with
  | .object payload =>
    match getField payload "interpretationEnvelope" with
    | some (.object envelope) =>
      match row.applicabilityLifecycle.or
          ((JsonColumn.json (.object envelope)).textField
            "applicabilityLifecycle") with
      | some lifecycle =>
        match if lifecycle ∈ ["current", "needs_review", "superseded",
              "withdrawn"] then
            ForgetHost.parseStoredEnvelope envelope lifecycle
          else none with
        | some accepted =>
          let next :=
            [("support", withoutSource sourceKey
                (getField accepted "support")),
              ("revisionEvidenceRefs", withoutSource sourceKey
                (getField accepted "revisionEvidenceRefs")),
              ("supportAvailability", .text "unavailable"),
              ("supportUnavailableReason", .text "source_forgotten"),
              ("applicabilityLifecycle",
                .text (reviewedLifecycle lifecycle))].foldl
              (fun fields change =>
                setField fields change.1 change.2) accepted
          { row with
            payload := .json (.object (setField payload
              "interpretationEnvelope" (.object next)))
            applicabilityLifecycle :=
              some (reviewedLifecycle lifecycle) }
        | none => row
      | none => row
    | _ => row
  | _ => row

theorem withoutSupport_id (sourceKey : String) (row : WorkingContextRow) :
    (row.withoutSupport sourceKey).id = row.id := by
  unfold WorkingContextRow.withoutSupport
  repeat' split
  all_goals rfl

/-- An item loses the support of a source that it depends on. -/
def WorkingContextRow.supportLost (edges : List SupportEdge)
    (sourceKey : String) (row : WorkingContextRow) : WorkingContextRow :=
  if ⟨row.id, sourceKey⟩ ∈ edges then row.withoutSupport sourceKey else row

theorem supportLost_id (edges : List SupportEdge) (sourceKey : String)
    (row : WorkingContextRow) :
    (row.supportLost edges sourceKey).id = row.id := by
  unfold WorkingContextRow.supportLost
  split
  · exact withoutSupport_id sourceKey row
  · rfl

/-- Mark the interpretations that rest on one forgotten source. -/
def ForgetDb.markSourceUnavailable (db : ForgetDb) (sourceKey : String) :
    ForgetDb :=
  db.rewrite .workingContext
    (fun row => some (row.supportLost db.supportEdges sourceKey))
    (by
      intro row row' hrow
      cases hrow
      exact congrArg RowKey.text (supportLost_id db.supportEdges sourceKey row))

/-- `markInterpretationSupportUnavailable`. -/
def ForgetDb.markInterpretationSupportUnavailable (db : ForgetDb)
    (sourceKeys : List String) : ForgetDb :=
  sourceKeys.eraseDups.foldl ForgetDb.markSourceUnavailable db

/-- The sources that a forget removes from under an interpretation. -/
def forgottenSupportKeys (targets : List ForgetTarget) : List String :=
  (targetIds targets .conversationEvidence).map
      ("conversation_evidence:" ++ ·) ++
    (targetIds targets .observation).map ("observation:" ++ ·) ++
    (targetIds targets .effectReceipt).map ("receipt:" ++ ·)

def InFlightRow.isUnresolved (row : InFlightRow) : Bool :=
  row.state = .inFlight || row.state = .unknown

/-- `idx_in_flight_effects_wake`: a wake has one unresolved effect at most. -/
def WakeIndex (rows : List InFlightRow) : Prop :=
  ∀ row ∈ rows, ∀ other ∈ rows, row.isUnresolved = true →
    other.isUnresolved = true → row.wakeId ≠ none →
    row.wakeId = other.wakeId → row.effectId = other.effectId

instance (rows : List InFlightRow) : Decidable (WakeIndex rows) :=
  inferInstanceAs (Decidable (∀ row ∈ rows, ∀ other ∈ rows,
    row.isUnresolved = true → other.isUnresolved = true → row.wakeId ≠ none →
    row.wakeId = other.wakeId → row.effectId = other.effectId))

/-- `bumpForgetEpoch`. -/
def ForgetDb.bumpForgetEpoch (db : ForgetDb) : ForgetDb :=
  { db with forgetEpoch := db.forgetEpoch + 1 }

/-- The end of a forget: the index must hold, and an erase moves the epoch. -/
def ForgetDb.finish (db : ForgetDb) (targets : List ForgetTarget) :
    ForgetAnswer ForgetDb := do
  require (WakeIndex (db.rows .inFlight)) .uniqueConstraint
  pure (if targets = [] then db else db.bumpForgetEpoch)

/-- A forget under way: the database and the targets reported so far. -/
structure Sweep where
  db : ForgetDb
  targets : List ForgetTarget := []

/-- Forget the hits of one table and report them. -/
def Sweep.forget (topic : String) (nowMs : Int) (sweep : Sweep)
    (entity : ForgetEntity) : Sweep :=
  let hits := sweep.db.hits topic (sweep.db.found sweep.targets) entity
  { db := (sweep.db.forgetWhere (.ofTopic topic) nowMs entity fun row =>
      hits.any (hitReaches entity · row)).forgetBeside entity
        (hits.map (entityUuid entity))
    targets := sweep.db.discover topic sweep.targets entity }

/-- The tables that are forgotten before the interpretations are marked. -/
def sourceOrder : List ForgetEntity :=
  [.conversationEvidence, .concern, .workingContext, .deskEntry, .occupancy,
    .futureTrigger, .subscription, .thoughtStep, .observation, .effectReceipt,
    .effectDiagnostic, .settlement, .inboxEvent]

/-- The tables that are forgotten after it. -/
def derivedOrder : List ForgetEntity :=
  [.nomination, .memoryAssertion, .memorySupport, .speechOutbox, .systemNotice,
    .causalLedger, .inFlight, .episode, .threadStory, .journalEntry,
    .interestBranch, .growthRevision, .moodEvent, .expectation, .diaryEntry,
    .growthGap, .growthDimensionHistory, .selfNarrative, .attentionWatch,
    .personaSnapshot]

/-- The quotes and interpretations that rest on what is forgotten. -/
def ForgetDb.forgetSupports (db : ForgetDb) (targets : List ForgetTarget) :
    ForgetDb :=
  (db.redactTypedSupportRefs (targetIds targets .conversationEvidence)
    ).markInterpretationSupportUnavailable (forgottenSupportKeys targets)

/-- The whole sweep of a topic through the tables. -/
def sweepTopic (topic : String) (nowMs : Int) (db : ForgetDb) : Sweep :=
  let sources := sourceOrder.foldl (Sweep.forget topic nowMs) { db }
  derivedOrder.foldl (Sweep.forget topic nowMs)
    { sources with db := sources.db.forgetSupports sources.targets }

/-- Forget a topic; the report lists the targets. -/
def applyV021Forget (db : ForgetDb) (input : String) (nowMs : Int) :
    ForgetAnswer (List ForgetTarget × ForgetDb) := do
  require (trim input ≠ "") .forgetTopicRequired
  let swept := sweepTopic (trim input) nowMs db
  let db ← swept.db.finish swept.targets
  pure (swept.targets, db)

/-- Forget the listed targets of one table. -/
def ForgetDb.forgetListed (targets : List ForgetTarget) (nowMs : Int)
    (db : ForgetDb) (entity : ForgetEntity) : ForgetDb :=
  let ids := targetIds targets entity
  (db.forgetWhere .whole nowMs entity fun row =>
    ids.any (reaches entity · row)).forgetBeside entity ids

/-- The order of the listed targets, after the evidence and its quotes and
before the interpretations are marked. -/
def listedSourceOrder : List ForgetEntity :=
  [.thoughtStep, .observation, .effectReceipt, .effectDiagnostic, .settlement,
    .inboxEvent]

/-- The order of the listed targets after the marking. -/
def listedDerivedOrder : List ForgetEntity :=
  [.workingContext, .episode, .threadStory, .journalEntry, .interestBranch,
    .growthRevision, .moodEvent, .expectation, .diaryEntry, .growthGap,
    .growthDimensionHistory, .selfNarrative, .attentionWatch, .personaSnapshot,
    .deskEntry, .concern, .occupancy, .futureTrigger, .subscription,
    .nomination, .memoryAssertion, .memorySupport, .speechOutbox,
    .systemNotice, .causalLedger, .inFlight]

def forgetTargets (targets : List ForgetTarget) (nowMs : Int)
    (db : ForgetDb) : ForgetDb :=
  let quoted := (db.forgetListed targets nowMs .conversationEvidence
    ).redactTypedSupportRefs (targetIds targets .conversationEvidence)
  let marked := (listedSourceOrder.foldl (ForgetDb.forgetListed targets nowMs)
    quoted).markInterpretationSupportUnavailable (forgottenSupportKeys targets)
  listedDerivedOrder.foldl (ForgetDb.forgetListed targets nowMs) marked

/-- Apply only the exact targets recorded in a preview. -/
def applyV021ForgetTargetsInTransaction (db : ForgetDb)
    (targets : List ForgetTarget) (nowMs : Int) : ForgetAnswer ForgetDb :=
  (forgetTargets targets nowMs db).finish targets

end Statements

end CognitiveSidecar.Forget
