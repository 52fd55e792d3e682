/-
The tables that a forget reaches, one for each kind of target, and the rows
beside them that it writes along the way.
-/
import CognitiveSidecar.ForgetText

namespace CognitiveSidecar.Forget

open List

/-- The kinds of targets; each is one table of the sidecar. -/
inductive ForgetEntity
  | conversationEvidence | episode | threadStory | concern | workingContext
  | deskEntry | occupancy | futureTrigger | subscription | thoughtStep
  | observation | effectReceipt | effectDiagnostic | settlement | inboxEvent
  | nomination | memoryAssertion | memorySupport | speechOutbox | systemNotice
  | causalLedger | inFlight | journalEntry | interestBranch | growthRevision
  | moodEvent | expectation | diaryEntry | growthGap | growthDimensionHistory
  | selfNarrative | attentionWatch | personaSnapshot
deriving DecidableEq

inductive ForgetAction
  | redact | delete | detach | cancel | keepMetadataOnly

/-- A `V021ForgetTarget`. -/
structure ForgetTarget where
  entityType : ForgetEntity
  entityUuid : String
  action : ForgetAction

/-- A row of `conversation_evidence_log`. -/
structure EvidenceRow where
  (rowId conversationId : String)
  text : Option String
  sourceStatus : String

/-- A row of `episodes_v2`. -/
structure EpisodeRow where
  episodeId : String
  evidenceRowIds : List String
  summary : String
  (tone takeaway : Option String)
  unresolvedThreads : String
  forgottenAtMs : Option Int

/-- A row of `thread_stories`. -/
structure ThreadStoryRow where
  (conversationId story : String)
  forgottenAtMs : Option Int

/-- A row of `concerns`. -/
structure ConcernRow where
  (concernId statement sourceRefs : String)
  supportRefs : JsonValue
  objective : Option JsonValue
  (assertionKey cognitiveStatus : Option String)
  forgotten : Bool

/-- A row of `working_context_items`. -/
structure WorkingContextRow where
  id : String
  payload : JsonColumn
  superseded : Bool
  applicabilityLifecycle : Option String

/-- A row of `desk_entries`. -/
structure DeskEntryRow where
  (id body sourceRefs : String)
  supportRefs : JsonValue
  endorsementRef : Option String

/-- A row of `mind_occupancy`. -/
structure OccupancyRow where
  (conversationId concernId : String)

/-- A row of `future_triggers`. -/
structure TriggerRow where
  (triggerId concernId : String)
  payload : JsonColumn
  status : FutureTriggerStatus
  wakeId : Option String

/-- A row of `observation_subscriptions`. -/
structure SubscriptionRow where
  subscriptionId : String
  spec : JsonColumn
  cancelled : Bool

/-- A row of `thought_steps`, `observations`, `effect_receipts` or
`effect_diagnostics`: its key and its JSON column. -/
structure JsonRow where
  id : String
  payload : JsonColumn

/-- A row of `settlements`. -/
structure SettlementRow where
  (settlementId cycleId : String)
  payload : JsonColumn

/-- A row of `inbox_events`. -/
structure EventRow where
  (id kind : String)
  state : DurableWorkState
  payload : JsonColumn

/-- A row of `durable_nominations`. -/
structure NominationRow where
  (nominationId statement : String)
  admitted : Bool

/-- A row of `sidecar_memory_assertions`. -/
structure AssertionRow where
  (assertionKey statement : String)
  live : Bool
  admittedGeneration : Option Int

/-- A row of `sidecar_memory_supports`. -/
structure SupportRow where
  (supportId assertionKey : String)
  (sourceRef settlementId evidenceLineageId observationId : Option String)
  receiptId : Option String
  supportRef : Option JsonValue

/-- A row of `speech_outbox`. -/
structure SpeechRow where
  outboxId : Nat
  sendStatus : OutboxSendStatus
  licensedText : String
  suppressed : Bool
  finalizationReason : Option String
  nuclearReservationId : Option Nat

/-- A row of `system_notice_outbox`. -/
structure NoticeRow where
  noticeId : Nat
  sendStatus : OutboxSendStatus
  noticeText : String
  nuclearReservationId : Option Nat

/-- A row of `causal_ledger`. -/
structure LedgerRow where
  id : Nat
  cycleId : String
  generation : Int
  payload : JsonColumn

/-- A row of `in_flight_effects`. -/
structure InFlightRow where
  effectId : String
  wakeId : Option String
  state : InFlightState
  payload : JsonColumn

/-- A row of `activity_journal`. -/
structure JournalRow where
  entryId : String
  entry : Option String
  (readRefs interests : JsonColumn)
  forgottenAtMs : Option Int

/-- A row of `interest_branches`. -/
structure InterestBranchRow where
  (branchId label : String)
  lastNote : Option String
  forgottenAtMs : Option Int

/-- A row of `growth_revisions`. -/
structure RevisionRow where
  revisionId : Nat
  layer : String
  (topic previousText : Option String)
  proposedText : String
  (rationale ashleyRationale ownerRationale : Option String)
  status : String
  appliedEntryId : Option Nat
  forgottenAtMs : Option Int

/-- A row of `mood_events`. -/
structure MoodEventRow where
  eventId : String
  appraisal : Option String
  forgottenAtMs : Option Int

/-- A row of `expectations`. -/
structure ExpectationRow where
  (expectationId statement : String)
  lesson : Option String
  forgottenAtMs : Option Int

/-- A row of `diary_entries` or `self_narratives`. -/
structure WritingRow where
  id : String
  text : Option String
  forgottenAtMs : Option Int

/-- A row of `growth_gap_scores`. -/
structure GapScoreRow where
  (passId dimensionId : String)
  note : Option String
  supportRefs : String

/-- A row of `growth_dimension_history`. -/
structure DimensionHistoryRow where
  historyId : String
  (reason before after : Option String)

/-- A row of `attention_watches`. -/
structure WatchRow where
  (ownerId watchId : String)
  cycleId : Option String
  (note matchJson expiresJson : String)
deriving DecidableEq

/-- A row of `persona_snapshots`. -/
structure SnapshotRow where
  takenAtMs : Nat
  snapshot : JsonColumn

/-- The rows of each table. -/
@[reducible]
def Row : ForgetEntity → Type
  | .conversationEvidence => EvidenceRow
  | .episode => EpisodeRow
  | .threadStory => ThreadStoryRow
  | .concern => ConcernRow
  | .workingContext => WorkingContextRow
  | .deskEntry => DeskEntryRow
  | .occupancy => OccupancyRow
  | .futureTrigger => TriggerRow
  | .subscription => SubscriptionRow
  | .thoughtStep => JsonRow
  | .observation => JsonRow
  | .effectReceipt => JsonRow
  | .effectDiagnostic => JsonRow
  | .settlement => SettlementRow
  | .inboxEvent => EventRow
  | .nomination => NominationRow
  | .memoryAssertion => AssertionRow
  | .memorySupport => SupportRow
  | .speechOutbox => SpeechRow
  | .systemNotice => NoticeRow
  | .causalLedger => LedgerRow
  | .inFlight => InFlightRow
  | .journalEntry => JournalRow
  | .interestBranch => InterestBranchRow
  | .growthRevision => RevisionRow
  | .moodEvent => MoodEventRow
  | .expectation => ExpectationRow
  | .diaryEntry => WritingRow
  | .growthGap => GapScoreRow
  | .growthDimensionHistory => DimensionHistoryRow
  | .selfNarrative => WritingRow
  | .attentionWatch => WatchRow
  | .personaSnapshot => SnapshotRow

/-- A primary key of one or two columns. -/
inductive RowKey
  | text (id : String)
  | number (id : Nat)
  | pair (first second : String)

def rowKey : (entity : ForgetEntity) → Row entity → RowKey
  | .conversationEvidence, row => .text row.rowId
  | .episode, row => .text row.episodeId
  | .threadStory, row => .text row.conversationId
  | .concern, row => .text row.concernId
  | .workingContext, row => .text row.id
  | .deskEntry, row => .text row.id
  | .occupancy, row => .pair row.conversationId row.concernId
  | .futureTrigger, row => .text row.triggerId
  | .subscription, row => .text row.subscriptionId
  | .thoughtStep, row => .text row.id
  | .observation, row => .text row.id
  | .effectReceipt, row => .text row.id
  | .effectDiagnostic, row => .text row.id
  | .settlement, row => .text row.settlementId
  | .inboxEvent, row => .text row.id
  | .nomination, row => .text row.nominationId
  | .memoryAssertion, row => .text row.assertionKey
  | .memorySupport, row => .text row.supportId
  | .speechOutbox, row => .number row.outboxId
  | .systemNotice, row => .number row.noticeId
  | .causalLedger, row => .number row.id
  | .inFlight, row => .text row.effectId
  | .journalEntry, row => .text row.entryId
  | .interestBranch, row => .text row.branchId
  | .growthRevision, row => .number row.revisionId
  | .moodEvent, row => .text row.eventId
  | .expectation, row => .text row.expectationId
  | .diaryEntry, row => .text row.id
  | .growthGap, row => .pair row.passId row.dimensionId
  | .growthDimensionHistory, row => .text row.historyId
  | .selfNarrative, row => .text row.id
  | .attentionWatch, row => .pair row.ownerId row.watchId
  | .personaSnapshot, row => .number row.takenAtMs

/-- The text under which a key is recorded as a target.  Two columns are joined
by a colon, but a watch is recorded by the JSON text of its pair. -/
def RowKey.uuid (entity : ForgetEntity) : RowKey → String
  | .text id => id
  | .number id => Nat.repr id
  | .pair first second =>
    if entity = .attentionWatch then
      stringify (.array [.text first, .text second])
    else first ++ ":" ++ second

def entityUuid (entity : ForgetEntity) (row : Row entity) : String :=
  (rowKey entity row).uuid entity

/-- `mood_state`, a single row. -/
structure MoodState where
  reason : Option String := none
  sourceEventId : Option String := none

/-- A row of `thalamus_state`: the flags of its `attention_json`. -/
structure ThalamusRow where
  ownerId : String
  lastClaimAtMs : Option Int
  lastSettlementId : Option String
  otherFlags : String

/-- A `support` edge of `interpretation_dependencies`. -/
structure SupportEdge where
  (fromId toId : String)
deriving DecidableEq

/-- The tables that a forget reads and writes.  The wakes are not written by
it.  No writer stores an empty key. -/
structure ForgetDb where
  rows : (entity : ForgetEntity) → List (Row entity)
  keys_nodup : ∀ entity, ((rows entity).map (rowKey entity)).Nodup
  keys_named : ∀ entity, ∀ row ∈ rows entity, rowKey entity row ≠ .text ""
  episodeIndex : List (String × String) := []
  moodState : Option MoodState := none
  thalamus : List ThalamusRow := []
  supportEdges : List SupportEdge := []
  wakes : List Wake := []
  forgetEpoch : Nat := 0

namespace ForgetDb

variable {entity other : ForgetEntity}

/-- Rewrite or delete the rows of one table; the primary keys stay. -/
def rewrite (db : ForgetDb) (entity : ForgetEntity)
    (f : Row entity → Option (Row entity))
    (hkey : ∀ row row', f row = some row' →
      rowKey entity row' = rowKey entity row) : ForgetDb :=
  { db with
    rows := Function.update db.rows entity ((db.rows entity).filterMap f)
    keys_nodup := by
      intro other
      by_cases hother : other = entity
      · subst hother
        rw [Function.update_self]
        refine (db.keys_nodup other).sublist ?_
        generalize db.rows other = rows
        induction rows with
        | nil => exact List.Sublist.slnil
        | cons row rest ih =>
          rw [filterMap_cons]
          cases hrow : f row with
          | none => exact ih.cons _
          | some row' =>
            rw [map_cons, map_cons, hkey row row' hrow]
            exact ih.cons_cons _
      · rw [Function.update_of_ne hother]
        exact db.keys_nodup other
    keys_named := by
      intro other row hrow
      by_cases hother : other = entity
      · subst hother
        rw [Function.update_self, mem_filterMap] at hrow
        obtain ⟨old, hold, hrewritten⟩ := hrow
        rw [hkey old row hrewritten]
        exact db.keys_named other old hold
      · rw [Function.update_of_ne hother] at hrow
        exact db.keys_named other row hrow }

variable {db : ForgetDb} {f : Row entity → Option (Row entity)}

variable {hkey : ∀ row row', f row = some row' → rowKey entity row' = rowKey entity row}

theorem rows_rewrite_self :
    (db.rewrite entity f hkey).rows entity = (db.rows entity).filterMap f :=
  Function.update_self ..

theorem rows_rewrite_of_ne (hother : other ≠ entity) :
    (db.rewrite entity f hkey).rows other = db.rows other :=
  Function.update_of_ne hother ..

/-- A recorded target has a text. -/
theorem entityUuid_ne_empty (db : ForgetDb) {row : Row entity}
    (hrow : row ∈ db.rows entity) : entityUuid entity row ≠ "" := by
  have hnamed := db.keys_named entity row hrow
  unfold entityUuid
  cases hkey : rowKey entity row with
  | text =>
    intro hempty
    rw [hkey] at hnamed
    exact hnamed (congrArg RowKey.text hempty)
  | number =>
    exact Nat.repr_ne_empty
  | pair =>
    intro hempty
    rw [RowKey.uuid] at hempty
    have hchars := congrArg String.toList hempty
    by_cases hwatch : entity = .attentionWatch
    · simp [hwatch, stringify] at hchars
    · simp [hwatch] at hchars

end ForgetDb

end CognitiveSidecar.Forget
