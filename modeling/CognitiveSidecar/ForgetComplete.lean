/-
Whether a forget leaves anything behind: the plan after it, against the text
that each statement writes in place of what it removed.
-/
import CognitiveSidecar.ForgetPlan
import CognitiveSidecar.ForgetLifecycle

namespace CognitiveSidecar.Forget

open List Relational

section Left

variable [ForgetHost] {topic : String} {nowMs : Int} {mode : Redaction}
  {targets : List ForgetTarget} {entity : ForgetEntity}

variable {row : Row entity} {found : Found}

/-- Nothing found yet. -/
def noneFound : Found := ⟨[], [], [], [], []⟩

/-- The payload of a context item that was replaced. -/
def repairColumn : JsonColumn :=
  .json (.object
    [("type", .text "repair"), ("text", .text ""), ("concernId", .null),
      ("sourceTurnIds", .array []), ("status", .text "abandoned"),
      ("supersedesId", .null)])

/-- The text that a forget leaves where the topic is looked for. -/
def leftText (mode : Redaction) :
    (entity : ForgetEntity) → Row entity → Option String
  | .concern, _ => some ""
  | .workingContext, row =>
    some (if row.isTyped then "" else repairColumn.raw)
  | .deskEntry, _ | .nomination, _ | .memoryAssertion, _ | .speechOutbox, _
  | .systemNotice, _ => some redactedMemoryStatement
  | .futureTrigger, _ | .subscription, _ => some emptyColumn.raw
  | .thoughtStep, row => some (mode.column row.payload).raw
  | .observation, row => some (mode.column row.payload).raw
  | .effectReceipt, row => some (mode.column row.payload).raw
  | .settlement, row => some (removeAttention (mode.column row.payload)).raw
  | .inboxEvent, row => some (mode.column row.payload).raw
  | .effectDiagnostic, _ | .inFlight, _ => some redactedColumn.raw
  | .causalLedger, row => some row.metadata.raw
  | _, _ => none

/-- What a forget writes into a row still mentions the topic. -/
def leaves (mode : Redaction) (topic : String) :
    (entity : ForgetEntity) → Row entity → Bool
  | .personaSnapshot, row =>
    mentionsLower (emptiedSnapshot row.takenAtMs).raw topic
  | entity, row => (leftText mode entity row).any (mentions · topic)

/-- A row is hit again exactly when the text left in it mentions the topic. -/
theorem isHit_forgotten {new : Row entity}
    (hmade : forgotten mode nowMs entity row = some new) :
    isHit topic noneFound entity new = leaves mode topic entity row := by
  cases entity with
  | workingContext =>
    cases hmade
    simp only [isHit, leaves, leftText, Option.any_some]
    unfold WorkingContextRow.isTyped redactWorkingContextOwnText
    cases hpayload : row.payload.parsed with
    | object fields =>
      by_cases htyped : isTypedEnvelope fields = true
      · unfold workingContextHasOwnTopic
        simp only [JsonColumn.parsed, isTypedEnvelope_setText, htyped,
          if_true, getField_setField_self, Option.any_some, hasTopic]
      · simp only [htyped, Bool.false_eq_true, if_false]
        rfl
    | _ => rfl
  | futureTrigger =>
    cases hmade
    exact Bool.or_false _
  | journalEntry | moodEvent | expectation | diaryEntry | selfNarrative =>
    cases hmade
    by_cases hforgotten : row.forgottenAtMs = none
    · rw [if_pos hforgotten]
      rfl
    · rw [if_neg hforgotten]
      obtain ⟨_, hatMs⟩ := Option.ne_none_iff_exists'.mp hforgotten
      simp only [isHit, hatMs]
      rfl
  | growthRevision =>
    cases hmade
    by_cases hstatus : row.status ≠ "forgotten"
    · rw [if_pos hstatus]
      rfl
    · rw [if_neg hstatus]
      simp only [isHit, hstatus]
      rfl
  | growthGap =>
    cases hmade
    cases hnote : row.note with
    | none =>
      simp only [Option.isSome_none, Bool.false_eq_true, if_false, isHit,
        hnote]
      rfl
    | some => rfl
  | occupancy | interestBranch | attentionWatch => cases hmade
  | _ =>
    cases hmade
    rfl

theorem exists_forgotten (hleaves : leaves mode topic entity row = true) :
    entity.isPaired = false ∧
      ∀ nowMs, ∃ new, forgotten mode nowMs entity row = some new := by
  cases entity <;> first
    | exact ⟨rfl, fun _ => ⟨_, rfl⟩⟩
    | cases hleaves

theorem isHit_mono (hhit : isHit topic noneFound entity row = true) :
    isHit topic found entity row = true := by
  cases entity with
  | episode =>
    simp only [isHit, noneFound, Bool.and_eq_true, Bool.or_eq_true] at hhit ⊢
    refine ⟨hhit.1, .inr (hhit.2.resolve_left ?_)⟩
    simp
  | threadStory | journalEntry =>
    simp only [isHit, noneFound, Bool.and_eq_true, Bool.or_eq_true] at hhit ⊢
    exact ⟨hhit.1, .inl (hhit.2.resolve_right (by simp))⟩
  | futureTrigger =>
    simp only [isHit, noneFound, Bool.or_eq_true] at hhit ⊢
    exact .inl (hhit.resolve_right (by simp))
  | occupancy | memorySupport => simp [isHit, noneFound] at hhit
  | _ => exact hhit

theorem isTyped_unsupported [LawfulForgetHost] (edges : List SupportEdge)
    (row : WorkingContextRow) :
    WorkingContextRow.isTyped (unsupported edges targets .workingContext row) =
      row.isTyped := by
  rw [unsupported_workingContext]
  induction (forgottenSupportKeys targets).eraseDups generalizing row with
  | nil => rfl
  | cons _ _ ih =>
    rw [foldl_cons, ih]
    unfold WorkingContextRow.supportLost
    split
    · exact isTyped_withoutSupport
    · rfl

/-- The text of an item is not that of its sources. -/
theorem hasOwnTopic_withoutSupport [LawfulForgetHost] (sourceKey : String)
    (row : WorkingContextRow) :
    workingContextHasOwnTopic topic (row.withoutSupport sourceKey).payload =
      workingContextHasOwnTopic topic row.payload := by
  cases htyped : row.isTyped with
  | false => rw [withoutSupport_of_untyped htyped]
  | true =>
    cases hpayload : row.payload.parsed with
    | object fields =>
      rw [isTyped_of_object hpayload] at htyped
      rw [withoutSupport_eq sourceKey hpayload]
      cases hloss : supportLoss sourceKey
          (getField fields "interpretationEnvelope")
          row.applicabilityLifecycle with
      | none => rfl
      | some =>
        unfold workingContextHasOwnTopic
        rw [hpayload]
        simp only [JsonColumn.parsed, (supportLoss_kind hloss).2, htyped,
          if_true]
        rw [getField_setField_of_ne _ _ (by decide)]
    | _ =>
      unfold WorkingContextRow.isTyped at htyped
      rw [hpayload] at htyped
      cases htyped

/-- A row that lost its sources is hit as before. -/
theorem isHit_unsupported [LawfulForgetHost] (edges : List SupportEdge)
    (row : Row entity) :
    isHit topic found entity (unsupported edges targets entity row) =
      isHit topic found entity row := by
  by_cases hcontext : entity = .workingContext
  · subst hcontext
    rw [unsupported_workingContext]
    induction (forgottenSupportKeys targets).eraseDups generalizing row with
    | nil => rfl
    | cons sourceKey _ ih =>
      rw [foldl_cons, ih]
      unfold WorkingContextRow.supportLost
      split
      · exact hasOwnTopic_withoutSupport sourceKey row
      · rfl
  · rw [unsupported_eq_redactQuotes edges hcontext]
    exact isHit_redactQuotes _ row

theorem leaves_unsupported [LawfulForgetHost] (edges : List SupportEdge)
    (row : Row entity) :
    leaves mode topic entity (unsupported edges targets entity row) =
      leaves mode topic entity row := by
  by_cases hcontext : entity = .workingContext
  · subst hcontext
    simp only [leaves, leftText, isTyped_unsupported]
  · rw [unsupported_eq_redactQuotes edges hcontext]
    cases entity <;> rfl

end Left

section Cleared

variable [ForgetHost] {topic : String} {nowMs : Int} {mode : Redaction}
  {db after : ForgetDb} {entity : ForgetEntity}

variable {reached : (entity : ForgetEntity) → Row entity → Bool}

/-- The topic is nowhere when no row has it in its own text. -/
theorem topicHits_nil_iff :
    (∀ entity, db.topicHits topic entity = []) ↔
      ∀ entity, ∀ row ∈ db.rows entity,
        isHit topic noneFound entity row = false := by
  constructor
  · intro hnone entity row hrow
    rw [← Bool.not_eq_true]
    intro hhit
    have hmem : row ∈ db.topicHits topic entity :=
      mem_topicHits.mpr ⟨hrow, isHit_mono hhit⟩
    rw [hnone entity] at hmem
    exact not_mem_nil hmem
  · intro hclean entity
    have hhits (entity : ForgetEntity) :
        db.hits topic noneFound entity = [] := by
      unfold ForgetDb.hits
      rw [filter_eq_nil_iff]
      intro row hrow hhit
      rw [hclean entity row hrow] at hhit
      cases hhit
    have hfound : db.foundBy topic = noneFound := by
      have hevidence := hhits .conversationEvidence
      have hconcern := hhits .concern
      have hobservation := hhits .observation
      have hassertion := hhits .memoryAssertion
      unfold noneFound at hevidence hconcern hobservation hassertion
      unfold ForgetDb.foundBy noneFound
      simp only [hevidence, hconcern, hobservation, hassertion, map_nil,
        not_mem_nil, decide_false, filter_false]
    unfold ForgetDb.topicHits
    rw [hfound]
    exact hhits entity

/-- Nothing that a forget writes in place of a hit mentions the topic, and the
recorded key of each score is read back. -/
structure ForgetClears (mode : Redaction) (topic : String) (db : ForgetDb) :
    Prop where
  texts : ∀ entity, ∀ row ∈ db.topicHits topic entity,
    leaves mode topic entity row = false
  scores : ∀ row ∈ db.topicHits topic .growthGap, isPlainId row.passId = true

/-- A forget that ran its statements for the hits of the topic. -/
structure SweptBy (mode : Redaction) (topic : String) (nowMs : Int)
    (reached : (entity : ForgetEntity) → Row entity → Bool)
    (db after : ForgetDb) : Prop where
  rows : ∀ entity, entity ≠ .attentionWatch → after.rows entity =
    forgetRows mode nowMs entity (reached entity) ((db.rows entity).map
      (unsupported db.supportEdges (planTargets topic db) entity))
  hits : ∀ entity, entity.isPaired = false → ∀ row ∈ db.rows entity,
    reached entity (unsupported db.supportEdges (planTargets topic db) entity
      row) = isHit topic (db.foundBy topic) entity row
  scores : ∀ row, reached .growthGap row = true ↔
    ∃ hit ∈ db.topicHits topic .growthGap, isPlainId row.passId = true ∧
      entityUuid .growthGap hit = entityUuid .growthGap row
  watches : ∀ row ∈ after.rows .attentionWatch,
    isHit topic noneFound .attentionWatch row = false

theorem SweptBy.clears_of_clean [LawfulForgetHost]
    (hswept : SweptBy mode topic nowMs reached db after)
    (hclean : ∀ entity, ∀ row ∈ after.rows entity,
      isHit topic noneFound entity row = false) :
    ForgetClears mode topic db := by
  constructor
  · intro entity row hrow
    rw [← Bool.not_eq_true]
    intro hleaves
    obtain ⟨hmem, hhit⟩ := mem_topicHits.mp hrow
    have hleft : leaves mode topic entity (unsupported db.supportEdges
        (planTargets topic db) entity row) = true := by
      rw [leaves_unsupported]
      exact hleaves
    obtain ⟨hpaired, hexists⟩ := exists_forgotten hleft
    obtain ⟨new, hmade⟩ := hexists nowMs
    have hwatch : entity ≠ .attentionWatch := by
      rintro rfl
      cases hpaired
    have hnew : new ∈ after.rows entity := by
      rw [hswept.rows entity hwatch, mem_forgetRows]
      refine ⟨_, mem_map_of_mem hmem, ?_⟩
      rw [if_pos ((hswept.hits entity hpaired row hmem).trans hhit)]
      exact hmade
    have hagain := hclean entity new hnew
    rw [isHit_forgotten hmade, hleft] at hagain
    cases hagain
  · intro row hrow
    rw [← Bool.not_eq_false]
    intro hplain
    obtain ⟨hmem, hhit⟩ := mem_topicHits.mp hrow
    have hmissed : ¬ reached .growthGap row = true := by
      rw [hswept.scores]
      rintro ⟨-, -, hread, -⟩
      rw [hplain] at hread
      cases hread
    have hkept : row ∈ after.rows .growthGap := by
      rw [hswept.rows .growthGap (by decide), mem_forgetRows]
      exact ⟨row, mem_map_of_mem hmem, if_neg hmissed⟩
    have hagain : isHit topic (db.foundBy topic) .growthGap row = false :=
      hclean .growthGap row hkept
    rw [hhit] at hagain
    cases hagain

theorem SweptBy.clean_of_clears [LawfulForgetHost]
    {reached : (entity : ForgetEntity) → Row entity → Bool}
    (hswept : SweptBy mode topic nowMs reached db after)
    (hclears : ForgetClears mode topic db) (entity : ForgetEntity)
    (row : Row entity) (hrow : row ∈ after.rows entity) :
    isHit topic noneFound entity row = false := by
  by_cases hwatch : entity = .attentionWatch
  · subst hwatch
    exact hswept.watches row hrow
  · rw [hswept.rows entity hwatch, mem_forgetRows] at hrow
    obtain ⟨_, hbase, hmade⟩ := hrow
    obtain ⟨old, hold, rfl⟩ := mem_map.mp hbase
    by_cases hpaired : entity.isPaired = false
    · rw [hswept.hits entity hpaired old hold] at hmade
      by_cases hhit : isHit topic (db.foundBy topic) entity old = true
      · rw [if_pos hhit] at hmade
        rw [isHit_forgotten hmade, leaves_unsupported]
        exact hclears.texts entity old (mem_topicHits.mpr ⟨hold, hhit⟩)
      · rw [if_neg hhit] at hmade
        cases hmade
        rw [isHit_unsupported, ← Bool.not_eq_true]
        exact fun hown => hhit (isHit_mono hown)
    · cases entity with
      | occupancy => rfl
      | attentionWatch => exact absurd rfl hwatch
      | growthGap =>
        have hsame : unsupported db.supportEdges (planTargets topic db)
            .growthGap old = old := rfl
        rw [hsame] at hmade
        by_cases hreached : reached .growthGap old = true
        · rw [if_pos hreached] at hmade
          rw [isHit_forgotten hmade]
          rfl
        · have hkept : old = row := by
            have hsome := hmade
            rw [if_neg hreached] at hsome
            exact Option.some.inj hsome
          rw [← hkept, ← Bool.not_eq_true]
          intro hown
          apply hreached
          rw [hswept.scores]
          have hhit := mem_topicHits.mpr ⟨hold, isHit_mono hown⟩
          exact ⟨old, hhit, hclears.scores old hhit, rfl⟩
      | _ => exact absurd rfl hpaired

theorem SweptBy.plan_nil_iff [LawfulForgetHost]
    (hswept : SweptBy mode topic nowMs reached db after) :
    planTargets topic after = [] ↔ ForgetClears mode topic db := by
  rw [planTargets_eq_nil, topicHits_nil_iff]
  exact ⟨hswept.clears_of_clean, hswept.clean_of_clears⟩

theorem reached_gap {row : GapScoreRow} :
    listReaches (planTargets topic db) .growthGap row = true ↔
      ∃ hit ∈ db.topicHits topic .growthGap, isPlainId row.passId = true ∧
        entityUuid .growthGap hit = entityUuid .growthGap row := by
  exact any_topicHits_splitKey

theorem watch_clean {row : WatchRow}
    (hrow : row ∈ (sweepTopic topic nowMs db).db.rows .attentionWatch) :
    isHit topic noneFound .attentionWatch row = false := by
  rw [watches_sweepTopic] at hrow
  have hmissed := (mem_filter.mp hrow).2
  rw [Bool.not_eq_true'] at hmissed
  exact hmissed

theorem sweepTopic_sweptBy [LawfulForgetHost] :
    SweptBy (.ofTopic topic) topic nowMs
      (fun entity row =>
        (db.topicHits topic entity).any (hitReaches entity · row))
      db (sweepTopic topic nowMs db).db where
  rows _ hwatch := rows_sweepTopic_unsupported hwatch
  hits entity hpaired row hrow := by
    have hreached : (db.topicHits topic entity).any
        (hitReaches entity · row) =
        isHit topic (db.foundBy topic) entity row :=
      any_hitReaches hpaired hrow
    rw [← hreached]
    congr 1
    funext hit
    exact (hitReaches_unsupported db.supportEdges hit row).1
  scores row := by
    rw [← reached_gap]
    unfold listReaches
    rw [any_topicHits_uuid]
    rfl
  watches _ hrow := watch_clean hrow

theorem forgetTargets_sweptBy [LawfulForgetHost] :
    SweptBy .whole topic nowMs (listReaches (planTargets topic db)) db
      (forgetTargets (planTargets topic db) nowMs db) where
  rows _ hwatch := rows_forgetTargets hwatch
  hits entity hpaired row hrow := by
    rw [listReaches_eq hpaired, unsupported_uuid, targetIds_planTargets,
      Bool.eq_iff_iff, decide_eq_true_eq, mem_listed_hitUuids]
    constructor
    · intro hlisted
      obtain ⟨_, hhit, huuid⟩ := mem_map.mp hlisted
      obtain ⟨hmem, htrue⟩ := mem_topicHits.mp hhit
      rw [← eq_of_rowKey hmem hrow (rowKey_eq_of_uuid hpaired huuid)]
      exact htrue
    · intro htrue
      exact mem_map_of_mem (mem_topicHits.mpr ⟨hrow, htrue⟩)
  scores _ := reached_gap
  watches row hrow := by
    rw [← watches_eq] at hrow
    exact watch_clean hrow

end Cleared

section Complete

variable [ForgetHost] {topic : String} {db : ForgetDb} {nowMs : Int}
variable {after other : ForgetDb} {input : String}

omit [ForgetHost] in
theorem finish_ok_iff {swept : ForgetDb} {targets : List ForgetTarget} :
    swept.finish targets = .ok after ↔ WakeIndex (swept.rows .inFlight) ∧
      after = if targets = [] then swept else swept.bumpForgetEpoch := by
  unfold ForgetDb.finish
  rw [require_bind_ok, pure_ok]
  exact and_congr_right fun _ => eq_comm

omit [ForgetHost] in
theorem finished_rows (swept : ForgetDb) (targets : List ForgetTarget) :
    (if targets = [] then swept else swept.bumpForgetEpoch).rows =
        swept.rows ∧
      (if targets = [] then swept else swept.bumpForgetEpoch).episodeIndex =
        swept.episodeIndex := by
  split <;> exact ⟨rfl, rfl⟩

/-- What a plan lists depends on the rows only. -/
theorem planTargets_congr (hrows : other.rows = db.rows) :
    planTargets topic other = [] ↔ planTargets topic db = [] := by
  rw [planTargets_eq_nil, planTargets_eq_nil, topicHits_nil_iff,
    topicHits_nil_iff, hrows]

/-- A topic is forgotten completely, and by its plan as by itself. -/
structure ForgetComplete (db : ForgetDb) (input : String) (nowMs : Int) :
    Prop where
  reported : ∀ plan found after, planV021Forget db input = .ok plan →
    applyV021Forget db input nowMs = .ok (found, after) →
      ∀ target, target ∈ plan ↔ target ∈ found
  bothCommit : ∀ plan, planV021Forget db input = .ok plan →
    ((∃ found after, applyV021Forget db input nowMs = .ok (found, after)) ↔
      ∃ other, applyV021ForgetTargetsInTransaction db plan nowMs = .ok other)
  sameOutcome : ∀ plan found after other, planV021Forget db input = .ok plan →
    applyV021Forget db input nowMs = .ok (found, after) →
      applyV021ForgetTargetsInTransaction db plan nowMs = .ok other →
        SameOutcome after other
  cleared : ∀ found after, applyV021Forget db input nowMs = .ok (found, after) →
    planV021Forget after input = .ok []
  clearedListed : ∀ plan other, planV021Forget db input = .ok plan →
    applyV021ForgetTargetsInTransaction db plan nowMs = .ok other →
      planV021Forget other input = .ok []

theorem applyV021Forget_ok {found : List ForgetTarget} :
    applyV021Forget db input nowMs = .ok (found, after) ↔
      trim input ≠ "" ∧ found = (sweepTopic (trim input) nowMs db).targets ∧
        (sweepTopic (trim input) nowMs db).db.finish found = .ok after := by
  unfold applyV021Forget
  rw [require_bind_ok, bind_ok]
  refine and_congr_right fun _ => ?_
  constructor
  · rintro ⟨_, hfinish, hok⟩
    cases of_pure hok
    exact ⟨rfl, hfinish⟩
  · rintro ⟨rfl, hfinish⟩
    exact ⟨after, hfinish, rfl⟩

/-- Both forgets leave the wakes of the effects the same room. -/
theorem wakeIndex_sweepTopic_iff :
    WakeIndex ((sweepTopic topic nowMs db).db.rows .inFlight) ↔
      WakeRoom (isHit topic (db.foundBy topic) .inFlight)
        (db.rows .inFlight) :=
  (sweepTopic_forgotten topic nowMs db).wakeIndex_iff

theorem wakeIndex_planTargets_iff [LawfulForgetHost] :
    WakeIndex ((forgetTargets (planTargets topic db) nowMs db).rows
        .inFlight) ↔
      WakeRoom (isHit topic (db.foundBy topic) .inFlight)
        (db.rows .inFlight) := by
  have hrows : ((sweepTopic topic nowMs db).db.rows .inFlight).map
      (standing .inFlight) =
      ((forgetTargets (planTargets topic db) nowMs db).rows .inFlight).map
        (standing .inFlight) := map_standing_eq (by decide) (by decide)
  have hid : standing .inFlight = id := rfl
  rw [hid, map_id, map_id] at hrows
  rw [← hrows]
  exact wakeIndex_sweepTopic_iff

omit [ForgetHost] in
theorem sameOutcome_congr {another : ForgetDb} (hrows : after.rows = db.rows)
    (hindex : after.episodeIndex = db.episodeIndex)
    (hother : another.rows = other.rows)
    (hotherIndex : another.episodeIndex = other.episodeIndex) :
    SameOutcome after another ↔ SameOutcome db other := by
  constructor
  · rintro ⟨hsame, hsameIndex⟩
    rw [hrows, hother] at hsame
    rw [hindex, hotherIndex] at hsameIndex
    exact ⟨hsame, hsameIndex⟩
  · rintro ⟨hsame, hsameIndex⟩
    rw [← hrows, ← hother] at hsame
    rw [← hindex, ← hotherIndex] at hsameIndex
    exact ⟨hsame, hsameIndex⟩

/-- A refused forget reports and leaves nothing on either path. -/
theorem complete_of_refused [LawfulForgetHost]
    (hrefused : ¬ WakeRoom
      (isHit (trim input) (db.foundBy (trim input)) .inFlight)
      (db.rows .inFlight)) : ForgetComplete db input nowMs := by
  have hsweep {found : List ForgetTarget} {after : ForgetDb} :
      ¬ applyV021Forget db input nowMs = .ok (found, after) := by
    intro hok
    obtain ⟨-, -, hfinish⟩ := applyV021Forget_ok.mp hok
    exact hrefused (wakeIndex_sweepTopic_iff.mp (finish_ok_iff.mp hfinish).1)
  have hlisted {plan : List ForgetTarget} {other : ForgetDb}
      (hplan : planV021Forget db input = .ok plan) :
      ¬ applyV021ForgetTargetsInTransaction db plan nowMs = .ok other := by
    intro hok
    rw [(planV021Forget_ok.mp hplan).2] at hok
    exact hrefused (wakeIndex_planTargets_iff.mp (finish_ok_iff.mp hok).1)
  constructor
  · exact fun _ _ _ _ hok => absurd hok hsweep
  · intro _ hplan
    constructor
    · rintro ⟨_, _, hok⟩
      exact absurd hok hsweep
    · rintro ⟨_, hok⟩
      exact absurd hok (hlisted hplan)
  · exact fun _ _ _ _ _ hok => absurd hok hsweep
  · exact fun _ _ hok => absurd hok hsweep
  · exact fun _ _ hplan hok => absurd hok (hlisted hplan)

/-- A forget that is not refused is complete under each condition. -/
theorem complete_iff_of_room [LawfulForgetHost] (hnamed : trim input ≠ "")
    (hroom : WakeRoom (isHit (trim input) (db.foundBy (trim input)) .inFlight)
      (db.rows .inFlight)) :
    ForgetComplete db input nowMs ↔
      WatchesApart (trim input) db ∧ OccupanciesPlain (trim input) db ∧
        ForgetClears (.ofTopic (trim input)) (trim input) db ∧
        ForgetClears .whole (trim input) db := by
  have hplan : planV021Forget db input = .ok (planTargets (trim input) db) :=
    planV021Forget_ok.mpr ⟨hnamed, rfl⟩
  have hsweep : ∃ after, applyV021Forget db input nowMs =
        .ok ((sweepTopic (trim input) nowMs db).targets, after) ∧
      after.rows = (sweepTopic (trim input) nowMs db).db.rows ∧
      after.episodeIndex =
        (sweepTopic (trim input) nowMs db).db.episodeIndex := by
    refine ⟨_, applyV021Forget_ok.mpr ⟨hnamed, rfl, finish_ok_iff.mpr
      ⟨wakeIndex_sweepTopic_iff.mpr hroom, rfl⟩⟩, ?_⟩
    exact finished_rows _ _
  have hlisted : ∃ other, applyV021ForgetTargetsInTransaction db
        (planTargets (trim input) db) nowMs = .ok other ∧
      other.rows =
        (forgetTargets (planTargets (trim input) db) nowMs db).rows ∧
      other.episodeIndex =
        (forgetTargets (planTargets (trim input) db) nowMs db).episodeIndex := by
    refine ⟨_, finish_ok_iff.mpr
      ⟨wakeIndex_planTargets_iff.mpr hroom, rfl⟩, ?_⟩
    exact finished_rows _ _
  obtain ⟨after, hafter, hrows, hindex⟩ := hsweep
  obtain ⟨other, hother, hotherRows, hotherIndex⟩ := hlisted
  have hreported : (∀ target, target ∈ planTargets (trim input) db ↔
      target ∈ (sweepTopic (trim input) nowMs db).targets) ↔
      WatchesApart (trim input) db := planTargets_eq_reported_iff
  have hsame : SameOutcome after other ↔ OccupanciesPlain (trim input) db := by
    rw [sameOutcome_congr hrows hindex hotherRows hotherIndex]
    exact sameOutcome_iff
  have hcleared : planV021Forget after input = .ok [] ↔
      ForgetClears (.ofTopic (trim input)) (trim input) db := by
    rw [planV021Forget_ok, and_iff_right hnamed, eq_comm,
      planTargets_congr hrows]
    exact sweepTopic_sweptBy.plan_nil_iff
  have hclearedListed : planV021Forget other input = .ok [] ↔
      ForgetClears .whole (trim input) db := by
    rw [planV021Forget_ok, and_iff_right hnamed, eq_comm,
      planTargets_congr hotherRows]
    exact forgetTargets_sweptBy.plan_nil_iff
  rw [← hreported, ← hsame, ← hcleared, ← hclearedListed]
  constructor
  · intro hcomplete
    exact ⟨hcomplete.reported _ _ _ hplan hafter,
      hcomplete.sameOutcome _ _ _ _ hplan hafter hother,
      hcomplete.cleared _ _ hafter, hcomplete.clearedListed _ _ hplan hother⟩
  · rintro ⟨hfound, houtcome, hnil, hnilListed⟩
    have hplanOnly {plan : List ForgetTarget}
        (hok : planV021Forget db input = .ok plan) :
        plan = planTargets (trim input) db := (planV021Forget_ok.mp hok).2
    have hafterOnly {found : List ForgetTarget} {final : ForgetDb}
        (hok : applyV021Forget db input nowMs = .ok (found, final)) :
        found = (sweepTopic (trim input) nowMs db).targets ∧ final = after := by
      rw [hafter] at hok
      cases hok
      exact ⟨rfl, rfl⟩
    have hotherOnly {plan : List ForgetTarget} {final : ForgetDb}
        (hplanOk : planV021Forget db input = .ok plan)
        (hok : applyV021ForgetTargetsInTransaction db plan nowMs =
          .ok final) : final = other := by
      rw [hplanOnly hplanOk, hother] at hok
      cases hok
      rfl
    constructor
    · intro _ _ _ hplanOk hok
      rw [hplanOnly hplanOk, (hafterOnly hok).1]
      exact hfound
    · intro _ hplanOk
      rw [hplanOnly hplanOk]
      exact ⟨fun _ => ⟨other, hother⟩, fun _ => ⟨_, after, hafter⟩⟩
    · intro _ _ _ _ hplanOk hok hlistedOk
      rw [(hafterOnly hok).2, hotherOnly hplanOk hlistedOk]
      exact houtcome
    · intro _ _ hok
      rw [(hafterOnly hok).2]
      exact hnil
    · intro _ _ hplanOk hok
      rw [hotherOnly hplanOk hok]
      exact hnilListed

/-- Forgetting is complete, and agrees with its plan, exactly when the topic is
blank or refused, or when no hit watch is of a cycle whose settlement is hit,
no joined key of a hit has a colon too many, and nothing that is written in
place of a hit mentions the topic. -/
theorem forget_complete_iff [LawfulForgetHost] (db : ForgetDb)
    (input : String) (nowMs : Int) :
    ForgetComplete db input nowMs ↔
      trim input = "" ∨
      ¬ WakeRoom (isHit (trim input) (db.foundBy (trim input)) .inFlight)
        (db.rows .inFlight) ∨
      (WatchesApart (trim input) db ∧ OccupanciesPlain (trim input) db ∧
        ForgetClears (.ofTopic (trim input)) (trim input) db ∧
        ForgetClears .whole (trim input) db) := by
  by_cases hblank : trim input = ""
  · refine ⟨fun _ => .inl hblank, fun _ => ?_⟩
    constructor
    · exact fun _ _ _ hplan => absurd hblank (planV021Forget_ok.mp hplan).1
    · exact fun _ hplan => absurd hblank (planV021Forget_ok.mp hplan).1
    · exact fun _ _ _ _ hplan => absurd hblank (planV021Forget_ok.mp hplan).1
    · exact fun _ _ hok => absurd hblank (applyV021Forget_ok.mp hok).1
    · exact fun _ _ hplan => absurd hblank (planV021Forget_ok.mp hplan).1
  · rw [or_iff_right hblank]
    by_cases hroom : WakeRoom
        (isHit (trim input) (db.foundBy (trim input)) .inFlight)
        (db.rows .inFlight)
    · rw [or_iff_right (not_not_intro hroom)]
      exact complete_iff_of_room hblank hroom
    · exact ⟨fun _ => .inl hroom, fun _ => complete_of_refused hroom⟩

end Complete

section Samples

attribute [local instance] lowerCaseHost

/-- A reader that accepts no envelope is lawful. -/
theorem lowerCaseHost_lawful : LawfulForgetHost where
  parse_kind _ _ _ haccepted := by cases haccepted

/-- A concern on the topic, and the conversation that it occupies. -/
def occupiedDb : ForgetDb where
  rows
    | .concern =>
      [{ concernId := "concern", statement := "the canary"
         sourceRefs := "[]", supportRefs := .array [], objective := none
         assertionKey := none, cognitiveStatus := none, forgotten := false }]
    | .occupancy => [{ conversationId := "talk", concernId := "concern" }]
    | _ => []
  keys_nodup entity := by cases entity <;> simp
  keys_named entity := by cases entity <;> simp [rowKey]

theorem occupied_forget_complete : ForgetComplete occupiedDb "canary" 5 := by
  have hlawful := lowerCaseHost_lawful
  refine (forget_complete_iff occupiedDb "canary" 5).mpr (.inr (.inr ?_))
  refine ⟨?_, ?_, ⟨?_, ?_⟩, ⟨?_, ?_⟩⟩
  · unfold WatchesApart
    decide +kernel
  · unfold OccupanciesPlain
    decide +kernel
  · intro entity
    cases entity <;> decide +kernel
  · decide +kernel
  · intro entity
    cases entity <;> decide +kernel
  · decide +kernel

/-- A step of a thought that has the topic in the name of a field. -/
def keyedDb : ForgetDb where
  rows
    | .thoughtStep =>
      [{ id := "step", payload := .json (.object [("canary", .text "x")]) }]
    | _ => []
  keys_nodup entity := by cases entity <;> simp
  keys_named entity := by cases entity <;> simp [rowKey]

/-- The texts that stand for forgotten words. -/
def placeholders : List String :=
  [redactedMemoryStatement, redactedColumn.raw, emptyColumn.raw,
    repairColumn.raw]

/-- The name of a field outlives the forget of the topic. -/
theorem keyed_forget_incomplete :
    ¬ ∀ db input nowMs, trim input ≠ "" →
      (∀ text ∈ placeholders, includes text (trim input) = false) →
        ForgetComplete db input nowMs := by
  intro hall
  have hcomplete := hall keyedDb "canary" 5 (by decide +kernel)
    (by decide +kernel)
  have hleft : (((applyV021Forget keyedDb "canary" 5).bind fun run =>
      planV021Forget run.2 "canary").toOption.map List.length) = some 1 := by
    decide +kernel
  cases hrun : applyV021Forget keyedDb "canary" 5 with
  | error =>
    rw [hrun] at hleft
    cases hleft
  | ok run =>
    rw [hrun] at hleft
    change (planV021Forget run.2 "canary").toOption.map List.length = _
      at hleft
    rw [hcomplete.cleared run.1 run.2 hrun] at hleft
    cases hleft

end Samples

end CognitiveSidecar.Forget
