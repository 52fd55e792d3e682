/-
What a forget does to records that are alive or finished: the effects and their
receipts, the sends, the triggers with their events and wakes, and the Owner
events that still wait to be dispatched.
-/
import CognitiveSidecar.ForgetTargets

namespace CognitiveSidecar.Forget

open List Relational

section Lifecycle

/-- A send that came to an end at the transport. -/
def isSent (status : OutboxSendStatus) : Bool :=
  status ∈ [OutboxSendStatus.delivered, .partiallyDelivered, .sendFailure]

/-- An Owner event that waits to be dispatched. -/
def EventRow.isWaitingOwner (row : EventRow) : Bool :=
  isOwnerObligationEventKind row.kind &&
    (row.state = .pending || row.state = .retryWait)

/-- The inbox event of a matured trigger is still pending. -/
def ForgetDb.hasPendingEvent (db : ForgetDb) (trigger : TriggerRow) : Bool :=
  (db.rows .inboxEvent).any fun (event : EventRow) =>
    event.id = "future-trigger:" ++ trigger.triggerId &&
      event.state = .pending

/-- The wake of a trigger can still be claimed. -/
def ForgetDb.hasOpenWake (db : ForgetDb) (trigger : TriggerRow) : Bool :=
  db.wakes.any fun wake =>
    trigger.wakeId = some wake.wakeId && isComposableWake wake

/-- The texts by which an Owner event is dispatched. -/
def ownerNames : List String := ["cycleId", "evidenceRowId"]

/-- A forget that changed nothing but what was to be forgotten: what had come to
an end, and what still has to run, is as it was. -/
structure LifecycleKept (db after : ForgetDb) : Prop where
  effects : ∀ old ∈ db.rows .inFlight, old.state = .receipted →
    ∃ new ∈ after.rows .inFlight,
      new.effectId = old.effectId ∧ new.state = .receipted
  wakes : WakeIndex (after.rows .inFlight)
  speech : ∀ old ∈ db.rows .speechOutbox, isSent old.sendStatus = true →
    ∃ new ∈ after.rows .speechOutbox,
      new.outboxId = old.outboxId ∧ new.sendStatus = old.sendStatus
  notices : ∀ old ∈ db.rows .systemNotice, isSent old.sendStatus = true →
    ∃ new ∈ after.rows .systemNotice,
      new.noticeId = old.noticeId ∧ new.sendStatus = old.sendStatus
  triggers : ∀ old ∈ db.rows .futureTrigger, old.status ≠ .cancelled →
    ∀ new ∈ after.rows .futureTrigger, new.triggerId = old.triggerId →
      new.status = .cancelled →
        after.hasPendingEvent new = false ∧ after.hasOpenWake new = false
  owners : ∀ old ∈ db.rows .inboxEvent, old.isWaitingOwner = true →
    ∃ new ∈ after.rows .inboxEvent, new.id = old.id ∧
      ∀ name ∈ ownerNames,
        new.payload.textField name = old.payload.textField name

variable [ForgetHost]

/-- A redaction that leaves a text of a column as it is. -/
def Redaction.keepsName : Redaction → JsonColumn → String → Prop
  | .ofTopic topic, column, name => ∀ value,
      column.textField name = some value → mentions value topic = true →
        value = redactedMemoryStatement
  | .whole, column, name => column.textField name = none

omit [ForgetHost] in
/-- A column that is redacted whole holds no text. -/
theorem textField_redactedColumn (name : String) :
    redactedColumn.textField name = none := by
  by_cases hname : "redacted" = name
  · subst hname
    rfl
  · simp [redactedColumn, JsonColumn.textField, JsonColumn.parsed, getField,
      hname]

theorem textField_column (mode : Redaction) (column : JsonColumn)
    (name : String) :
    (mode.column column).textField name = column.textField name ↔
      mode.keepsName column name := by
  cases mode with
  | whole =>
    simp only [Redaction.column, Redaction.keepsName,
      textField_redactedColumn]
    exact eq_comm
  | ofTopic =>
    simp only [Redaction.column, Redaction.keepsName]
    cases column with
    | unreadable =>
      simp only [redactJson, textField_redactedColumn]
      constructor
      · intro _ _ hvalue
        cases hvalue
      · exact fun _ => rfl
    | json value =>
      rw [textField_redactJson]
      cases (JsonColumn.json value).textField name with
      | none =>
        constructor
        · intro _ _ hvalue
          cases hvalue
        · exact fun _ => rfl
      | some text =>
        simp only [Option.map_some, Option.some.injEq, redactText]
        constructor
        · rintro hkept _ rfl hmentions
          rw [if_pos hmentions] at hkept
          exact hkept.symm
        · intro hkept
          split
          · rename_i hmentions
            exact (hkept text rfl hmentions).symm
          · rfl

/-- No two effects of a wake would both be unresolved. -/
def WakeRoom (reached : InFlightRow → Bool) (rows : List InFlightRow) : Prop :=
  ∀ row ∈ rows, ∀ other ∈ rows,
    (row.isUnresolved || reached row) = true →
    (other.isUnresolved || reached other) = true → row.wakeId ≠ none →
    row.wakeId = other.wakeId → row.effectId = other.effectId

/-- What a forget must not reach to leave the lifecycles as they are. -/
structure LifecycleSafe (mode : Redaction)
    (reached : (entity : ForgetEntity) → Row entity → Bool)
    (db : ForgetDb) : Prop where
  effects : ∀ row ∈ db.rows .inFlight, reached .inFlight row = true →
    row.state ≠ .receipted
  triggers : ∀ row ∈ db.rows .futureTrigger,
    reached .futureTrigger row = true → row.status ≠ .cancelled →
      db.hasPendingEvent row = false ∧ db.hasOpenWake row = false
  owners : ∀ row ∈ db.rows .inboxEvent, reached .inboxEvent row = true →
    row.isWaitingOwner = true →
      ∀ name ∈ ownerNames, mode.keepsName row.payload name

end Lifecycle

section Kept

variable [ForgetHost] {mode : Redaction} {nowMs : Int} {db after : ForgetDb}
  {reached : (entity : ForgetEntity) → Row entity → Bool}

variable {entity : ForgetEntity}
variable {old new : Row entity}

/-- The tables that have a lifecycle. -/
def lifecycleTables : List ForgetEntity :=
  [.inFlight, .speechOutbox, .systemNotice, .futureTrigger, .inboxEvent]

/-- A forget ran its statements on the rows it reaches. -/
structure Forgotten (mode : Redaction) (nowMs : Int)
    (reached : (entity : ForgetEntity) → Row entity → Bool)
    (db after : ForgetDb) : Prop where
  rows : ∀ entity ∈ lifecycleTables, after.rows entity =
    forgetRows mode nowMs entity (reached entity) (db.rows entity)
  wakes : after.wakes = db.wakes

/-- The row that a forget leaves under the key of a row. -/
theorem Forgotten.exists_row
    (hforgotten : Forgotten mode nowMs reached db after)
    (hentity : entity ∈ lifecycleTables) (hold : old ∈ db.rows entity)
    (hmade : (if reached entity old then forgotten mode nowMs entity old
      else some old) = some new) : new ∈ after.rows entity := by
  rw [hforgotten.rows entity hentity, mem_forgetRows]
  exact ⟨old, hold, hmade⟩

theorem Forgotten.made (hforgotten : Forgotten mode nowMs reached db after)
    (hentity : entity ∈ lifecycleTables) (hold : old ∈ db.rows entity)
    (hnew : new ∈ after.rows entity)
    (hkey : rowKey entity new = rowKey entity old) :
    (if reached entity old then forgotten mode nowMs entity old
      else some old) = some new :=
  forgotten_of_key (hforgotten.rows entity hentity) hold hnew hkey

theorem Forgotten.hasPendingEvent
    (hforgotten : Forgotten mode nowMs reached db after)
    (trigger : TriggerRow) :
    after.hasPendingEvent trigger = db.hasPendingEvent trigger := by
  unfold ForgetDb.hasPendingEvent
  rw [hforgotten.rows .inboxEvent (by decide), Bool.eq_iff_iff,
    any_eq_true, any_eq_true]
  constructor
  · rintro ⟨_, hnew, hpending⟩
    obtain ⟨old, hold, hmade⟩ := mem_forgetRows.mp hnew
    refine ⟨old, hold, ?_⟩
    split at hmade <;> cases hmade <;> exact hpending
  · rintro ⟨old, hold, hpending⟩
    by_cases hreached : reached .inboxEvent old = true
    · refine ⟨_, mem_forgetRows.mpr ⟨old, hold, if_pos hreached⟩, ?_⟩
      exact hpending
    · exact ⟨old, mem_forgetRows.mpr ⟨old, hold, if_neg hreached⟩, hpending⟩

theorem Forgotten.hasOpenWake
    (hforgotten : Forgotten mode nowMs reached db after)
    (trigger : TriggerRow) :
    after.hasOpenWake trigger = db.hasOpenWake trigger := by
  unfold ForgetDb.hasOpenWake
  rw [hforgotten.wakes]

theorem Forgotten.wakeIndex_iff
    (hforgotten : Forgotten mode nowMs reached db after) :
    WakeIndex (after.rows .inFlight) ↔
      WakeRoom (reached .inFlight) (db.rows .inFlight) := by
  rw [hforgotten.rows .inFlight (by decide)]
  have hunresolved {old new : InFlightRow}
      (hmade : (if reached .inFlight old then
          forgotten mode nowMs .inFlight old else some old) = some new) :
      new.effectId = old.effectId ∧ new.wakeId = old.wakeId ∧
        new.isUnresolved = (old.isUnresolved || reached .inFlight old) := by
    split at hmade
    · rename_i hreached
      cases hmade
      rw [hreached, Bool.or_true]
      exact ⟨rfl, rfl, rfl⟩
    · rename_i hreached
      cases hmade
      rw [Bool.eq_false_of_not_eq_true hreached, Bool.or_false]
      exact ⟨rfl, rfl, rfl⟩
  have hexists (old : InFlightRow) : ∃ new : InFlightRow,
      (if reached .inFlight old then forgotten mode nowMs .inFlight old
        else some old) = some new := by
    split
    · exact ⟨_, rfl⟩
    · exact ⟨old, rfl⟩
  constructor
  · intro hindex row hrow other hother hrowOpen hotherOpen hwake hsame
    obtain ⟨newRow, hnewRow⟩ := hexists row
    obtain ⟨newOther, hnewOther⟩ := hexists other
    obtain ⟨hid, hwakeId, hopen⟩ := hunresolved hnewRow
    obtain ⟨hid', hwakeId', hopen'⟩ := hunresolved hnewOther
    rw [← hid, ← hid']
    apply hindex newRow (mem_forgetRows.mpr ⟨row, hrow, hnewRow⟩)
      newOther (mem_forgetRows.mpr ⟨other, hother, hnewOther⟩)
    · rw [hopen]
      exact hrowOpen
    · rw [hopen']
      exact hotherOpen
    · rw [hwakeId]
      exact hwake
    · rw [hwakeId, hwakeId']
      exact hsame
  · intro hroom _ hnewRow _ hnewOther hrowOpen hotherOpen hwake
      hsame
    obtain ⟨row, hrow, hmadeRow⟩ := mem_forgetRows.mp hnewRow
    obtain ⟨other, hother, hmadeOther⟩ := mem_forgetRows.mp hnewOther
    obtain ⟨hid, hwakeId, hopen⟩ := hunresolved hmadeRow
    obtain ⟨hid', hwakeId', hopen'⟩ := hunresolved hmadeOther
    rw [hid, hid']
    rw [hopen] at hrowOpen
    rw [hopen'] at hotherOpen
    rw [hwakeId] at hwake
    rw [hwakeId, hwakeId'] at hsame
    exact hroom row hrow other hother hrowOpen hotherOpen hwake hsame

omit [ForgetHost] in
theorem forgottenSendStatus_of_isSent {status : OutboxSendStatus}
    (hsent : isSent status = true) : forgottenSendStatus status = status := by
  cases status <;> first | rfl | cases hsent

/-- The sends that came to an end keep their status in any case. -/
theorem Forgotten.sends (hforgotten : Forgotten mode nowMs reached db after) :
    (∀ old ∈ db.rows .speechOutbox, isSent old.sendStatus = true →
      ∃ new ∈ after.rows .speechOutbox,
        new.outboxId = old.outboxId ∧ new.sendStatus = old.sendStatus) ∧
    ∀ old ∈ db.rows .systemNotice, isSent old.sendStatus = true →
      ∃ new ∈ after.rows .systemNotice,
        new.noticeId = old.noticeId ∧ new.sendStatus = old.sendStatus := by
  constructor
  · intro old hold hsent
    by_cases hreached : reached .speechOutbox old = true
    · exact ⟨_, hforgotten.exists_row (by decide) hold (if_pos hreached), rfl,
        forgottenSendStatus_of_isSent hsent⟩
    · exact ⟨old, hforgotten.exists_row (by decide) hold (if_neg hreached),
        rfl, rfl⟩
  · intro old hold hsent
    by_cases hreached : reached .systemNotice old = true
    · exact ⟨_, hforgotten.exists_row (by decide) hold (if_pos hreached), rfl,
        forgottenSendStatus_of_isSent hsent⟩
    · exact ⟨old, hforgotten.exists_row (by decide) hold (if_neg hreached),
        rfl, rfl⟩

theorem Forgotten.safe_of_kept
    (hforgotten : Forgotten mode nowMs reached db after)
    (hkept : LifecycleKept db after) : LifecycleSafe mode reached db := by
  constructor
  · intro row hrow hreached hreceipted
    obtain ⟨_, hnew, hid, hstate⟩ := hkept.effects row hrow hreceipted
    have hmade := hforgotten.made (by decide) hrow hnew
      (congrArg RowKey.text hid)
    rw [if_pos hreached] at hmade
    cases hmade
    cases hstate
  · intro row hrow hreached hstatus
    have hnew := hforgotten.exists_row (by decide) hrow (if_pos hreached)
    have hclosed := hkept.triggers row hrow hstatus _ hnew rfl rfl
    rw [hforgotten.hasPendingEvent, hforgotten.hasOpenWake] at hclosed
    exact hclosed
  · intro row hrow hreached hwaiting name hname
    obtain ⟨_, hnew, hid, hnames⟩ := hkept.owners row hrow hwaiting
    have hmade := hforgotten.made (by decide) hrow hnew
      (congrArg RowKey.text hid)
    rw [if_pos hreached] at hmade
    cases hmade
    exact (textField_column mode row.payload name).mp (hnames name hname)

theorem Forgotten.kept_of_safe
    (hforgotten : Forgotten mode nowMs reached db after)
    (hindex : WakeIndex (after.rows .inFlight))
    (hsafe : LifecycleSafe mode reached db) : LifecycleKept db after := by
  refine ⟨?_, hindex, hforgotten.sends.1, hforgotten.sends.2, ?_, ?_⟩
  · intro old hold hreceipted
    have hmissed : ¬ reached .inFlight old = true := fun hreached =>
      hsafe.effects old hold hreached hreceipted
    exact ⟨old, hforgotten.exists_row (by decide) hold (if_neg hmissed), rfl,
      hreceipted⟩
  · intro old hold hstatus _ hnew hid hcancelled
    have hmade := hforgotten.made (by decide) hold hnew
      (congrArg RowKey.text hid)
    by_cases hreached : reached .futureTrigger old = true
    · rw [if_pos hreached] at hmade
      cases hmade
      rw [hforgotten.hasPendingEvent, hforgotten.hasOpenWake]
      exact hsafe.triggers old hold hreached hstatus
    · rw [if_neg hreached] at hmade
      cases hmade
      exact absurd hcancelled hstatus
  · intro old hold hwaiting
    by_cases hreached : reached .inboxEvent old = true
    · refine ⟨_, hforgotten.exists_row (by decide) hold (if_pos hreached), rfl,
        ?_⟩
      intro name hname
      exact (textField_column mode old.payload name).mpr
        (hsafe.owners old hold hreached hwaiting name hname)
    · exact ⟨old, hforgotten.exists_row (by decide) hold (if_neg hreached),
        rfl, fun _ _ => rfl⟩

end Kept

section Forgets

variable [ForgetHost]
variable {db : ForgetDb}
variable {after swept : ForgetDb} {targets : List ForgetTarget}

/-- The rows that are recorded among the targets. -/
def isListed (targets : List ForgetTarget) (entity : ForgetEntity)
    (row : Row entity) : Bool :=
  entityUuid entity row ∈ targetIds targets entity

omit [ForgetHost] in
theorem lifecycleTables_plain {entity : ForgetEntity}
    (hentity : entity ∈ lifecycleTables) :
    entity ∉ supportedTables ∧ entity.isPaired = false := by
  revert hentity
  cases entity <;> decide

theorem sweepTopic_forgotten (topic : String) (nowMs : Int) (db : ForgetDb) :
    Forgotten (.ofTopic topic) nowMs (isHit topic (db.foundBy topic)) db
      (sweepTopic topic nowMs db).db where
  rows _ hentity :=
    have hplain := lifecycleTables_plain hentity
    rows_sweepTopic hplain.1 hplain.2
  wakes := sameBeside_sweepTopic.wakes

theorem forgetTargets_forgotten (targets : List ForgetTarget) (nowMs : Int)
    (db : ForgetDb) :
    Forgotten .whole nowMs (isListed targets) db
      (forgetTargets targets nowMs db) where
  rows _ hentity :=
    have hplain := lifecycleTables_plain hentity
    rows_listed hplain.1 hplain.2
  wakes := sameBeside_forgetTargets.wakes

omit [ForgetHost] in
/-- The end of a forget changes no row. -/
theorem finish_ok (hok : db.finish targets = .ok after) :
    WakeIndex (db.rows .inFlight) ∧ after.rows = db.rows ∧
      after.wakes = db.wakes := by
  obtain ⟨hindex, hok⟩ := of_require hok
  refine ⟨hindex, ?_⟩
  split at hok <;> cases of_pure hok <;> exact ⟨rfl, rfl⟩

omit [ForgetHost] in
theorem LifecycleKept.of_finish (hok : swept.finish targets = .ok after) :
    LifecycleKept db after ↔ LifecycleKept db swept := by
  obtain ⟨-, hrows, hwakes⟩ := finish_ok hok
  have hpending (trigger : TriggerRow) :
      after.hasPendingEvent trigger = swept.hasPendingEvent trigger := by
    unfold ForgetDb.hasPendingEvent
    rw [hrows]
  have hopen (trigger : TriggerRow) :
      after.hasOpenWake trigger = swept.hasOpenWake trigger := by
    unfold ForgetDb.hasOpenWake
    rw [hwakes]
  constructor
  · rintro ⟨heffects, hindex, hspeech, hnotices, htriggers, howners⟩
    simp only [hrows, hpending, hopen] at *
    exact ⟨heffects, hindex, hspeech, hnotices, htriggers, howners⟩
  · rintro ⟨_, _⟩
    constructor
    all_goals simp only [hrows, hpending, hopen]
    all_goals assumption

/-- A swept database is committed when the index of the wakes allows it, and
then the lifecycles are kept when nothing was reached that has one. -/
theorem Forgotten.finish_keeps_iff {mode : Redaction} {nowMs : Int}
    {reached : (entity : ForgetEntity) → Row entity → Bool}
    (hforgotten : Forgotten mode nowMs reached db swept)
    (targets : List ForgetTarget) :
    (∀ after, swept.finish targets = .ok after → LifecycleKept db after) ↔
      ¬ WakeRoom (reached .inFlight) (db.rows .inFlight) ∨
        LifecycleSafe mode reached db := by
  rw [← hforgotten.wakeIndex_iff]
  constructor
  · intro hall
    by_cases hindex : WakeIndex (swept.rows .inFlight)
    · have hok : swept.finish targets =
          .ok (if targets = [] then swept else swept.bumpForgetEpoch) :=
        require_bind_ok.mpr ⟨hindex, rfl⟩
      have hkept := (LifecycleKept.of_finish hok).mp (hall _ hok)
      exact .inr (hforgotten.safe_of_kept hkept)
    · exact .inl hindex
  · intro hcase _ hok
    have hindex := (finish_ok hok).1
    have hsafe := hcase.resolve_left (not_not_intro hindex)
    rw [LifecycleKept.of_finish hok]
    exact hforgotten.kept_of_safe hindex hsafe

/-- A forget keeps the lifecycles exactly when it is refused or reaches none of
the records that it would break. -/
theorem forget_keeps_lifecycle_iff (db : ForgetDb) (nowMs : Int) :
    (∀ input, (∀ targets after,
        applyV021Forget db input nowMs = .ok (targets, after) →
          LifecycleKept db after) ↔
      trim input = "" ∨
      ¬ WakeRoom (isHit (trim input) (db.foundBy (trim input)) .inFlight)
        (db.rows .inFlight) ∨
      LifecycleSafe (.ofTopic (trim input))
        (isHit (trim input) (db.foundBy (trim input))) db) ∧
    ∀ targets, (∀ after,
        applyV021ForgetTargetsInTransaction db targets nowMs = .ok after →
          LifecycleKept db after) ↔
      ¬ WakeRoom (isListed targets .inFlight) (db.rows .inFlight) ∨
      LifecycleSafe .whole (isListed targets) db := by
  constructor
  · intro input
    rw [← (sweepTopic_forgotten (trim input) nowMs db).finish_keeps_iff
      (sweepTopic (trim input) nowMs db).targets]
    constructor
    · intro hall
      by_cases hblank : trim input = ""
      · exact .inl hblank
      · refine .inr fun after hok => ?_
        apply hall (sweepTopic (trim input) nowMs db).targets after
        exact require_bind_ok.mpr
          ⟨hblank, bind_ok.mpr ⟨after, hok, rfl⟩⟩
    · rintro hcase _ _ hok
      obtain ⟨hnamed, hok⟩ := of_require hok
      obtain ⟨_, hfinish, hok⟩ := of_bind hok
      obtain ⟨rfl, rfl⟩ := of_pure_pair hok
      exact hcase.resolve_left hnamed _ hfinish
  · intro targets
    exact (forgetTargets_forgotten targets nowMs db).finish_keeps_iff targets

end Forgets

section LiveRecords

/-- The platform on texts that are in lower case and hold no envelope. -/
@[reducible]
def lowerCaseHost : ForgetHost where
  toLocaleLowerCase text := text
  toLowerCase text := text
  parseStoredEnvelope _ _ := none

attribute [local instance] lowerCaseHost

/-- An effect with its receipt and an Owner message that waits, on one topic. -/
def liveDb : ForgetDb where
  rows
    | .inFlight =>
      [{ effectId := "effect", wakeId := some "wake", state := .receipted
         payload := .json (.object [("query", .text "the canary")]) }]
    | .inboxEvent =>
      [{ id := "message", kind := "owner_message", state := .pending
         payload := .json (.object
          [("cycleId", .text "cycle"), ("evidenceRowId", .text "row"),
            ("text", .text "the canary")]) }]
    | _ => []
  keys_nodup entity := by cases entity <;> simp
  keys_named entity := by cases entity <;> simp [rowKey]

/-- By the topic the effect loses its receipt; by the targets that the plan
lists the Owner message loses its cycle as well. -/
theorem forget_reopens_effect :
    (¬ ∀ targets after,
      applyV021Forget liveDb "canary" 5 = .ok (targets, after) →
        LifecycleKept liveDb after) ∧
    ¬ ∀ targets after, planV021Forget liveDb "canary" = .ok targets →
      applyV021ForgetTargetsInTransaction liveDb targets 5 = .ok after →
        LifecycleKept liveDb after := by
  have hstates : ((applyV021Forget liveDb "canary" 5).toOption.map fun run =>
      (run.2.rows .inFlight).map InFlightRow.state) = some [.unknown] := by
    decide +kernel
  have hnames : (((planV021Forget liveDb "canary").bind fun targets =>
      applyV021ForgetTargetsInTransaction liveDb targets 5).toOption.map
        fun after => (after.rows .inboxEvent).map fun (row : EventRow) =>
          row.payload.textField "cycleId") = some [none] := by
    decide +kernel
  constructor
  · intro hall
    cases hrun : applyV021Forget liveDb "canary" 5 with
    | error =>
      rw [hrun] at hstates
      cases hstates
    | ok run =>
      rw [hrun] at hstates
      obtain ⟨new, hnew, -, hreceipted⟩ :=
        (hall run.1 run.2 hrun).effects _ List.mem_cons_self rfl
      have hunknown : new.state ∈ [InFlightState.unknown] := by
        rw [← Option.some.inj hstates]
        exact List.mem_map_of_mem hnew
      rw [hreceipted] at hunknown
      exact absurd hunknown (by decide)
  · intro hall
    cases hplan : planV021Forget liveDb "canary" with
    | error =>
      rw [hplan] at hnames
      cases hnames
    | ok targets =>
      rw [hplan] at hnames
      cases hrun : applyV021ForgetTargetsInTransaction liveDb targets 5 with
      | error =>
        change ((applyV021ForgetTargetsInTransaction liveDb targets 5
          ).toOption.map _) = _ at hnames
        rw [hrun] at hnames
        cases hnames
      | ok after =>
        change ((applyV021ForgetTargetsInTransaction liveDb targets 5
          ).toOption.map _) = _ at hnames
        rw [hrun] at hnames
        obtain ⟨new, hnew, -, hkept⟩ :=
          (hall targets after hplan hrun).owners _ List.mem_cons_self rfl
        have hnone : new.payload.textField "cycleId" ∈
            [(none : Option String)] := by
          rw [← Option.some.inj hnames]
          exact List.mem_map_of_mem hnew
        rw [hkept "cycleId" (by decide)] at hnone
        exact absurd hnone (by decide)

end LiveRecords

end CognitiveSidecar.Forget
