/-
The invariant of the periodic schedule, and what every transaction of a poll
and the work of others do to it.
-/
import CognitiveSidecar.Lib.Separated
import CognitiveSidecar.PeriodicSchedule

namespace CognitiveSidecar.Periodic

open Option List Relational Process

variable [Host]

/-- The wake was admitted for the occurrence. -/
def IsWakeOf (wake : Wake) (occurrenceId : String) : Prop :=
  ∃ dueAtMs, wake.triggerRef = periodicTriggerRef occurrenceId dueAtMs

/-- The digest tells the eligible times of occurrences apart. -/
def OccurrenceDigests : Prop :=
  ∀ epoch epoch' dueAtMs dueAtMs',
    periodicScheduleOccurrenceId epoch dueAtMs =
      periodicScheduleOccurrenceId epoch' dueAtMs' → dueAtMs = dueAtMs'

omit [Host] in
/-- A wake belongs to one occurrence. -/
theorem IsWakeOf.unique {wake : Wake} {occurrenceId other : String}
    (hwake : IsWakeOf wake occurrenceId) (hother : IsWakeOf wake other) :
    occurrenceId = other := by
  obtain ⟨dueAtMs, hwake⟩ := hwake
  obtain ⟨dueAtMs', hother⟩ := hother
  have hrefs : periodicTriggerRef occurrenceId dueAtMs =
      periodicTriggerRef other dueAtMs' := hwake.symm.trans hother
  have hlists := congrArg String.toList (joined_number_inj hrefs).1
  rw [String.toList_append, String.toList_append] at hlists
  exact String.toList_inj.mp (append_cancel_left hlists)

/-- The occurrence is pending under the wake, if it has one. -/
def PendingAs (db : PeriodicDb) (occurrenceId : String)
    (wakeId : Option String) : Prop :=
  ∃ schedule, db.schedule = some schedule ∧
    schedule.pendingOccurrenceId = some occurrenceId ∧
    schedule.pendingWakeId = wakeId

/-- The invariant of the schedule: what is pending has an eligible time ahead of
every closed one, and a periodic wake belongs to a closed occurrence or is the
one bound to the pending occurrence. -/
structure Scheduled (db : PeriodicDb) : Prop where
  pending : ∀ schedule occurrenceId, db.schedule = some schedule →
    schedule.pendingOccurrenceId = some occurrenceId →
    ∃ dueAtMs, schedule.pendingDueAtMs = some dueAtMs ∧
      occurrenceId =
        periodicScheduleOccurrenceId schedule.authorityEpoch dueAtMs ∧
      schedule.nextEligibleAtMs ≤ dueAtMs
  idle : ∀ schedule, db.schedule = some schedule →
    schedule.pendingOccurrenceId = none →
    schedule.pendingWakeId = none ∧ schedule.pendingDueAtMs = none
  closed : ∀ occurrenceId receipt,
    db.receipts.get? occurrenceId = some receipt →
    ∃ schedule epoch dueAtMs, db.schedule = some schedule ∧
      occurrenceId = periodicScheduleOccurrenceId epoch dueAtMs ∧
      dueAtMs < schedule.nextEligibleAtMs
  bound : ∀ wakeId wake occurrenceId,
    db.sidecar.wakes.get? wakeId = some wake → IsWakeOf wake occurrenceId →
    (∃ receipt, db.receipts.get? occurrenceId = some receipt) ∨
      PendingAs db occurrenceId (some wakeId)
  once : ∀ wakeId wakeId' wake wake' occurrenceId,
    db.sidecar.wakes.get? wakeId = some wake →
    db.sidecar.wakes.get? wakeId' = some wake' →
    IsWakeOf wake occurrenceId → IsWakeOf wake' occurrenceId →
    wakeId = wakeId'

/-- The pending occurrence, if any, is due before the next time that a close at
this reading would set. -/
def Timely (nowMs : Int) (db : PeriodicDb) : Prop :=
  ∀ schedule dueAtMs, db.schedule = some schedule →
    schedule.pendingDueAtMs = some dueAtMs →
    dueAtMs < max nowMs schedule.nextEligibleAtMs + periodicCadenceMs

/-- The wake is stored and has ended. -/
def Ended (db : PeriodicDb) (wakeId : String) : Prop :=
  ∃ wake, db.sidecar.wakes.get? wakeId = some wake ∧ wake.state = .terminal

/-- The receipt closes a bound occurrence, as the truth of its wake. -/
structure ClosesBound (after : PeriodicDb) (wakeId : String)
    (receipt : PeriodicOccurrenceReceipt) : Prop where
  names : receipt.wakeId = some wakeId
  disposition : receipt.disposition ∉
    [PeriodicDisposition.expired, .skippedEmpty, .authorityEpochAbandoned]
  ended : Ended after wakeId ∨
    receipt.disposition = .admittedStaleSuppressed

/-- What every step keeps, from before to after. -/
structure Advances (before after : PeriodicDb) : Prop where
  next : ∀ schedule, before.schedule = some schedule →
    ∃ schedule', after.schedule = some schedule' ∧
      schedule.nextEligibleAtMs + periodicCadenceMs *
          ((after.receipts.rows.length : Int) -
            before.receipts.rows.length) ≤ schedule'.nextEligibleAtMs
  kept : before.receipts.rows <+: after.receipts.rows
  ended : ∀ wakeId, Ended before wakeId → Ended after wakeId
  bound : ∀ occurrenceId wakeId, PendingAs before occurrenceId (some wakeId) →
    PendingAs after occurrenceId (some wakeId) ∨
      ∃ receipt, after.receipts.get? occurrenceId = some receipt ∧
        ClosesBound after wakeId receipt

omit [Host] in
/-- A receipt stays under its occurrence. -/
theorem receipt_kept {before after : PeriodicDb} {occurrenceId : String}
    {receipt : PeriodicOccurrenceReceipt}
    (hkept : before.receipts.rows <+: after.receipts.rows)
    (hreceipt : before.receipts.get? occurrenceId = some receipt) :
    after.receipts.get? occurrenceId = some receipt := by
  obtain ⟨hmem, hkey⟩ := Table.get?_eq_some_iff.mp hreceipt
  exact Table.get?_eq_some_iff.mpr ⟨hkept.subset hmem, hkey⟩

omit [Host] in
theorem Advances.trans {first second third : PeriodicDb}
    (hfirst : Advances first second) (hsecond : Advances second third) :
    Advances first third where
  next := by
    intro schedule hschedule
    obtain ⟨schedule', hschedule', hnext⟩ := hfirst.next schedule hschedule
    obtain ⟨schedule'', hschedule'', hnext'⟩ := hsecond.next schedule' hschedule'
    refine ⟨schedule'', hschedule'', ?_⟩
    unfold periodicCadenceMs at hnext hnext' ⊢
    omega
  kept := hfirst.kept.trans hsecond.kept
  ended := fun wakeId hended => hsecond.ended wakeId (hfirst.ended wakeId hended)
  bound := by
    intro occurrenceId wakeId hpending
    rcases hfirst.bound occurrenceId wakeId hpending with
      hstill | ⟨receipt, hreceipt, hcloses⟩
    · exact hsecond.bound occurrenceId wakeId hstill
    · refine .inr ⟨receipt, receipt_kept hsecond.kept hreceipt,
        hcloses.names, hcloses.disposition, ?_⟩
      exact hcloses.ended.imp (hsecond.ended wakeId) id

/-- The step keeps the invariant and advances. -/
def Reaches (before after : PeriodicDb) : Prop :=
  Scheduled after ∧ Advances before after

theorem Reaches.trans {first second third : PeriodicDb}
    (hfirst : Reaches first second) (hsecond : Reaches second third) :
    Reaches first third :=
  ⟨hsecond.1, hfirst.2.trans hsecond.2⟩

variable {db after : PeriodicDb} {nowMs : Int}

/-- What is pending has no receipt. -/
theorem Scheduled.open (hscheduled : Scheduled db)
    (hdigests : OccurrenceDigests) {schedule : PeriodicScheduleRow}
    {occurrenceId : String} (hschedule : db.schedule = some schedule)
    (hpending : schedule.pendingOccurrenceId = some occurrenceId) :
    db.receipts.get? occurrenceId = none := by
  cases hreceipt : db.receipts.get? occurrenceId with
  | none => rfl
  | some receipt =>
    obtain ⟨_, _, hid, _⟩ :=
        hscheduled.pending schedule occurrenceId hschedule hpending
    obtain ⟨_, _, _, hschedule', hid', _⟩ :=
        hscheduled.closed occurrenceId receipt hreceipt
    cases hschedule.symm.trans hschedule'
    have hsame := hdigests _ _ _ _ (hid.symm.trans hid')
    omega

/-- No wake was admitted for a pending occurrence that has none bound. -/
theorem Scheduled.unwoken (hscheduled : Scheduled db)
    (hdigests : OccurrenceDigests) {schedule : PeriodicScheduleRow}
    {occurrenceId : String} (hschedule : db.schedule = some schedule)
    (hpending : schedule.pendingOccurrenceId = some occurrenceId)
    (hunbound : schedule.pendingWakeId = none) {wakeId : String} {wake : Wake}
    (hwake : db.sidecar.wakes.get? wakeId = some wake) :
    ¬ IsWakeOf wake occurrenceId := by
  intro hof
  rcases hscheduled.bound wakeId wake occurrenceId hwake hof with
    ⟨_, hreceipt⟩ | ⟨_, hschedule', _, hbound⟩
  · rw [hscheduled.open hdigests hschedule hpending] at hreceipt
    cases hreceipt
  · cases hschedule.symm.trans hschedule'
    rw [hunbound] at hbound
    cases hbound

/-! The work of others. -/

/-- Others leave the schedule as it is, and every periodic wake. -/
theorem Scheduled.others (hscheduled : Scheduled db) (hothers : Others db after) :
    Reaches db after := by
  have hold : ∀ {id wake' occurrenceId},
      after.sidecar.wakes.get? id = some wake' → IsWakeOf wake' occurrenceId →
      ∃ wake, db.sidecar.wakes.get? id = some wake ∧
        IsWakeOf wake occurrenceId := by
    rintro id wake' occurrenceId hwake' ⟨dueAtMs, href⟩
    rcases hothers.admitted id wake' hwake' with ⟨wake, hwake, hsame⟩ | hfresh
    · exact ⟨wake, hwake, dueAtMs, hsame.trans href⟩
    · exact absurd href (hfresh occurrenceId dueAtMs)
  refine ⟨⟨?_, ?_, ?_, ?_, ?_⟩, ⟨?_, ?_, ?_, ?_⟩⟩
  · rw [hothers.schedule]
    exact hscheduled.pending
  · rw [hothers.schedule]
    exact hscheduled.idle
  · rw [hothers.schedule, hothers.receipts]
    exact hscheduled.closed
  · intro wakeId _ occurrenceId hwake' hof
    obtain ⟨wake, hwake, hof⟩ := hold hwake' hof
    unfold PendingAs
    rw [hothers.schedule, hothers.receipts]
    exact hscheduled.bound wakeId wake occurrenceId hwake hof
  · intro wakeId wakeId' _ _ occurrenceId hwake hwake' hof hof'
    obtain ⟨old, hold₁, hof⟩ := hold hwake hof
    obtain ⟨old', hold₂, hof'⟩ := hold hwake' hof'
    exact hscheduled.once wakeId wakeId' old old' occurrenceId hold₁ hold₂ hof
      hof'
  · intro schedule hschedule
    exact ⟨schedule, hothers.schedule.trans hschedule, by
      simp [hothers.receipts]⟩
  · exact hothers.receipts ▸ prefix_refl _
  · rintro wakeId ⟨wake, hwake, hended⟩
    obtain ⟨wake', hwake', _, hkept⟩ := hothers.kept wakeId wake hwake
    exact ⟨wake', hwake', hkept hended⟩
  · rintro _ _ ⟨schedule, hschedule, hpending⟩
    exact .inl ⟨schedule, hothers.schedule.trans hschedule, hpending⟩

/-! The transactions. -/

/-- Changes that touch neither the wakes, the schedule nor the receipts. -/
theorem Scheduled.aside (hscheduled : Scheduled db)
    (hschedule : after.schedule = db.schedule)
    (hreceipts : after.receipts = db.receipts)
    (hwakes : after.sidecar.wakes = db.sidecar.wakes) : Reaches db after := by
  refine hscheduled.others ⟨hschedule, hreceipts, ?_, ?_⟩
  · intro _ wake hwake
    exact ⟨wake, by rw [hwakes]; exact hwake, rfl, fun hended => hended⟩
  · intro _ wake' hwake'
    rw [hwakes] at hwake'
    exact .inl ⟨wake', hwake', rfl⟩

theorem createSchedule_reaches (hscheduled : Scheduled db)
    (hnone : db.schedule = none) {authorityEpoch : Int}
    {schedule : PeriodicScheduleRow}
    (hok : createSchedule authorityEpoch nowMs db = .ok (schedule, after)) :
    Reaches db after := by
  unfold createSchedule at hok
  rw [hnone] at hok
  obtain ⟨rfl, rfl⟩ := of_pure_pair hok
  have hunscheduled : ∀ {schedule : PeriodicScheduleRow},
      db.schedule ≠ some schedule := by
    intro _ hschedule
    rw [hnone] at hschedule
    cases hschedule
  refine ⟨⟨?_, ?_, ?_, ?_, hscheduled.once⟩,
    ⟨fun _ hschedule => absurd hschedule hunscheduled, prefix_refl _,
      fun _ hended => hended, ?_⟩⟩
  · rintro _ _ ⟨rfl⟩ hpending
    cases hpending
  · rintro _ ⟨rfl⟩ _
    exact ⟨rfl, rfl⟩
  · intro occurrenceId receipt hreceipt
    obtain ⟨_, _, _, hschedule, _⟩ :=
        hscheduled.closed occurrenceId receipt hreceipt
    exact absurd hschedule hunscheduled
  · intro wakeId wake occurrenceId hwake hof
    rcases hscheduled.bound wakeId wake occurrenceId hwake hof with
      hreceipt | ⟨_, hschedule, _⟩
    · exact .inl hreceipt
    · exact absurd hschedule hunscheduled
  · rintro _ _ ⟨_, hschedule, _⟩
    exact absurd hschedule hunscheduled

section OfSchedule

variable {schedule : PeriodicScheduleRow}

/-- A schedule without a pending occurrence is rewritten under the same next
time. -/
theorem Scheduled.reschedule (hscheduled : Scheduled db)
    (hschedule : db.schedule = some schedule)
    (hnone : schedule.pendingOccurrenceId = none)
    {schedule' : PeriodicScheduleRow}
    (hnext : schedule'.nextEligibleAtMs = schedule.nextEligibleAtMs)
    (hpending : ∀ occurrenceId,
      schedule'.pendingOccurrenceId = some occurrenceId →
      ∃ dueAtMs, schedule'.pendingDueAtMs = some dueAtMs ∧
        occurrenceId =
          periodicScheduleOccurrenceId schedule'.authorityEpoch dueAtMs ∧
        schedule'.nextEligibleAtMs ≤ dueAtMs)
    (hidle : schedule'.pendingOccurrenceId = none →
      schedule'.pendingWakeId = none ∧ schedule'.pendingDueAtMs = none) :
    Reaches db { db with schedule := some schedule' } := by
  have hunpending : ∀ {occurrenceId wakeId},
      ¬ PendingAs db occurrenceId wakeId := by
    rintro _ _ ⟨_, hfound, hpending, _⟩
    cases hschedule.symm.trans hfound
    rw [hnone] at hpending
    cases hpending
  refine ⟨⟨?_, ?_, ?_, ?_, hscheduled.once⟩,
    ⟨?_, prefix_refl _, fun _ hended => hended, ?_⟩⟩
  · rintro _ occurrenceId ⟨rfl⟩ hoccurrence
    exact hpending occurrenceId hoccurrence
  · rintro _ ⟨rfl⟩ hoccurrence
    exact hidle hoccurrence
  · intro occurrenceId receipt hreceipt
    obtain ⟨_, epoch, dueAtMs, hfound, hid, hbefore⟩ :=
        hscheduled.closed occurrenceId receipt hreceipt
    cases hschedule.symm.trans hfound
    exact ⟨schedule', epoch, dueAtMs, rfl, hid, hnext ▸ hbefore⟩
  · intro wakeId wake occurrenceId hwake hof
    rcases hscheduled.bound wakeId wake occurrenceId hwake hof with
      hreceipt | hpending
    · exact .inl hreceipt
    · exact absurd hpending hunpending
  · intro _ hfound
    cases hschedule.symm.trans hfound
    exact ⟨schedule', rfl, by simp [hnext]⟩
  · intro _ _ hpending
    exact absurd hpending hunpending

omit [Host] in
/-- The effective time is not before the next one. -/
theorem next_le_effective (schedule : PeriodicScheduleRow) (nowMs : Int) :
    schedule.nextEligibleAtMs ≤ effectiveEligibleAtMs schedule nowMs ∧
      effectiveEligibleAtMs schedule nowMs ≤
        max nowMs schedule.nextEligibleAtMs := by
  unfold effectiveEligibleAtMs periodicDueWindowMs
  split <;> omega

theorem mint_reaches (hscheduled : Scheduled db)
    (hschedule : db.schedule = some schedule)
    (hnone : schedule.pendingOccurrenceId = none)
    {minted : PeriodicScheduleRow}
    (hok : mintPendingOccurrence nowMs db = .ok (minted, after)) :
    Reaches db after ∧ after.schedule = some minted ∧ Timely nowMs after := by
  obtain ⟨_, hfound, hok⟩ := of_orFault hok
  cases hschedule.symm.trans hfound
  rw [hnone] at hok
  replace hok := passed hok
  obtain ⟨rfl, rfl⟩ := of_pure_pair hok
  obtain ⟨hlow, _⟩ := next_le_effective schedule nowMs
  refine ⟨hscheduled.reschedule hschedule hnone rfl ?_ ?_, rfl, ?_⟩
  · intro _ hoccurrence
    exact ⟨_, rfl, (some.inj hoccurrence).symm, hlow⟩
  · intro hoccurrence
    cases hoccurrence
  · rintro _ _ ⟨rfl⟩ hdue
    cases hdue
    change _ < max nowMs schedule.nextEligibleAtMs + periodicCadenceMs
    unfold periodicCadenceMs
    omega

theorem adopt_reaches (hscheduled : Scheduled db)
    (hnone : ∀ schedule, db.schedule = some schedule →
      schedule.pendingOccurrenceId = none) {authorityEpoch : Int}
    {adopted : PeriodicScheduleRow}
    (hok : adoptAuthorityEpoch authorityEpoch nowMs db =
      .ok (adopted, after)) :
    Reaches db after ∧ after.schedule = some adopted ∧
      adopted.pendingOccurrenceId = none := by
  obtain ⟨found, hfound, hok⟩ := of_orFault hok
  obtain ⟨rfl, rfl⟩ := of_pure_pair hok
  have hunpending := hnone found hfound
  refine ⟨hscheduled.reschedule hfound hunpending rfl ?_ ?_, rfl, hunpending⟩
  · intro _ hoccurrence
    rw [hunpending] at hoccurrence
    cases hoccurrence
  · intro _
    exact hscheduled.idle found hfound hunpending

/-- Closing the pending occurrence at a timely reading. -/
theorem close_reaches (hdigests : OccurrenceDigests)
    (hscheduled : Scheduled db) (hschedule : db.schedule = some schedule)
    {input : CloseInput} (htimely : Timely input.eventMs db)
    (hpending : schedule.pendingOccurrenceId = some input.occurrenceId)
    (hbound : ∀ wakeId, schedule.pendingWakeId = some wakeId →
      input.wakeId = some wakeId ∧
      input.disposition ∉ [PeriodicDisposition.expired, .skippedEmpty,
        .authorityEpochAbandoned] ∧
      (Ended db wakeId ∨ input.disposition = .admittedStaleSuppressed)) :
    ∃ receipt after, clearPendingAndAdvance input db = .ok (receipt, after) ∧
      Reaches db after ∧
      after.schedule =
        some (schedule.advanced input.eventMs input.nowMs) := by
  have hfree := hscheduled.open hdigests hschedule hpending
  obtain ⟨receipts, hinsert⟩ := exists_insert?
    (show db.receipts.get? (key (input.receipt schedule)) = none from hfree)
  have hnew : db.receipts.insertNew (input.receipt schedule) = receipts := by
    unfold Table.insertNew
    rw [hinsert, getD_some]
  have hrows := (insert?_eq_some hinsert).2
  have hget := get?_insert hinsert
  have hown : receipts.get? input.occurrenceId =
      some (input.receipt schedule) := by
    rw [hget]
    exact if_pos rfl
  refine ⟨input.receipt schedule,
    { db with
      receipts := db.receipts.insertNew (input.receipt schedule)
      schedule := some (schedule.advanced input.eventMs input.nowMs) },
    ?_, ?_, rfl⟩
  · unfold clearPendingAndAdvance readReceipt
    rw [hfree]
    simp only [hschedule, orFault_some, ok_bind, require_pos hpending]
    rfl
  rw [hnew]
  have hkept : db.receipts.rows <+: receipts.rows := hrows ▸ prefix_append _ _
  refine ⟨⟨?_, ?_, ?_, ?_, hscheduled.once⟩, ⟨?_, hkept,
    fun _ hended => hended, ?_⟩⟩
  · rintro _ _ ⟨rfl⟩ hoccurrence
    cases hoccurrence
  · rintro _ ⟨rfl⟩ _
    exact ⟨rfl, rfl⟩
  · intro occurrenceId receipt hreceipt
    refine ⟨schedule.advanced input.eventMs input.nowMs, ?_⟩
    rw [hget] at hreceipt
    by_cases hid : occurrenceId = key (input.receipt schedule)
    · obtain ⟨dueAtMs, hdue, hdigest, _⟩ :=
        hscheduled.pending schedule _ hschedule hpending
      exact ⟨schedule.authorityEpoch, dueAtMs, rfl, hid.trans hdigest,
        htimely schedule dueAtMs hschedule hdue⟩
    · rw [if_neg hid] at hreceipt
      obtain ⟨_, epoch, dueAtMs, hfound, hdigest, _⟩ :=
          hscheduled.closed occurrenceId receipt hreceipt
      cases hschedule.symm.trans hfound
      refine ⟨epoch, dueAtMs, rfl, hdigest, ?_⟩
      change _ < max input.eventMs schedule.nextEligibleAtMs +
        periodicCadenceMs
      unfold periodicCadenceMs
      omega
  · intro wakeId wake occurrenceId hwake hof
    rcases hscheduled.bound wakeId wake occurrenceId hwake hof with
      ⟨receipt, hreceipt⟩ | ⟨_, hfound, hoccurrence, _⟩
    · exact .inl ⟨receipt, get?_insert_of_some hinsert hreceipt⟩
    · cases hschedule.symm.trans hfound
      cases hpending.symm.trans hoccurrence
      exact .inl ⟨_, hown⟩
  · intro _ hfound
    cases hschedule.symm.trans hfound
    refine ⟨_, rfl, ?_⟩
    change schedule.nextEligibleAtMs + periodicCadenceMs *
        ((receipts.rows.length : Int) - db.receipts.rows.length) ≤
      max input.eventMs schedule.nextEligibleAtMs + periodicCadenceMs
    rw [hrows, length_append, length_singleton]
    omega
  · rintro _ wakeId ⟨_, hfound, hoccurrence, hwake⟩
    cases hschedule.symm.trans hfound
    cases hpending.symm.trans hoccurrence
    obtain ⟨hnames, hdisposition, hended⟩ := hbound wakeId hwake
    exact .inr ⟨_, hown, hnames, hdisposition, hended⟩

/-! The admission of a wake. -/

omit [Host] in
theorem ensureCycle_wakes {input : WakeAdmissionInput} {wake : Wake}
    {sidecar sidecar' : Sidecar}
    (hok : ensureCycleInTransaction sidecar input wake = .ok sidecar') :
    sidecar'.wakes = sidecar.wakes := by
  replace hok := passed hok
  dsimp only at hok
  split at hok
  · replace hok := passed hok
    replace hok := passed hok
    split at hok
    · replace hok := passed hok
      cases of_pure hok
      rfl
    · cases of_pure hok
      rfl
  · replace hok := passed hok
    replace hok := passed hok
    obtain ⟨_, _, hok⟩ := of_orFault hok
    cases of_pure hok
    rfl

/-- Under a trigger that no wake has, the admission writes one new wake. -/
theorem admitWake_fresh {input : WakeAdmissionInput}
    {result : WakeAdmissionResult} {sidecar sidecar' : Sidecar}
    (hfresh : ∀ id wake, sidecar.wakes.get? id = some wake →
      wake.triggerRef ≠ input.triggerRef)
    (hok : admitWakeInTransaction sidecar input = .ok (result, sidecar')) :
    result.kind = .created ∧ result.wake.triggerRef = input.triggerRef ∧
      sidecar.wakes.insert? result.wake = some sidecar'.wakes := by
  replace hok := passed hok
  replace hok := passed hok
  replace hok := passed hok
  replace hok := passed hok
  split at hok
  · rename_i existing hfound
    obtain ⟨⟨href, _⟩, _⟩ := of_require hok
    exact absurd href
      (hfresh _ existing (get?_key (mem_of_find?_eq_some hfound)))
  · replace hok := passed hok
    replace hok := passed hok
    replace hok := passed hok
    obtain ⟨_, hwakes, hok⟩ := of_orFault hok
    obtain ⟨_, hensure, hok⟩ := of_bind hok
    obtain ⟨rfl, rfl⟩ := of_pure_pair hok
    refine ⟨rfl, rfl, ?_⟩
    rw [ensureCycle_wakes hensure]
    exact hwakes

omit [Host] in
theorem ofKernel_ok {α : Type} {outcome : Outcome α} {value : α} :
    ofKernel outcome = .ok value ↔ outcome = .ok value := by
  cases outcome <;> simp [ofKernel]

/-- A pending occurrence without a wake is bound to a new one. -/
theorem freeze_reaches (hdigests : OccurrenceDigests)
    (hscheduled : Scheduled db) (hschedule : db.schedule = some schedule)
    {input : FreezeBindingInput}
    (hpending : schedule.pendingOccurrenceId = some input.occurrenceId)
    (hunbound : schedule.pendingWakeId = none) {dueAtMs : Int}
    (href : input.triggerRef = periodicTriggerRef input.occurrenceId dueAtMs)
    {result : FreezeBindingResult}
    (hok : freezeBinding input db = .ok (result, after)) : Reaches db after := by
  have hunwoken : ∀ {id wake}, db.sidecar.wakes.get? id = some wake →
      ¬ IsWakeOf wake input.occurrenceId := fun hwake =>
    hscheduled.unwoken hdigests hschedule hpending hunbound hwake
  obtain ⟨⟨admission, sidecar⟩, hadmit, hok⟩ := of_bind hok
  obtain ⟨hkind, htrigger, hinsert⟩ := admitWake_fresh
    (fun id wake hwake hsame =>
      hunwoken hwake ⟨dueAtMs, hsame.trans href⟩) (ofKernel_ok.mp hadmit)
  simp only [hkind] at hok
  obtain ⟨found, hfound, hok⟩ := of_orFault hok
  obtain ⟨hfound, _⟩ := filter_eq_some_iff.mp hfound
  cases hschedule.symm.trans hfound
  have hafter : after = { db with
      sidecar
      schedule := some
        { schedule with
          pendingWakeId := some admission.wake.wakeId
          updatedAtMs := input.nowMs } } := by
    split at hok
    · exact (of_pure_pair hok).2.symm
    · replace hok := passed hok
      split at hok
      · exact (of_pure_pair hok).2.symm
      · cases hok
  subst hafter
  have hget := get?_insert hinsert
  have hown : IsWakeOf admission.wake input.occurrenceId :=
    ⟨dueAtMs, htrigger.trans href⟩
  have hunpending : ∀ {occurrenceId wakeId},
      ¬ PendingAs db occurrenceId (some wakeId) := by
    rintro occurrenceId wakeId ⟨found, hfound, _, hwake⟩
    cases hschedule.symm.trans hfound
    rw [hunbound] at hwake
    cases hwake
  refine ⟨⟨?_, ?_, ?_, ?_, ?_⟩, ⟨?_, prefix_refl _, ?_, ?_⟩⟩
  · rintro _ occurrenceId ⟨rfl⟩ hoccurrence
    exact hscheduled.pending schedule occurrenceId hschedule hoccurrence
  · rintro _ ⟨rfl⟩ hnone
    cases hpending.symm.trans hnone
  · intro occurrenceId receipt hreceipt
    obtain ⟨found, epoch, dueAtMs, hfound, hid, hbefore⟩ :=
      hscheduled.closed occurrenceId receipt hreceipt
    cases hschedule.symm.trans hfound
    exact ⟨_, epoch, dueAtMs, rfl, hid, hbefore⟩
  · intro wakeId wake occurrenceId hwake hof
    rw [hget] at hwake
    split at hwake
    · rename_i hid
      cases hwake
      cases hown.unique hof
      exact .inr ⟨_, rfl, hpending, by rw [hid]; rfl⟩
    · rcases hscheduled.bound wakeId wake occurrenceId hwake hof with
        hreceipt | hpending
      · exact .inl hreceipt
      · exact absurd hpending hunpending
  · intro wakeId wakeId' wake wake' occurrenceId hwake hwake' hof hof'
    rw [hget] at hwake hwake'
    split at hwake <;> split at hwake'
    · rename_i hid hid'
      exact hid.trans hid'.symm
    · cases hwake
      cases hown.unique hof
      exact absurd hof' (hunwoken hwake')
    · cases hwake'
      cases hown.unique hof'
      exact absurd hof (hunwoken hwake)
    · exact hscheduled.once wakeId wakeId' wake wake' occurrenceId hwake hwake'
        hof hof'
  · intro found hfound
    cases hschedule.symm.trans hfound
    exact ⟨_, rfl, by simp⟩
  · rintro wakeId ⟨wake, hwake, hended⟩
    exact ⟨wake, get?_insert_of_some hinsert hwake, hended⟩
  · intro occurrenceId wakeId hpending
    exact absurd hpending hunpending

end OfSchedule

end CognitiveSidecar.Periodic
