/-
The composition fence as moves, and what silencing room work leaves behind.
-/
import CognitiveSidecar.InboxMoves

namespace CognitiveSidecar

open Option List Relational

variable [Host] {permit : Permit} {db after : Sidecar}
variable {wakeId cycleId : String} {isZombie effectful : Bool} {wake : Wake}
variable {generation authorityEpoch preemptedGeneration : Option Int}
variable {input : ComposeOrPreemptInput} {occupantId : Option String}
variable {cycle' : Cycle} {result : ComposeOrPreemptResult}
variable {logIds : List String}

/-- The preemption of a cycle finishes its wake: no continuation owns the
cycle, or nothing is in flight and no live Owner event retains the wake. -/
def preemptionFinishes (db : Sidecar) (wakeId : String)
    (isZombie effectful : Bool) : Bool :=
  isZombie || (!effectful && !hasLiveOwnerContinuation db wakeId)

theorem releasePreemptedWake_trace {nowMs : Int}
    (hok : releasePreemptedWake db wakeId isZombie effectful nowMs = .ok after)
    (hclosable : ∀ wake, db.wakes.get? wakeId = some wake →
      wake.isCancellable = true →
      preemptionFinishes db wakeId isZombie effectful = true →
      Closable permit db wakeId) : Trace permit db after := by
  unfold releasePreemptedWake at hok
  cases hwake : db.wakes.get? wakeId with
  | none =>
    simp only [getWake, hwake] at hok
    cases of_pure hok
    exact .refl db
  | some wake =>
    simp only [getWake, hwake] at hok
    by_cases hterminal : wake.state = .terminal
    · rw [if_pos hterminal] at hok
      cases of_pure hok
      exact .refl db
    rw [if_neg hterminal] at hok
    obtain ⟨⟨_, mid⟩, hrecord, hok⟩ := of_bind hok
    obtain ⟨hdraw, hrecorded⟩ :=
      recordWakeCancellationInTransaction_cases hrecord
    obtain ⟨_, hold, hstate, _⟩ := hrecorded.origin
    cases hwake.symm.trans hold
    by_cases heffect : (!isZombie && effectful) = true
    · rw [if_pos heffect] at hok
      exact hdraw.trans (reconcileWakeInTransaction_trace hok)
    rw [if_neg heffect] at hok
    by_cases hheld : wake.state = .reconciling ∨
        wake.state = .consequencePending
    · rw [if_pos hheld] at hok
      cases of_pure hok
      exact hdraw
    rw [if_neg hheld] at hok
    have hcancellable : wake.isCancellable = true := by
      unfold Wake.isCancellable
      cases hcase : wake.state <;> simp_all
    have hlive : hasLiveOwnerContinuation mid wakeId =
        hasLiveOwnerContinuation db wakeId := by
      unfold hasLiveOwnerContinuation
      rw [hrecorded.events]
    rw [hlive] at hok
    by_cases hretain :
        (!isZombie && hasLiveOwnerContinuation db wakeId) = true
    · rw [if_pos hretain] at hok
      cases of_pure hok
      refine hdraw.step (.updateWake ?_)
      intro _ hrow hguard
      cases hrecorded.stored.symm.trans hrow
      refine .stayOpen rfl rfl rfl (of_decide_eq_true hguard)
        (by simp) (.inl rfl) ?_ (.inl rfl)
        (fun _ => by simp [Wake.LeaseNamed])
      intro hrec
      exact absurd (.inl (hstate.symm.trans hrec)) hheld
    · rw [if_neg hretain] at hok
      refine hdraw.trans (finishWakeInTransaction_trace hok ?_)
      intro _ _ _
      refine (hclosable wake hwake hcancellable ?_).congr hrecorded.events
      unfold preemptionFinishes
      cases isZombie <;> cases effectful <;> simp_all

/-- The fence writes wakes, cycles and the outbox, and nothing else. -/
def FenceFrame (db after : Sidecar) : Prop :=
  after = { db with
    wakes := after.wakes, cycles := after.cycles, outbox := after.outbox
    uuidsDrawn := after.uuidsDrawn }

omit [Host] in
theorem FenceFrame.trans {mid : Sidecar} (hfirst : FenceFrame db mid)
    (hsecond : FenceFrame mid after) : FenceFrame db after := by
  unfold FenceFrame at hfirst hsecond ⊢
  rw [hsecond, hfirst]

omit [Host] in
theorem finishWakeInTransaction_frame {leaseToken : Option String}
    {reason : WakeTerminalReason} {nowMs : Int}
    (hok : finishWakeInTransaction db wakeId leaseToken reason nowMs =
      .ok after) : FenceFrame db after := by
  obtain ⟨_, _, hok⟩ := of_bind hok
  split at hok
  · replace hok := passed hok
    cases of_pure hok
    rfl
  · replace hok := passed hok
    replace hok := passed hok
    replace hok := passed hok
    replace hok := passed hok
    cases of_pure hok
    rfl

omit [Host] in
theorem reconcileWakeInTransaction_frame {nowMs : Int}
    (hok : reconcileWakeInTransaction db wakeId nowMs = .ok after) :
    FenceFrame db after := by
  obtain ⟨_, _, hok⟩ := of_bind hok
  split at hok
  · cases of_pure hok
    rfl
  · cases of_pure hok
    rfl

theorem recordWakeCancellationInTransaction_frame
    {cancellationId : Option String} {nowMs : Int}
    (hok : recordWakeCancellationInTransaction db wakeId cancellationId nowMs =
      .ok (wake, after)) : FenceFrame db after := by
  obtain ⟨_, hrecorded⟩ :
      Trace .lenient db after ∧
        CancellationRecorded db after wakeId wake :=
    recordWakeCancellationInTransaction_cases hok
  unfold FenceFrame
  rw [hrecorded.frame]

theorem releasePreemptedWake_frame {nowMs : Int}
    (hok : releasePreemptedWake db wakeId isZombie effectful nowMs = .ok after) :
    FenceFrame db after := by
  unfold releasePreemptedWake at hok
  split at hok
  · cases of_pure hok
    rfl
  split at hok
  · cases of_pure hok
    rfl
  obtain ⟨⟨_, _⟩, hrecord, hok⟩ := of_bind hok
  have hframe := recordWakeCancellationInTransaction_frame hrecord
  simp only at hok
  split at hok
  · exact hframe.trans (reconcileWakeInTransaction_frame hok)
  split at hok
  · cases of_pure hok
    exact hframe
  split at hok
  · cases of_pure hok
    exact hframe.trans rfl
  · exact hframe.trans (finishWakeInTransaction_frame hok)

theorem suppressUndeliveredOutbox_moved {conversationId reason : String}
    {generation : Int} : Moved permit db
      (suppressUndeliveredOutbox db conversationId generation reason) := by
  refine .aside (Nat.le_refl _) rfl rfl rfl rfl (.inr ?_)
  refine Table.rewrites_update (by intro _; rfl) ?_ OutboxChange.refl
  intro _ _ _ _
  exact ⟨rfl, rfl, rfl, rfl, rfl, fun _ => rfl⟩

theorem admitGeneration_cases {cycle : Cycle} (hlinked : Linked db)
    (hadmits : ∀ wake : Wake, wake.triggerRef = input.ref →
      wake.cycleId ≠ "" → permit.admits wake)
    (hok : admitGeneration db input generation occupantId authorityEpoch
      preemptedGeneration = .ok (cycle, after)) :
    Trace permit db after ∧ after.events = db.events ∧
      after.cycles.get? cycle.cycleId = some cycle := by
  obtain ⟨⟨_, mid⟩, hadmit, hok⟩ := of_bind hok
  have htrace : Trace permit db mid :=
    admitWakeInTransaction_trace hlinked
      (fun wake href hnamed => hadmits wake href (hnamed rfl)) hadmit
  replace hok := passed hok
  obtain ⟨hsame, hcycle, _⟩ :=
    admitCycleInTransaction_cases (hlinked.trace htrace) hok
  rw [hsame]
  refine ⟨htrace, ?_, hcycle⟩
  obtain ⟨_, _, ⟨_, _, hmid⟩ | ⟨_, _, _, _, _, _, _, _, _, hmid⟩⟩ :=
      admitWakeInTransaction_cases hlinked hadmit
  · rw [hmid]
  · rw [hmid]

theorem appendEvidenceRefs_trace {cycle : Cycle} {refs : List String}
    {nowMs : Int}
    (hok : appendEvidenceRefs db cycle refs nowMs = .ok (cycle', after)) :
    Trace permit db after := by
  unfold appendEvidenceRefs at hok
  by_cases hrefs : refs = []
  · rw [if_pos hrefs] at hok
    cases of_pure hok
    exact .refl db
  · rw [if_neg hrefs] at hok
    obtain ⟨⟨_, _⟩, happend, hok⟩ := of_bind hok
    cases of_pure hok
    exact (appendCycleLogIds_cases happend).1

/-- The incoming message preempts its current cycle, and the preemption
finishes that cycle's wake. -/
def preemptsByFinishing (db : Sidecar) (input : ComposeOrPreemptInput)
    (current : Cycle) (wakeId : String) : Bool :=
  let isZombie := !hasValidDurableContinuationOwner db current
  let effectful := !isZombie &&
    hasEffectfulInFlight db current.cycleId current.generation
  preemptionFinishes db wakeId isZombie effectful &&
    (isZombie ||
      hasPublishedOutbox db input.conversationId current.generation ||
      (input.triggerKind = .ownerMessage &&
        isUnsolicitedTriggerKind current.triggerKind))

omit [Host] in
theorem isComposableWake_of_cancellable
    (hcancellable : wake.isCancellable = true) :
    isComposableWake wake = true := by
  unfold Wake.isCancellable at hcancellable
  unfold isComposableWake
  cases hcase : wake.state <;> simp_all

/-- The message joins its current cycle. -/
def composesInto (db : Sidecar) (input : ComposeOrPreemptInput)
    (current : Cycle) : Bool :=
  let isZombie := !hasValidDurableContinuationOwner db current
  !isZombie &&
    ((current.wakeId.bind (getWake db)).any isComposableWake &&
      !(input.triggerKind = .ownerMessage &&
        isUnsolicitedTriggerKind current.triggerKind)) &&
    !(!isZombie && hasEffectfulInFlight db current.cycleId current.generation) &&
    !(!isZombie && hasPublishedOutbox db input.conversationId current.generation)

omit [Host] in
theorem silenced_key (input : ComposeOrPreemptInput) (row : Cycle) :
    key { row with state := .silent, updatedAtMs := input.nowMs } = key row :=
  rfl

/-- The preempted cycle falls silent and releases its wake. -/
def releaseCurrent (db : Sidecar) (input : ComposeOrPreemptInput)
    (current : Cycle) : Outcome Sidecar :=
  let isZombie := !hasValidDurableContinuationOwner db current
  let effectful := !isZombie &&
    hasEffectfulInFlight db current.cycleId current.generation
  let db := suppressUndeliveredOutbox db input.conversationId current.generation
    (if isZombie then "preempted_zombie_cycle"
      else "preempted_by_new_generation")
  let db := db.updateCycle current.cycleId
    (fun row => { row with state := .silent, updatedAtMs := input.nowMs })
    (silenced_key input)
  match current.wakeId with
  | some wakeId => releasePreemptedWake db wakeId isZombie effectful input.nowMs
  | none => pure db

/-- The three ways of the fence: a first cycle, composition, preemption. -/
theorem composeOrPreemptInTransaction_inv
    (hok : composeOrPreemptInTransaction db input = .ok (result, after)) :
    (getCurrentCycle db input.conversationId = none ∧ ∃ cycle cycle' mid,
      admitGeneration db input none input.occupantId input.authorityEpoch none =
        .ok (cycle, mid) ∧
      appendEvidenceRefs mid cycle input.evidenceRowIds input.nowMs =
        .ok (cycle', after) ∧
      result.cycle = finalCycle after input cycle' ∧
      result.action = .compose) ∨
    (∃ current mid, getCurrentCycle db input.conversationId = some current ∧
      composesInto db input current = true ∧
      appendCycleLogIds db current.cycleId input.evidenceRowIds input.nowMs =
        .ok (result.cycle, mid) ∧ result.action = .compose ∧
      (after = mid ∨ ∃ wakeId wake, recordWakeCancellationInTransaction mid
        wakeId none input.nowMs = .ok (wake, after))) ∨
    (∃ current released cycle cycle' mid,
      getCurrentCycle db input.conversationId = some current ∧
      composesInto db input current = false ∧
      releaseCurrent db input current = .ok released ∧
      admitGeneration released input
        (some (nextConversationGeneration released input.conversationId))
        (input.occupantId.or (some (current.occupantId.getD "")))
        (input.authorityEpoch.or (some current.authorityEpoch))
        (some current.generation) = .ok (cycle, mid) ∧
      appendEvidenceRefs mid cycle
        (current.composeLogIds ++ input.evidenceRowIds).eraseDups input.nowMs =
        .ok (cycle', after) ∧
      result.cycle = finalCycle after input cycle' ∧
      result.action = .preempt) := by
  unfold composeOrPreemptInTransaction at hok
  cases hcurrent : getCurrentCycle db input.conversationId with
  | none =>
    simp only [hcurrent] at hok
    obtain ⟨⟨cycle, mid⟩, hadmit, hok⟩ := of_bind hok
    obtain ⟨⟨cycle', _⟩, happend, hok⟩ := of_bind hok
    cases of_pure hok
    exact .inl ⟨rfl, cycle, cycle', mid, hadmit, happend, rfl, rfl⟩
  | some current =>
    simp only [hcurrent] at hok
    right
    split at hok
    · rename_i hcomposes
      obtain ⟨⟨_, mid⟩, happend, hok⟩ := of_bind hok
      refine .inl ⟨current, mid, rfl, hcomposes, ?_⟩
      simp only at hok
      split at hok
      · obtain ⟨⟨wake, _⟩, hrecord, hok⟩ := of_bind hok
        cases of_pure hok
        exact ⟨happend, rfl, .inr ⟨_, wake, hrecord⟩⟩
      · cases of_pure hok
        exact ⟨happend, rfl, .inl rfl⟩
    · rename_i hpreempts
      refine .inr ⟨current, ?_⟩
      have hnot : composesInto db input current = false :=
        Bool.eq_false_iff.mpr hpreempts
      cases howner : current.wakeId with
      | none =>
        simp only [howner] at hok
        obtain ⟨silent, hsame, hok⟩ := of_bind hok
        obtain ⟨⟨cycle, mid⟩, hadmit, hok⟩ := of_bind hok
        obtain ⟨⟨cycle', _⟩, happend, hok⟩ := of_bind hok
        cases of_pure hok
        refine ⟨silent, cycle, cycle', mid, rfl, hnot, ?_, hadmit, happend,
          rfl, rfl⟩
        simp only [releaseCurrent, howner]
        exact hsame
      | some =>
        simp only [howner] at hok
        obtain ⟨released, hrelease, hok⟩ := of_bind hok
        obtain ⟨⟨cycle, mid⟩, hadmit, hok⟩ := of_bind hok
        obtain ⟨⟨cycle', _⟩, happend, hok⟩ := of_bind hok
        cases of_pure hok
        refine ⟨released, cycle, cycle', mid, rfl, hnot, ?_, hadmit,
          happend, rfl, rfl⟩
        simp only [releaseCurrent, howner]
        exact hrelease

theorem releaseCurrent_trace {current : Cycle}
    (hok : releaseCurrent db input current = .ok after)
    (hpreempts : composesInto db input current = false)
    (hclosable : ∀ wakeId wake, current.wakeId = some wakeId →
      db.wakes.get? wakeId = some wake → wake.isCancellable = true →
      preemptsByFinishing db input current wakeId = true →
      Closable permit db wakeId) : Trace permit db after := by
  unfold releaseCurrent at hok
  have hsilent : Trace permit db
      ((suppressUndeliveredOutbox db input.conversationId current.generation
        (if !hasValidDurableContinuationOwner db current
          then "preempted_zombie_cycle"
          else "preempted_by_new_generation")).updateCycle
        current.cycleId fun row =>
          { row with state := .silent, updatedAtMs := input.nowMs }) := by
    refine suppressUndeliveredOutbox_moved.trace.step (.updateCycle ?_)
    intro _ _
    exact ⟨rfl, rfl, rfl, rfl, List.Subset.refl _, id⟩
  cases howner : current.wakeId with
  | none =>
    simp only [howner] at hok
    cases of_pure hok
    exact hsilent
  | some wakeId =>
    simp only [howner] at hok
    refine hsilent.trans (releasePreemptedWake_trace hok ?_)
    intro wake hwake hcancellable hfinishes
    refine (hclosable wakeId wake howner hwake hcancellable ?_).congr rfl
    have hcomposable : (current.wakeId.bind (getWake db)).any
        isComposableWake = true := by
      have hstored : db.wakes.get? wakeId = some wake := hwake
      simp [howner, getWake, hstored,
        isComposableWake_of_cancellable hcancellable]
    unfold composesInto at hpreempts
    simp only [hcomposable, Bool.true_and] at hpreempts
    unfold preemptsByFinishing
    rw [Bool.and_eq_true]
    refine ⟨hfinishes, ?_⟩
    revert hpreempts hfinishes
    unfold preemptionFinishes
    cases hasValidDurableContinuationOwner db current <;>
      cases hasEffectfulInFlight db current.cycleId current.generation <;>
      cases hasPublishedOutbox db input.conversationId
        current.generation <;> simp

theorem composeOrPreemptInTransaction_trace (hlinked : Linked db)
    (hadmits : ∀ wake : Wake, wake.triggerRef = input.ref →
      wake.cycleId ≠ "" → permit.admits wake)
    (hok : composeOrPreemptInTransaction db input = .ok (result, after))
    (hclosable : ∀ current wakeId wake,
      getCurrentCycle db input.conversationId = some current →
      current.wakeId = some wakeId → db.wakes.get? wakeId = some wake →
      wake.isCancellable = true →
      preemptsByFinishing db input current wakeId = true →
      Closable permit db wakeId) : Trace permit db after := by
  rcases composeOrPreemptInTransaction_inv hok with
    ⟨_, cycle, cycle', mid, hadmit, happend, _⟩ |
    ⟨current, mid, _, _, happend, _, hrecord⟩ |
    ⟨current, released, cycle, cycle', mid, hcurrent, hpreempts, hrelease,
      hadmit, happend, _⟩
  · exact (admitGeneration_cases hlinked hadmits hadmit).1.trans
      (appendEvidenceRefs_trace happend)
  · have htrace : Trace permit db mid := (appendCycleLogIds_cases happend).1
    rcases hrecord with rfl | ⟨_, _, hrecord⟩
    · exact htrace
    · exact htrace.trans (recordWakeCancellationInTransaction_cases hrecord).1
  · have hreleased : Trace permit db released :=
      releaseCurrent_trace hrelease hpreempts fun wakeId wake =>
        hclosable current wakeId wake hcurrent
    exact (hreleased.trans (admitGeneration_cases (hlinked.trace hreleased)
      hadmits hadmit).1).trans (appendEvidenceRefs_trace happend)

omit [Host] in
theorem appendCycleLogIds_frame {nowMs : Int} {cycle : Cycle}
    (hok : appendCycleLogIds db cycleId logIds nowMs = .ok (cycle, after)) :
    FenceFrame db after := by
  obtain ⟨_, _, hok⟩ := of_orFault hok
  obtain ⟨_, _, hok⟩ := of_orFault hok
  cases of_pure hok
  rfl

omit [Host] in
theorem appendEvidenceRefs_frame {cycle : Cycle} {refs : List String}
    {nowMs : Int}
    (hok : appendEvidenceRefs db cycle refs nowMs = .ok (cycle', after)) :
    FenceFrame db after := by
  unfold appendEvidenceRefs at hok
  split at hok
  · cases of_pure hok
    rfl
  · obtain ⟨⟨_, _⟩, happend, hok⟩ := of_bind hok
    cases of_pure hok
    exact appendCycleLogIds_frame happend

theorem admitGeneration_frame {cycle : Cycle} (hlinked : Linked db)
    (hok : admitGeneration db input generation occupantId authorityEpoch
      preemptedGeneration = .ok (cycle, after)) : FenceFrame db after := by
  obtain ⟨⟨_, mid⟩, hadmit, hok⟩ := of_bind hok
  replace hok := passed hok
  have htrace : Trace .lenient db mid :=
    admitWakeInTransaction_trace hlinked (fun _ _ _ => trivial) hadmit
  obtain ⟨hsame, _⟩ :=
    admitCycleInTransaction_cases (hlinked.trace htrace) hok
  rw [hsame]
  obtain ⟨_, _, ⟨_, _, hmid⟩ | ⟨_, _, _, _, _, _, _, _, _, hmid⟩⟩ :=
      admitWakeInTransaction_cases hlinked hadmit
  · rw [hmid]
    rfl
  · rw [hmid]
    rfl

theorem releaseCurrent_frame {current : Cycle}
    (hok : releaseCurrent db input current = .ok after) :
    FenceFrame db after := by
  unfold releaseCurrent at hok
  split at hok
  · have hsilent := releasePreemptedWake_frame hok
    exact FenceFrame.trans (by rfl) hsilent
  · cases of_pure hok
    rfl

/-- Promising nothing, the release of a cycle is a trace that admits no wake. -/
theorem releaseCurrent_keeps {current : Cycle}
    (hok : releaseCurrent db input current = .ok after)
    (hpreempts : composesInto db input current = false) :
    Trace (.admitting fun _ => False) db after :=
  releaseCurrent_trace hok hpreempts fun _ _ _ _ _ _ =>
    ⟨False.elim, False.elim⟩

theorem composeOrPreemptInTransaction_frame (hlinked : Linked db)
    (hok : composeOrPreemptInTransaction db input = .ok (result, after)) :
    FenceFrame db after := by
  rcases composeOrPreemptInTransaction_inv hok with
    ⟨_, cycle, cycle', mid, hadmit, happend, _⟩ |
    ⟨current, mid, _, _, happend, _, hrecord⟩ |
    ⟨current, released, cycle, cycle', mid, _, hpreempts, hrelease, hadmit,
      happend, _⟩
  · exact (admitGeneration_frame hlinked hadmit).trans
      (appendEvidenceRefs_frame happend)
  · have hframe := appendCycleLogIds_frame happend
    rcases hrecord with rfl | ⟨_, _, hrecord⟩
    · exact hframe
    · exact hframe.trans (recordWakeCancellationInTransaction_frame hrecord)
  · have hlinked' : Linked released :=
      hlinked.trace (releaseCurrent_keeps hrelease hpreempts)
    exact ((releaseCurrent_frame hrelease).trans
      (admitGeneration_frame hlinked' hadmit)).trans
      (appendEvidenceRefs_frame happend)

instance : Std.Total Cycle.newerThan :=
  ⟨fun left right => by unfold Cycle.newerThan; omega⟩

instance : IsTrans Cycle Cycle.newerThan :=
  ⟨fun _ _ _ hab hbc => by unfold Cycle.newerThan at *; omega⟩

/-- The cycle of the highest generation in its conversation. -/
structure IsNewest (db : Sidecar) (conversationId : String) (cycle : Cycle) :
    Prop where
  stored : db.cycles.get? cycle.cycleId = some cycle
  conversation : cycle.conversationId = conversationId
  occupying : cycle.isOccupying = true
  owned : cycle.wakeId.any (· ≠ "") = true
  newest : ∀ id row, db.cycles.get? id = some row →
    row.conversationId = conversationId → id ≠ cycle.cycleId →
    row.generation < cycle.generation

omit [Host] in
theorem getCurrentCycle_stored {conversationId : String} {cycle : Cycle}
    (hcurrent : getCurrentCycle db conversationId = some cycle) :
    db.cycles.get? cycle.cycleId = some cycle ∧
      cycle.wakeId.any (· ≠ "") = true := by
  unfold getCurrentCycle at hcurrent
  rw [filter_eq_some_iff] at hcurrent
  have hmem := mem_of_mem_head? hcurrent.1
  rw [mem_insertionSort, mem_filter] at hmem
  exact ⟨get?_key hmem.1, hcurrent.2⟩

omit [Host] in
theorem IsNewest.current {conversationId : String} {cycle : Cycle}
    (hnewest : IsNewest db conversationId cycle) :
    getCurrentCycle db conversationId = some cycle := by
  change (firstBy Cycle.newerThan (db.cycles.rows.filter fun row =>
    row.conversationId = conversationId && row.isOccupying)).filter
      (·.wakeId.any (· ≠ "")) = some cycle
  have hmem : cycle ∈ db.cycles.rows.filter fun row =>
      row.conversationId = conversationId && row.isOccupying := by
    simp [mem_of_get? hnewest.stored, hnewest.conversation,
      hnewest.occupying]
  rw [firstBy_of_strict hmem, filter_some, if_pos hnewest.owned]
  intro row hrow hne hle
  rw [mem_filter, Bool.and_eq_true, decide_eq_true_eq] at hrow
  have hstored := get?_key hrow.1
  have hlt := hnewest.newest _ row hstored hrow.2.1 fun hid => by
    change row.cycleId = cycle.cycleId at hid
    change db.cycles.get? row.cycleId = some row at hstored
    rw [hid, hnewest.stored] at hstored
    exact hne (some.inj hstored).symm
  unfold Cycle.newerThan at hle
  omega

omit [Host] in
theorem generation_lt_next {conversationId id : String} {row : Cycle}
    (hrow : db.cycles.get? id = some row)
    (hconv : row.conversationId = conversationId) :
    row.generation < nextConversationGeneration db conversationId := by
  unfold nextConversationGeneration
  have hmem : row.generation ∈ (db.cycles.rows.filter
      (·.conversationId = conversationId)).map Cycle.generation :=
    List.mem_map_of_mem (mem_filter.mpr
      ⟨mem_of_get? hrow, decide_eq_true hconv⟩)
  cases hmax : ((db.cycles.rows.filter
      (·.conversationId = conversationId)).map Cycle.generation).max? with
  | none =>
    rw [List.max?_eq_none_iff] at hmax
    rw [hmax] at hmem
    cases hmem
  | some =>
    have hle := (List.max?_le_iff hmax).mp (Int.le_refl _) _ hmem
    simp only [getD_some]
    omega

/-- An occurrence that has a wake answers with the cycle of that wake; a new
one is admitted with the newest cycle of its conversation. -/
theorem admitGeneration_split {cycle : Cycle} (hlinked : Linked db)
    (hgeneration : generation.getD
      (nextConversationGeneration db input.conversationId) =
        nextConversationGeneration db input.conversationId)
    (hok : admitGeneration db input generation occupantId authorityEpoch
      preemptedGeneration = .ok (cycle, after)) :
    (∃ wake, wakeOfOccurrence db (occurrenceIdFor .inbox input.ref
          input.conversationId) = some wake ∧
        wake.triggerRef = input.ref ∧ after = db ∧
        db.cycles.get? cycle.cycleId = some cycle ∧
        cycle.conversationId = input.conversationId) ∨
    (wakeOfOccurrence db (occurrenceIdFor .inbox input.ref
        input.conversationId) = none ∧
      IsNewest after input.conversationId cycle ∧
      cycle.composeLogIds = [] ∧
      cycle.generation =
        nextConversationGeneration db input.conversationId) := by
  obtain ⟨⟨admission, mid⟩, hadmit, hok⟩ := of_bind hok
  replace hok := passed hok
  have htrace : Trace .lenient db mid :=
    admitWakeInTransaction_trace hlinked (fun _ _ _ => trivial) hadmit
  have hmid := hlinked.trace htrace
  obtain ⟨hsame, hcycle, howner, _, wake, hwake, _, hconv⟩ :=
    admitCycleInTransaction_cases hmid hok
  have hof : wake.cycleId = cycle.cycleId ∧
      cycle.conversationId = wake.conversationId := by
    obtain ⟨_, _, howner', hfound, hid⟩ := hmid.cycleWake _ _ hcycle
    cases howner.symm.trans howner'
    cases hwake.symm.trans hfound
    obtain ⟨_, _, hstored, _, hsameConv⟩ := hmid.wakeCycle _ _ hwake
    rw [hid, hcycle] at hstored
    cases hstored
    exact ⟨hid, hsameConv⟩
  cases hwake.symm.trans (admitWakeInTransaction_stored hlinked hadmit)
  rw [hsame]
  obtain ⟨_, href, ⟨hfound, _, hstate⟩ | ⟨hnone, _, _, _, hadmitted, _, cycles,
    _, hcycles, hstate⟩⟩ := admitWakeInTransaction_cases hlinked hadmit
  · rw [hstate] at hcycle ⊢
    exact .inl ⟨_, hfound, href, rfl, hcycle, hof.2.trans hconv⟩
  -- The wake has one cycle, and that is the one just admitted.
  have hcycles' : mid.cycles = cycles := by rw [hstate]
  have hnew : cycle = (input.wakeAdmission generation occupantId authorityEpoch
      preemptedGeneration).newCycle db admission.wake := by
    have hkey : admission.wake.cycleId = key ((input.wakeAdmission generation
        occupantId authorityEpoch preemptedGeneration).newCycle db
          admission.wake) := hadmitted.cycleId.symm
    rw [← hof.1, hcycles', get?_insert hcycles, if_pos hkey] at hcycle
    exact (some.inj hcycle).symm
  refine .inr ⟨hnone, ⟨hcycle, ?_, ?_, ?_, ?_⟩, ?_, ?_⟩
  · rw [hnew]
    rfl
  · rw [hnew]
    rfl
  · rw [hnew]
    simp [WakeAdmissionInput.newCycle, admittedCycle, hadmitted.named]
  · intro id row hrow hconv hne
    rw [hcycles', get?_insert hcycles] at hrow
    have hother : id ≠ key cycle := hne
    rw [← hnew, if_neg hother] at hrow
    rw [hnew]
    change row.generation < generation.getD
      (nextConversationGeneration db input.conversationId)
    rw [hgeneration]
    exact generation_lt_next hrow hconv
  · rw [hnew]
    rfl
  · rw [hnew]
    exact hgeneration

/-- A reference that no wake carries yet is admitted with the newest cycle. -/
theorem admitGeneration_newest {cycle : Cycle} (hlinked : Linked db)
    (hfresh : ∀ id wake, db.wakes.get? id = some wake →
      wake.triggerRef ≠ input.ref)
    (hgeneration : generation.getD
      (nextConversationGeneration db input.conversationId) =
        nextConversationGeneration db input.conversationId)
    (hok : admitGeneration db input generation occupantId authorityEpoch
      preemptedGeneration = .ok (cycle, after)) :
    IsNewest after input.conversationId cycle := by
  obtain ⟨_, hfound, href, _⟩ | ⟨_, hnewest, _⟩ :=
      admitGeneration_split hlinked hgeneration hok
  · exact absurd href (hfresh _ _ (wakeOfOccurrence_stored hfound))
  · exact hnewest

omit [Host] in
/-- The newest cycle stays the newest while evidence joins it. -/
theorem appendCycleLogIds_newest {conversationId : String} {cycle : Cycle}
    {nowMs : Int} (hnewest : IsNewest db conversationId cycle)
    (hok : appendCycleLogIds db cycle.cycleId logIds nowMs =
      .ok (cycle', after)) :
    IsNewest after conversationId cycle' ∧ cycle'.cycleId = cycle.cycleId ∧
      ∀ ref ∈ logIds, ref ≠ "" → ref ∈ cycle'.composeLogIds := by
  obtain ⟨_, hold, hok⟩ := of_orFault hok
  obtain ⟨_, hnew, hok⟩ := of_orFault hok
  cases of_pure hok
  rw [getCycle_eq_some_iff] at hold hnew
  cases hnewest.stored.symm.trans hold.1
  have hget := hnew.1
  simp only [Sidecar.updateCycle, get?_update, hold.1, map_some,
    decide_true, if_true, some.injEq] at hget
  subst hget
  refine ⟨⟨hnew.1, hnewest.conversation, hnewest.occupying, hnewest.owned, ?_⟩,
    rfl, ?_⟩
  · intro id _ hrow hconv hne
    simp only [Sidecar.updateCycle, get?_update, map_eq_some_iff]
      at hrow
    obtain ⟨before, hbefore, hrow⟩ := hrow
    have hid : before.cycleId = id := key_of_get? hbefore
    rw [if_neg (by rw [hid]; simpa using hne)] at hrow
    subst hrow
    exact hnewest.newest id before hbefore hconv hne
  · intro _ hmem hne
    rw [mem_eraseDups]
    exact mem_append_right _ (mem_filter.mpr ⟨hmem, by simpa using hne⟩)

/-- The cycle that the fence answers with, and the evidence it carries. -/
structure Carries (db : Sidecar) (cycle : Cycle) (refs : List String) :
    Prop where
  stored : ∃ row, db.cycles.get? cycle.cycleId = some row ∧
    row.wakeId = cycle.wakeId ∧
    ∀ ref ∈ refs, ref ≠ "" → ref ∈ row.composeLogIds
  owned : cycle.wakeId.any (· ≠ "") = true

omit [Host] in
theorem appendEvidenceRefs_carries {cycle : Cycle} {refs : List String}
    (hnewest : IsNewest db input.conversationId cycle)
    (hsome : input.evidenceRowIds ≠ []) (hsub : input.evidenceRowIds ⊆ refs)
    (hok : appendEvidenceRefs db cycle refs input.nowMs =
      .ok (cycle', after)) :
    Carries after (finalCycle after input cycle') input.evidenceRowIds := by
  have hrefs : refs ≠ [] := by
    rintro rfl
    exact hsome (subset_nil.mp hsub)
  unfold appendEvidenceRefs at hok
  rw [if_neg hrefs] at hok
  obtain ⟨⟨stored, mid⟩, happend, hok⟩ := of_bind hok
  obtain ⟨hstill, _, hjoined⟩ := appendCycleLogIds_newest hnewest happend
  obtain ⟨rfl, rfl⟩ := of_pure_pair hok
  have hfinal : finalCycle mid input cycle = stored := by
    rw [finalCycle, if_neg hsome, hstill.current, getD_some]
  rw [hfinal]
  exact ⟨⟨stored, hstill.stored, rfl, fun ref hmem => hjoined ref (hsub hmem)⟩,
    hstill.owned⟩

/-- The evidence of the message is carried by the cycle answered with. -/
theorem composeOrPreemptInTransaction_carries (hlinked : Linked db)
    (hfresh : ∀ id wake, db.wakes.get? id = some wake →
      wake.triggerRef ≠ input.ref) (hsome : input.evidenceRowIds ≠ [])
    (hok : composeOrPreemptInTransaction db input = .ok (result, after)) :
    Carries after result.cycle input.evidenceRowIds := by
  rcases composeOrPreemptInTransaction_inv hok with
    ⟨_, cycle, cycle', mid, hadmit, happend, hresult, _⟩ |
    ⟨current, mid, hcurrent, _, happend, _, hrecord⟩ |
    ⟨current, released, cycle, cycle', mid, _, hpreempts, hrelease, hadmit,
      happend, hresult, _⟩
  · rw [hresult]
    exact appendEvidenceRefs_carries
      (admitGeneration_newest hlinked hfresh rfl hadmit) hsome
      (List.Subset.refl _) happend
  · have hcycles : after.cycles = mid.cycles := by
      rcases hrecord with rfl | ⟨wakeId, wake, hrecord⟩
      · rfl
      · obtain ⟨_, hrecorded⟩ : Trace .lenient mid after ∧
            CancellationRecorded mid after wakeId wake :=
          recordWakeCancellationInTransaction_cases hrecord
        rw [hrecorded.frame]
    obtain ⟨_, _, _, hstored, _, hold, hchange, hjoined⟩ :
        Trace .lenient db mid ∧ _ := appendCycleLogIds_cases happend
    obtain ⟨hcurrentStored, howned⟩ := getCurrentCycle_stored hcurrent
    cases hold.symm.trans hcurrentStored
    have hid : result.cycle.cycleId = current.cycleId := key_of_get? hstored
    refine ⟨⟨result.cycle, ?_, rfl, ?_⟩, ?_⟩
    · rw [hcycles, hid]
      exact hstored
    · intro _ hmem hne
      rw [hjoined, mem_eraseDups]
      exact mem_append_right _
        (mem_filter.mpr ⟨hmem, by simpa using hne⟩)
    · rw [hchange.wakeId]
      exact howned
  · have hkeeps := releaseCurrent_keeps hrelease hpreempts
    have hfresh' : ∀ id wake, released.wakes.get? id = some wake →
        wake.triggerRef ≠ input.ref := by
      intro id _ hwake
      obtain ⟨old, hold | hnever, href, _⟩ := hkeeps.wake_backward hwake
      · rw [href]
        exact hfresh id old hold
      · exact hnever.elim
    rw [hresult]
    refine appendEvidenceRefs_carries (admitGeneration_newest
      (hlinked.trace hkeeps) hfresh' rfl hadmit) hsome ?_ happend
    intro _ hmem
    rw [mem_eraseDups]
    exact mem_append_right _ hmem

/-- Silence the cycle of external work for an Owner turn. -/
@[reducible]
def Cycle.silencedAt (row : Cycle) (nowMs : Int) : Cycle :=
  { row with
    state := .silent, disposition := some "owner_preempted"
    updatedAtMs := nowMs }

/-- Silencing external work keeps every event and every wake state. -/
structure Silences (db after : Sidecar) (ids : List String) (nowMs : Int) :
    Prop where
  frame : after = { db with
    wakes := after.wakes, cycles := after.cycles
    uuidsDrawn := after.uuidsDrawn }
  cycles : after.cycles.rows = db.cycles.rows.map fun row =>
    if row.cycleId ∈ ids then row.silencedAt nowMs else row
  states : ∀ id, (after.wakes.get? id).map Wake.state =
    (db.wakes.get? id).map Wake.state

theorem preemptExternalAttemptInTransaction_cases {nowMs : Int}
    (hok : preemptExternalAttemptInTransaction db nowMs cycleId = .ok after) :
    Trace permit db after ∧ Silences db after [cycleId] nowMs := by
  obtain ⟨cycle, _, hok⟩ := of_orFault hok
  replace hok := passed hok
  have hsilence : ∀ mid : Sidecar, Trace permit db mid →
      mid = { db with wakes := mid.wakes, uuidsDrawn := mid.uuidsDrawn } →
      (∀ id, (mid.wakes.get? id).map Wake.state =
        (db.wakes.get? id).map Wake.state) →
      Trace permit db (mid.updateCycle cycleId (·.silencedAt nowMs)) ∧
        Silences db (mid.updateCycle cycleId (·.silencedAt nowMs)) [cycleId]
          nowMs := by
    intro _ htrace hframe hstates
    refine ⟨htrace.step (.updateCycle fun _ _ =>
      ⟨rfl, rfl, rfl, rfl, List.Subset.refl _, id⟩), ?_, ?_, hstates⟩
    · rw [hframe]
      rfl
    · rw [hframe]
      simp [Sidecar.updateCycle, Table.update]
  cases howner : cycle.wakeId with
  | none =>
    simp only [howner] at hok
    obtain ⟨_, hsame, hok⟩ := of_bind hok
    cases of_pure hsame
    replace hok := passed hok
    cases of_pure hok
    exact hsilence db (.refl db) rfl fun _ => rfl
  | some =>
    simp only [howner] at hok
    obtain ⟨⟨_, mid⟩, hrecord, hok⟩ := of_bind hok
    replace hok := passed hok
    cases of_pure hok
    obtain ⟨htrace, hrecorded⟩ :=
      recordWakeCancellationInTransaction_cases hrecord
    exact hsilence mid htrace hrecorded.frame hrecorded.states

theorem eachOf_preemptExternal_cases {nowMs : Int} {ids : List String}
    (hok : eachOf (fun db cycleId =>
      preemptExternalAttemptInTransaction db nowMs cycleId) db ids =
        .ok after) :
    Trace permit db after ∧ Silences db after ids nowMs := by
  induction ids generalizing db with
  | nil =>
    cases hok
    exact ⟨.refl _, rfl, by simp, fun _ => rfl⟩
  | cons cycleId rest ih =>
    obtain ⟨_, hhead, htail⟩ := of_bind hok
    obtain ⟨htrace, hfirst⟩ :=
      preemptExternalAttemptInTransaction_cases hhead
    obtain ⟨htrace', hrest⟩ := ih htail
    refine ⟨htrace.trans htrace', ?_, ?_, ?_⟩
    · rw [hrest.frame, hfirst.frame]
    · rw [hrest.cycles, hfirst.cycles, List.map_map]
      apply map_congr_left
      intro row _
      by_cases hhere : row.cycleId = cycleId
      · have hnow : row.cycleId ∈ cycleId :: rest := by simp [hhere]
        simp only [Function.comp_apply, mem_singleton, if_pos hhere,
          if_pos hnow]
        split <;> rfl
      · simp [hhere]
    · intro _
      rw [hrest.states, hfirst.states]

/-- External room work that an Owner turn silences. -/
def Cycle.isRoomWork (row : Cycle) : Bool :=
  isRoomConversation row.conversationId &&
    row.triggerKind = .externalMessage && row.isOccupying

/-- The current cycle of a conversation once room work has been silenced. -/
def currentAfterRoomWork (db : Sidecar) (conversationId : String) :
    Option Cycle :=
  ((db.cycles.rows.filter fun row =>
      row.conversationId = conversationId &&
        (row.isOccupying && !(row.isRoomWork && !blank row.cycleId))).insertionSort
    Cycle.newerThan).head?.filter (·.wakeId.any (· ≠ ""))

omit [Host] in
theorem filter_silenced {rows : List Cycle} {ids : List String} {nowMs : Int}
    {conversationId : String} {p : Cycle → Bool}
    (hids : ∀ row ∈ rows, row.cycleId ∈ ids ↔ p row = true) :
    (rows.map fun row =>
        if row.cycleId ∈ ids then row.silencedAt nowMs else row).filter
      (fun row => row.conversationId = conversationId && row.isOccupying) =
    rows.filter fun row =>
      row.conversationId = conversationId && (row.isOccupying && !p row) := by
  induction rows with
  | nil => rfl
  | cons head _ ih =>
    have htail := ih fun row hmem => hids row (mem_cons_of_mem _ hmem)
    have hhead := hids head mem_cons_self
    rw [map_cons, filter_cons, filter_cons, htail]
    by_cases hp : p head = true
    · rw [if_pos (hhead.mpr hp)]
      simp [Cycle.isOccupying, hp]
    · have hout : head.cycleId ∉ ids := fun hmem => hp (hhead.mp hmem)
      rw [if_neg hout]
      simp [hp]

/-- What the Owner's precedence over room work leaves behind. -/
theorem preemptExternalRoomAttemptsInTransaction_cases {nowMs : Int}
    (hok : preemptExternalRoomAttemptsInTransaction db nowMs = .ok after) :
    Trace permit db after ∧
      after = { db with
        wakes := after.wakes, cycles := after.cycles
        uuidsDrawn := after.uuidsDrawn } ∧
      (∀ id, (after.wakes.get? id).map Wake.state =
        (db.wakes.get? id).map Wake.state) ∧
      ∀ conversationId, getCurrentCycle after conversationId =
        currentAfterRoomWork db conversationId := by
  obtain ⟨htrace, hsilences⟩ := eachOf_preemptExternal_cases hok
  refine ⟨htrace, hsilences.frame, hsilences.states, ?_⟩
  intro _
  unfold getCurrentCycle currentAfterRoomWork
  simp only [Bool.false_or]
  rw [hsilences.cycles, filter_silenced]
  intro row hmem
  simp only [mem_filter, List.mem_map, mem_insertionSort,
    Bool.and_eq_true]
  constructor
  · rintro ⟨⟨other, ⟨hother, hwork⟩, hid⟩, hnamed⟩
    have hsame : some other = some row := by
      rw [← get?_key hother, ← get?_key hmem]
      exact congrArg _ hid
    cases hsame
    exact ⟨by simpa [Cycle.isRoomWork] using hwork, hnamed⟩
  · rintro ⟨hwork, hnamed⟩
    exact ⟨⟨row, ⟨hmem, by simpa [Cycle.isRoomWork] using hwork⟩, rfl⟩, hnamed⟩

end CognitiveSidecar
