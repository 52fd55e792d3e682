/-
What an incoming message does to the obligations before it: the cycle answered
with carries the outstanding references, and a preemption opens a generation
above all earlier ones, unless the occurrence of the message has a wake already.
-/
import CognitiveSidecar.LedgerHistory
import CognitiveSidecar.System

namespace CognitiveSidecar

open List Relational

section Runs

variable [Host] {permit : Permit} {db after : Sidecar}
variable {input : ComposeOrPreemptInput} {cycle cycle' : Cycle}
variable {result : ComposeOrPreemptResult} {mid : Sidecar}
variable {wakeId conversationId : String} {nowMs : Int} {current : Cycle}
variable {refs : List String}

/-- Every compose log names each evidence row once. -/
def LogsProper (db : Sidecar) : Prop :=
  ∀ id cycle, db.cycles.get? id = some cycle → ProperLog cycle.composeLogIds

theorem LogsProper.moved (hmoved : Moved permit db after)
    (hlogs : LogsProper db) : LogsProper after := by
  intro id cycle hcycle
  cases hmoved with
  | shift _ _ _ _ hcycles =>
    obtain ⟨old, hold, hchange⟩ := hcycles.backward hcycle
    exact hchange.proper (hlogs id old hold)
  | admission _ _ _ hadmits _ _ hcycles =>
    rw [get?_insert hcycles] at hcycle
    split at hcycle
    · cases hcycle
      simp [ProperLog, hadmits.unlogged]
    · exact hlogs id cycle hcycle
  | append _ _ _ _ _ _ _ hcycles | lease _ _ _ _ _ _ _ _ _ hcycles =>
    rw [hcycles] at hcycle
    exact hlogs id cycle hcycle

theorem LogsProper.trace (htrace : Trace permit db after)
    (hlogs : LogsProper db) : LogsProper after := by
  induction htrace with
  | refl => exact hlogs
  | tail _ hmoved ih => exact ih.moved hmoved

theorem Reached.logsProper (hreached : Reached db) : LogsProper db := by
  have hboth : Sound db ∧ LogsProper db := by
    refine hreached.invariant (P := fun db => Sound db ∧ LogsProper db)
      ⟨sound_empty, ?_⟩ ?_
    · intro _ _ hcycle
      cases hcycle
    · rintro _ _ ⟨hsound, hlogs⟩
      exact ⟨step_sound hsound, hlogs.trace (step_trace hsound)⟩
  exact hboth.2

/-- The occurrences that have a wake. -/
def occurrences (db : Sidecar) : List String :=
  db.wakes.rows.map Wake.occurrenceId

omit [Host] in
theorem wakeOfOccurrence_eq_none_iff {occurrenceId : String} :
    wakeOfOccurrence db occurrenceId = none ↔
      occurrenceId ∉ occurrences db := by
  simp [wakeOfOccurrence, occurrences]

omit [Host] in
theorem updateWake_occurrences {guard : Wake → Bool} {f : Wake → Wake}
    {hkey : ∀ row, key (f row) = key row}
    (hsame : ∀ row, (f row).occurrenceId = row.occurrenceId) :
    occurrences (db.updateWake wakeId guard f hkey) = occurrences db := by
  simp only [occurrences, Sidecar.updateWake, Table.update, map_map]
  apply map_congr_left
  intro row _
  simp only [Function.comp_apply]
  split
  · exact hsame row
  · rfl

theorem recordWakeCancellationInTransaction_occurrences
    {cancellationId : Option String} {wake : Wake}
    (hok : recordWakeCancellationInTransaction db wakeId cancellationId nowMs =
      .ok (wake, after)) : occurrences after = occurrences db := by
  obtain ⟨_, _, hok⟩ := of_bind hok
  generalize hmid : (if cancellationId.isSome then db else db.drew) = mid
    at hok
  have hdraw : occurrences mid = occurrences db := by
    rw [← hmid]
    split <;> rfl
  split at hok
  · cases of_pure hok
    exact hdraw
  · obtain ⟨_, _, hok⟩ := of_bind hok
    cases of_pure hok
    refine Eq.trans ?_ hdraw
    exact updateWake_occurrences fun _ => rfl

omit [Host] in
theorem reconcileWakeInTransaction_occurrences
    (hok : reconcileWakeInTransaction db wakeId nowMs = .ok after) :
    occurrences after = occurrences db := by
  obtain ⟨_, _, hok⟩ := of_bind hok
  split at hok
  · cases of_pure hok
    rfl
  · cases of_pure hok
    exact updateWake_occurrences fun _ => rfl

omit [Host] in
theorem finishWakeInTransaction_occurrences {leaseToken : Option String}
    {reason : WakeTerminalReason}
    (hok : finishWakeInTransaction db wakeId leaseToken reason nowMs =
      .ok after) : occurrences after = occurrences db := by
  obtain ⟨_, _, hok⟩ := of_bind hok
  split at hok
  · replace hok := passed hok
    cases of_pure hok
    rfl
  · replace hok := passed hok
    replace hok := passed hok
    replace hok := passed hok
    replace hok := passed hok
    cases of_pure hok
    exact updateWake_occurrences fun _ => rfl

/-- Releasing the preempted cycle admits no occurrence. -/
theorem releaseCurrent_occurrences
    (hok : releaseCurrent db input current = .ok after) :
    occurrences after = occurrences db := by
  unfold releaseCurrent at hok
  simp only at hok
  split at hok
  · unfold releasePreemptedWake at hok
    split at hok
    · cases of_pure hok
      rfl
    split at hok
    · cases of_pure hok
      rfl
    obtain ⟨⟨_, _⟩, hrecord, hok⟩ := of_bind hok
    have hrecorded := recordWakeCancellationInTransaction_occurrences hrecord
    refine Eq.trans ?_ hrecorded
    simp only at hok
    split at hok
    · exact reconcileWakeInTransaction_occurrences hok
    split at hok
    · cases of_pure hok
      rfl
    split at hok
    · cases of_pure hok
      exact updateWake_occurrences fun _ => rfl
    · exact finishWakeInTransaction_occurrences hok
  · cases of_pure hok
    rfl

omit [Host] in
theorem getCurrentCycle_selected
    (hcurrent : getCurrentCycle db conversationId = some cycle) :
    cycle ∈ db.cycles.rows ∧ cycle.conversationId = conversationId ∧
      cycle.isOccupying = true := by
  unfold getCurrentCycle at hcurrent
  rw [Option.filter_eq_some_iff] at hcurrent
  have hmem := mem_of_mem_head? hcurrent.1
  simpa [mem_insertionSort] using hmem

omit [Host] in
/-- A conversation without a current cycle has no occupying one. -/
theorem getCurrentCycle_eq_none_iff (hlinked : Linked db) :
    getCurrentCycle db conversationId = none ↔
      ∀ row ∈ db.cycles.rows, row.conversationId = conversationId →
        row.isOccupying = false := by
  constructor
  · intro hnone row hmem hconv
    by_contra hoccupying
    have hselected : row ∈ db.cycles.rows.filter fun row =>
        row.conversationId = conversationId && row.isOccupying := by
      rw [Bool.not_eq_false] at hoccupying
      simp [hmem, hconv, hoccupying]
    obtain ⟨first, hfirst⟩ := exists_firstBy (r := Cycle.newerThan) hselected
    have hstored := get?_key
      (mem_filter.mp (mem_of_firstBy hfirst)).1
    obtain ⟨wakeId, wake, howner, hwake, _⟩ := hlinked.cycleWake _ _ hstored
    have hne := (hlinked.wakeCycle wakeId wake hwake).1
    have hcurrent : getCurrentCycle db conversationId = some first := by
      change (firstBy Cycle.newerThan (db.cycles.rows.filter fun row =>
        row.conversationId = conversationId && row.isOccupying)).filter
          (·.wakeId.any (· ≠ "")) = some first
      rw [hfirst, Option.filter_some, if_pos (by simp [howner, hne])]
    rw [hnone] at hcurrent
    cases hcurrent
  · intro hidle
    cases hcurrent : getCurrentCycle db conversationId with
    | none => rfl
    | some cycle =>
      obtain ⟨hmem, hconv, hoccupying⟩ := getCurrentCycle_selected hcurrent
      rw [hidle cycle hmem hconv] at hoccupying
      cases hoccupying

/-- Joined references are found in the stored log of the cycle. -/
theorem appendEvidenceRefs_log (hlogs : LogsProper db)
    (hcycle : db.cycles.get? cycle.cycleId = some cycle)
    (hok : appendEvidenceRefs db cycle refs nowMs = .ok (cycle', after)) :
    cycle' = cycle ∧ ∃ row, after.cycles.get? cycle.cycleId = some row ∧
      row.composeLogIds.Nodup ∧
      ∀ ref ∈ refs, ref ≠ "" → ref ∈ row.composeLogIds := by
  have htrace : Trace .lenient db after := appendEvidenceRefs_trace hok
  have hproper := hlogs.trace htrace
  unfold appendEvidenceRefs at hok
  split at hok
  · rename_i hnone
    cases of_pure hok
    refine ⟨rfl, cycle, hcycle, (hlogs _ _ hcycle).1, ?_⟩
    rw [hnone]
    intro _ hmem
    cases hmem
  · obtain ⟨⟨stored, _⟩, happend, hok⟩ := of_bind hok
    cases of_pure hok
    obtain ⟨_, _, _, hstored, _, _, _, hjoined⟩ :
        Trace .lenient db after ∧ _ := appendCycleLogIds_cases happend
    refine ⟨rfl, stored, hstored, (hproper _ _ hstored).1, ?_⟩
    intro _ hmem hne
    rw [hjoined, mem_eraseDups]
    exact mem_append_right _
      (mem_filter.mpr ⟨hmem, by simpa using hne⟩)

/-- Joining references makes no cycle current. -/
theorem appendEvidenceRefs_idle (hlinked : Linked db)
    (hnone : getCurrentCycle db conversationId = none)
    (hok : appendEvidenceRefs db cycle refs nowMs = .ok (cycle', after)) :
    getCurrentCycle after conversationId = none := by
  have htrace : Trace .lenient db after := appendEvidenceRefs_trace hok
  rw [getCurrentCycle_eq_none_iff (hlinked.trace htrace)]
  rw [getCurrentCycle_eq_none_iff hlinked] at hnone
  unfold appendEvidenceRefs at hok
  split at hok
  · cases of_pure hok
    exact hnone
  · obtain ⟨⟨_, _⟩, happend, hok⟩ := of_bind hok
    cases of_pure hok
    obtain ⟨_, _, happend⟩ := of_orFault happend
    obtain ⟨_, _, happend⟩ := of_orFault happend
    cases of_pure happend
    intro _ hrow hconv
    simp only [Sidecar.updateCycle, Table.update, mem_map] at hrow
    obtain ⟨old, hold, rfl⟩ := hrow
    refine (?_ : _ = old.isOccupying).trans (hnone old hold ?_)
    · split <;> rfl
    · rw [← hconv]
      split <;> rfl

/-- The newest cycle is still the newest after references joined it. -/
theorem appendEvidenceRefs_newest (hnewest : IsNewest db conversationId cycle)
    (hok : appendEvidenceRefs db cycle refs nowMs = .ok (cycle', after)) :
    ∃ new, IsNewest after conversationId new ∧ new.cycleId = cycle.cycleId ∧
      new.generation = cycle.generation := by
  unfold appendEvidenceRefs at hok
  split at hok
  · cases of_pure hok
    exact ⟨_, hnewest, rfl, rfl⟩
  · obtain ⟨⟨stored, _⟩, happend, hok⟩ := of_bind hok
    cases of_pure hok
    obtain ⟨hstill, hid, _⟩ := appendCycleLogIds_newest hnewest happend
    obtain ⟨_, _, _, _, _, hold, hchange, _⟩ :
        Trace .lenient db after ∧ _ := appendCycleLogIds_cases happend
    cases hnewest.stored.symm.trans hold
    exact ⟨stored, hstill, hid, hchange.generation⟩

omit [Host] in
theorem finalCycle_of_newest {new : Cycle}
    (hnewest : IsNewest after input.conversationId new)
    (hid : new.cycleId = cycle.cycleId)
    (hgeneration : new.generation = cycle.generation) :
    (finalCycle after input cycle).cycleId = cycle.cycleId ∧
      (finalCycle after input cycle).generation = cycle.generation := by
  unfold finalCycle
  split
  · exact ⟨rfl, rfl⟩
  · rw [hnewest.current]
    exact ⟨hid, hgeneration⟩

/-- The references that the conversation still owes an answer. -/
def outstandingRefs (db : Sidecar) (conversationId : String) : List String :=
  (getCurrentCycle db conversationId).elim [] Cycle.composeLogIds

/-- The cycle answered with is stored with the outstanding and the new
references, and a preempting one has a generation above all earlier ones. -/
structure ObligationsSurvive (db after : Sidecar)
    (input : ComposeOrPreemptInput) (result : ComposeOrPreemptResult) :
    Prop where
  carried : ∃ row, after.cycles.get? result.cycle.cycleId = some row ∧
    row.composeLogIds.Nodup ∧
    (∀ ref ∈ outstandingRefs db input.conversationId,
      ref ∈ row.composeLogIds) ∧
    ∀ ref ∈ input.evidenceRowIds, ref ≠ "" → ref ∈ row.composeLogIds
  above : result.action = .preempt → ∀ id old,
    db.cycles.get? id = some old →
    old.conversationId = input.conversationId →
    old.generation < result.cycle.generation

/-- Without an admission the cycle answered with was there before. -/
theorem finalCycle_old (htrace : Trace permit db after)
    (hnone : ∀ wake, ¬ permit.admits wake)
    (hcycle : db.cycles.get? cycle.cycleId = some cycle)
    (hconv : cycle.conversationId = input.conversationId) :
    ∃ old, db.cycles.get? (finalCycle after input cycle).cycleId = some old ∧
      old.conversationId = input.conversationId ∧
      old.generation = (finalCycle after input cycle).generation := by
  unfold finalCycle
  split
  · exact ⟨cycle, hcycle, hconv, rfl⟩
  cases hcurrent : getCurrentCycle after input.conversationId with
  | none => exact ⟨cycle, hcycle, hconv, rfl⟩
  | some =>
    obtain ⟨hmem, hsame, _⟩ := getCurrentCycle_selected hcurrent
    obtain ⟨old, hold, hchange⟩ :=
      htrace.cycle_backward hnone (get?_key hmem)
    refine ⟨old, hold, ?_, hchange.generation.symm⟩
    rw [← hchange.conversationId, hsame]

theorem composed_obligations_survive (hlogs : LogsProper db)
    (hcurrent : getCurrentCycle db input.conversationId = some current)
    (happend : appendCycleLogIds db current.cycleId input.evidenceRowIds
      input.nowMs = .ok (result.cycle, mid))
    (haction : result.action = .compose)
    (hrecord : after = mid ∨ ∃ wakeId wake,
      recordWakeCancellationInTransaction mid wakeId none input.nowMs =
        .ok (wake, after)) :
    ObligationsSurvive db after input result := by
  have hcycles : after.cycles = mid.cycles := by
    rcases hrecord with rfl | ⟨wakeId, wake, hrecord⟩
    · rfl
    · obtain ⟨_, hrecorded⟩ : Trace .lenient mid after ∧
          CancellationRecorded mid after wakeId wake :=
        recordWakeCancellationInTransaction_cases hrecord
      rw [hrecorded.frame]
  obtain ⟨htrace, _, _, hstored, _, hold, _, hjoined⟩ :
      Trace .lenient db mid ∧ _ := appendCycleLogIds_cases happend
  cases hold.symm.trans (getCurrentCycle_stored hcurrent).1
  have hid : result.cycle.cycleId = current.cycleId := key_of_get? hstored
  refine ⟨⟨result.cycle, ?_, ?_, ?_, ?_⟩, ?_⟩
  · rw [hcycles, hid]
    exact hstored
  · exact (hlogs.trace htrace _ _ hstored).1
  · intro _ hmem
    rw [outstandingRefs, hcurrent] at hmem
    rw [hjoined, mem_eraseDups]
    exact mem_append_left _ hmem
  · intro _ hmem hne
    rw [hjoined, mem_eraseDups]
    exact mem_append_right _
      (mem_filter.mpr ⟨hmem, by simpa using hne⟩)
  · intro hpreempt
    rw [haction] at hpreempt
    cases hpreempt

/-- Without a current cycle nothing is owed but the new references. -/
theorem first_obligations_survive (hlinked : Linked db) (hlogs : LogsProper db)
    (hnone : getCurrentCycle db input.conversationId = none)
    (hanswer : admitGeneration db input none input.occupantId
      input.authorityEpoch none = .ok (cycle, mid))
    (happend : appendEvidenceRefs mid cycle input.evidenceRowIds input.nowMs =
      .ok (cycle', after))
    (hresult : result.cycle = finalCycle after input cycle')
    (haction : result.action = .compose) :
    ObligationsSurvive db after input result := by
  obtain ⟨hadmitted, _, hcycle⟩ : Trace .lenient db mid ∧ _ :=
    admitGeneration_cases hlinked (fun _ _ _ => trivial) hanswer
  obtain ⟨rfl, row, hrow, hnodup, hjoined⟩ :=
    appendEvidenceRefs_log (hlogs.trace hadmitted) hcycle happend
  have hid : result.cycle.cycleId = cycle'.cycleId := by
    rw [hresult]
    obtain ⟨_, _, _, hsame, _⟩ | ⟨_, hnewest, _⟩ :=
      admitGeneration_split hlinked rfl hanswer
    · -- The occurrence had a wake, and its conversation stays idle.
      rw [hsame] at happend
      unfold finalCycle
      rw [appendEvidenceRefs_idle hlinked hnone happend]
      split <;> rfl
    · obtain ⟨_, hstill, hid, hgeneration⟩ :=
          appendEvidenceRefs_newest hnewest happend
      exact (finalCycle_of_newest hstill hid hgeneration).1
  refine ⟨⟨row, ?_, hnodup, ?_, hjoined⟩, ?_⟩
  · rw [hid]
    exact hrow
  · intro _ hmem
    rw [outstandingRefs, hnone] at hmem
    cases hmem
  · intro hpreempt
    rw [haction] at hpreempt
    cases hpreempt

/-- The newest generation inherits what its predecessor owes. -/
theorem preempted_obligations_survive {released : Sidecar}
    (hlogs : LogsProper db)
    (hcurrent : getCurrentCycle db input.conversationId = some current)
    (hreleased : Trace .lenient db released)
    (hadmitted : Trace .lenient released mid)
    (hnewest : IsNewest mid input.conversationId cycle)
    (hgeneration : cycle.generation =
      nextConversationGeneration released input.conversationId)
    (happend : appendEvidenceRefs mid cycle
      (current.composeLogIds ++ input.evidenceRowIds).eraseDups input.nowMs =
        .ok (cycle', after))
    (hresult : result.cycle = finalCycle after input cycle') :
    ObligationsSurvive db after input result := by
  obtain ⟨rfl, row, hrow, hnodup, hjoined⟩ := appendEvidenceRefs_log
    ((hlogs.trace hreleased).trace hadmitted) hnewest.stored happend
  obtain ⟨_, hstill, hid, hsame⟩ := appendEvidenceRefs_newest hnewest happend
  obtain ⟨hid, hsame⟩ := finalCycle_of_newest hstill hid hsame
  rw [← hresult] at hid hsame
  refine ⟨⟨row, ?_, hnodup, ?_, ?_⟩, ?_⟩
  · rw [hid]
    exact hrow
  · intro ref hmem
    rw [outstandingRefs, hcurrent] at hmem
    refine hjoined ref ?_ ?_
    · rw [mem_eraseDups]
      exact mem_append_left _ hmem
    · rintro rfl
      exact (hlogs _ _ (getCurrentCycle_stored hcurrent).1).2 hmem
  · intro ref hmem hne
    refine hjoined ref ?_ hne
    rw [mem_eraseDups]
    exact mem_append_right _ hmem
  · intro _ _ _ hold hconv
    obtain ⟨_, hkept, hchange⟩ := hreleased.cycle_forward hold
    rw [hsame, hgeneration, ← hchange.generation]
    exact generation_lt_next hkept (hchange.conversationId.trans hconv)

/-- In every reachable state the obligations survive a message exactly when the
message does not preempt, or its occurrence has no wake yet. -/
theorem obligations_survive_iff {input : ComposeOrPreemptInput}
    {result : ComposeOrPreemptResult} (hreached : Reached db)
    (hok : composeOrPreemptInTransaction db input = .ok (result, after)) :
    ObligationsSurvive db after input result ↔
      ∀ current, getCurrentCycle db input.conversationId = some current →
        composesInto db input current = false →
        wakeOfOccurrence db (occurrenceIdFor .inbox input.ref
          input.conversationId) = none := by
  have hlinked := hreached.sound.linked
  have hlogs := hreached.logsProper
  rcases composeOrPreemptInTransaction_inv hok with
    ⟨hnone, cycle, cycle', mid, hadmit, happend, hresult, haction⟩ |
    ⟨current, mid, hcurrent, hcomposes, happend, haction, hrecord⟩ |
    ⟨current, released, cycle, cycle', mid, hcurrent, hpreempts, hrelease,
      hadmit, happend, hresult, haction⟩
  · refine iff_of_true (first_obligations_survive hlinked hlogs hnone hadmit
      happend hresult haction) ?_
    intro _ hcurrent
    rw [hnone] at hcurrent
    cases hcurrent
  · refine iff_of_true (composed_obligations_survive hlogs hcurrent happend
      haction hrecord) ?_
    intro _ hother hnot
    cases hcurrent.symm.trans hother
    rw [hcomposes] at hnot
    cases hnot
  have hkeeps := releaseCurrent_keeps hrelease hpreempts
  have hlinked' := hlinked.trace hkeeps
  have hsameWakes : wakeOfOccurrence released (occurrenceIdFor .inbox input.ref
        input.conversationId) = none ↔
      wakeOfOccurrence db (occurrenceIdFor .inbox input.ref
        input.conversationId) = none := by
    rw [wakeOfOccurrence_eq_none_iff, wakeOfOccurrence_eq_none_iff,
      releaseCurrent_occurrences hrelease]
  rcases admitGeneration_split hlinked' rfl hadmit with
    ⟨_, hfound, _, hmid, hcycle, hconv⟩ | ⟨hfresh, hnewest, _, hgeneration⟩
  · -- The cycle answered with is an old one, so its generation is not new.
    refine iff_of_false ?_ ?_
    · intro hsurvive
      rw [hmid] at happend
      obtain ⟨rfl, _⟩ :=
        appendEvidenceRefs_log (hlogs.trace hkeeps) hcycle happend
      have happended : Trace (.admitting fun _ => False)
          released after := appendEvidenceRefs_trace happend
      obtain ⟨_, hkept, hkeptConv, hsame⟩ :=
          finalCycle_old happended (fun _ => id) hcycle hconv
      obtain ⟨old, hold, hchange⟩ := hkeeps.cycle_backward (fun _ => id) hkept
      have habove := hsurvive.above haction _ old hold
        (hchange.conversationId.symm.trans hkeptConv)
      rw [hresult, ← hsame, hchange.generation] at habove
      exact Int.lt_irrefl _ habove
    · intro hcondition
      rw [← hsameWakes] at hcondition
      rw [hcondition current hcurrent hpreempts] at hfound
      cases hfound
  · refine iff_of_true ?_ fun _ _ _ => hsameWakes.mp hfresh
    have hreleased : Trace .lenient db released :=
      releaseCurrent_trace hrelease hpreempts fun _ _ _ _ _ _ =>
        ⟨False.elim, False.elim⟩
    have hadmitted : Trace .lenient released mid :=
      (admitGeneration_cases hlinked' (fun _ _ _ => trivial) hadmit).1
    exact preempted_obligations_survive hlogs hcurrent hreleased hadmitted
      hnewest hgeneration happend hresult

end Runs

section Plain

attribute [local instance] plainHost

/-- An Owner message with one evidence row. -/
def messageOf (evidenceRowId : String) (nowMs : Int) : ComposeOrPreemptInput :=
  { conversationId := "c", evidenceRowIds := [evidenceRowId]
    triggerRef := some evidenceRowId, nowMs }

/-- A message whose event is pending while a reply to it is in the outbox. -/
def repliedOnce : List Op :=
  [.composeOrPreempt (messageOf "e1" 0),
    .appendInboxEvent
      { wakeId := some (wakeIdFor (occurrenceIdFor .inbox "e1" "c"))
        conversationId := "c", kind := "owner_utterance", createdAtMs := 0 }
      (some "i1"),
    .outside
      { effects := .empty, receipts := .empty, reservations := .empty
        bindings := .empty, undertakings := .empty
        outbox := ⟨[
          { outboxId := 1, settlementId := "s1", projectionKey := "speech:1"
            conversationId := "c"
            cycleId := cycleIdFor (wakeIdFor (occurrenceIdFor .inbox "e1" "c"))
            generation := 1, licensedText := "hello", sendStatus := .delivered
            nuclearReservationId := none, discordMessageIds := []
            suppressed := false, origin := .live
            deliveryIntent :=
              { ownerId := "owner", channel := "discord", threadId := "c"
                conversationId := "c", trigger := .ownerMessageReactive
                deliveryLane := .reactive, purpose := .licensedSpeech }
            finalizationReason := none }], by simp⟩ } 0]

theorem exists_answer {db : Sidecar} {input : ComposeOrPreemptInput}
    (hanswers : (composeOrPreemptInTransaction db input).toOption.isSome) :
    ∃ result after,
      composeOrPreemptInTransaction db input = .ok (result, after) := by
  cases hok : composeOrPreemptInTransaction db input with
  | error =>
    rw [hok] at hanswers
    cases hanswers
  | ok answer => exact ⟨answer.1, answer.2, rfl⟩

theorem obligations_survive_iff_preempted :
    ∃ result after,
      composeOrPreemptInTransaction (run step {} repliedOnce)
        (messageOf "e2" 5) = .ok (result, after) ∧
      ObligationsSurvive (run step {} repliedOnce) after (messageOf "e2" 5)
        result := by
  obtain ⟨result, after, hok⟩ : ∃ result after,
      composeOrPreemptInTransaction (run step {} repliedOnce)
        (messageOf "e2" 5) = .ok (result, after) :=
    exists_answer (by decide +kernel)
  refine ⟨result, after, hok,
    (obligations_survive_iff ⟨repliedOnce, rfl⟩ hok).mpr ?_⟩
  intro _ _ _
  decide +kernel

/-- A message admitted again under its own reference preempts its cycle by that
same cycle. -/
theorem repeated_reference_reuses_generation :
    ∃ result after,
      composeOrPreemptInTransaction (run step {} repliedOnce)
        (messageOf "e1" 5) = .ok (result, after) ∧
      ¬ ObligationsSurvive (run step {} repliedOnce) after (messageOf "e1" 5)
        result := by
  obtain ⟨result, after, hok⟩ : ∃ result after,
      composeOrPreemptInTransaction (run step {} repliedOnce)
        (messageOf "e1" 5) = .ok (result, after) :=
    exists_answer (by decide +kernel)
  have hanswer : (composeOrPreemptInTransaction (run step {} repliedOnce)
      (messageOf "e1" 5)).toOption.all (fun answer =>
        answer.1.action = .preempt && answer.1.cycle.generation = 1) = true := by
    decide +kernel
  rw [hok] at hanswer
  obtain ⟨haction, hgeneration⟩ : result.action = .preempt ∧
      result.cycle.generation = 1 := by
    simpa [Except.toOption] using hanswer
  have hcycle : ((run step {} repliedOnce).cycles.get?
      (cycleIdFor (wakeIdFor (occurrenceIdFor .inbox "e1" "c")))).map
        (fun cycle => (cycle.conversationId, cycle.generation)) =
      some ("c", 1) := by
    decide +kernel
  obtain ⟨cycle, hstored, hsame⟩ := Option.map_eq_some_iff.mp hcycle
  obtain ⟨hconv, hfirst⟩ := Prod.mk.inj hsame
  refine ⟨result, after, hok, ?_⟩
  intro hsurvive
  have habove := hsurvive.above haction _ cycle hstored hconv
  rw [hgeneration, hfirst] at habove
  exact Int.lt_irrefl 1 habove

end Plain

end CognitiveSidecar
