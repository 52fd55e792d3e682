/-
Cycle admission and the inbox as moves.
-/
import CognitiveSidecar.WakeMoves

namespace CognitiveSidecar

open Option List Relational

variable [Host] {permit : Permit} {db after : Sidecar}
variable {input : AppendInboxEventInput} {id : String} {event : InboxEvent}
variable {cycleId wakeId : String} {cycle : Cycle} {nowMs : Int}
variable {logIds : List String}

omit [Host] in
theorem getCycle_eq_some_iff :
    getCycle db cycleId = some cycle ↔
      db.cycles.get? cycleId = some cycle ∧
        cycle.wakeId.any (· ≠ "") = true := by
  simp [getCycle, filter_eq_some_iff]

omit [Host] in
/-- Every stored cycle of linked ledgers is one with a wake. -/
theorem getCycle_of_linked (hlinked : Linked db) :
    getCycle db cycleId = db.cycles.get? cycleId := by
  cases hcycle : db.cycles.get? cycleId with
  | none => simp [getCycle, hcycle]
  | some cycle =>
    obtain ⟨wakeId, wake, howner, hwake, _⟩ :=
      hlinked.cycleWake cycleId cycle hcycle
    have hne := (hlinked.wakeCycle wakeId wake hwake).1
    rw [getCycle_eq_some_iff]
    exact ⟨hcycle, by simp [howner, hne]⟩

theorem updateCycleState_trace {state : CycleState}
    (hok : updateCycleState db cycleId state nowMs = .ok after) :
    Trace permit db after := by
  obtain ⟨_, _, hok⟩ := of_orFault hok
  cases of_pure hok
  exact Moved.trace (.updateCycle fun _ _ =>
    ⟨rfl, rfl, rfl, rfl, List.Subset.refl _, id⟩)

omit [Host] in
theorem properLog_merge {log : List String} (hlog : ProperLog log) :
    ProperLog (log ++ logIds.filter (· ≠ "")).eraseDups := by
  refine ⟨nodup_eraseDups _, ?_⟩
  rw [mem_eraseDups, mem_append, mem_filter]
  rintro (hmem | ⟨_, hne⟩)
  · exact hlog.2 hmem
  · simp at hne

/-- Evidence joins the compose log of one cycle. -/
theorem appendCycleLogIds_cases
    (hok : appendCycleLogIds db cycleId logIds nowMs = .ok (cycle, after)) :
    Trace permit db after ∧ after.events = db.events ∧
      after.wakes = db.wakes ∧
      after.cycles.get? cycleId = some cycle ∧
      ∃ old, db.cycles.get? cycleId = some old ∧ CycleChange old cycle ∧
        cycle.composeLogIds =
          (old.composeLogIds ++ logIds.filter (· ≠ "")).eraseDups := by
  obtain ⟨old, hold, hok⟩ := of_orFault hok
  obtain ⟨_, hnew, hok⟩ := of_orFault hok
  cases of_pure hok
  rw [getCycle_eq_some_iff] at hold hnew
  have hsubset : old.composeLogIds ⊆
      (old.composeLogIds ++ logIds.filter (· ≠ "")).eraseDups := by
    intro _ hmem
    rw [mem_eraseDups]
    exact mem_append_left _ hmem
  have hstored : cycle = { old with
      composeLogIds := (old.composeLogIds ++ logIds.filter (· ≠ "")).eraseDups
      updatedAtMs := nowMs } := by
    have hid : old.cycleId = cycleId := key_of_get? hold.1
    subst hid
    have hget := hnew.1
    simp only [Sidecar.updateCycle, get?_update, hold.1, map_some,
      decide_true, if_true, some.injEq] at hget
    exact hget.symm
  refine ⟨Moved.trace (.updateCycle ?_), rfl, rfl, hnew.1, old, hold.1, ?_, ?_⟩
  · intro _ hrow
    cases hold.1.symm.trans hrow
    exact ⟨rfl, rfl, rfl, rfl, hsubset, properLog_merge⟩
  · rw [hstored]
    exact ⟨rfl, rfl, rfl, rfl, hsubset, properLog_merge⟩
  · rw [hstored]

omit [Host] in
theorem cycleForWake_of_linked {wake : Wake} (hlinked : Linked db)
    (hwake : db.wakes.get? wakeId = some wake) :
    ∃ cycle, cycleForWake db wakeId = some cycle := by
  obtain ⟨hne, cycle, hcycle, howner, _⟩ := hlinked.wakeCycle wakeId wake hwake
  have hsome : (db.cycles.rows.find? (·.wakeId = some wakeId)).isSome = true :=
    List.find?_isSome.mpr
      ⟨cycle, mem_of_get? hcycle, by simp [howner]⟩
  obtain ⟨found, hfound⟩ := isSome_iff_exists.mp hsome
  have hfoundOwner : found.wakeId = some wakeId := by
    simpa using List.find?_some hfound
  simp [cycleForWake, hfound, hfoundOwner, hne]

omit [Host] in
/-- The wake of linked ledgers already has the cycle that is asked for. -/
theorem admitCycleInTransaction_cases {input : AdmitCycleInput}
    (hlinked : Linked db)
    (hok : admitCycleInTransaction db input = .ok (cycle, after)) :
    after = db ∧ db.cycles.get? cycle.cycleId = some cycle ∧
      cycle.wakeId = some input.wakeId ∧
      (∀ requested ∈ input.cycleId, requested ≠ "" →
        cycle.cycleId = requested) ∧
      ∃ wake, db.wakes.get? input.wakeId = some wake ∧
        wake.state ≠ .terminal ∧
        wake.conversationId = input.conversationId := by
  replace hok := passed hok
  replace hok := passed hok
  obtain ⟨wake, hwake, hok⟩ := of_bind hok
  rw [getWakeRequired_ok] at hwake
  obtain ⟨hopen, hok⟩ := of_require hok
  obtain ⟨hconv, hok⟩ := of_require hok
  replace hok := passed hok
  have hid : wake.wakeId = input.wakeId := key_of_get? hwake
  rw [hid] at hok
  obtain ⟨_, hfound⟩ := cycleForWake_of_linked hlinked hwake
  simp only [hfound] at hok
  obtain ⟨hrequested, hok⟩ := of_require hok
  cases of_pure hok
  unfold cycleForWake at hfound
  rw [filter_eq_some_iff] at hfound
  have howner : cycle.wakeId = some input.wakeId := by
    simpa using List.find?_some hfound.1
  exact ⟨rfl, get?_key (mem_of_find?_eq_some hfound.1), howner,
    hrequested, wake, hwake, hopen, hconv⟩

omit [Host] in
theorem getInboxEvent_eq_some_iff :
    getInboxEvent db id = some event ↔
      db.events.get? id = some event ∧
        event.wakeId.any (· ≠ "") = true := by
  simp [getInboxEvent, filter_eq_some_iff]

theorem wakeForNewEvent_trace (hlinked : Linked db)
    (hadmits : ∀ wake, permit.admits wake)
    (hok : wakeForNewEvent db input id = .ok (wakeId, after)) :
    Trace permit db after := by
  unfold wakeForNewEvent at hok
  simp only at hok
  split at hok
  · cases of_pure hok
    exact .refl db
  · obtain ⟨⟨_, _⟩, hadmit, hok⟩ := of_bind hok
    replace hok := passed hok
    cases of_pure hok
    exact admitWakeInTransaction_trace hlinked (fun wake _ _ => hadmits wake)
      hadmit

omit [Host] in
theorem newInboxEvent_state (input : AppendInboxEventInput)
    (id cycleId wakeId : String) :
    (newInboxEvent input id cycleId wakeId).state = .pending ∨
      (newInboxEvent input id cycleId wakeId).state = .terminal := by
  simp only [newInboxEvent]
  split
  · exact .inr rfl
  · exact .inl rfl

/-- A known identifier answers with its event; a new one appends an event on
the open wake it belongs to. -/
theorem appendInboxEventInTransaction_cases (hlinked : Linked db)
    (hok : appendInboxEventInTransaction db input id = .ok (event, after)) :
    (getInboxEvent db id = some event ∧ after = db) ∨
    (getInboxEvent db id = none ∧ ∃ mid wakeId wake cycle events,
      wakeForNewEvent db input id = .ok (wakeId, mid) ∧
      mid.wakes.get? wakeId = some wake ∧ wake.state ≠ .terminal ∧
      wake.conversationId = input.conversationId ∧
      mid.cycles.get? cycle.cycleId = some cycle ∧
      cycle.wakeId = some wakeId ∧
      (∀ requested ∈ input.payload.cycleId, requested ≠ "" →
        cycle.cycleId = requested) ∧
      event = newInboxEvent input id cycle.cycleId wakeId ∧
      mid.events.insert? event = some events ∧
      after = { mid with events }) := by
  unfold appendInboxEventInTransaction at hok
  cases hknown : getInboxEvent db id with
  | some =>
    simp only [hknown] at hok
    cases of_pure hok
    exact .inl ⟨rfl, rfl⟩
  | none =>
    simp only [hknown] at hok
    obtain ⟨⟨wakeId, mid⟩, hnew, hok⟩ := of_bind hok
    have hmid : Linked mid := by
      have htrace : Trace .lenient db mid :=
        wakeForNewEvent_trace hlinked (fun _ => trivial) hnew
      exact hlinked.trace htrace
    obtain ⟨wake, hwake, hok⟩ := of_bind hok
    rw [getWakeRequired_ok] at hwake
    obtain ⟨hconv, hok⟩ := of_require hok
    obtain ⟨⟨cycle, _⟩, hadmit, hok⟩ := of_bind hok
    obtain ⟨hsame, hcycle, howner, hrequested, _, hstored, hopen, _⟩ :=
        admitCycleInTransaction_cases hmid hadmit
    rw [hsame] at hok
    cases hwake.symm.trans hstored
    obtain ⟨events, hevents, hok⟩ := of_orFault hok
    cases of_pure hok
    exact .inr ⟨rfl, mid, wakeId, wake, cycle, events, hnew, hwake, hopen,
      hconv, hcycle, howner, hrequested, rfl, hevents, rfl⟩

theorem appendInboxEventInTransaction_trace (hlinked : Linked db)
    (hadmits : ∀ wake, permit.admits wake)
    (hok : appendInboxEventInTransaction db input id = .ok (event, after)) :
    Trace permit db after := by
  obtain ⟨_, rfl⟩ | ⟨_, _, wakeId, wake, cycle, _, hnew, hwake, hopen, hconv, _,
    _, _, rfl, hevents, rfl⟩ := appendInboxEventInTransaction_cases hlinked hok
  · exact .refl after
  · refine (wakeForNewEvent_trace hlinked hadmits hnew).step
      (.append (newInboxEvent input id cycle.cycleId wakeId) wake
        (Nat.le_refl _) ?_ hevents rfl rfl rfl (.same rfl))
    have hid : wake.wakeId = wakeId := key_of_get? hwake
    refine ⟨?_, ?_, hconv.symm, rfl, rfl, rfl, newInboxEvent_state _ _ _ _,
      fun _ _ => hopen⟩
    · rw [hid]
      exact hwake
    · rw [hid]
      rfl

theorem appendInboxEvent_trace {id : Option String} (hlinked : Linked db)
    (hadmits : ∀ wake, permit.admits wake)
    (hok : appendInboxEvent db input id = .ok (event, after)) :
    Trace permit db after := by
  cases id with
  | some => exact appendInboxEventInTransaction_trace hlinked hadmits hok
  | none =>
    have hdraw : Trace permit db db.drew := Moved.drew.trace
    exact hdraw.trans
      (appendInboxEventInTransaction_trace (hlinked.trace hdraw) hadmits
        hok)

end CognitiveSidecar
