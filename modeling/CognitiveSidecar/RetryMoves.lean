/-
The endings of durable work as moves: what closing or quarantining one event
does to its wake, to its siblings and to its cycle.
-/
import CognitiveSidecar.InboxMoves

namespace CognitiveSidecar

open Option Relational

variable {permit : Permit} {db after : Sidecar}
variable {wakeId : String} {nowMs : Int} {wake : Wake}
variable {reason : WakeTerminalReason} {eventId : String} {current : InboxEvent}
variable {p : InboxEvent → Bool}

@[simp] theorem wakeToPending_events :
    (wakeToPending db wakeId nowMs).events = db.events := rfl

@[simp] theorem wakeToReconciling_events :
    (wakeToReconciling db wakeId nowMs).events = db.events := rfl

/-- A wake without a reconciling event may return to pending. -/
theorem wakeToPending_moved [Host]
    (hnone : NoEventOn db InboxEvent.isReconciling wakeId) :
    Moved permit db (wakeToPending db wakeId nowMs) := by
  refine .updateWake ?_
  intro row hrow hguard
  have hid : row.wakeId = wakeId := key_of_get? hrow
  exact .stayOpen rfl rfl rfl (of_decide_eq_true hguard)
    (by simp) (.inl rfl)
    (fun _ => .inr (by rw [hid]; exact hnone)) (.inl rfl)
    (fun _ => by simp [Wake.LeaseNamed])

theorem wakeToReconciling_moved [Host] :
    Moved permit db (wakeToReconciling db wakeId nowMs) := by
  refine .updateWake ?_
  intro _ _ hguard
  exact .stayOpen rfl rfl rfl (of_decide_eq_true hguard)
    (by simp) (.inl rfl)
    (fun _ => .inl rfl) (.inl rfl) (fun _ => by simp [Wake.LeaseNamed])

theorem wakeToReconciling_fenced :
    WakeIs (wakeToReconciling db wakeId nowMs) Wake.isFenced (some wakeId) := by
  intro _ _ hid hwake
  cases hid
  rw [wakeToReconciling, Sidecar.get?_updateWake, map_eq_some_iff]
    at hwake
  obtain ⟨old, _, hwake⟩ := hwake
  rw [← hwake]
  by_cases hterminal : old.state = .terminal
  · rw [if_neg (by simp [hterminal])]
    exact .inr hterminal
  · rw [if_pos ⟨rfl, decide_eq_true hterminal⟩]
    exact .inl rfl

theorem wakeToTerminal_trace [Host]
    (hok : wakeToTerminal db wakeId reason nowMs = .ok after)
    (hclosable : ∀ wake, db.wakes.get? wakeId = some wake →
      wake.state ≠ .terminal → Closable permit db wakeId) :
    Trace permit db after := by
  obtain ⟨current, hcurrent, hok⟩ := of_bind hok
  rw [getWakeRequired_ok] at hcurrent
  by_cases hterminal : current.state = .terminal
  · rw [if_pos hterminal] at hok
    replace hok := passed hok
    cases of_pure hok
    exact .refl db
  · rw [if_neg hterminal] at hok
    cases of_pure hok
    refine Moved.trace (.updateWake ?_)
    intro row hrow hguard
    have hid : row.wakeId = wakeId := key_of_get? hrow
    refine .close (of_decide_eq_true hguard) ?_
    rw [hid]
    exact hclosable current hcurrent hterminal

theorem NoEventOn.mono {q : InboxEvent → Bool} (hnone : NoEventOn db q wakeId)
    (hle : ∀ row, p row = true → q row = true) : NoEventOn db p wakeId := by
  intro id event hevent howner
  have hq := hnone id event hevent howner
  cases hp : p event with
  | false => rfl
  | true => rw [hle event hp] at hq; cases hq

theorem reconciling_busy (row : InboxEvent) (hrec : row.isReconciling = true) :
    row.isBusy = true :=
  busy_iff.mpr (.inr (reconciling_iff.mp hrec))

theorem busy_durable (row : InboxEvent) (hbusy : row.isBusy = true) :
    row.isDurableContinuation = true := by
  rcases busy_iff.mp hbusy with hstate | hstate <;>
    simp [InboxEvent.isDurableContinuation, hstate]

theorem claimable_durable (row : InboxEvent)
    (hclaimable : row.isClaimableContinuation = true) :
    row.isDurableContinuation = true := by
  rcases claimable_iff.mp hclaimable with hstate | hstate <;>
    simp [InboxEvent.isDurableContinuation, hstate]

/-- A wake none of whose events is durable may be closed. -/
theorem Closable.of_durable
    (hnone : NoEventOn db InboxEvent.isDurableContinuation wakeId) :
    Closable permit db wakeId :=
  ⟨fun _ => hnone.mono claimable_durable, fun _ => hnone.mono busy_durable⟩

/-- The sibling queries miss only the event itself. -/
theorem noEventOn_of_noOther (hother : (db.events.rows.any fun row =>
      row.wakeId = some wakeId && row.id ≠ eventId && p row) = false)
    (hself : ∀ row, db.events.get? eventId = some row → p row = false) :
    NoEventOn db p wakeId := by
  intro id row hrow howner
  have hid : row.id = id := key_of_get? hrow
  by_cases hsame : id = eventId
  · rw [hsame] at hrow
    exact hself row hrow
  · rw [List.any_eq_false] at hother
    have hrowOut := hother row (mem_of_get? hrow)
    simpa [howner, hid, hsame] using hrowOut

/-- Closing the wake of an ended event: the wake stays open for a sibling that
this ending leaves behind, and otherwise takes the ending. -/
theorem finishWakeForEvent_trace [Host]
    (hok : finishWakeForEvent db current reason nowMs = .ok after)
    (hself : ∀ row, db.events.get? current.id = some row →
      row.isDurableContinuation = false)
    (hidle : ∀ wakeId, current.wakeId = some wakeId →
      NoEventOn db InboxEvent.isBusy wakeId)
    (htidy : permit.tidy → reason ≠ .completed → reason ≠ .quarantined →
      reason ≠ .superseded → ∀ wakeId, current.wakeId = some wakeId →
      WakeIs db (·.state ≠ .terminal) (some wakeId) →
      NoEventOn db InboxEvent.isClaimableContinuation wakeId) :
    Trace permit db after := by
  obtain ⟨wakeId, hwakeId, hok⟩ := of_orFault hok
  have howner : current.wakeId = some wakeId :=
    (filter_eq_some_iff.mp hwakeId).1
  obtain ⟨wake, hwake, hok⟩ := of_bind hok
  rw [getWakeRequired_ok] at hwake
  have hbusy := hidle wakeId howner
  by_cases hkeeps : keepsWakeOpen db wakeId current.id reason = true
  · rw [if_pos hkeeps] at hok
    cases of_pure hok
    exact (wakeToPending_moved (hbusy.mono reconciling_busy)).trace
  rw [if_neg hkeeps] at hok
  -- An ending that looks at its siblings found none of them waiting.
  have hclosable : wake.state ≠ .terminal → Closable permit db wakeId := by
    intro hopen
    refine ⟨fun hpromise => ?_, fun _ => hbusy⟩
    have hselfClaimable : ∀ row, db.events.get? current.id = some row →
        row.isClaimableContinuation = false := by
      intro row hrow
      cases hclaimable : row.isClaimableContinuation with
      | false => rfl
      | true =>
        have hclash := claimable_durable row hclaimable
        rw [hself row hrow] at hclash
        cases hclash
    simp only [keepsWakeOpen, Bool.or_eq_true, Bool.and_eq_true,
      decide_eq_true_eq, not_or, not_and, Bool.not_eq_true] at hkeeps
    by_cases hcompleted : reason = .completed
    · exact noEventOn_of_noOther (hkeeps.2 hcompleted) hselfClaimable
    by_cases hquarantined : reason = .quarantined
    · exact (noEventOn_of_noOther (hkeeps.1 (.inl hquarantined))
        hself).mono claimable_durable
    by_cases hsuperseded : reason = .superseded
    · exact (noEventOn_of_noOther (hkeeps.1 (.inr hsuperseded))
        hself).mono claimable_durable
    refine htidy hpromise hcompleted hquarantined hsuperseded wakeId howner ?_
    intro _ _ hid hrow
    cases hid
    cases hwake.symm.trans hrow
    exact hopen
  by_cases hterminal : wake.state = .terminal
  · rw [if_pos hterminal] at hok
    replace hok := passed hok
    cases of_pure hok
    exact .refl db
  rw [if_neg hterminal] at hok
  by_cases hrec : wake.state = .reconciling
  · rw [if_pos hrec] at hok
    exact wakeToTerminal_trace hok fun _ _ _ => hclosable hterminal
  · rw [if_neg hrec] at hok
    exact finishWakeInTransaction_trace hok fun _ _ _ => hclosable hterminal

theorem retireOwnerlessCycleForTerminalEvent_trace [Host] {wakeId : Option String}
    (hok : retireOwnerlessCycleForTerminalEvent db wakeId nowMs = .ok after) :
    Trace permit db after := by
  unfold retireOwnerlessCycleForTerminalEvent at hok
  split at hok
  · cases of_pure hok
    exact .refl db
  split at hok
  · cases of_pure hok
    exact .refl db
  split at hok
  · cases of_pure hok
    exact .refl db
  · exact updateCycleState_trace hok

/-- A retired cycle changes no wake, event or attempt. -/
theorem retireOwnerlessCycleForTerminalEvent_frame {wakeId : Option String}
    (hok : retireOwnerlessCycleForTerminalEvent db wakeId nowMs = .ok after) :
    after = { db with cycles := after.cycles } := by
  unfold retireOwnerlessCycleForTerminalEvent at hok
  split at hok
  · cases of_pure hok
    rfl
  split at hok
  · cases of_pure hok
    rfl
  split at hok
  · cases of_pure hok
    rfl
  · obtain ⟨_, _, hok⟩ := of_orFault hok
    cases of_pure hok
    rfl

/-- Retiring an ownerless cycle never faults. -/
theorem retireOwnerlessCycleForTerminalEvent_total (db : Sidecar)
    (wakeId : Option String) (nowMs : Int) :
    ∃ after, retireOwnerlessCycleForTerminalEvent db wakeId nowMs =
      .ok after := by
  unfold retireOwnerlessCycleForTerminalEvent
  split
  · exact ⟨db, rfl⟩
  split
  · exact ⟨db, rfl⟩
  rename_i cycle hcycle
  split
  · exact ⟨db, rfl⟩
  · obtain ⟨hstored, hnamed⟩ := filter_eq_some_iff.mp hcycle
    have hid : cycle.cycleId = _ := key_of_get? hstored
    refine ⟨db.updateCycle cycle.cycleId fun row =>
      { row with state := .silent, updatedAtMs := nowMs }, ?_⟩
    have hread : getCycle (db.updateCycle cycle.cycleId fun row =>
        { row with state := .silent, updatedAtMs := nowMs }) cycle.cycleId =
        some { cycle with state := .silent, updatedAtMs := nowMs } := by
      rw [← hid] at hstored
      simp only [getCycle, Sidecar.updateCycle, get?_update, hstored,
        map_some, decide_true, if_true]
      exact filter_eq_some_iff.mpr ⟨rfl, hnamed⟩
    rw [updateCycleState, hread]
    rfl

/-- Quarantine closes the wake only when no sibling continues it. -/
theorem quarantineEvent_trace [Host] {reason : String}
    (hok : quarantineEvent db current reason nowMs = .ok after) :
    Trace permit db after := by
  unfold quarantineEvent at hok
  have hclose : Trace permit db (db.updateEvent current.id (fun _ => true)
      fun row => row.quarantinedFor reason) := by
    refine Moved.trace (.updateEvent ?_)
    intro _ _ _
    exact .close ⟨rfl, rfl, rfl, rfl, rfl, rfl⟩ rfl rfl rfl
  have hself : ∀ row, (db.updateEvent current.id (fun _ => true)
      fun row => row.quarantinedFor reason).events.get? current.id = some row →
      row.isDurableContinuation = false := by
    intro _ hrow
    obtain ⟨_, _, hrow⟩ := Sidecar.of_get?_updateEvent hrow
    rw [if_pos ⟨rfl, rfl⟩] at hrow
    rw [hrow]
    rfl
  simp only at hok
  split at hok
  · split at hok
    · rename_i hlast
      obtain ⟨_, hterminal, hok⟩ := of_bind hok
      refine (hclose.trans (wakeToTerminal_trace hterminal ?_)).trans
        (retireOwnerlessCycleForTerminalEvent_trace hok)
      intro _ _ _
      exact .of_durable (noEventOn_of_noOther
        (by simpa [hasOtherDurableContinuationForWake] using hlast.2) hself)
    · obtain ⟨_, hsame, hok⟩ := of_bind hok
      cases of_pure hsame
      exact hclose.trans (retireOwnerlessCycleForTerminalEvent_trace hok)
  · obtain ⟨_, hsame, hok⟩ := of_bind hok
    cases of_pure hsame
    exact hclose.trans (retireOwnerlessCycleForTerminalEvent_trace hok)

theorem wakeToTerminal_frame
    (hok : wakeToTerminal db wakeId reason nowMs = .ok after) :
    after = { db with wakes := after.wakes } := by
  obtain ⟨_, _, hok⟩ := of_bind hok
  split at hok
  · replace hok := passed hok
    cases of_pure hok
    rfl
  · cases of_pure hok
    rfl

/-- Quarantine rewrites one event, and otherwise only wakes and cycles. -/
theorem quarantineEvent_frame {reason : String}
    (hok : quarantineEvent db current reason nowMs = .ok after) :
    after = { db.updateEvent current.id (fun _ => true)
        (fun row => row.quarantinedFor reason) with
      wakes := after.wakes, cycles := after.cycles } := by
  unfold quarantineEvent at hok
  simp only at hok
  split at hok
  · split at hok
    · obtain ⟨_, hterminal, hok⟩ := of_bind hok
      rw [retireOwnerlessCycleForTerminalEvent_frame hok,
        wakeToTerminal_frame hterminal]
    · obtain ⟨_, hsame, hok⟩ := of_bind hok
      cases of_pure hsame
      rw [retireOwnerlessCycleForTerminalEvent_frame hok]
  · obtain ⟨_, hsame, hok⟩ := of_bind hok
    cases of_pure hsame
    rw [retireOwnerlessCycleForTerminalEvent_frame hok]

theorem hasOtherDurableContinuationForWake_iff :
    hasOtherDurableContinuationForWake db wakeId eventId = true ↔
      ∃ id row, db.events.get? id = some row ∧ row.wakeId = some wakeId ∧
        id ≠ eventId ∧ row.isDurableContinuation = true := by
  simp only [hasOtherDurableContinuationForWake, List.any_eq_true,
    Bool.and_eq_true, decide_eq_true_eq]
  constructor
  · rintro ⟨row, hrow, ⟨howner, hne⟩, hdurable⟩
    exact ⟨row.id, row, get?_key hrow, howner, hne, hdurable⟩
  · rintro ⟨id, row, hrow, howner, hne, hdurable⟩
    have hid : row.id = id := key_of_get? hrow
    exact ⟨row, mem_of_get? hrow, ⟨howner, by rw [hid]; exact hne⟩,
      hdurable⟩

/-- The sibling query does not look at the event itself. -/
theorem hasOtherDurableContinuationForWake_updateEvent
    {guard : InboxEvent → Bool} {f : InboxEvent → InboxEvent}
    {hkey : ∀ row, key (f row) = key row} :
    hasOtherDurableContinuationForWake (db.updateEvent eventId guard f hkey)
        wakeId eventId =
      hasOtherDurableContinuationForWake db wakeId eventId := by
  rw [Bool.eq_iff_iff, hasOtherDurableContinuationForWake_iff,
    hasOtherDurableContinuationForWake_iff]
  constructor
  · rintro ⟨id, row, hrow, howner, hne, hdurable⟩
    rw [Sidecar.get?_updateEvent_of_ne hne] at hrow
    exact ⟨id, row, hrow, howner, hne, hdurable⟩
  · rintro ⟨id, row, hrow, howner, hne, hdurable⟩
    exact ⟨id, row, by rw [Sidecar.get?_updateEvent_of_ne hne]; exact hrow,
      howner, hne, hdurable⟩

theorem wakeToTerminal_ok_iff (hwake : db.wakes.get? wakeId = some wake)
    (reason : WakeTerminalReason) (nowMs : Int) :
    (∃ after, wakeToTerminal db wakeId reason nowMs = .ok after) ↔
      (wake.state = .terminal → wake.acceptsEnding reason = true) := by
  rw [wakeToTerminal, getWakeRequired, getWake, hwake, orFault_some, ok_bind]
  by_cases hterminal : wake.state = .terminal
  · rw [if_pos hterminal]
    by_cases haccepts : wake.acceptsEnding reason = true
    · rw [require_pos haccepts]
      exact ⟨fun _ _ => haccepts, fun _ => ⟨db, rfl⟩⟩
    · rw [require_neg haccepts]
      constructor
      · rintro ⟨_, hok⟩
        cases hok
      · exact fun hneeds => absurd (hneeds hterminal) haccepts
  · rw [if_neg hterminal]
    exact ⟨fun _ hclash => absurd hclash hterminal, fun _ => ⟨_, rfl⟩⟩

theorem acceptsEnding_quarantined :
    wake.acceptsEnding .quarantined = true ↔
      wake.terminalReason = some .quarantined := by
  simp [Wake.acceptsEnding, lateResultAfterCancellation]

/-- Quarantine faults exactly when the event is the last continuation of a wake
that has already ended otherwise. -/
theorem quarantineEvent_ok_iff {reason : String}
    (howner : current.wakeId = some wakeId) (hnamed : wakeId ≠ "")
    (hwake : db.wakes.get? wakeId = some wake) :
    (∃ after, quarantineEvent db current reason nowMs = .ok after) ↔
      (hasOtherDurableContinuationForWake db wakeId current.id = false →
        wake.state = .terminal → wake.terminalReason = some .quarantined) := by
  have hfilter : current.wakeId.filter (· ≠ "") = some wakeId := by
    simp [howner, hnamed]
  unfold quarantineEvent
  simp only [hfilter, hasOtherDurableContinuationForWake_updateEvent]
  have hstored : getWake (db.updateEvent current.id (fun _ => true)
      fun row => row.quarantinedFor reason) wakeId = some wake := hwake
  cases hother : hasOtherDurableContinuationForWake db wakeId current.id with
  | true =>
    simp only [Bool.true_eq_false, not_true_eq_false, and_false, if_false,
      false_implies, iff_true]
    obtain ⟨after, hafter⟩ := retireOwnerlessCycleForTerminalEvent_total
      (db.updateEvent current.id (fun _ => true)
        fun row => row.quarantinedFor reason) current.wakeId nowMs
    exact ⟨after, hafter⟩
  | false =>
    simp only [hstored, isSome_some, Bool.false_eq_true,
      not_false_eq_true, and_self, if_true, true_implies]
    rw [← acceptsEnding_quarantined]
    refine Iff.trans ?_ (wakeToTerminal_ok_iff hstored .quarantined nowMs)
    constructor
    · rintro ⟨_, hok⟩
      obtain ⟨closed, hclose, _⟩ := of_bind hok
      exact ⟨closed, hclose⟩
    · rintro ⟨closed, hclose⟩
      obtain ⟨after, hafter⟩ := retireOwnerlessCycleForTerminalEvent_total
        closed current.wakeId nowMs
      exact ⟨after, bind_ok.mpr ⟨closed, hclose, hafter⟩⟩

end CognitiveSidecar
