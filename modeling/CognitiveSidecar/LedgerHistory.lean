/-
What a stored row keeps for good: along any trace an event keeps its identity,
its first attempt and its ending, and a settled attempt keeps its record.
-/
import CognitiveSidecar.LedgerInvariants

namespace CognitiveSidecar

variable {permit : Permit}

open Relational

/-- The later row of an event. -/
structure EventDescends (permit : Permit) (old new : InboxEvent) : Prop where
  id : new.id = old.id
  same : SameEvent old new
  attemptCount : old.attemptCount ≤ new.attemptCount
  firstAttemptAtMs : ∀ startedAtMs, old.firstAttemptAtMs = some startedAtMs →
    new.firstAttemptAtMs = some startedAtMs
  closed : old.isClosed = true → new.isClosed = true
  unresolved : old.isClosed = true ∨ old.state = .reconciling →
    new.isClosed = true ∨ new.state = .reconciling ∨ permit.resumes old.id

theorem EventDescends.refl (permit : Permit) (row : InboxEvent) :
    EventDescends permit row row where
  id := rfl
  same := .refl row
  attemptCount := Nat.le_refl _
  firstAttemptAtMs := fun _ hfirst => hfirst
  closed := fun hclosed => hclosed
  unresolved := fun hheld => hheld.imp_right .inl

theorem EventDescends.trans {a b c : InboxEvent}
    (hab : EventDescends permit a b) (hbc : EventDescends permit b c) :
    EventDescends permit a c where
  id := hbc.id.trans hab.id
  same := hab.same.trans hbc.same
  attemptCount := hab.attemptCount.trans hbc.attemptCount
  firstAttemptAtMs := fun startedAtMs hfirst =>
    hbc.firstAttemptAtMs startedAtMs (hab.firstAttemptAtMs startedAtMs hfirst)
  closed := fun hclosed => hbc.closed (hab.closed hclosed)
  unresolved := by
    intro hheld
    rcases hab.unresolved hheld with hclosed | hrec | hresumes
    · exact hbc.unresolved (.inl hclosed) |>.imp_right fun hlater =>
        hlater.imp_right fun hresumes => hab.id ▸ hresumes
    · exact hbc.unresolved (.inr hrec) |>.imp_right fun hlater =>
        hlater.imp_right fun hresumes => hab.id ▸ hresumes
    · exact .inr (.inr hresumes)

theorem EventChange.descends {after : Sidecar} {old new : InboxEvent}
    (hchange : EventChange permit after old new) (hid : new.id = old.id) :
    EventDescends permit old new where
  id := hid
  same := hchange.same
  attemptCount := Nat.le_of_eq hchange.attemptCount.symm
  firstAttemptAtMs := fun _ hfirst => hchange.firstAttemptAtMs.trans hfirst
  closed := hchange.closed
  unresolved := by
    rintro (hclosed | hrec)
    · exact .inl (hchange.closed hclosed)
    · rcases hchange.resumed hrec with hstill | hclosed | ⟨hresumes, _⟩
      · exact .inr (.inl hstill)
      · exact .inl hclosed
      · exact .inr (.inr hresumes)

/-- The later row of an attempt. -/
structure AttemptDescends (old new : Attempt) : Prop where
  eventId : new.eventId = old.eventId
  ordinal : new.ordinal = old.ordinal
  stays : old.finishedAtMs.isSome = true →
    new.finishedAtMs = old.finishedAtMs ∧
      new.dispatchTruth = old.dispatchTruth ∧
      new.failureClass = old.failureClass ∧
      (old.errorCode.isSome = true → new.errorCode = old.errorCode)

theorem AttemptDescends.refl (row : Attempt) : AttemptDescends row row :=
  ⟨rfl, rfl, fun _ => ⟨rfl, rfl, rfl, fun _ => rfl⟩⟩

theorem AttemptDescends.trans {a b c : Attempt} (hab : AttemptDescends a b)
    (hbc : AttemptDescends b c) : AttemptDescends a c where
  eventId := hbc.eventId.trans hab.eventId
  ordinal := hbc.ordinal.trans hab.ordinal
  stays := by
    intro hfinished
    obtain ⟨hfinish, htruth, hclass, hcode⟩ := hab.stays hfinished
    obtain ⟨hfinish', htruth', hclass', hcode'⟩ :=
      hbc.stays (by rw [hfinish]; exact hfinished)
    refine ⟨hfinish'.trans hfinish, htruth'.trans htruth,
      hclass'.trans hclass, ?_⟩
    intro hsome
    have hsame := hcode hsome
    exact (hcode' (by rw [hsame]; exact hsome)).trans hsame

section Traces

variable [Host] {permit : Permit} {before after : Sidecar}
variable {id : String} {wake : Wake}
variable {event : InboxEvent} {attempt : Attempt} {cycle : Cycle}

theorem Moved.event_forward (hmoved : Moved permit before after)
    (hevent : before.events.get? id = some event) :
    ∃ event', after.events.get? id = some event' ∧
      EventDescends permit event event' := by
  cases hmoved with
  | shift _ _ hevents =>
    obtain ⟨event', hevent', hchange⟩ := hevents.forward hevent
    refine ⟨event', hevent', hchange.descends ?_⟩
    have hid : event.id = id := key_of_get? hevent
    have hid' : event'.id = id := key_of_get? hevent'
    rw [hid, hid']
  | admission _ _ _ _ _ _ _ hevents =>
    rw [hevents]
    exact ⟨event, hevent, .refl permit event⟩
  | append _ _ _ _ hevents =>
    exact ⟨event, get?_insert_of_some hevents hevent,
      .refl permit event⟩
  | lease old new _ _ hleases hevents =>
    by_cases hid : id = old.id
    · subst hid
      have hnew : after.events.get? old.id = some new := by
        rw [hevents, if_pos rfl]
      cases hleases.stored.symm.trans hevent
      refine ⟨new, hnew, key_of_get? hnew, hleases.same, ?_, ?_, ?_, ?_⟩
      · rw [hleases.attemptCount]
        exact Nat.le_succ _
      · intro _ hfirst
        rw [hleases.firstAttemptAtMs, hfirst]
        rfl
      · intro hclosed
        simp [InboxEvent.isClosed, hleases.pending] at hclosed
      · intro hheld
        simp [InboxEvent.isClosed, hleases.pending] at hheld
    · exact ⟨event, by rw [hevents, if_neg hid]; exact hevent,
        .refl permit event⟩

/-- An event is never removed, and its row descends from the stored one. -/
theorem Trace.event_forward (htrace : Trace permit before after)
    (hevent : before.events.get? id = some event) :
    ∃ event', after.events.get? id = some event' ∧
      EventDescends permit event event' := by
  induction htrace with
  | refl => exact ⟨event, hevent, .refl permit event⟩
  | tail _ hmoved ih =>
    obtain ⟨_, hmid, hfirst⟩ := ih
    obtain ⟨event', hevent', hlast⟩ := hmoved.event_forward hmid
    exact ⟨event', hevent', hfirst.trans hlast⟩

theorem Moved.attempt_forward (hmoved : Moved permit before after)
    (hattempt : before.attempts.get? id = some attempt) :
    ∃ attempt', after.attempts.get? id = some attempt' ∧
      AttemptDescends attempt attempt' := by
  cases hmoved with
  | shift _ _ _ hattempts =>
    obtain ⟨attempt', hattempt', hchange⟩ := hattempts.forward hattempt
    exact ⟨attempt', hattempt', hchange.eventId, hchange.ordinal,
      hchange.stays⟩
  | admission _ _ _ _ _ _ _ _ hattempts | append _ _ _ _ _ _ hattempts =>
    rw [hattempts]
    exact ⟨attempt, hattempt, .refl attempt⟩
  | lease _ _ _ _ _ _ hattempts =>
    exact ⟨attempt, get?_insert_of_some hattempts hattempt,
      .refl attempt⟩

/-- An attempt is never removed, and its row descends from the stored one. -/
theorem Trace.attempt_forward (htrace : Trace permit before after)
    (hattempt : before.attempts.get? id = some attempt) :
    ∃ attempt', after.attempts.get? id = some attempt' ∧
      AttemptDescends attempt attempt' := by
  induction htrace with
  | refl => exact ⟨attempt, hattempt, .refl attempt⟩
  | tail _ hmoved ih =>
    obtain ⟨_, hmid, hfirst⟩ := ih
    obtain ⟨attempt', hattempt', hlast⟩ := hmoved.attempt_forward hmid
    exact ⟨attempt', hattempt', hfirst.trans hlast⟩

theorem Moved.terminal_wake (hmoved : Moved permit before after)
    (hwake : before.wakes.get? id = some wake)
    (hterminal : wake.state = .terminal) : after.wakes.get? id = some wake := by
  cases hmoved with
  | shift _ hwakes =>
    obtain ⟨_, hwake', hchange⟩ := hwakes.forward hwake
    rw [hwake', hchange.terminal hterminal]
  | admission _ _ _ _ _ hwakes => exact get?_insert_of_some hwakes hwake
  | append _ _ _ _ _ hwakes | lease _ _ _ _ _ _ _ _ hwakes =>
    rw [hwakes]
    exact hwake

/-- The row of a terminal wake never changes. -/
theorem Trace.terminal_wake (htrace : Trace permit before after)
    (hwake : before.wakes.get? id = some wake)
    (hterminal : wake.state = .terminal) : after.wakes.get? id = some wake := by
  induction htrace with
  | refl => exact hwake
  | tail _ hmoved ih => exact hmoved.terminal_wake ih hterminal

/-- Every cycle stays, and changes as cycles may. -/
theorem Trace.cycle_forward (htrace : Trace permit before after)
    (hcycle : before.cycles.get? id = some cycle) :
    ∃ new, after.cycles.get? id = some new ∧ CycleChange cycle new := by
  induction htrace with
  | refl => exact ⟨cycle, hcycle, .refl cycle⟩
  | tail _ hmoved ih =>
    obtain ⟨mid, hmid, hfirst⟩ := ih
    cases hmoved with
    | shift _ _ _ _ hcycles =>
      obtain ⟨new, hnew, hsecond⟩ := hcycles.forward hmid
      exact ⟨new, hnew, hfirst.trans hsecond⟩
    | admission _ _ _ _ _ _ hcycles =>
      exact ⟨mid, get?_insert_of_some hcycles hmid, hfirst⟩
    | append _ _ _ _ _ _ _ hcycles | lease _ _ _ _ _ _ _ _ _ hcycles =>
      rw [hcycles]
      exact ⟨mid, hmid, hfirst⟩

/-- Without an admission every cycle was there before. -/
theorem Trace.cycle_backward (htrace : Trace permit before after)
    (hnone : ∀ wake, ¬ permit.admits wake)
    (hcycle : after.cycles.get? id = some cycle) :
    ∃ old, before.cycles.get? id = some old ∧ CycleChange old cycle := by
  induction htrace generalizing cycle with
  | refl => exact ⟨cycle, hcycle, .refl cycle⟩
  | tail _ hmoved ih =>
    cases hmoved with
    | shift _ _ _ _ hcycles =>
      obtain ⟨_, hmid, hsecond⟩ := hcycles.backward hcycle
      obtain ⟨old, hold, hfirst⟩ := ih hmid
      exact ⟨old, hold, hfirst.trans hsecond⟩
    | admission wake _ _ _ hpermitted =>
      exact absurd hpermitted (hnone wake)
    | append _ _ _ _ _ _ _ hcycles | lease _ _ _ _ _ _ _ _ _ hcycles =>
      rw [hcycles] at hcycle
      exact ih hcycle

/-- A wake is never removed, and stays with its cycle. -/
theorem Trace.wake_forward (htrace : Trace permit before after)
    (hwake : before.wakes.get? id = some wake) :
    ∃ new, after.wakes.get? id = some new ∧ new.cycleId = wake.cycleId := by
  induction htrace with
  | refl => exact ⟨wake, hwake, rfl⟩
  | tail _ hmoved ih =>
    obtain ⟨mid, hmid, hcycle⟩ := ih
    cases hmoved with
    | shift _ hwakes =>
      obtain ⟨new, hnew, hchange⟩ := hwakes.forward hmid
      exact ⟨new, hnew, hchange.cycleId.trans hcycle⟩
    | admission _ _ _ _ _ hwakes =>
      exact ⟨mid, get?_insert_of_some hwakes hmid, hcycle⟩
    | append _ _ _ _ _ hwakes | lease _ _ _ _ _ _ _ _ hwakes =>
      rw [hwakes]
      exact ⟨mid, hmid, hcycle⟩

end Traces

end CognitiveSidecar
