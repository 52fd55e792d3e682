/-
Future triggers as moves.
-/
import CognitiveSidecar.FutureTriggers
import CognitiveSidecar.InboxMoves

namespace CognitiveSidecar

open Relational

variable [Host] {permit : Permit} {db after : Sidecar}
variable {triggerId wakeId : String} {nowMs : Int}
variable {guard : FutureTrigger → Bool} {trigger : FutureTrigger}

theorem updateTrigger_moved {f : FutureTrigger → FutureTrigger}
    {hkey : ∀ row, key (f row) = key row} :
    Moved permit db (updateTrigger db triggerId guard f hkey) :=
  .aside (Nat.le_refl _) rfl rfl rfl rfl

theorem scheduleFutureTrigger_trace {input : ScheduleFutureTriggerInput}
    (hok : scheduleFutureTrigger db input = .ok (trigger, after)) :
    Trace permit db after := by
  replace hok := passed hok
  replace hok := passed hok
  replace hok := passed hok
  replace hok := passed hok
  cases hknown : getFutureTrigger db input.triggerId with
  | none =>
    simp only [hknown] at hok
    obtain ⟨_, _, hok⟩ := of_orFault hok
    cases of_pure hok
    exact Moved.trace (.aside (Nat.le_refl _) rfl rfl rfl rfl)
  | some =>
    simp only [hknown] at hok
    split at hok
    · obtain ⟨_, _, hok⟩ := of_orFault hok
      cases of_pure hok
      exact updateTrigger_moved.trace
    · replace hok := passed hok
      cases of_pure hok
      exact .refl db

theorem bindTriggerWake_cases {status : FutureTriggerStatus}
    (hok : bindTriggerWake db triggerId wakeId status guard = .ok after) :
    Trace permit db after ∧ after.wakes = db.wakes ∧
      after.events = db.events := by
  replace hok := passed hok
  cases of_pure hok
  exact ⟨updateTrigger_moved.trace, rfl, rfl⟩

theorem ensureTriggerEvent_trace {event : InboxEvent} (hlinked : Linked db)
    (hadmits : ∀ wake, permit.admits wake)
    (hok : ensureTriggerEvent db trigger wakeId nowMs = .ok (event, after)) :
    Trace permit db after := by
  unfold ensureTriggerEvent at hok
  cases hknown : getInboxEvent db trigger.eventId with
  | some =>
    simp only [hknown] at hok
    cases of_pure hok
    exact .refl db
  | none =>
    simp only [hknown] at hok
    exact appendInboxEventInTransaction_trace hlinked hadmits hok

/-- The occurrence of a future trigger. -/
def FutureTrigger.occurrenceId (trigger : FutureTrigger) : String :=
  occurrenceIdFor .futureTrigger trigger.triggerId trigger.conversationId

/-- A stale verdict finishes the wake that the trigger already has, when that
wake waits without a lease. -/
theorem matureFutureTriggerToWake_trace {stale : Option TriggerStaleVerdict}
    {capturedTriggerGeneration : Option Int} {capturedAuthorityRevision : Int}
    {kind : Option FutureTriggerMaturityKind} (hlinked : Linked db)
    (hadmits : ∀ wake, permit.admits wake)
    (hok : matureFutureTriggerToWake db triggerId nowMs stale
      capturedTriggerGeneration capturedAuthorityRevision = .ok (kind, after))
    (hclosable : ∀ trigger wake, getFutureTrigger db triggerId = some trigger →
      isTriggerOpen trigger = true → stale = some .other →
      wakeOfOccurrence db trigger.occurrenceId = some wake →
      ¬ wake.isFenced → Closable permit db wake.wakeId) :
    Trace permit db after := by
  unfold matureFutureTriggerToWake at hok
  cases htrigger : getFutureTrigger db triggerId with
  | none =>
    simp only [htrigger] at hok
    cases of_pure hok
    exact .refl db
  | some current =>
    simp only [htrigger] at hok
    split at hok
    · cases of_pure hok
      exact .refl db
    obtain ⟨⟨admission, mid⟩, hadmit, hok⟩ := of_bind hok
    have hadmitted : Trace permit db mid :=
      admitWakeInTransaction_trace hlinked (fun wake _ _ => hadmits wake)
        hadmit
    have hcases := admitWakeInTransaction_cases hlinked hadmit
    split at hok
    · cases of_pure hok
      exact hadmitted
    · cases of_pure hok
      exact hadmitted
    split at hok
    · cases of_pure hok
      exact hadmitted
    split at hok
    · -- A changed snapshot waits for review with its event in the inbox.
      obtain ⟨_, hbind, hok⟩ := of_bind hok
      obtain ⟨⟨_, _⟩, hensure, hok⟩ := of_bind hok
      cases of_pure hok
      have hbound := hadmitted.trans (bindTriggerWake_cases hbind).1
      exact hbound.trans
        (ensureTriggerEvent_trace (hlinked.trace hbound) hadmits hensure)
    · rename_i hverdict
      obtain ⟨bound, hbind, hok⟩ := of_bind hok
      obtain ⟨htrace, hwakes, hevents⟩ := bindTriggerWake_cases hbind
      have hbound := hadmitted.trans htrace
      split at hok
      · cases of_pure hok
        exact hbound
      obtain ⟨_, hfinish, hok⟩ := of_bind hok
      cases of_pure hok
      refine hbound.trans (finishWakeInTransaction_trace hfinish ?_)
      intro _ hwake hopen
      rw [hwakes] at hwake
      have hopenTrigger : isTriggerOpen current = true ∧
          stale = some .other := by
        by_cases hopenCurrent : isTriggerOpen current = true
        · rw [if_pos hopenCurrent] at hverdict
          exact ⟨hopenCurrent, hverdict⟩
        · rw [if_neg hopenCurrent] at hverdict
          cases hverdict
      obtain ⟨_, _, ⟨hfound, _, hmid⟩ | ⟨_, _, _, _, hadmitted, _, _, _, _,
        hmid⟩⟩ := hcases
      · rw [hmid] at hwake hevents
        have hstored := wakeOfOccurrence_stored hfound
        cases hstored.symm.trans hwake
        exact (hclosable current admission.wake htrigger hopenTrigger.1
          hopenTrigger.2 hfound hopen).congr hevents
      · -- A wake admitted just now has no event yet.
        have hnone : ∀ p, NoEventOn bound p admission.wake.wakeId := by
          intro p id event hevent howner
          rw [hevents, hmid] at hevent
          obtain ⟨_, wakeId, stored, howner', hstored, _⟩ :=
            hlinked.eventWake id event hevent
          have hid : wakeId = admission.wake.wakeId :=
            Option.some.inj (howner'.symm.trans howner)
          rw [hid] at hstored
          obtain ⟨_, cycle, hcycle, hback, _⟩ :=
            hlinked.wakeCycle _ stored hstored
          exact absurd hback (hadmitted.soleCycle _ cycle hcycle)
        exact ⟨fun _ => hnone _, fun _ => hnone _⟩
    · obtain ⟨_, hbind, hok⟩ := of_bind hok
      obtain ⟨⟨_, _⟩, hensure, hok⟩ := of_bind hok
      cases of_pure hok
      have hbound := hadmitted.trans (bindTriggerWake_cases hbind).1
      exact hbound.trans
        (ensureTriggerEvent_trace (hlinked.trace hbound) hadmits hensure)

theorem cancelTriggerWake_trace
    (hok : cancelTriggerWake db wakeId nowMs = .ok after)
    (hclosable : ∀ wake, db.wakes.get? wakeId = some wake →
      wake.isCancellable = true → hasAmbiguousEffect db wakeId = false →
      Closable permit db wakeId) : Trace permit db after := by
  unfold cancelTriggerWake at hok
  cases hwake : db.wakes.get? wakeId with
  | none =>
    simp only [getWake, hwake] at hok
    cases of_pure hok
    exact .refl db
  | some wake =>
    simp only [getWake, hwake] at hok
    by_cases hterminal : wake.state = .terminal
    · rw [if_pos hterminal] at hok
      cases of_pure hok
      exact .refl db
    rw [if_neg hterminal] at hok
    obtain ⟨⟨_, _⟩, hrecord, hok⟩ := of_bind hok
    obtain ⟨hdraw, hrecorded⟩ :=
      recordWakeCancellationInTransaction_cases hrecord
    by_cases hheld : hasAmbiguousEffect db wakeId = true ∨
        wake.state = .consequencePending ∨ wake.state = .reconciling
    · rw [if_pos hheld] at hok
      exact hdraw.trans (reconcileWakeInTransaction_trace hok)
    rw [if_neg hheld] at hok
    split at hok
    · rename_i hfinish
      cases of_pure hok
      refine hdraw.trans (finishWakeInTransaction_trace hfinish ?_)
      intro _ _ _
      have hcancellable : wake.isCancellable = true := by
        unfold Wake.isCancellable
        cases hcase : wake.state <;> simp_all
      exact (hclosable wake hwake hcancellable
        (by simp_all)).congr hrecorded.events
    · cases of_pure hok
      exact hdraw

/-- Cancelling the trigger finishes its wake. -/
def cancellationFinishes (db : Sidecar) (triggerId wakeId : String) : Prop :=
  ∃ trigger wake, getFutureTrigger db triggerId = some trigger ∧
    trigger.wakeId = some wakeId ∧
    trigger.status ≠ .cancelled ∧ trigger.status ≠ .suppressedStale ∧
    db.wakes.get? wakeId = some wake ∧ wake.isCancellable = true ∧
    hasAmbiguousEffect db wakeId = false

theorem cancelFutureTrigger_trace {changed : Bool}
    (hok : cancelFutureTrigger db triggerId nowMs = .ok (changed, after))
    (hclosable : ∀ wakeId, cancellationFinishes db triggerId wakeId →
      Closable permit db wakeId) : Trace permit db after := by
  unfold cancelFutureTrigger at hok
  cases htrigger : getFutureTrigger db triggerId with
  | none =>
    simp only [htrigger] at hok
    cases of_pure hok
    exact .refl db
  | some trigger =>
    simp only [htrigger] at hok
    split at hok
    · cases of_pure hok
      exact .refl db
    rename_i hopen
    cases howner : trigger.wakeId with
    | none =>
      simp only [howner] at hok
      obtain ⟨_, hsame, hok⟩ := of_bind hok
      cases of_pure hsame
      cases of_pure hok
      exact updateTrigger_moved.trace
    | some wakeId =>
      simp only [howner] at hok
      obtain ⟨_, hcancel, hok⟩ := of_bind hok
      cases of_pure hok
      refine updateTrigger_moved.trace.trans
        (cancelTriggerWake_trace hcancel ?_)
      intro wake hwake hcancellable heffect
      refine (hclosable wakeId ⟨trigger, wake, htrigger, howner, ?_, ?_,
        hwake, hcancellable, heffect⟩).congr rfl
      · exact fun hstatus => hopen (.inl hstatus)
      · exact fun hstatus => hopen (.inr (.inl hstatus))

end CognitiveSidecar
