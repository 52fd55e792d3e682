/-
Stranded obligations: an event that waits to be claimed on a wake that is
already closed.  Some cancellations close a wake without a look at its events;
every run that meets the stated condition at each step strands nothing.
-/
import CognitiveSidecar.System

namespace CognitiveSidecar

open Relational

/-- The same, read off the rows. -/
theorem noneStranded_iff_rows {db : Sidecar} :
    NoneStranded db ↔ ∀ event ∈ db.events.rows,
      event.isClaimableContinuation = true → ∀ wake ∈ db.wakes.rows,
        event.wakeId = some wake.wakeId → wake.state ≠ .terminal := by
  constructor
  · intro hnone event hevent hclaimable wake hwake howner
    exact hnone event.id event (get?_key hevent) hclaimable wake.wakeId
      wake howner (get?_key hwake)
  · intro hrows _ event hevent hclaimable wakeId wake howner hwake
    have hid : wake.wakeId = wakeId := key_of_get? hwake
    exact hrows event (mem_of_get? hevent) hclaimable wake
      (mem_of_get? hwake) (by rw [howner, hid])

instance (db : Sidecar) : Decidable (NoneStranded db) :=
  decidable_of_iff _ noneStranded_iff_rows.symm

theorem noneStranded_empty : NoneStranded {} := by
  intro _ _ hevent
  cases hevent

section Runs

variable [Host]

/-- A tidy step strands nothing. -/
theorem step_noneStranded {op : Op} {db : Sidecar} (htidy : op.Tidy db)
    (hsound : Sound db) (hnone : NoneStranded db) :
    NoneStranded (step op db) :=
  hnone.trace (step_trace hsound) htidy hsound

/-- A run of tidy steps strands nothing in the state it ends in. -/
theorem tidy_run_strands_nothing {ops : List Op}
    (hmeets : Meets step Op.Tidy {} ops) : NoneStranded (run step {} ops) := by
  have hboth : Sound (run step {} ops) ∧ NoneStranded (run step {} ops) := by
    refine meets_preserves (P := fun db => Sound db ∧ NoneStranded db) ?_
      ⟨sound_empty, noneStranded_empty⟩ hmeets
    rintro _ _ htidy ⟨hsound, hnone⟩
    exact ⟨step_sound hsound, step_noneStranded htidy hsound hnone⟩
  exact hboth.2

end Runs

section Plain

attribute [local instance] plainHost

/-- A trigger that is scheduled and matures into a wake with its event. -/
def matured : List Op :=
  [.scheduleTrigger
    { triggerId := "t", conversationId := "c", concernId := "k"
      snapshotHash := "h", dueAtMs := 0 },
    .matureTrigger "t" 1 none none 0]

/-- A run that claims and completes the event of a matured trigger, and then
cancels the trigger. -/
def maturedAndCompleted : List Op :=
  matured ++ [.claimNext { workerId := "w", nowMs := 2 },
    .settle
      { attemptId := "attempt:uu", eventId := "future-trigger:t"
        claimToken := "wake-lease:u", result := .completed, nowMs := 3 },
    .cancelTrigger "t" 4]

theorem tidy_run_strands_nothing_completed :
    (run step {} maturedAndCompleted).wakes.rows.map Wake.state = [.terminal] ∧
      NoneStranded (run step {} maturedAndCompleted) := by
  refine ⟨by decide +kernel, tidy_run_strands_nothing
    ⟨trivial, ?_, ?_, trivial, ?_, trivial⟩⟩
  · intro _ _ _ _ hstale
    cases hstale
  · -- Nothing is leased yet.
    intro _ event hevent _ hexpired
    have hnone : ∀ row ∈ (run step {} matured).events.rows,
        row.leaseRanOut 2 = false := by decide +kernel
    rw [hnone event (mem_of_get? hevent)] at hexpired
    cases hexpired
  · -- The completion has closed the wake.
    rintro _ ⟨_, wake, _, _, _, _, hwake, hcancellable, _⟩
    have hnone : ∀ row ∈ (run step {} (maturedAndCompleted.take 4)).wakes.rows,
        row.isCancellable = false := by decide +kernel
    rw [hnone wake (mem_of_get? hwake)] at hcancellable
    cases hcancellable

/-- Cancelling a matured trigger closes its wake over the pending event. -/
theorem cancelled_trigger_strands_event :
    ¬ NoneStranded (run step {} (matured ++ [.cancelTrigger "t" 2])) := by
  decide +kernel

end Plain

end CognitiveSidecar
