/-
Runs of a deterministic system: a step function over inputs, the states a run
passes through, and the induction that lifts what one step keeps to what a whole
run keeps.
-/
import Mathlib.Data.List.Induction

namespace Relational

open List

universe u v

variable {σ : Type u} {ι : Type v}

/-- Execute a sequence of inputs from a state. -/
def run (step : ι → σ → σ) (s : σ) : List ι → σ
  | [] => s
  | input :: rest => run step (step input s) rest

variable {step : ι → σ → σ}
variable {s : σ}
variable {guard : ι → σ → Prop} {P : σ → Prop}

@[simp] theorem run_nil (s : σ) : run step s [] = s := rfl

@[simp] theorem run_cons (s : σ) (input : ι) (rest : List ι) :
    run step s (input :: rest) = run step (step input s) rest := rfl

theorem run_append (s : σ) (first second : List ι) :
    run step s (first ++ second) = run step (run step s first) second := by
  induction first generalizing s with
  | nil => rfl
  | cons input _ ih => exact ih (step input s)

/-- What one step keeps, a run keeps. -/
theorem run_preserves {P : σ → Prop}
    (hstep : ∀ input s, P s → P (step input s)) {s : σ} (hs : P s)
    (inputs : List ι) : P (run step s inputs) := by
  induction inputs generalizing s with
  | nil => exact hs
  | cons input _ ih => exact ih (hstep input s hs)

/-- Every step of the run meets the guard in the state it starts from. -/
def Meets (step : ι → σ → σ) (guard : ι → σ → Prop) : σ → List ι → Prop
  | _, [] => True
  | s, input :: rest => guard input s ∧ Meets step guard (step input s) rest

/-- A guarded run keeps what one guarded step keeps. -/
theorem meets_preserves {P : σ → Prop} {guard : ι → σ → Prop}
    (hstep : ∀ input s, guard input s → P s → P (step input s))
    {s : σ} (hs : P s) {inputs : List ι} (hmeets : Meets step guard s inputs) :
    P (run step s inputs) := by
  induction inputs generalizing s with
  | nil => exact hs
  | cons input _ ih => exact ih (hstep input s hmeets.1 hs) hmeets.2

theorem meets_append {first second : List ι} :
    Meets step guard s (first ++ second) ↔
      Meets step guard s first ∧ Meets step guard (run step s first) second := by
  induction first generalizing s with
  | nil => simp [Meets]
  | cons _ _ ih => simp [Meets, ih, and_assoc]

theorem meets_of_forall (hguard : ∀ input s, guard input s) (s : σ)
    (inputs : List ι) :
    Meets step guard s inputs := by
  induction inputs generalizing s with
  | nil => trivial
  | cons input _ ih => exact ⟨hguard input s, ih (step input s)⟩

/-- A state is reachable when some run from the initial state ends in it. -/
def Reachable (step : ι → σ → σ) (initial s : σ) : Prop :=
  ∃ inputs, run step initial inputs = s

/-- An invariant of the steps holds in every reachable state. -/
theorem Reachable.invariant {initial : σ} (hs : Reachable step initial s)
    (hinit : P initial) (hstep : ∀ input s, P s → P (step input s)) : P s := by
  obtain ⟨inputs, rfl⟩ := hs
  exact run_preserves hstep hinit inputs

/-- A run that leaves a set of states has a step that leaves it. -/
theorem exists_leaving_step {P : σ → Prop} {s : σ} {inputs : List ι}
    (hs : P s) (hend : ¬ P (run step s inputs)) :
    ∃ before input after, inputs = before ++ input :: after ∧
      P (run step s before) ∧ ¬ P (step input (run step s before)) := by
  classical
  induction inputs generalizing s with
  | nil => exact absurd hs hend
  | cons input rest ih =>
    by_cases hnext : P (step input s)
    · obtain ⟨before, next, after, rfl, hin, hout⟩ := ih hnext hend
      exact ⟨input :: before, next, after, rfl, hin, hout⟩
    · exact ⟨[], input, rest, rfl, hs, hnext⟩

/-- A run that ends outside a set of states has a last step that leaves it, and
stays outside from there on. -/
theorem exists_last_leaving_step {inputs : List ι} (hs : P s)
    (hend : ¬ P (run step s inputs)) :
    ∃ before input after, inputs = before ++ input :: after ∧
      P (run step s before) ∧
      ∀ first rest, after = first ++ rest →
        ¬ P (run step (step input (run step s before)) first) := by
  induction inputs using List.reverseRecOn with
  | nil => exact absurd hs hend
  | append_singleton init last ih =>
    by_cases hinit : P (run step s init)
    · refine ⟨init, last, [], rfl, hinit, ?_⟩
      intro _ _ hsplit
      obtain ⟨rfl, _⟩ := append_eq_nil_iff.mp hsplit.symm
      rw [run_append] at hend
      exact hend
    · obtain ⟨before, input, after, rfl, hbefore, hout⟩ := ih hinit
      refine ⟨before, input, after ++ [last], by simp, hbefore, ?_⟩
      intro first rest hsplit
      rcases eq_nil_or_concat rest with rfl | ⟨rest, _, rfl⟩
      · rw [append_nil] at hsplit
        subst hsplit
        rw [← run_cons, ← run_append]
        simpa using hend
      · rw [concat_eq_append, ← append_assoc] at hsplit
        exact hout first rest (append_inj_left' hsplit rfl)

end Relational
