/-
Sliding windows over a log of optional times: a log that takes a new time only
while its recent past has room stays bounded in every window.
-/
import Mathlib.Data.List.Basic

namespace Window

open List

/-- The time lies in the window of a width that begins at `start`. -/
def within (width start : Int) (time : Option Int) : Bool :=
  time.any fun at' => decide (start ≤ at') && decide (at' < start + width)

/-- The time lies in the window or after it. -/
def since (start : Int) (time : Option Int) : Bool := time.any (start ≤ ·)

/-- No window of the width holds more than `limit` times. -/
def Bounded (width : Int) (limit : Nat) (times : List (Option Int)) : Prop :=
  ∀ start, times.countP (within width start) ≤ limit

variable {width : Int} {limit : Nat} {times before after : List (Option Int)}
variable {earlier now : Int}

theorem bounded_nil : Bounded width limit [] := fun _ => Nat.zero_le _

/-- An entry without a time changes no window. -/
theorem Bounded.append_none (hbounded : Bounded width limit times) :
    Bounded width limit (times ++ [none]) := by
  intro start
  rw [countP_append]
  exact hbounded start

/-- A window that reaches `now` begins in the recent past of `earlier`. -/
theorem since_of_within {start : Int} {time : Option Int} (hle : earlier ≤ now)
    (hreaches : now < start + width) (htime : within width start time = true) :
    since (earlier - width + 1) time = true := by
  cases time with
  | none => cases htime
  | some =>
    simp only [within, since, Option.any_some, Bool.and_eq_true,
      decide_eq_true_eq] at htime ⊢
    omega

/-- An entry may take the time `now` while fewer than `limit` times lie in the
recent past of a reading that is not after it. -/
theorem Bounded.fill (hbounded : Bounded width limit (before ++ none :: after))
    (hle : earlier ≤ now)
    (hroom : (before ++ none :: after).countP (since (earlier - width + 1)) <
      limit) : Bounded width limit (before ++ some now :: after) := by
  intro start
  have hold := hbounded start
  rw [countP_append, countP_cons] at hold hroom ⊢
  by_cases hnow : within width start (some now) = true
  · have hreaches : now < start + width := by
      simp only [within, Option.any_some, Bool.and_eq_true,
        decide_eq_true_eq] at hnow
      exact hnow.2
    have hfirst : before.countP (within width start) ≤
        before.countP (since (earlier - width + 1)) :=
      countP_mono_left fun _ _ => since_of_within hle hreaches
    have hlast : after.countP (within width start) ≤
        after.countP (since (earlier - width + 1)) :=
      countP_mono_left fun _ _ => since_of_within hle hreaches
    rw [if_pos hnow]
    omega
  · rw [if_neg hnow]
    omega

end Window
