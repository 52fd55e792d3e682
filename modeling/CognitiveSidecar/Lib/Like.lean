/-
The `LIKE` of SQL: `%` stands for any text, `_` for any character, and the case
of the basic letters does not count.
-/
import Mathlib.Data.List.Infix

namespace Relational

open List

variable {pattern text : List Char}

/-- The lower case of a basic letter. -/
def foldCase (c : Char) : Char :=
  if 'A' ≤ c ∧ c ≤ 'Z' then Char.ofNat (c.toNat + 32) else c

/-- The text matches the pattern. -/
def like : List Char → List Char → Bool
  | [], text => text.isEmpty
  | c :: pattern, text =>
    if c = '%' then text.tails.any (like pattern)
    else match text with
      | [] => false
      | d :: rest => (c = '_' || foldCase c = foldCase d) && like pattern rest

theorem like_nil : like [] [] = true := rfl

theorem like_percent :
    like ('%' :: pattern) text = true ↔
      ∃ rest, rest <:+ text ∧ like pattern rest = true := by
  have hany : like ('%' :: pattern) text = text.tails.any (like pattern) := by
    exact if_pos rfl
  rw [hany, any_eq_true]
  constructor
  · rintro ⟨rest, hrest, hlike⟩
    exact ⟨rest, (mem_tails rest text).mp hrest, hlike⟩
  · rintro ⟨rest, hrest, hlike⟩
    exact ⟨rest, (mem_tails rest text).mpr hrest, hlike⟩

/-- A character of the pattern matches itself. -/
theorem like_cons_self {c : Char} (hlike : like pattern text = true) :
    like (c :: pattern) (c :: text) = true := by
  by_cases hpercent : c = '%'
  · subst hpercent
    exact like_percent.mpr ⟨text, suffix_cons _ text, hlike⟩
  · unfold like
    rw [if_neg hpercent]
    simp [hlike]

/-- Whatever a text is, with a `%` behind it it matches all its extensions. -/
theorem like_prefix (given rest : List Char) :
    like (given ++ ['%']) (given ++ rest) = true := by
  induction given with
  | nil => exact like_percent.mpr ⟨[], nil_suffix, like_nil⟩
  | cons c _ ih => exact like_cons_self ih

end Relational
