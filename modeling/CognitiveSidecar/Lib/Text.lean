/-
Text as the platform measures it: a character of the basic plane is one UTF-16
code unit and any other is two.
-/
import Mathlib.Algebra.BigOperators.Group.List.Basic
import Mathlib.Algebra.Order.Ring.Nat

namespace Relational

open List

variable {limit : Nat} {c : Char} {rest : List Char}

/-- The code units of one character. -/
def codeUnits (c : Char) : Nat := if c.toNat < 0x10000 then 1 else 2

/-- `String.prototype.length`, in UTF-16 code units. -/
def utf16Length (text : String) : Nat :=
  (text.toList.map codeUnits).sum

/-- The character that stands for half of a pair. -/
def replacementChar : Char := Char.ofNat 0xFFFD

/-- The characters that fit into a number of code units; a pair that fits only
by half leaves the replacement character. -/
def sliceChars : Nat → List Char → List Char
  | 0, _ => []
  | _ + 1, [] => []
  | limit + 1, c :: rest =>
    if c.toNat < 0x10000 then c :: sliceChars limit rest
    else match limit with
      | 0 => [replacementChar]
      | limit + 1 => c :: sliceChars limit rest

/-- `text.slice(0, limit)` as it is stored. -/
def slice (text : String) (limit : Nat) : String :=
  String.ofList (sliceChars limit text.toList)

theorem sliceChars_basic (hbasic : c.toNat < 0x10000) :
    sliceChars (limit + 1) (c :: rest) = c :: sliceChars limit rest := by
  cases limit <;> simp only [sliceChars, if_pos hbasic]

theorem sliceChars_pair (hpair : ¬ c.toNat < 0x10000) :
    sliceChars (limit + 2) (c :: rest) = c :: sliceChars limit rest := by
  simp only [sliceChars, if_neg hpair]

theorem sliceChars_half (hpair : ¬ c.toNat < 0x10000) :
    sliceChars 1 (c :: rest) = [replacementChar] := by
  simp only [sliceChars, if_neg hpair]

/-- What fits is not cut. -/
theorem sliceChars_of_le {chars : List Char}
    (hfits : (chars.map codeUnits).sum ≤ limit) :
    sliceChars limit chars = chars := by
  induction chars generalizing limit with
  | nil => cases limit <;> rfl
  | cons c _ ih =>
    rw [map_cons, sum_cons] at hfits
    by_cases hbasic : c.toNat < 0x10000
    · rw [codeUnits, if_pos hbasic] at hfits
      obtain ⟨_, rfl⟩ := Nat.exists_eq_add_of_le' (show 1 ≤ limit by omega)
      rw [sliceChars_basic hbasic, ih (by omega)]
    · rw [codeUnits, if_neg hbasic] at hfits
      obtain ⟨_, rfl⟩ := Nat.exists_eq_add_of_le' (show 2 ≤ limit by omega)
      rw [sliceChars_pair hbasic, ih (by omega)]

/-- A slice keeps its limit. -/
theorem units_sliceChars_le (limit : Nat) (chars : List Char) :
    ((sliceChars limit chars).map codeUnits).sum ≤ limit := by
  induction chars generalizing limit with
  | nil => cases limit <;> simp [sliceChars]
  | cons c _ ih =>
    by_cases hbasic : c.toNat < 0x10000
    · cases limit with
      | zero => simp [sliceChars]
      | succ limit =>
        have hrest := ih limit
        rw [sliceChars_basic hbasic, map_cons, sum_cons,
          codeUnits, if_pos hbasic]
        omega
    · match limit with
      | 0 => simp [sliceChars]
      | 1 =>
        rw [sliceChars_half hbasic]
        decide
      | limit + 2 =>
        have hrest := ih limit
        rw [sliceChars_pair hbasic, map_cons, sum_cons,
          codeUnits, if_neg hbasic]
        omega

/-- A slice is the text where the text fits, and only there. -/
theorem slice_eq_self_iff {text : String} :
    slice text limit = text ↔ utf16Length text ≤ limit := by
  constructor
  · intro hself
    have hlength : utf16Length text =
        ((sliceChars limit text.toList).map codeUnits).sum := by
      conv_lhs => rw [← hself]
      unfold utf16Length slice
      rw [String.toList_ofList]
    rw [hlength]
    exact units_sliceChars_le limit text.toList
  · intro hfits
    unfold slice
    rw [sliceChars_of_le hfits, String.ofList_toList]

end Relational
