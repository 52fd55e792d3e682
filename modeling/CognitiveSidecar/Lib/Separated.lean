/-
Fields joined by a colon: the last colon splits the text again when the last
field, such as a number, holds none.  The pieces of a text hold no separator.
-/
import Mathlib.Data.List.Basic

namespace Relational

open List

universe u

variable {α : Type u} {c : α} {first first' last last' : List α}

/-- The last separator tells the parts. -/
theorem append_cons_inj (heq : first ++ c :: last = first' ++ c :: last')
    (hlast : c ∉ last) (hlast' : c ∉ last') :
    first = first' ∧ last = last' := by
  rcases append_eq_append_iff.mp heq with
    ⟨rest, rfl, hrest⟩ | ⟨rest, rfl, hrest⟩
  · cases rest with
    | nil =>
      obtain ⟨_, rfl⟩ := List.cons.inj hrest
      exact ⟨(append_nil first).symm, rfl⟩
    | cons =>
      obtain ⟨_, rfl⟩ := List.cons.inj hrest
      exact absurd (mem_append_right _ mem_cons_self) hlast
  · cases rest with
    | nil =>
      obtain ⟨_, rfl⟩ := List.cons.inj hrest
      exact ⟨append_nil first', rfl⟩
    | cons =>
      obtain ⟨_, rfl⟩ := List.cons.inj hrest
      exact absurd (mem_append_right _ mem_cons_self) hlast'

/-- Texts that begin differently differ. -/
theorem joined_ne {given given' rest rest' : String}
    (hgiven : ¬ given.toList <+: given'.toList)
    (hgiven' : ¬ given'.toList <+: given.toList) :
    given ++ rest ≠ given' ++ rest' := by
  intro heq
  have hlists := congrArg String.toList heq
  rw [String.toList_append, String.toList_append] at hlists
  have hfirst : given.toList <+: given'.toList ++ rest'.toList :=
    hlists ▸ prefix_append _ _
  have hsecond : given'.toList <+: given'.toList ++ rest'.toList :=
    prefix_append _ _
  rcases prefix_or_prefix_of_prefix hfirst hsecond with hle | hle
  · exact hgiven hle
  · exact hgiven' hle

/-- Texts that begin alike differ in the rest. -/
theorem joined_inj {given rest rest' : String}
    (heq : given ++ rest = given ++ rest') : rest = rest' := by
  have hlists := congrArg String.toList heq
  rw [String.toList_append, String.toList_append] at hlists
  exact String.toList_inj.mp (append_cancel_left hlists)

/-- A number is written without a colon. -/
theorem colon_notMem_toString (n : Int) : ':' ∉ (toString n).toList := by
  have hdigits : ∀ k : Nat, ':' ∉ (Nat.repr k).toList := by
    intro k hcolon
    rw [Nat.toList_repr] at hcolon
    have hdigit := Nat.isDigit_of_mem_toDigits (by decide) (by decide) hcolon
    exact absurd hdigit (by decide)
  cases n with
  | ofNat k => exact hdigits k
  | negSucc k =>
    intro hcolon
    have hsplit : (toString (Int.negSucc k)).toList =
        '-' :: (Nat.repr (k + 1)).toList := by
      rw [show toString (Int.negSucc k) = "-" ++ Nat.repr (k + 1) from rfl,
        String.toList_append]
      rfl
    rw [hsplit] at hcolon
    rcases mem_cons.mp hcolon with hsign | hrest
    · exact absurd hsign (by decide)
    · exact hdigits (k + 1) hrest

/-- A text and a number joined by a colon are both told by the whole. -/
theorem joined_number_inj {text text' : String} {m n : Int}
    (heq : text ++ ":" ++ toString m = text' ++ ":" ++ toString n) :
    text = text' ∧ toString m = toString n := by
  have hlists := congrArg String.toList heq
  rw [String.toList_append, String.toList_append, String.toList_append,
    String.toList_append, append_assoc, append_assoc] at hlists
  obtain ⟨htext, hnumber⟩ := append_cons_inj
    (show text.toList ++ ':' :: (toString m).toList =
      text'.toList ++ ':' :: (toString n).toList from hlists)
    (colon_notMem_toString m) (colon_notMem_toString n)
  exact ⟨String.toList_inj.mp htext, String.toList_inj.mp hnumber⟩

section Pieces

variable [BEq α] [LawfulBEq α] {separator : α}
variable {text piece : List α} {pieces : List (List α)}

/-- A piece of a text has characters of the text, and no separator. -/
theorem of_mem_splitOn (hpiece : piece ∈ text.splitOn separator)
    (hc : c ∈ piece) : c ∈ text ∧ c ≠ separator := by
  induction text generalizing piece with
  | nil =>
    rw [splitOn_nil, mem_singleton] at hpiece
    rw [hpiece] at hc
    cases hc
  | cons first rest ih =>
    have hlater : ∀ {other}, other ∈ rest.splitOn separator → c ∈ other →
        c ∈ first :: rest ∧ c ≠ separator := fun hother hin =>
      (ih hother hin).imp_left (mem_cons_of_mem first)
    rw [splitOn_cons_eq_if_modifyHead] at hpiece
    split at hpiece
    · rcases mem_cons.mp hpiece with rfl | hpiece
      · cases hc
      · exact hlater hpiece hc
    · rename_i hfirst
      cases hsplit : rest.splitOn separator with
      | nil => exact absurd hsplit (splitOn_ne_nil _ _)
      | cons head others =>
        rw [hsplit, modifyHead_cons] at hpiece
        rcases mem_cons.mp hpiece with rfl | hpiece
        · rcases mem_cons.mp hc with rfl | hc
          · exact ⟨mem_cons_self, by simpa using hfirst⟩
          · exact hlater (by rw [hsplit]; exact mem_cons_self) hc
        · exact hlater (by rw [hsplit]; exact mem_cons_of_mem _ hpiece) hc

omit [BEq α] [LawfulBEq α] in
/-- A joined text has separators, and characters of its pieces. -/
theorem of_mem_intercalate (hc : c ∈ [separator].intercalate pieces) :
    c = separator ∨ ∃ piece ∈ pieces, c ∈ piece := by
  induction pieces with
  | nil => cases hc
  | cons first rest ih =>
    by_cases hrest : rest = []
    · rw [hrest, intercalate_singleton] at hc
      exact .inr ⟨first, mem_cons_self, hc⟩
    · rw [intercalate_cons_of_ne_nil hrest, mem_append,
        mem_append, mem_singleton] at hc
      rcases hc with (hc | hc) | hc
      · exact .inr ⟨first, mem_cons_self, hc⟩
      · exact .inl hc
      · exact (ih hc).imp_right fun ⟨piece, hpiece, hc⟩ =>
          ⟨piece, mem_cons_of_mem first hpiece, hc⟩

end Pieces

end Relational
