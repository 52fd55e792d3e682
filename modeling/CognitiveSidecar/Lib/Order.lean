/-
Ordered queries: the rows selected by a query in the order of a relation, and
the first of them; a list without its repetitions.
-/
import Mathlib.Data.List.Sort

namespace Relational

open List

universe u

variable {α : Type u} (r : α → α → Prop) [DecidableRel r]

/-- `ORDER BY r LIMIT 1`. -/
def firstBy (rows : List α) : Option α := (rows.insertionSort r).head?

variable {r}
variable {rows : List α}
variable {row first : α}

theorem mem_of_firstBy (hfirst : firstBy r rows = some row) :
    row ∈ rows := by
  have hmem : row ∈ rows.insertionSort r := mem_of_mem_head? hfirst
  exact (mem_insertionSort r).mp hmem

theorem firstBy_eq_none_iff :
    firstBy r rows = none ↔ rows = [] := by
  rw [firstBy, List.head?_eq_none_iff, ← length_eq_zero_iff,
    length_insertionSort, length_eq_zero_iff]

theorem exists_firstBy {rows : List α} {row : α} (hrow : row ∈ rows) :
    ∃ first, firstBy r rows = some first := by
  cases hfirst : firstBy r rows with
  | none =>
    rw [firstBy_eq_none_iff] at hfirst
    simp [hfirst] at hrow
  | some first => exact ⟨first, rfl⟩

/-- No selected row precedes the first one. -/
theorem firstBy_le [Std.Total r] [IsTrans α r]
    (hfirst : firstBy r rows = some first) (hrow : row ∈ rows) :
    row = first ∨ r first row := by
  have hsorted := pairwise_insertionSort r rows
  have hmem : row ∈ rows.insertionSort r := (mem_insertionSort r).mpr hrow
  unfold firstBy at hfirst
  cases hcase : rows.insertionSort r with
  | nil => simp [hcase] at hfirst
  | cons =>
    rw [hcase] at hfirst hmem hsorted
    simp only [List.head?_cons, Option.some.injEq] at hfirst
    subst hfirst
    rcases mem_cons.mp hmem with heq | htail
    · exact .inl heq
    · exact .inr ((pairwise_cons.mp hsorted).1 row htail)

/-- A row that every other row strictly follows is the first one. -/
theorem firstBy_of_strict [Std.Total r] [IsTrans α r] (hmem : first ∈ rows)
    (hstrict : ∀ row ∈ rows, row ≠ first → ¬ r row first) :
    firstBy r rows = some first := by
  obtain ⟨head, hhead⟩ := exists_firstBy (r := r) hmem
  by_cases heq : head = first
  · rw [hhead, heq]
  · have hnot := hstrict head (mem_of_firstBy hhead) heq
    rcases firstBy_le hhead hmem with hsame | hle
    · exact absurd hsame.symm heq
    · exact absurd hle hnot

omit [DecidableRel r] in
theorem nodup_eraseDups [BEq α] [LawfulBEq α] :
    ∀ rows : List α, rows.eraseDups.Nodup
  | [] => by simp
  | row :: rest => by
    rw [eraseDups_cons, nodup_cons]
    refine ⟨?_, nodup_eraseDups _⟩
    rw [mem_eraseDups, mem_filter]
    rintro ⟨_, hother⟩
    simp at hother
termination_by rows => rows.length
decreasing_by
  exact Nat.lt_succ_of_le (length_filter_le _ _)

end Relational
