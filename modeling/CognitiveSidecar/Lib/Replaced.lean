/-
A table in which one row was rewritten under its key.
-/
import CognitiveSidecar.Lib.Table

namespace Relational

namespace Table

universe u v

variable {α : Type u} {κ : Type v} [DecidableEq κ] [Keyed α κ]

/-- One row of the table is rewritten and keeps its key. -/
structure Replaced (t t' : Table α) (row row' : α) : Prop where
  stored : t.get? (key row) = some row
  same : key row' = key row
  found : ∀ k, t'.get? k = if k = key row then some row' else t.get? k

variable {t t' : Table α} {row row' other : α} {k : κ}

theorem Replaced.own (hreplaced : Replaced t t' row row') :
    t'.get? (key row) = some row' := by
  rw [hreplaced.found, if_pos rfl]

/-- A row of the new table is the new one, or an old one under another key. -/
theorem Replaced.of_get? (hreplaced : Replaced t t' row row')
    (hget : t'.get? k = some other) :
    (k = key row ∧ other = row') ∨ (k ≠ key row ∧ t.get? k = some other) := by
  rw [hreplaced.found] at hget
  by_cases hk : k = key row
  · rw [if_pos hk] at hget
    exact .inl ⟨hk, (Option.some.inj hget).symm⟩
  · rw [if_neg hk] at hget
    exact .inr ⟨hk, hget⟩

/-- An old row is the rewritten one, or stays. -/
theorem Replaced.get? (hreplaced : Replaced t t' row row')
    (hget : t.get? k = some other) :
    (k = key row ∧ other = row ∧ t'.get? k = some row') ∨
      (k ≠ key row ∧ t'.get? k = some other) := by
  by_cases hk : k = key row
  · subst hk
    cases hreplaced.stored.symm.trans hget
    exact .inl ⟨rfl, rfl, hreplaced.own⟩
  · exact .inr ⟨hk, by rw [hreplaced.found, if_neg hk, hget]⟩

/-- An update under one key rewrites the row that it finds there. -/
theorem replaced_update {p guard : α → Bool} {f : α → α}
    (hkey : ∀ row, key (f row) = key row)
    (hp : ∀ row, p row = (decide (key row = k) && guard row))
    (hrow : t.get? k = some row) (hguard : guard row = true) :
    Replaced t (t.update p f hkey) row (f row) := by
  have hown : key row = k := key_of_get? hrow
  refine ⟨by rw [hown, hrow], hkey row, ?_⟩
  intro k'
  rw [get?_update]
  by_cases hk : k' = key row
  · rw [if_pos hk, hk, hown, hrow, Option.map_some, hp, decide_eq_true hown,
      hguard]
    rfl
  · rw [if_neg hk]
    cases hother : t.get? k' with
    | none => rfl
    | some other =>
      have hne : key other ≠ k := by
        rw [key_of_get? hother, ← hown]
        exact hk
      rw [Option.map_some, hp, decide_eq_false hne]
      rfl

/-- An update under one key rewrites its row, or changes nothing. -/
theorem update_key_cases {p guard : α → Bool} {f : α → α}
    (hkey : ∀ row, key (f row) = key row)
    (hp : ∀ row, p row = (decide (key row = k) && guard row)) :
    t.update p f hkey = t ∨ ∃ row, t.get? k = some row ∧ guard row = true ∧
      Replaced t (t.update p f hkey) row (f row) := by
  by_cases hselected : ∃ row, t.get? k = some row ∧ guard row = true
  · obtain ⟨row, hrow, hguard⟩ := hselected
    exact .inr ⟨row, hrow, hguard, replaced_update hkey hp hrow hguard⟩
  · refine .inl (update_eq_self fun row hmem hrow => ?_)
    rw [hp, Bool.and_eq_true, decide_eq_true_eq] at hrow
    exact absurd ⟨row, hrow.1 ▸ get?_key hmem, hrow.2⟩ hselected

end Table

end Relational
