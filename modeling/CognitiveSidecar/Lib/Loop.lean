/-
Loops over a table: a turn that rewrites the rows of one name by a function of
the row, and the loop over distinct names that rewrites the rows of them all.
-/
import CognitiveSidecar.Lib.Run
import CognitiveSidecar.Lib.Table

namespace Relational

open Option List

universe u v w

namespace Table

variable {α : Type u} {κ : Type v} [DecidableEq κ] [Keyed α κ]

/-- Every row of a table is rewritten by a function, in place. -/
structure MapsTo (f : α → α) (t t' : Table α) : Prop where
  keys : t'.rows.map key = t.rows.map key
  lookup : ∀ k, t'.get? k = (t.get? k).map f

variable {f g : α → α} {t t' t'' : Table α}

theorem MapsTo.of_id (hf : ∀ row ∈ t.rows, f row = row) : MapsTo f t t where
  keys := rfl
  lookup := by
    intro k
    cases hrow : t.get? k with
    | none => rfl
    | some row => rw [map_some, hf row (mem_of_get? hrow)]

theorem MapsTo.trans (hfirst : MapsTo f t t') (hsecond : MapsTo g t' t'') :
    MapsTo (g ∘ f) t t'' where
  keys := hsecond.keys.trans hfirst.keys
  lookup := by
    intro k
    rw [hsecond.lookup, hfirst.lookup, Option.map_map]

theorem MapsTo.congr (hmaps : MapsTo f t t')
    (hsame : ∀ row ∈ t.rows, f row = g row) : MapsTo g t t' where
  keys := hmaps.keys
  lookup := by
    intro k
    rw [hmaps.lookup]
    cases hrow : t.get? k with
    | none => rfl
    | some row =>
      rw [map_some, map_some, hsame row (mem_of_get? hrow)]

/-- The rows decide the rewritten table. -/
theorem MapsTo.unique (hfirst : MapsTo f t t') (hsecond : MapsTo f t t'') :
    t'' = t' :=
  ext_get? (hsecond.keys.trans hfirst.keys.symm) fun k =>
    (hsecond.lookup k).trans (hfirst.lookup k).symm

/-- Rewriting every row to itself is no rewriting. -/
theorem MapsTo.eq_self (hmaps : MapsTo f t t')
    (hf : ∀ row ∈ t.rows, f row = row) : t' = t :=
  (MapsTo.of_id hf).unique hmaps

theorem MapsTo.update {p : α → Bool} (hkey : ∀ row, key (f row) = key row) :
    MapsTo (fun row => if p row then f row else row) t (t.update p f hkey) where
  keys := keys_update hkey
  lookup := get?_update t p f hkey

theorem MapsTo.key_eq (hmaps : MapsTo f t t') {row : α} (hrow : row ∈ t.rows) :
    key (f row) = key row := by
  refine @key_of_get? _ _ _ _ t' _ _ ?_
  rw [hmaps.lookup, get?_key hrow, map_some]

theorem MapsTo.mem (hmaps : MapsTo f t t') {row' : α} :
    row' ∈ t'.rows ↔ ∃ row ∈ t.rows, f row = row' := by
  constructor
  · intro hrow'
    have hget := hmaps.lookup (key row')
    rw [get?_key hrow'] at hget
    obtain ⟨row, hrow, hf⟩ := map_eq_some_iff.mp hget.symm
    exact ⟨row, mem_of_get? hrow, hf⟩
  · rintro ⟨row, hrow, rfl⟩
    refine @mem_of_get? _ _ _ _ t' (key row) _ ?_
    rw [hmaps.lookup, get?_key hrow, map_some]

end Table

section Loop

variable {α : Type u} {κ : Type v} [DecidableEq κ] [Keyed α κ] {σ : Type w} {ι : Type w}

open Table

/-- A turn for a name rewrites the rows of that name, so a loop over distinct
names rewrites the rows of all of them. -/
theorem run_mapsTo [DecidableEq ι] (table : σ → Table α) (name : α → ι)
    {step : ι → σ → σ} {P : σ → Prop} {f : α → α}
    (hname : ∀ row, name (f row) = name row)
    (hkeeps : ∀ i s, P s → P (step i s))
    (hstep : ∀ i s, P s →
      MapsTo (fun row => if name row = i then f row else row) (table s)
        (table (step i s)))
    {names : List ι} (hnodup : names.Nodup) {s : σ} (hs : P s) :
    MapsTo (fun row => if name row ∈ names then f row else row) (table s)
      (table (run step s names)) := by
  induction names generalizing s with
  | nil => exact .of_id fun row _ => if_neg not_mem_nil
  | cons i rest ih =>
    obtain ⟨hnew, hnodup⟩ := nodup_cons.mp hnodup
    have htail := ih hnodup (hkeeps i s hs)
    refine ((hstep i s hs).trans htail).congr fun row _ => ?_
    dsimp only [Function.comp_apply]
    by_cases hrow : name row = i
    · have hafter : name (f row) ∉ rest := by
        rw [hname, hrow]
        exact hnew
      rw [if_pos hrow, if_neg hafter, if_pos (hrow ▸ mem_cons_self)]
    · rw [if_neg hrow]
      by_cases hrest : name row ∈ rest
      · rw [if_pos hrest, if_pos (mem_cons_of_mem _ hrest)]
      · rw [if_neg hrest, if_neg fun hmem =>
          (mem_cons.mp hmem).elim hrow hrest]

end Loop

end Relational
