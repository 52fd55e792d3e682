/-
Keyed tables: a list of rows whose primary keys are pairwise distinct.  The
rows keep their insertion order, so that ordered queries stay executable; every
reasoning step about a table goes through the partial function `get?`.
-/
import Mathlib.Data.List.Nodup

namespace Relational

open List

universe u v

/-- A row type together with its primary key. -/
class Keyed (α : Type u) (κ : outParam (Type v)) where
  key : α → κ

export Keyed (key)

/-- A table carries the uniqueness of its primary key. -/
structure Table (α : Type u) {κ : Type v} [Keyed α κ] where
  rows : List α
  keys_nodup : (rows.map key).Nodup

namespace Table

variable {α : Type u} {κ : Type v} [Keyed α κ]
variable {p : α → Bool} {f : α → α} {R : α → α → Prop} {rows rows' : List α}

instance [DecidableEq α] : DecidableEq (Table α) := fun left right =>
  decidable_of_iff (left.rows = right.rows) <| by
    cases left; cases right; simp

def empty : Table α := ⟨[], nodup_nil⟩

instance : Inhabited (Table α) := ⟨empty⟩

theorem ext_rows {left right : Table α} (hrows : left.rows = right.rows) :
    left = right := by
  cases left; cases hrows; rfl

/-- Rewrite the rows selected by `p`; the rewriting keeps the primary key. -/
def update (t : Table α) (p : α → Bool) (f : α → α)
    (hkey : ∀ row, key (f row) = key row := by intro; rfl) : Table α where
  rows := t.rows.map fun row => if p row then f row else row
  keys_nodup := by
    have hsame : (t.rows.map fun row => if p row then f row else row).map key =
        t.rows.map key := by
      rw [map_map]
      apply map_congr_left
      intro row _
      by_cases hp : p row <;> simp [hp, hkey]
    rw [hsame]
    exact t.keys_nodup

theorem mem_update_iff {t : Table α} {p : α → Bool} {f : α → α}
    {hkey : ∀ row, key (f row) = key row} {row : α} :
    row ∈ (t.update p f hkey).rows ↔
      ∃ old ∈ t.rows, (if p old then f old else old) = row := by
  simp [update, mem_map]

variable {t : Table α}

/-- An update keeps the keys and their order. -/
theorem keys_update (hkey : ∀ row, key (f row) = key row) :
    (t.update p f hkey).rows.map key = t.rows.map key := by
  simp only [update, map_map]
  apply map_congr_left
  intro row _
  by_cases hp : p row <;> simp [hp, hkey]

/-- An update that selects no row, or rewrites each selected row to itself,
leaves the table as it was. -/
theorem update_eq_self {t : Table α} {p : α → Bool} {f : α → α}
    {hkey : ∀ row, key (f row) = key row}
    (hsame : ∀ row ∈ t.rows, p row = true → f row = row) :
    t.update p f hkey = t := by
  apply ext_rows
  have hmap : t.rows.map (fun row => if p row then f row else row) =
      t.rows.map id := by
    apply map_congr_left
    intro row hmem
    by_cases hp : p row
    · simp [hp, hsame row hmem hp]
    · simp [hp]
  simpa [update] using hmap

/-- Rewriting rows that a query does not select, before or after, leaves what it
selects. -/
theorem filter_update {t : Table α} {p q : α → Bool} {f : α → α}
    {hkey : ∀ row, key (f row) = key row}
    (hout : ∀ row ∈ t.rows, p row = true → q row = false ∧ q (f row) = false) :
    (t.update p f hkey).rows.filter q = t.rows.filter q := by
  change (t.rows.map fun row => if p row then f row else row).filter q = _
  generalize t.rows = rows at hout
  induction rows with
  | nil => rfl
  | cons row _ ih =>
    have hrest := ih fun other hother =>
      hout other (mem_cons_of_mem _ hother)
    rw [map_cons, filter_cons, filter_cons, hrest]
    cases hp : p row with
    | false => rfl
    | true =>
      obtain ⟨hbefore, hafter⟩ := hout row mem_cons_self hp
      rw [if_pos rfl, hbefore, hafter]
      rfl

/-- An update relates each row to its place in the new table. -/
theorem forall₂_update (hkey : ∀ row, key (f row) = key row)
    (hold : ∀ row ∈ t.rows, p row = true → R row (f row))
    (hother : ∀ row, R row row) :
    List.Forall₂ R t.rows (t.update p f hkey).rows := by
  rw [update, List.forall₂_map_right_iff, List.forall₂_same]
  intro row hmem
  by_cases hp : p row = true
  · rw [if_pos hp]
    exact hold row hmem hp
  · rw [if_neg hp]
    exact hother row

/-- Drop the rows selected by `p`. -/
def delete (t : Table α) (p : α → Bool) : Table α where
  rows := t.rows.filter fun row => !p row
  keys_nodup := t.keys_nodup.sublist (filter_sublist.map key)

omit [Keyed α κ] in
/-- A new row of a list changed place by place comes from an old one. -/
theorem exists_old (hmoves : List.Forall₂ R rows rows') {row' : α}
    (hrow : row' ∈ rows') :
    ∃ row ∈ rows, R row row' := by
  induction hmoves with
  | nil => cases hrow
  | cons hhead _ ih =>
    rcases mem_cons.mp hrow with rfl | hrest
    · exact ⟨_, mem_cons_self, hhead⟩
    · obtain ⟨row, hmem, hR⟩ := ih hrest
      exact ⟨row, mem_cons_of_mem _ hmem, hR⟩

omit [Keyed α κ] in
/-- An old row of a list changed place by place has its new one. -/
theorem exists_new (hmoves : List.Forall₂ R rows rows') {row : α}
    (hrow : row ∈ rows) :
    ∃ row' ∈ rows', R row row' := by
  induction hmoves with
  | nil => cases hrow
  | cons hhead _ ih =>
    rcases mem_cons.mp hrow with rfl | hrest
    · exact ⟨_, mem_cons_self, hhead⟩
    · obtain ⟨row', hmem, hR⟩ := ih hrest
      exact ⟨row', mem_cons_of_mem _ hmem, hR⟩

omit [Keyed α κ] in
/-- A list changed place by place passes a test no more often than before, when
each row that passes it passed the old test. -/
theorem length_filter_le {q : α → Bool} (hmoves : List.Forall₂ R rows rows')
    (hback : ∀ row row', R row row' → q row' = true → p row = true) :
    (rows'.filter q).length ≤ (rows.filter p).length := by
  rw [← countP_eq_length_filter, ← countP_eq_length_filter]
  induction hmoves with
  | nil => exact Nat.le_refl _
  | @cons row row' _ _ hhead _ ih =>
    rw [countP_cons, countP_cons]
    have hhead := hback row row' hhead
    cases hq : q row' with
    | true => simpa [hhead hq] using ih
    | false =>
      refine Nat.le_trans ?_ (Nat.le_add_right _ _)
      simpa using ih

section Lookup

variable [DecidableEq κ]
variable {row : α} {R : α → α → Prop}

/-- The row stored under a primary key. -/
def get? (t : Table α) (k : κ) : Option α :=
  t.rows.find? fun row => key row = k

/-- Append a row; a primary key in use refuses the insertion. -/
def insert? (t : Table α) (row : α) : Option (Table α) :=
  if hfree : ∀ old ∈ t.rows, key old ≠ key row then
    some
      { rows := t.rows ++ [row]
        keys_nodup := by
          rw [map_append, nodup_append]
          refine ⟨t.keys_nodup, by simp, ?_⟩
          intro a ha b hb
          simp only [map_cons, map_nil, mem_singleton] at hb
          obtain ⟨old, hold, rfl⟩ := mem_map.mp ha
          exact fun heq => hfree old hold (heq.trans hb) }
  else none

@[simp] theorem get?_empty (k : κ) : (empty : Table α).get? k = none := rfl

theorem key_of_get? {t : Table α} {k : κ} {row : α}
    (hrow : t.get? k = some row) : key row = k := by
  simpa using List.find?_some hrow

theorem mem_of_get? {t : Table α} {k : κ} {row : α}
    (hrow : t.get? k = some row) : row ∈ t.rows :=
  mem_of_find?_eq_some hrow

variable {t : Table α}

/-- A stored row is found under its own key. -/
theorem get?_key (hrow : row ∈ t.rows) :
    t.get? (key row) = some row := by
  obtain ⟨rows, hnodup⟩ := t
  simp only [get?] at hrow ⊢
  induction rows with
  | nil => simp at hrow
  | cons head tail ih =>
    rw [map_cons, nodup_cons] at hnodup
    by_cases hhead : head = row
    · simp [hhead]
    · have htail : row ∈ tail := by
        rcases mem_cons.mp hrow with heq | htail
        · exact absurd heq.symm hhead
        · exact htail
      have hne : key head ≠ key row := fun heq =>
        hnodup.1 (heq ▸ mem_map_of_mem htail)
      rw [List.find?_cons_of_neg (by simpa using hne)]
      exact ih hnodup.2 htail

theorem mem_iff_get? :
    row ∈ t.rows ↔ t.get? (key row) = some row :=
  ⟨get?_key, mem_of_get?⟩

variable {k : κ}

theorem get?_eq_some_iff :
    t.get? k = some row ↔ row ∈ t.rows ∧ key row = k := by
  constructor
  · intro hrow
    exact ⟨mem_of_get? hrow, key_of_get? hrow⟩
  · rintro ⟨hmem, rfl⟩
    exact get?_key hmem

theorem get?_eq_none_iff :
    t.get? k = none ↔ ∀ row ∈ t.rows, key row ≠ k := by
  simp [get?]

/-- Lookup commutes with a key-preserving rewrite. -/
@[simp] theorem get?_update (t : Table α) (p : α → Bool) (f : α → α)
    (hkey : ∀ row, key (f row) = key row) (k : κ) :
    (t.update p f hkey).get? k =
      (t.get? k).map fun row => if p row then f row else row := by
  obtain ⟨rows, hnodup⟩ := t
  simp only [get?, update]
  clear hnodup
  induction rows with
  | nil => rfl
  | cons head tail ih =>
    have hhead : key (if p head then f head else head) = key head := by
      by_cases hp : p head <;> simp [hp, hkey]
    simp only [map_cons, List.find?_cons, hhead]
    by_cases hk : key head = k
    · simp [hk]
    · simpa [hk] using ih

/-- At one key, only the row with that key is read. -/
theorem map_get?_congr {β : Type v} {f g : α → β}
    (hread : ∀ row, key row = k → f row = g row) :
    (t.get? k).map f = (t.get? k).map g :=
  Option.map_congr fun row hrow => hread row (key_of_get? hrow)

theorem map_get?_self {f : α → α}
    (hkept : ∀ row, key row = k → f row = row) :
    (t.get? k).map f = t.get? k :=
  (Option.map_congr fun row hrow => hkept row (key_of_get? hrow)).trans
    Option.map_id'

/-- The rows are the lookups of their keys, in order. -/
theorem map_get?_keys (t : Table α) :
    (t.rows.map key).map t.get? = t.rows.map some := by
  rw [map_map]
  exact map_congr_left fun _ hrow => get?_key hrow

variable {t' : Table α}
variable {row' : α} {p : α → Bool}
variable {found : α}

/-- Tables with the same keys in the same order are equal when their lookups
agree. -/
theorem ext_get? (hkeys : t'.rows.map key = t.rows.map key)
    (hget : ∀ k, t'.get? k = t.get? k) : t' = t := by
  apply ext_rows
  have hlookups : t'.rows.map some = t.rows.map some := by
    rw [← map_get?_keys, ← map_get?_keys, hkeys]
    exact map_congr_left fun k _ => hget k
  exact map_injective_iff.mpr (fun _ _ => Option.some.inj) hlookups

theorem insert?_eq_some (hinsert : t.insert? row = some t') :
    t.get? (key row) = none ∧ t'.rows = t.rows ++ [row] := by
  unfold insert? at hinsert
  split at hinsert
  · rename_i hfree
    cases hinsert
    exact ⟨get?_eq_none_iff.mpr hfree, rfl⟩
  · cases hinsert

/-- A key that is not in use admits the row. -/
theorem exists_insert? {t : Table α} {row : α}
    (hfree : t.get? (key row) = none) : ∃ t', t.insert? row = some t' := by
  unfold insert?
  rw [dif_pos (get?_eq_none_iff.mp hfree)]
  exact ⟨_, rfl⟩

theorem get?_insert (hinsert : t.insert? row = some t') (k : κ) :
    t'.get? k = if k = key row then some row else t.get? k := by
  obtain ⟨_, hrows⟩ := insert?_eq_some hinsert
  by_cases hk : k = key row
  · subst hk
    rw [if_pos rfl]
    exact get?_key (by simp [hrows])
  · rw [if_neg hk]
    simp only [get?, hrows, List.find?_append]
    have hlast : List.find? (fun r : α => decide (key r = k)) [row] = none := by
      simp [Ne.symm hk]
    rw [hlast, Option.or_none]

/-- A row of the table with a new row is that row or an old one. -/
theorem of_get?_insert (hinsert : t.insert? row = some t')
    (hfound : t'.get? k = some found) :
    k = key row ∧ found = row ∨ k ≠ key row ∧ t.get? k = some found := by
  rw [get?_insert hinsert] at hfound
  by_cases hk : k = key row
  · rw [if_pos hk] at hfound
    exact .inl ⟨hk, (Option.some.inj hfound).symm⟩
  · rw [if_neg hk] at hfound
    exact .inr ⟨hk, hfound⟩

theorem get?_insert_of_some {old : α} (hinsert : t.insert? row = some t')
    (hold : t.get? k = some old) :
    t'.get? k = some old := by
  rw [get?_insert hinsert]
  have hk : k ≠ key row := by
    rintro rfl
    rw [(insert?_eq_some hinsert).1] at hold
    cases hold
  rw [if_neg hk, hold]

theorem mem_insert_iff {other : α} (hinsert : t.insert? row = some t') :
    other ∈ t'.rows ↔ other ∈ t.rows ∨ other = row := by
  rw [(insert?_eq_some hinsert).2]
  simp

/-- Tables with the same keys in the same order that differ in the row of one
key at most have the same rows before it and after it. -/
theorem exists_replaced (hkeys : t'.rows.map key = t.rows.map key)
    (hothers : ∀ k', k' ≠ k → t'.get? k' = t.get? k')
    (hrow : t.get? k = some row) (hrow' : t'.get? k = some row') :
    ∃ before after, t.rows = before ++ row :: after ∧
      t'.rows = before ++ row' :: after := by
  obtain ⟨before, after, hsplit⟩ := append_of_mem (mem_of_get? hrow)
  refine ⟨before, after, hsplit, ?_⟩
  have hnodup := t.keys_nodup
  rw [hsplit, map_append, map_cons, nodup_append,
    nodup_cons, key_of_get? hrow] at hnodup
  obtain ⟨_, ⟨hafter, _⟩, hbefore⟩ := hnodup
  have hkept : ∀ other ∈ t.rows, key other ≠ k →
      t'.get? (key other) = some other := by
    intro _ hmem hne
    rw [hothers _ hne]
    exact get?_key hmem
  have hlookups : t'.rows.map some = (before ++ row' :: after).map some := by
    rw [← map_get?_keys, hkeys, hsplit, map_append, map_append,
      map_append, map_cons, map_cons, key_of_get? hrow,
      map_map, map_map]
    congr 1
    · refine map_congr_left fun other hmem => ?_
      refine hkept other (by rw [hsplit]; simp [hmem]) ?_
      exact hbefore _ (mem_map_of_mem hmem) _ mem_cons_self
    · congr 1
      refine map_congr_left fun other hmem => ?_
      refine hkept other (by rw [hsplit]; simp [hmem]) ?_
      rintro rfl
      exact hafter (mem_map_of_mem hmem)
  exact map_injective_iff.mpr (fun _ _ => Option.some.inj) hlookups

/-- Insert a row, or merge it into the row already stored under its key. -/
def upsert (t : Table α) (row : α) (merge : α → α)
    (hkey : ∀ old, key (merge old) = key old := by intro; rfl) : Table α :=
  (t.insert? row).getD (t.update (fun old => key old = key row) merge hkey)

/-- An upsert changes the row of its key only. -/
theorem get?_upsert (t : Table α) (row : α) (merge : α → α)
    (hkey : ∀ old, key (merge old) = key old) (k : κ) :
    (t.upsert row merge hkey).get? k =
      if k = key row then some (((t.get? k).map merge).getD row)
      else t.get? k := by
  unfold upsert
  cases hinsert : t.insert? row with
  | some =>
    have hfree := (insert?_eq_some hinsert).1
    rw [Option.getD_some, get?_insert hinsert]
    by_cases hk : k = key row
    · rw [if_pos hk, if_pos hk, hk, hfree]
      rfl
    · rw [if_neg hk, if_neg hk]
  | none =>
    rw [Option.getD_none, get?_update]
    cases hold : t.get? k with
    | none =>
      have hk : k ≠ key row := by
        rintro rfl
        obtain ⟨_, hinserted⟩ := exists_insert? hold
        rw [hinsert] at hinserted
        cases hinserted
      rw [if_neg hk]
      rfl
    | some old =>
      have hkeyed : key old = k := key_of_get? hold
      by_cases hk : k = key row
      · rw [if_pos hk, Option.map_some, if_pos (by simp [hkeyed, hk])]
        rfl
      · rw [if_neg hk, Option.map_some, if_neg (by simp [hkeyed, hk])]

/-- `INSERT OR IGNORE`. -/
def insertNew (t : Table α) (row : α) : Table α := (t.insert? row).getD t

theorem rows_insertNew (hfree : t.get? (key row) = none) :
    (t.insertNew row).rows = t.rows ++ [row] := by
  obtain ⟨_, hinsert⟩ := exists_insert? hfree
  unfold insertNew
  rw [hinsert, Option.getD_some, (insert?_eq_some hinsert).2]

theorem get?_insertNew (hfree : t.get? (key row) = none) (k : κ) :
    (t.insertNew row).get? k = if k = key row then some row else t.get? k := by
  obtain ⟨_, hinsert⟩ := exists_insert? hfree
  unfold insertNew
  rw [hinsert, Option.getD_some, get?_insert hinsert]

/-- A row of the table with a new row is that row or an old one. -/
theorem of_get?_insertNew (hfound : (t.insertNew row).get? k = some found) :
    found = row ∨ t.get? k = some found := by
  unfold insertNew at hfound
  cases hinsert : t.insert? row with
  | none =>
    rw [hinsert] at hfound
    exact .inr hfound
  | some =>
    rw [hinsert, Option.getD_some, get?_insert hinsert] at hfound
    split at hfound
    · exact .inl (Option.some.inj hfound).symm
    · exact .inr hfound

/-- A new row is not found under another key. -/
theorem get?_insertNew_of_ne (hnone : t.get? k = none) (hk : k ≠ key row) :
    (t.insertNew row).get? k = none := by
  unfold insertNew
  cases hinsert : t.insert? row with
  | none => exact hnone
  | some => rw [Option.getD_some, get?_insert hinsert, if_neg hk, hnone]

/-- A lookup sees the rows that were not dropped. -/
theorem get?_delete (t : Table α) (p : α → Bool) (k : κ) :
    (t.delete p).get? k = (t.get? k).filter fun row => !p row := by
  cases hrow : t.get? k with
  | none =>
    rw [Option.filter_none, get?_eq_none_iff]
    intro row hmem
    exact get?_eq_none_iff.mp hrow row (mem_filter.mp hmem).1
  | some row =>
    by_cases hdropped : p row = true
    · rw [Option.filter_some_neg (by simp [hdropped]), get?_eq_none_iff]
      rintro _ hmem rfl
      obtain ⟨hstored, hkept⟩ := mem_filter.mp hmem
      cases (get?_key hstored).symm.trans hrow
      simp [hdropped] at hkept
    · rw [Option.filter_some_pos (by simpa using hdropped), get?_eq_some_iff]
      exact ⟨mem_filter.mpr ⟨mem_of_get? hrow, by simpa using hdropped⟩,
        key_of_get? hrow⟩

/-- A row that was not dropped was there before. -/
theorem of_get?_delete (hrow : (t.delete p).get? k = some row) :
    t.get? k = some row := by
  have hmem := mem_filter.mp (mem_of_get? hrow)
  rw [← key_of_get? hrow]
  exact get?_key hmem.1

/-- Row by row, `t'` is `t` with each row changed as `R` allows. -/
def Rewrites (R : α → α → Prop) (t t' : Table α) : Prop :=
  ∀ k, Option.Rel R (t.get? k) (t'.get? k)

theorem Rewrites.forward (hrel : Rewrites R t t') (hrow : t.get? k = some row) :
    ∃ row', t'.get? k = some row' ∧ R row row' := by
  have hk := hrel k
  rw [hrow] at hk
  cases hnew : t'.get? k with
  | none => rw [hnew] at hk; cases hk
  | some row' =>
    rw [hnew] at hk
    cases hk with
    | some hR => exact ⟨row', rfl, hR⟩

theorem Rewrites.backward (hrel : Rewrites R t t')
    (hrow : t'.get? k = some row') :
    ∃ row, t.get? k = some row ∧ R row row' := by
  have hk := hrel k
  rw [hrow] at hk
  cases hold : t.get? k with
  | none => rw [hold] at hk; cases hk
  | some row =>
    rw [hold] at hk
    cases hk with
    | some hR => exact ⟨row, rfl, hR⟩

theorem Rewrites.refl (hR : ∀ row, R row row) (t : Table α) :
    Rewrites R t t := by
  intro k
  cases t.get? k with
  | none => exact Option.Rel.none
  | some row => exact Option.Rel.some (hR row)

theorem Rewrites.trans (hR : ∀ a b c, R a b → R b c → R a c) {t'' : Table α}
    (hfirst : Rewrites R t t') (hsecond : Rewrites R t' t'') :
    Rewrites R t t'' := by
  intro k
  cases hrow : t.get? k with
  | none =>
    cases hlast : t''.get? k with
    | none => exact Option.Rel.none
    | some =>
      obtain ⟨_, hmid, _⟩ := hsecond.backward hlast
      obtain ⟨_, hback, _⟩ := hfirst.backward hmid
      rw [hrow] at hback
      cases hback
  | some =>
    obtain ⟨_, hmid, hab⟩ := hfirst.forward hrow
    obtain ⟨_, hlast, hbc⟩ := hsecond.forward hmid
    rw [hlast]
    exact Option.Rel.some (hR _ _ _ hab hbc)

/-- Tables related place by place, with the same keys, are related by key. -/
theorem rewrites_of_forall₂ (hkey : ∀ row row', R row row' → key row' = key row)
    (hrows : List.Forall₂ R t.rows t'.rows) : Rewrites R t t' := by
  intro k
  unfold get?
  generalize t.rows = rows, t'.rows = rows' at hrows
  induction hrows with
  | nil => exact Option.Rel.none
  | @cons row row' _ _ hrow _ ih =>
    rw [List.find?_cons, List.find?_cons, hkey row row' hrow]
    by_cases hk : key row = k
    · simp only [hk, decide_true]
      exact Option.Rel.some hrow
    · simp only [hk, decide_false]
      exact ih

/-- An update rewrites its table row by row. -/
theorem rewrites_update (hkey : ∀ row, key (f row) = key row)
    (hold : ∀ k row, t.get? k = some row → p row = true → R row (f row))
    (hother : ∀ row, R row row) : Rewrites R t (t.update p f hkey) := by
  intro k
  rw [get?_update]
  cases hrow : t.get? k with
  | none => exact Option.Rel.none
  | some row =>
    refine Option.Rel.some ?_
    change R row (if p row = true then f row else row)
    by_cases hp : p row = true
    · rw [if_pos hp]
      exact hold k row hrow hp
    · rw [if_neg hp]
      exact hother row

end Lookup

end Table

export Table (key_of_get? get?_key get?_update map_get?_congr map_get?_self
  mem_of_get? get?_insert get?_insert_of_some mem_insert_iff insert?_eq_some
  of_get?_insert exists_insert?)

end Relational
