/-
Passes over a queue of items.  A loop may end at the first round that faults,
or go on to the next item; a pass may take a bounded page of the queue before
it looks at what it took.
-/
import Mathlib.Data.List.Sort

namespace Relational

open List

universe u v w

section Rounds

variable {ι : Type u} {σ : Type v} {ε : Type w}
  {f : ι → σ → Except ε (Bool × σ)}

/-- A loop that the first fault ends: the items whose rounds served them, and
the state that the rounds left. -/
def untilFault (f : ι → σ → Except ε (Bool × σ)) : List ι → σ → List ι × σ
  | [], s => ([], s)
  | item :: rest, s =>
    match f item s with
    | .error _ => ([], s)
    | .ok (served, s') =>
      let (others, last) := untilFault f rest s'
      (if served then item :: others else others, last)

/-- The loop in which a faulting round is left out. -/
def isolated (f : ι → σ → Except ε (Bool × σ)) : List ι → σ → List ι × σ
  | [], s => ([], s)
  | item :: rest, s =>
    match f item s with
    | .error _ => isolated f rest s
    | .ok (served, s') =>
      let (others, last) := isolated f rest s'
      (if served then item :: others else others, last)

theorem isolated_subset (items : List ι) (s : σ) :
    ∀ item ∈ (isolated f items s).1, item ∈ items := by
  induction items generalizing s with
  | nil => exact fun item hmem => hmem
  | cons _ _ ih =>
    intro item hmem
    unfold isolated at hmem
    split at hmem
    · exact mem_cons_of_mem _ (ih s item hmem)
    · rename_i served s' _
      cases served with
      | false => exact mem_cons_of_mem _ (ih s' item hmem)
      | true =>
        rcases mem_cons.mp hmem with rfl | hmem
        · exact mem_cons_self
        · exact mem_cons_of_mem _ (ih s' item hmem)

theorem isolated_append (first second : List ι) (s : σ) :
    (isolated f (first ++ second) s).1 = (isolated f first s).1 ++
      (isolated f second (isolated f first s).2).1 := by
  induction first generalizing s with
  | nil => rfl
  | cons head _ ih =>
    rw [cons_append, isolated, isolated]
    cases f head s with
    | error => exact ih s
    | ok pair =>
      obtain ⟨served, s'⟩ := pair
      cases served with
      | false => exact ih s'
      | true => exact congrArg (head :: ·) (ih s')

/-- A round faults, and the loop that leaves it out serves a later item. -/
def FaultBefore (f : ι → σ → Except ε (Bool × σ)) (items : List ι) (s : σ) :
    Prop :=
  ∃ before failing later, items = before ++ failing :: later ∧
    (∃ raised, f failing (isolated f before s).2 = .error raised) ∧
    (isolated f later (isolated f before s).2).1 ≠ []

theorem faultBefore_cons_error {head : ι} {rest : List ι} {s : σ} {raised : ε}
    (hround : f head s = .error raised) :
    FaultBefore f (head :: rest) s ↔ (isolated f rest s).1 ≠ [] := by
  have hskip : ∀ items, isolated f (head :: items) s = isolated f items s := by
    intro _
    rw [isolated, hround]
  constructor
  · rintro ⟨_, _, _, hitems, ⟨_, hfault⟩, hserved⟩
    rw [← hskip, hitems, isolated_append, isolated, hfault]
    exact append_ne_nil_of_right_ne_nil _ hserved
  · intro hserved
    exact ⟨[], head, rest, rfl, ⟨raised, hround⟩, hserved⟩

theorem faultBefore_cons_ok {head : ι} {rest : List ι} {s s' : σ}
    {served : Bool} (hround : f head s = .ok (served, s')) :
    FaultBefore f (head :: rest) s ↔ FaultBefore f rest s' := by
  have hstate : ∀ items, (isolated f (head :: items) s).2 =
      (isolated f items s').2 := by
    intro _
    rw [isolated, hround]
  constructor
  · rintro ⟨before, failing, later, hitems, ⟨raised, hfault⟩, hserved⟩
    cases before with
    | nil =>
      obtain ⟨rfl, rfl⟩ := List.cons.inj hitems
      cases hround.symm.trans hfault
    | cons _ before =>
      obtain ⟨rfl, rfl⟩ := List.cons.inj hitems
      rw [hstate] at hfault hserved
      exact ⟨before, failing, later, rfl, ⟨raised, hfault⟩, hserved⟩
  · rintro ⟨before, failing, later, rfl, hfault, hserved⟩
    refine ⟨head :: before, failing, later, rfl, ?_, ?_⟩
    · rw [hstate]
      exact hfault
    · rw [hstate]
      exact hserved

/-- The loop that a fault ends serves all that the other one serves, unless a
fault comes before an item that would be served. -/
theorem untilFault_serves_iff {items : List ι} {s : σ} (hnodup : items.Nodup) :
    (∀ item ∈ (isolated f items s).1, item ∈ (untilFault f items s).1) ↔
      ¬ FaultBefore f items s := by
  induction items generalizing s with
  | nil =>
    refine iff_of_true (fun _ hmem => hmem) ?_
    rintro ⟨before, _, _, hitems, _⟩
    cases before <;> cases hitems
  | cons head rest ih =>
    obtain ⟨hfresh, hnodup⟩ := nodup_cons.mp hnodup
    cases hround : f head s with
    | error =>
      rw [faultBefore_cons_error hround, not_not, isolated, untilFault,
        hround, eq_nil_iff_forall_not_mem]
      exact forall_congr' fun _ =>
        imp_congr_right fun _ => iff_of_false not_mem_nil id
    | ok pair =>
      obtain ⟨served, s'⟩ := pair
      rw [faultBefore_cons_ok hround, ← ih hnodup, isolated, untilFault,
        hround]
      cases served with
      | false => exact Iff.rfl
      | true =>
        simp only [if_true, mem_cons]
        constructor
        · intro hserves item hmem
          rcases hserves item (.inr hmem) with rfl | hmem'
          · exact absurd (isolated_subset rest s' item hmem) hfresh
          · exact hmem'
        · rintro hserves item (rfl | hmem)
          · exact .inl rfl
          · exact .inr (hserves item hmem)

end Rounds

section Ranks

variable {α : Type u} {β : Type v} {γ : Type w} [LinearOrder β] (rank : α → β)

@[reducible]
def RankedBefore (left right : α) : Prop := rank left < rank right

instance : IsStrictOrder α (RankedBefore rank) where
  irrefl row := lt_irrefl (rank row)
  trans _ _ _ := lt_trans

/-- `ORDER BY rank`. -/
def orderedBy (rows : List α) : List α :=
  rows.insertionSort fun left right => rank left ≤ rank right

variable {rank}

theorem mem_orderedBy {rows : List α} {row : α} :
    row ∈ orderedBy rank rows ↔ row ∈ rows := mem_insertionSort _

/-- What a page of the first rows leaves out does not precede its rows. -/
theorem rank_le_of_left_out {rows : List α} {row other : α} {n : Nat}
    (hrow : row ∈ rows) (hleft : row ∉ (orderedBy rank rows).take n)
    (hother : other ∈ (orderedBy rank rows).take n) :
    rank other ≤ rank row := by
  have hsorted : (orderedBy rank rows).Pairwise (rank · ≤ rank ·) :=
    pairwise_insertionSort _ rows
  have hmem : row ∈ orderedBy rank rows := mem_orderedBy.mpr hrow
  rw [← take_append_drop n (orderedBy rank rows)] at hsorted hmem
  exact (pairwise_append.mp hsorted).2.2 other hother row
    ((mem_append.mp hmem).resolve_left hleft)

/-- Rows whose rank tells their name follow each other strictly. -/
theorem orderedBy_pairwise {rows : List α} (name : α → γ)
    (hname : ∀ left right, rank left = rank right → name left = name right)
    (hnodup : (rows.map name).Nodup) :
    (orderedBy rank rows).Pairwise (RankedBefore rank) := by
  have hle : (orderedBy rank rows).Pairwise (rank · ≤ rank ·) :=
    pairwise_insertionSort _ rows
  have hnames : ((orderedBy rank rows).map name).Nodup :=
    ((perm_insertionSort _ rows).map name).nodup_iff.mpr hnodup
  refine (hle.and (pairwise_map.mp hnames)).imp fun hboth => ?_
  exact lt_of_le_of_ne hboth.1 fun hsame => hboth.2 (hname _ _ hsame)

end Ranks

section Pages

variable {α : Type u} (lt : α → α → Prop) [DecidableRel lt]

/-- `WHERE row > cursor ORDER BY row LIMIT limit`, over rows in order. -/
def pageAfter (rows : List α) (cursor : Option α) (limit : Nat) : List α :=
  (rows.filter fun row => cursor.all (lt · row)).take limit

/-- A full page is resumed after its last row; a short one ends the rotation. -/
def resumeAfter (page : List α) (limit : Nat) : Option α :=
  if limit ≤ page.length then page.getLast? else none

/-- A row is on the first page when fewer rows than the page holds come before
it. -/
theorem mem_take_iff [IsStrictOrder α lt] {rows : List α} {row : α} {n : Nat}
    (hsorted : rows.Pairwise lt) (hrow : row ∈ rows) :
    row ∈ rows.take n ↔ (rows.filter (lt · row)).length < n := by
  obtain ⟨before, after, rfl⟩ := append_of_mem hrow
  obtain ⟨_, hafter, hbefore⟩ := pairwise_append.mp hsorted
  obtain ⟨hafter, _⟩ := pairwise_cons.mp hafter
  have hfirst : before.filter (lt · row) = before :=
    filter_eq_self.mpr fun other hother =>
      decide_eq_true (hbefore other hother row mem_cons_self)
  have hrest : (row :: after).filter (lt · row) = [] := by
    refine filter_eq_nil_iff.mpr fun other hother => ?_
    rcases mem_cons.mp hother with rfl | hlater
    · simp [irrefl_of lt]
    · simpa using asymm_of lt (hafter other hlater)
  rw [filter_append, hfirst, hrest, append_nil, take_append,
    mem_append]
  constructor
  · rintro (hmem | hmem)
    · exact absurd (hbefore row (mem_of_mem_take hmem) row
        mem_cons_self) (irrefl_of lt row)
    · by_contra hle
      rw [Nat.sub_eq_zero_of_le (Nat.not_lt.mp hle)] at hmem
      cases hmem
  · intro hlt
    obtain ⟨k, hk⟩ := Nat.exists_eq_succ_of_ne_zero (Nat.sub_ne_zero_of_lt hlt)
    rw [hk]
    exact .inr mem_cons_self

/-- The same of the rows of a query, before they are ordered. -/
theorem mem_firstPage_iff {β : Type v} {γ : Type w} [LinearOrder β]
    {rank : α → β} (name : α → γ)
    (hname : ∀ left right, rank left = rank right → name left = name right)
    {rows : List α} (hnodup : (rows.map name).Nodup) {row : α}
    (hrow : row ∈ rows) {n : Nat} :
    row ∈ (orderedBy rank rows).take n ↔
      (rows.filter (rank · < rank row)).length < n := by
  rw [mem_take_iff _ (orderedBy_pairwise name hname hnodup)
    (mem_orderedBy.mpr hrow)]
  have hperm : (orderedBy rank rows).Perm rows := perm_insertionSort _ rows
  rw [(hperm.filter _).length_eq]

/-- The cursors of consecutive passes over the same rows. -/
def Rotates (rows : List α) (limit : Nat) (cursor : Nat → Option α) : Prop :=
  ∀ n, cursor (n + 1) = resumeAfter (pageAfter lt rows (cursor n) limit) limit

/-- The cursor leaves the rows from a position on. -/
def Stands (rows : List α) (cursor : Option α) (position : Nat) : Prop :=
  rows.filter (fun row => cursor.all (lt · row)) = rows.drop position

variable {lt} [IsStrictOrder α lt]
variable {rows : List α} {cursor : Option α} {limit position : Nat}

theorem exists_stands (hsorted : rows.Pairwise lt) (cursor : Option α) :
    ∃ position ≤ rows.length, Stands lt rows cursor position := by
  cases cursor with
  | none => exact ⟨0, Nat.zero_le _, filter_eq_self.mpr fun _ _ => rfl⟩
  | some last =>
    induction rows with
    | nil => exact ⟨0, Nat.le_refl _, rfl⟩
    | cons row _ ih =>
      obtain ⟨hfirst, hrest⟩ := pairwise_cons.mp hsorted
      by_cases hlt : lt last row
      · refine ⟨0, Nat.zero_le _, filter_eq_self.mpr ?_⟩
        intro other hother
        rcases mem_cons.mp hother with rfl | hother
        · exact decide_eq_true hlt
        · exact decide_eq_true
            (IsTrans.trans _ _ _ hlt (hfirst other hother))
      · obtain ⟨position, hle, hstands⟩ := ih hrest
        refine ⟨position + 1, Nat.succ_le_succ hle, ?_⟩
        unfold Stands at hstands ⊢
        rw [filter_cons_of_neg (by simpa using hlt), hstands]
        rfl

/-- A cursor on a row leaves the rows behind it. -/
theorem stands_getElem (hsorted : rows.Pairwise lt)
    (hposition : position < rows.length) :
    Stands lt rows (some rows[position]) (position + 1) := by
  induction rows generalizing position with
  | nil => cases hposition
  | cons _ _ ih =>
    obtain ⟨hfirst, hrest⟩ := pairwise_cons.mp hsorted
    unfold Stands
    cases position with
    | zero =>
      rw [filter_cons_of_neg (by simp [irrefl_of lt]),
        filter_eq_self.mpr fun other hother => by
          simpa using hfirst other hother]
      rfl
    | succ =>
      have hnext := Nat.lt_of_succ_lt_succ hposition
      rw [filter_cons_of_neg]
      · exact ih hrest hnext
      · have hlater := hfirst _ (getElem_mem hnext)
        simpa using asymm_of lt hlater

/-- The next pass goes on behind a full page, and else from the first row. -/
theorem Stands.next (hsorted : rows.Pairwise lt) (hlimit : 0 < limit)
    (hstands : Stands lt rows cursor position) :
    Stands lt rows (resumeAfter (pageAfter lt rows cursor limit) limit)
      (if position + limit ≤ rows.length then position + limit else 0) := by
  unfold resumeAfter pageAfter
  rw [hstands, length_take, length_drop]
  by_cases hfull : position + limit ≤ rows.length
  · have hlast : position + limit - 1 < rows.length := by omega
    have hnext := stands_getElem hsorted hlast
    rw [if_pos (by omega), if_pos hfull, List.getLast?_eq_getElem?,
      length_take, length_drop,
      show min limit (rows.length - position) - 1 = limit - 1 by omega,
      List.getElem?_take_of_lt (by omega), List.getElem?_drop,
      show position + (limit - 1) = position + limit - 1 by omega,
      List.getElem?_eq_getElem hlast]
    rwa [show position + limit - 1 + 1 = position + limit by omega] at hnext
  · rw [if_neg (by omega), if_neg hfull]
    exact filter_eq_self.mpr fun _ _ => rfl

/-- The passes that a row waits for, by the distance to it: to the end and from
the first row again when it lies before the cursor. -/
theorem Rotates.reaches_within {cursor : Nat → Option α}
    (hrotates : Rotates lt rows limit cursor) (hsorted : rows.Pairwise lt)
    (hlimit : 0 < limit) {index : Nat} (hindex : index < rows.length) {n : Nat}
    (hstands : Stands lt rows (cursor n) position)
    (hposition : position ≤ rows.length) {distance : Nat}
    (hdistance : position ≤ index ∧ index - position ≤ distance ∨
      index < position ∧
        rows.length - position + limit + index ≤ distance) :
    ∃ i, i * limit ≤ distance ∧
      rows[index] ∈ pageAfter lt rows (cursor (n + i)) limit := by
  induction distance using Nat.strongRecOn generalizing position n with
  | _ distance ih =>
    by_cases hnow : position ≤ index ∧ index < position + limit
    · refine ⟨0, by omega, mem_iff_getElem.mpr ⟨index - position, ?_, ?_⟩⟩
      · unfold pageAfter
        rw [Nat.add_zero, hstands, length_take, length_drop]
        omega
      · simp only [pageAfter, Nat.add_zero, show _ = _ from hstands,
          getElem_take, getElem_drop,
          Nat.add_sub_cancel' hnow.1]
    · have hnext := hstands.next hsorted hlimit
      rw [← hrotates n] at hnext
      obtain ⟨i, _, hmem⟩ := ih (distance - limit) (by omega) hnext
        (by split <;> omega) (by split <;> omega)
      refine ⟨i + 1, ?_, ?_⟩
      · rw [Nat.succ_mul]
        omega
      · rwa [Nat.add_assoc, Nat.add_comm 1 i] at hmem

/-- Every row is on the page of one of `⌈length / limit⌉ + 1` consecutive
passes, wherever the first of them starts. -/
theorem Rotates.reaches {cursor : Nat → Option α}
    (hrotates : Rotates lt rows limit cursor) (hsorted : rows.Pairwise lt)
    (hlimit : 0 < limit) {row : α} (hrow : row ∈ rows) (n : Nat) :
    ∃ i ≤ (rows.length + limit - 1) / limit,
      row ∈ pageAfter lt rows (cursor (n + i)) limit := by
  obtain ⟨index, hindex, rfl⟩ := mem_iff_getElem.mp hrow
  obtain ⟨position, hposition, hstands⟩ := exists_stands hsorted (cursor n)
  have hdistance : position ≤ index ∧
      index - position ≤ rows.length + limit - 1 ∨
      index < position ∧ rows.length - position + limit + index ≤
        rows.length + limit - 1 := by omega
  obtain ⟨i, hi, hmem⟩ :=
    hrotates.reaches_within hsorted hlimit hindex hstands hposition hdistance
  exact ⟨i, (Nat.le_div_iff_mul_le hlimit).mpr hi, hmem⟩

end Pages

end Relational
