/-
Walking along a partial successor function with a list of the items already
met: the walk stops where there is no successor or where it comes back, so it
ends within one turn for each item that has a successor, and it meets exactly
the items that the start leads to.
-/
import Mathlib.Data.List.Nodup
import Mathlib.Data.List.Perm.Subperm

namespace Relational

open List

universe u

variable {α : Type u} [DecidableEq α] {next : α → Option α}
variable {start cursor : α} {seen : List α}

/-- Follow `next` from the cursor; `seen` are the items met so far. -/
def walk (next : α → Option α) : Nat → List α → α → List α
  | 0, seen, _ => seen
  | fuel + 1, seen, cursor =>
    match next cursor with
    | none => seen
    | some successor =>
      if successor ∈ seen then seen
      else walk next fuel (seen ++ [successor]) successor

/-- One turn leads from the first item to the second. -/
def Follows (next : α → Option α) (item successor : α) : Prop :=
  next item = some successor

/-- What the walk knows of the items it has met. -/
structure Walked (next : α → Option α) (start : α) (seen : List α)
    (cursor : α) : Prop where
  startSeen : start ∈ seen
  cursorSeen : cursor ∈ seen
  nodup : seen.Nodup
  reached : ∀ item ∈ seen, Relation.ReflTransGen (Follows next) start item
  expanded : ∀ item ∈ seen, item ≠ cursor →
    ∃ successor ∈ seen, next item = some successor

omit [DecidableEq α] in
theorem Walked.initial (start : α) : Walked next start [start] start where
  startSeen := mem_singleton_self start
  cursorSeen := mem_singleton_self start
  nodup := nodup_singleton start
  reached := by
    intro _ hitem
    rw [mem_singleton.mp hitem]
  expanded := by
    intro _ hitem hne
    exact absurd (mem_singleton.mp hitem) hne

omit [DecidableEq α] in
/-- A turn to a new item keeps what the walk knows. -/
theorem Walked.turn {successor : α} (hwalked : Walked next start seen cursor)
    (hnext : next cursor = some successor) (hfresh : successor ∉ seen) :
    Walked next start (seen ++ [successor]) successor where
  startSeen := mem_append_left _ hwalked.startSeen
  cursorSeen := mem_append_right _ (mem_singleton_self successor)
  nodup := by
    refine nodup_append.mpr
      ⟨hwalked.nodup, nodup_singleton successor, ?_⟩
    intro _ hitem _ hother heq
    rw [heq, mem_singleton.mp hother] at hitem
    exact hfresh hitem
  reached := by
    intro item hitem
    rcases mem_append.mp hitem with hold | hnew
    · exact hwalked.reached item hold
    · rw [mem_singleton.mp hnew]
      exact (hwalked.reached cursor hwalked.cursorSeen).tail hnext
  expanded := by
    intro item hitem hne
    rcases mem_append.mp hitem with hold | hnew
    · by_cases hcursor : item = cursor
      · rw [hcursor]
        exact ⟨successor,
          mem_append_right _ (mem_singleton_self successor), hnext⟩
      · obtain ⟨after, hafter, hstep⟩ := hwalked.expanded item hold hcursor
        exact ⟨after, mem_append_left _ hafter, hstep⟩
    · exact absurd (mem_singleton.mp hnew) hne

omit [DecidableEq α] in
/-- Once the cursor leads nowhere new, everything the start leads to is seen. -/
theorem Walked.complete {item : α} (hwalked : Walked next start seen cursor)
    (hend : ∀ successor, next cursor = some successor → successor ∈ seen)
    (hreached : Relation.ReflTransGen (Follows next) start item) :
    item ∈ seen := by
  induction hreached with
  | refl => exact hwalked.startSeen
  | @tail mid last _ hstep ih =>
    by_cases hcursor : mid = cursor
    · rw [hcursor] at hstep
      exact hend last hstep
    · obtain ⟨_, hseen, hnext⟩ := hwalked.expanded mid ih hcursor
      cases hnext.symm.trans hstep
      exact hseen

/-- All seen items but the cursor have a successor. -/
theorem Walked.length_le {domain : List α}
    (hwalked : Walked next start seen cursor)
    (hdomain : ∀ item successor, next item = some successor → item ∈ domain) :
    seen.length ≤ domain.length + 1 := by
  have hsub : seen.erase cursor ⊆ domain := by
    intro item hitem
    obtain ⟨hne, hseen⟩ := hwalked.nodup.mem_erase_iff.mp hitem
    obtain ⟨successor, _, hnext⟩ := hwalked.expanded item hseen hne
    exact hdomain item successor hnext
  have hle := ((hwalked.nodup.erase cursor).subperm hsub).length_le
  rw [length_erase_of_mem hwalked.cursorSeen] at hle
  omega

section Domain

variable {domain : List α} {start cursor : α} {seen : List α} {fuel : Nat}

/-- With a turn for each item that has a successor, the walk meets exactly the
items that the start leads to. -/
theorem mem_walk
    (hdomain : ∀ item successor, next item = some successor → item ∈ domain)
    (hwalked : Walked next start seen cursor)
    (hfuel : domain.length + 1 < fuel + seen.length) {item : α} :
    item ∈ walk next fuel seen cursor ↔
      Relation.ReflTransGen (Follows next) start item := by
  induction fuel generalizing seen cursor with
  | zero =>
    have hle := hwalked.length_le hdomain
    omega
  | succ _ ih =>
    rw [walk]
    cases hnext : next cursor with
    | none =>
      refine ⟨hwalked.reached item, hwalked.complete ?_⟩
      intro _ hsome
      rw [hnext] at hsome
      cases hsome
    | some successor =>
      by_cases hseen : successor ∈ seen
      · simp only [if_pos hseen]
        refine ⟨hwalked.reached item, hwalked.complete ?_⟩
        intro _ hother
        cases hnext.symm.trans hother
        exact hseen
      · simp only [if_neg hseen]
        refine ih (hwalked.turn hnext hseen) ?_
        rw [length_append, length_singleton]
        omega

/-- More turns than that change nothing: the walk has ended by itself. -/
theorem walk_of_le
    (hdomain : ∀ item successor, next item = some successor → item ∈ domain)
    (hwalked : Walked next start seen cursor)
    (hfuel : domain.length + 1 < fuel + seen.length) {more : Nat}
    (hmore : fuel ≤ more) :
    walk next more seen cursor = walk next fuel seen cursor := by
  induction fuel generalizing seen cursor more with
  | zero =>
    have hle := hwalked.length_le hdomain
    omega
  | succ _ ih =>
    obtain ⟨more, rfl⟩ : ∃ rest, more = rest + 1 :=
      ⟨more - 1, by omega⟩
    rw [walk, walk]
    cases hnext : next cursor with
    | none => rfl
    | some successor =>
      by_cases hseen : successor ∈ seen
      · simp only [if_pos hseen]
      · simp only [if_neg hseen]
        refine ih (hwalked.turn hnext hseen) ?_ (by omega)
        rw [length_append, length_singleton]
        omega

end Domain

end Relational
