/-
Forests of parent links: the search for a root, which halves the path on its
way, and the union of two trees.
-/
import Mathlib.Tactic.Common

namespace Relational

universe u

variable {ι : Type u} [DecidableEq ι] {parent top : ι → ι}

/-- The root above an index; an index on the way is linked to the parent of its
parent. -/
def find : Nat → (ι → ι) → ι → Option (ι × (ι → ι))
  | 0, _, _ => none
  | fuel + 1, parent, index =>
    if parent index = index then some (index, parent)
    else
      let next := parent (parent index)
      find fuel (Function.update parent index next) next

/-- Every index has its root, and no path comes back. -/
structure Forest (parent top : ι → ι) : Prop where
  above : ∀ i, top (parent i) = top i
  root : ∀ i, parent i = i → top i = i
  acyclic : ∃ depth : ι → Nat, ∀ i, parent i ≠ i → depth (parent i) < depth i

omit [DecidableEq ι] in
theorem Forest.identity : Forest (id : ι → ι) id :=
  ⟨fun _ => rfl, fun _ _ => rfl, fun _ => 0, fun _ hne => absurd rfl hne⟩

/-- The search ends at the root and keeps every root. -/
theorem Forest.find (hforest : Forest parent top) (index : ι) :
    ∃ bound parent', Forest parent' top ∧ parent' (top index) = top index ∧
      (∀ i, parent i = i → parent' i = i) ∧
      ∀ fuel ≥ bound, Relational.find fuel parent index =
        some (top index, parent') := by
  obtain ⟨depth, hdepth⟩ := hforest.acyclic
  induction hk : depth index using Nat.strongRecOn generalizing parent index with
  | _ k ih =>
    by_cases hroot : parent index = index
    · have htop := hforest.root index hroot
      refine ⟨1, parent, hforest, htop.symm ▸ hroot, fun _ hi => hi, ?_⟩
      intro _ hfuel
      obtain ⟨_, rfl⟩ := Nat.exists_eq_add_of_le' hfuel
      rw [Relational.find, if_pos hroot, htop]
    have hnext : depth (parent (parent index)) < depth index := by
      have hup := hdepth index hroot
      by_cases hsecond : parent (parent index) = parent index
      · rwa [hsecond]
      · exact Nat.lt_trans (hdepth _ hsecond) hup
    have hhalved : ∀ i, Function.update parent index (parent (parent index)) i ≠
        i → depth (Function.update parent index (parent (parent index)) i) <
          depth i := by
      intro i hi
      by_cases hindex : i = index
      · rw [hindex, Function.update_self]
        exact hnext
      · rw [Function.update_of_ne hindex] at hi ⊢
        exact hdepth i hi
    have hsame : top (parent (parent index)) = top index :=
      (hforest.above _).trans (hforest.above _)
    have hforest' : Forest
        (Function.update parent index (parent (parent index))) top := by
      refine ⟨fun i => ?_, fun i hi => ?_, depth, hhalved⟩
      · by_cases hindex : i = index
        · rw [hindex, Function.update_self, hsame]
        · rw [Function.update_of_ne hindex]
          exact hforest.above i
      · by_cases hindex : i = index
        · rw [hindex, Function.update_self] at hi
          rw [hi] at hnext
          exact absurd hnext (Nat.lt_irrefl _)
        · rw [Function.update_of_ne hindex] at hi
          exact hforest.root i hi
    obtain ⟨bound, parent', hparent, htop, hkept, hfound⟩ :=
      ih _ (hk ▸ hnext) hforest' _ hhalved rfl
    rw [hsame] at htop hfound
    refine ⟨bound + 1, parent', hparent, htop, fun i hi => hkept i ?_, ?_⟩
    · rw [Function.update_of_ne]
      · exact hi
      · rintro rfl
        exact hroot hi
    · intro fuel hfuel
      obtain ⟨fuel, rfl⟩ :=
        Nat.exists_eq_add_of_le' (Nat.le_trans (Nat.le_add_left 1 bound) hfuel)
      rw [Relational.find, if_neg hroot]
      exact hfound fuel (Nat.le_of_succ_le_succ hfuel)

/-- A root that is linked to another root. -/
theorem Forest.union (hforest : Forest parent top) {a b : ι}
    (ha : parent a = a) (hb : parent b = b) :
    Forest (Function.update parent a b)
      (fun i => if top i = a then b else top i) := by
  have hta := hforest.root a ha
  have htb := hforest.root b hb
  obtain ⟨depth, hdepth⟩ := hforest.acyclic
  refine ⟨fun i => ?_, fun i hi => ?_,
    fun i => if top i = a then depth i + depth b + 1 else depth i, fun i hi => ?_⟩
  · by_cases hi : i = a
    · rw [hi, Function.update_self, if_pos hta, htb, ite_id]
    · rw [Function.update_of_ne hi, hforest.above]
  · by_cases hia : i = a
    · rw [hia, Function.update_self] at hi
      rw [hia, if_pos hta, hi]
    · rw [Function.update_of_ne hia] at hi
      rw [hforest.root i hi, if_neg hia]
  · by_cases hia : i = a
    · rw [hia, Function.update_self] at hi ⊢
      dsimp only
      rw [htb, if_neg hi, if_pos hta]
      omega
    · rw [Function.update_of_ne hia] at hi ⊢
      dsimp only
      rw [hforest.above]
      have := hdepth i hi
      split <;> omega

end Relational
