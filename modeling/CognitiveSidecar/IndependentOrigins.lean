/-
Independent origins of evidence: records that share a root, directly or through
other records, count as one origin.
-/
import CognitiveSidecar.Lib.Forest
import Mathlib.Data.Set.Card

namespace CognitiveSidecar.Growth

open Option List Relational

structure EvidenceOrigin where
  roots : List String
  external : Bool

variable {n : Nat}

/-- The parents, and for each root the first record that has it. -/
abbrev Links (n : Nat) := (Fin n → Fin n) × (String → Option (Fin n))

/-- A record joins the first one that has its root. -/
def joinRoot (fuel : Nat) (links : Links n) (pair : Fin n × String) :
    Option (Links n) :=
  let (parent, owner) := links
  match owner pair.2 with
  | none => some (parent, Function.update owner pair.2 (some pair.1))
  | some seen => do
    let (under, parent) ← find fuel parent pair.1
    let (above, parent) ← find fuel parent seen
    some (Function.update parent under above, owner)

/-- The groups of the records, by their roots in the forest. -/
def groupsOf (fuel : Nat) : List (Fin n) → (Fin n → Fin n) →
    Option (List (Fin n))
  | [], _ => some []
  | index :: rest, parent => do
    let (group, parent) ← find fuel parent index
    let groups ← groupsOf fuel rest parent
    some (group :: groups)

/-- The records with their roots, in the order of the loops. -/
def rootPairs (origins : Fin n → EvidenceOrigin) : List (Fin n × String) :=
  (List.finRange n).flatMap fun index =>
    (origins index).roots.map fun root => (index, root)

structure OriginCount where
  (count own : Nat)

/-- `independentOrigins` of a list of `n` records; its loops run on `fuel`. -/
def independentOrigins (fuel : Nat) (origins : Fin n → EvidenceOrigin) :
    Option OriginCount := do
  let (parent, _) ← (rootPairs origins).foldlM (joinRoot fuel)
    (id, fun _ => none)
  let groups ← groupsOf fuel (List.finRange n) parent
  let owned := ((List.finRange n).zip groups).filter
    fun pair => !(origins pair.1).external
  some { count := groups.dedup.length
         own := (owned.map Prod.snd).dedup.length }

/-! Components. -/

/-- Two records share one of the roots. -/
def Shares (pairs : List (Fin n × String)) (i j : Fin n) : Prop :=
  ∃ root, (i, root) ∈ pairs ∧ (j, root) ∈ pairs

/-- The records that are connected by shared roots. -/
def connected (origins : Fin n → EvidenceOrigin) : Setoid (Fin n) :=
  Relation.EqvGen.setoid (Shares (rootPairs origins))

/-- The number of components that contain a record of the set. -/
noncomputable def components (origins : Fin n → EvidenceOrigin)
    (records : Set (Fin n)) : Nat :=
  ((Quotient.mk (connected origins)) '' records).ncard

/-- The records that are not external. -/
def ownRecords (origins : Fin n → EvidenceOrigin) : Set (Fin n) :=
  { i | (origins i).external = false }

variable {origins : Fin n → EvidenceOrigin} {i : Fin n}

theorem mem_rootPairs {root : String} :
    (i, root) ∈ rootPairs origins ↔ root ∈ (origins i).roots := by
  simp [rootPairs]

/-- The links stand for the closure of what the pairs so far share. -/
structure Joined (pairs : List (Fin n × String)) (parent : Fin n → Fin n)
    (owner : String → Option (Fin n)) (top : Fin n → Fin n) : Prop where
  forest : Forest parent top
  owned : ∀ root k, owner root = some k → (k, root) ∈ pairs
  seen : ∀ pair ∈ pairs, ∃ k, owner pair.2 = some k ∧ top k = top pair.1
  sound : ∀ i j, top i = top j → Relation.EqvGen (Shares pairs) i j

variable {pairs : List (Fin n × String)} {parent top : Fin n → Fin n}
  {owner : String → Option (Fin n)}

theorem shares_append {j : Fin n} (more : List (Fin n × String))
    (hconnected : Relation.EqvGen (Shares pairs) i j) :
    Relation.EqvGen (Shares (pairs ++ more)) i j :=
  hconnected.mono fun _ _ ⟨root, hi, hj⟩ =>
    ⟨root, mem_append_left _ hi, mem_append_left _ hj⟩

/-- One pair: its root is new, or the two trees become one. -/
theorem Joined.step (hjoined : Joined pairs parent owner top)
    (pair : Fin n × String) :
    ∃ bound parent' owner' top', Joined (pairs ++ [pair]) parent' owner' top' ∧
      ∀ fuel ≥ bound, joinRoot fuel (parent, owner) pair =
        some (parent', owner') := by
  have hlast : pair ∈ pairs ++ [pair] := mem_concat_self
  cases howner : owner pair.2 with
  | none =>
    have hfresh : ∀ other ∈ pairs, other.2 ≠ pair.2 := by
      intro other hother hsame
      obtain ⟨k, hk, _⟩ := hjoined.seen other hother
      rw [hsame, howner] at hk
      cases hk
    refine ⟨0, parent, Function.update owner pair.2 (some pair.1), top,
      ⟨hjoined.forest, ?_, ?_, ?_⟩, fun fuel _ => ?_⟩
    · intro root k hk
      by_cases hroot : root = pair.2
      · rw [hroot, Function.update_self] at hk
        cases hk
        rw [hroot]
        exact hlast
      · rw [Function.update_of_ne hroot] at hk
        exact mem_append_left _ (hjoined.owned root k hk)
    · intro other hother
      rcases mem_append.mp hother with hold | hnew
      · rw [Function.update_of_ne (hfresh other hold)]
        exact hjoined.seen other hold
      · rw [mem_singleton.mp hnew, Function.update_self]
        exact ⟨pair.1, rfl, rfl⟩
    · exact fun i j hsame => shares_append _ (hjoined.sound i j hsame)
    · simp only [joinRoot, howner]
  | some seen =>
    obtain ⟨first, middle, hmiddle, hunder, _, hfirst⟩ :=
      hjoined.forest.find pair.1
    obtain ⟨second, last, hforest, habove, hkept, hsecond⟩ := hmiddle.find seen
    refine ⟨max first second, Function.update last (top pair.1) (top seen), owner,
      fun i => if top i = top pair.1 then top seen else top i,
      ⟨hforest.union (hkept _ hunder) habove, ?_, ?_, ?_⟩, fun fuel hfuel => ?_⟩
    · exact fun root k hk => mem_append_left _ (hjoined.owned root k hk)
    · intro other hother
      rcases mem_append.mp hother with hold | hnew
      · obtain ⟨k, hk, hsame⟩ := hjoined.seen other hold
        exact ⟨k, hk, by rw [hsame]⟩
      · rw [mem_singleton.mp hnew]
        exact ⟨seen, howner, by rw [if_pos rfl, ite_self]⟩
    · have hshared : Relation.EqvGen (Shares (pairs ++ [pair])) pair.1 seen :=
        .rel _ _ ⟨pair.2, hlast,
          mem_append_left _ (hjoined.owned _ _ howner)⟩
      have hsound : ∀ i j, top i = top j →
          Relation.EqvGen (Shares (pairs ++ [pair])) i j :=
        fun i j hsame => shares_append _ (hjoined.sound i j hsame)
      intro i j hsame
      split at hsame
      · rename_i hi
        split at hsame
        · rename_i hj
          exact hsound i j (hi.trans hj.symm)
        · exact ((hsound _ _ hi).trans _ _ _ hshared).trans _ _ _
            (hsound _ _ hsame)
      · split at hsame
        · rename_i hj
          exact (hsound _ _ hsame).trans _ _ _
            (((hsound _ _ hj).trans _ _ _ hshared).symm)
        · exact hsound i j hsame
    · have hfound := hfirst fuel ((le_max_left _ _).trans hfuel)
      have hseen := hsecond fuel ((le_max_right _ _).trans hfuel)
      simp only [joinRoot, howner, hfound, hseen, bind_eq_bind,
        bind_some]

/-- All pairs. -/
theorem Joined.run (hjoined : Joined pairs parent owner top)
    (rest : List (Fin n × String)) :
    ∃ bound parent' owner' top', Joined (pairs ++ rest) parent' owner' top' ∧
      ∀ fuel ≥ bound, rest.foldlM (joinRoot fuel) (parent, owner) =
        some (parent', owner') := by
  induction rest generalizing pairs parent owner top with
  | nil =>
    rw [append_nil]
    exact ⟨0, parent, owner, top, hjoined, fun _ _ => rfl⟩
  | cons pair _ ih =>
    obtain ⟨first, _, _, _, hmiddle, hfirst⟩ := hjoined.step pair
    obtain ⟨second, last, owner'', top'', hlast, hsecond⟩ := ih hmiddle
    rw [append_assoc] at hlast
    refine ⟨max first second, last, owner'', top'', hlast, fun fuel hfuel => ?_⟩
    rw [foldlM_cons, hfirst fuel ((le_max_left _ _).trans hfuel)]
    exact hsecond fuel ((le_max_right _ _).trans hfuel)

theorem groupsOf_eq (hforest : Forest parent top) (indexes : List (Fin n)) :
    ∃ bound, ∀ fuel ≥ bound,
      groupsOf fuel indexes parent = some (indexes.map top) := by
  induction indexes generalizing parent with
  | nil => exact ⟨0, fun _ _ => rfl⟩
  | cons index _ ih =>
    obtain ⟨first, _, hmiddle, _, _, hfirst⟩ := hforest.find index
    obtain ⟨second, hsecond⟩ := ih hmiddle
    refine ⟨max first second, fun fuel hfuel => ?_⟩
    rw [groupsOf, hfirst fuel ((le_max_left _ _).trans hfuel)]
    simp only [bind_eq_bind, bind_some,
      hsecond fuel ((le_max_right _ _).trans hfuel), map_cons]

/-- Equal tops are equal components, so that the distinct tops of some records
are the components that contain one of them. -/
theorem length_dedup_tops
    (htop : ∀ i j, top i = top j ↔ (connected origins) i j)
    (keep : Fin n → Bool) :
    (((List.finRange n).filter keep).map top).dedup.length =
      components origins { i | keep i = true } := by
  let lift : Quotient (connected origins) → Fin n :=
    Quotient.lift top fun i j hij => (htop i j).mpr hij
  have hinjective : Function.Injective lift := by
    rintro ⟨i⟩ ⟨j⟩ hsame
    exact Quotient.sound ((htop i j).mp hsame)
  unfold components
  rw [← Set.ncard_image_of_injective _ hinjective, ← List.card_toFinset,
    ← Set.ncard_coe_finset]
  congr 1
  ext group
  simp [lift]

/-- A map of records that keeps what is connected covers some components. -/
theorem components_le {m : Nat} {others : Fin m → EvidenceOrigin}
    (g : Fin n → Fin m) (hroots : ∀ i, others (g i) = origins i)
    {records : Set (Fin n)} {covered : Set (Fin m)}
    (hcover : ∀ j ∈ covered, ∃ i ∈ records, (connected others) (g i) j) :
    components others covered ≤ components origins records := by
  have hkeep : ∀ i j, (connected origins) i j →
      (connected others) (g i) (g j) := by
    intro i j hij
    induction hij with
    | rel i j hshare =>
      obtain ⟨root, hi, hj⟩ := hshare
      rw [mem_rootPairs, ← hroots] at hi hj
      exact .rel _ _ ⟨root, mem_rootPairs.mpr hi, mem_rootPairs.mpr hj⟩
    | refl i => exact .refl _
    | symm i j _ ih => exact ih.symm
    | trans i j k _ _ hfirst hsecond => exact hfirst.trans _ _ _ hsecond
  refine (Set.ncard_le_ncard ?_ (Set.toFinite _)).trans
    (Set.ncard_image_le (f := Quotient.map g hkeep) (Set.toFinite _))
  rintro _ ⟨j, hj, rfl⟩
  obtain ⟨i, hi, hij⟩ := hcover j hj
  exact ⟨_, ⟨i, hi, rfl⟩, Quotient.sound hij⟩

/-- The same records in another order have the same components. -/
theorem components_comp (origins : Fin n → EvidenceOrigin)
    (order : Equiv.Perm (Fin n)) (records : Set (Fin n)) :
    components (origins ∘ order) (Set.preimage order records) =
      components origins records := by
  apply le_antisymm
  · refine components_le order.symm (fun i => by simp) fun j hj => ?_
    exact ⟨order j, hj, by rw [Equiv.symm_apply_apply]⟩
  · refine components_le order (fun i => rfl) fun j hj => ?_
    exact ⟨order.symm j, by simpa using hj,
      by rw [Equiv.apply_symm_apply]⟩

/-- The count ends, and is the number of components and of those with a record
that is not external; the order of the records does not matter, and a record
with a root that is cited already adds none. -/
theorem independent_origins_exact (origins : Fin n → EvidenceOrigin) :
    (∃ bound, ∀ fuel ≥ bound, independentOrigins fuel origins =
      some { count := components origins Set.univ
             own := components origins (ownRecords origins) }) ∧
    (∀ order : Equiv.Perm (Fin n),
      components (origins ∘ order) Set.univ = components origins Set.univ ∧
      components (origins ∘ order) (ownRecords (origins ∘ order)) =
        components origins (ownRecords origins)) ∧
    ∀ (added : EvidenceOrigin) (cited : Fin n) (root : String),
      root ∈ added.roots → root ∈ (origins cited).roots →
      components (Fin.cons added origins : Fin (n + 1) → EvidenceOrigin)
        Set.univ ≤ components origins Set.univ := by
  refine ⟨?_, fun order => ?_, fun _ cited root hadded hcited => ?_⟩
  · have hstart : Joined (n := n) [] id (fun _ => none) id :=
      ⟨.identity, fun _ _ hk => (by cases hk),
        fun _ hpair => absurd hpair List.not_mem_nil,
        fun i j hsame => by rw [show i = j from hsame]; exact .refl j⟩
    obtain ⟨first, _, _, top, hjoined, hfirst⟩ := hstart.run (rootPairs origins)
    obtain ⟨second, hsecond⟩ := groupsOf_eq hjoined.forest (List.finRange n)
    have htop : ∀ i j, top i = top j ↔ (connected origins) i j := by
      refine fun i j => ⟨hjoined.sound i j, fun hij => ?_⟩
      induction hij with
      | rel i j hshare =>
        obtain ⟨_, hi, hj⟩ := hshare
        obtain ⟨k, hk, hki⟩ := hjoined.seen _ hi
        obtain ⟨l, hl, hlj⟩ := hjoined.seen _ hj
        cases hk.symm.trans hl
        exact hki.symm.trans hlj
      | refl i => rfl
      | symm i j _ ih => exact ih.symm
      | trans i j k _ _ hfirst hsecond => exact hfirst.trans hsecond
    refine ⟨max first second, fun fuel hfuel => ?_⟩
    have hcount := length_dedup_tops htop fun _ => true
    have hown := length_dedup_tops htop fun i => !(origins i).external
    unfold independentOrigins
    rw [hfirst fuel ((le_max_left _ _).trans hfuel)]
    simp only [Option.bind_eq_bind, Option.bind_some,
      hsecond fuel ((le_max_right _ _).trans hfuel)]
    have hzip : ∀ indexes : List (Fin n),
        ((indexes.zip (indexes.map top)).filter
          fun pair => !(origins pair.1).external).map Prod.snd =
        (indexes.filter fun i => !(origins i).external).map top := by
      intro indexes
      induction indexes with
      | nil => rfl
      | cons _ _ ih =>
        simp only [List.map_cons, List.zip_cons_cons, List.filter_cons]
        split
        · rw [List.map_cons, List.map_cons, ih]
        · exact ih
    rw [hzip, hown]
    simp only [List.filter_true] at hcount
    rw [hcount]
    simp [ownRecords]
  · exact ⟨components_comp origins order Set.univ,
      components_comp origins order (ownRecords origins)⟩
  · refine components_le Fin.succ (fun i => rfl) fun j _ => ?_
    refine Fin.cases ?_ (fun i => ⟨i, trivial, .refl _⟩) j
    exact ⟨cited, trivial, .rel _ _ ⟨root, mem_rootPairs.mpr hcited,
      mem_rootPairs.mpr hadded⟩⟩

end CognitiveSidecar.Growth
