/-
What the arbiter keeps over its calls: each observation is counted once, every
state that it returns is one that it accepts, and a selected nucleus rests.
-/
import CognitiveSidecar.Lib.Run
import CognitiveSidecar.Thalamus
import Mathlib.Data.List.Lex
import Mathlib.Tactic.Linarith

namespace CognitiveSidecar.Thalamus

open List Relational

section Texts

variable {a b : String}

theorem unitRank_injective {a b : Char} (hrank : unitRank a = unitRank b) :
    a = b := by
  have hbound : ∀ c : Char, c.toNat < 0x110000 := by
    intro c
    rcases c.valid with hlow | ⟨_, hhigh⟩
    · exact Nat.lt_trans hlow (by decide)
    · exact hhigh
  have ha := hbound a
  have hb := hbound b
  have hsame : a.toNat = b.toNat := by
    unfold unitRank at hrank
    split_ifs at hrank <;> omega
  exact Char.toNat_inj.mp hsame

theorem unitRanks_injective (hranks : unitRanks a = unitRanks b) :
    a = b := by
  have hchars : a.toList = b.toList :=
    map_injective_iff.mpr (fun _ _ => unitRank_injective) hranks
  exact String.toList_injective hchars

theorem ranksBefore_iff {as bs : List Nat} :
    ranksBefore as bs = true ↔ List.Lex (· < ·) as bs := by
  induction bs generalizing as with
  | nil => simp [ranksBefore]
  | cons b _ ih =>
    cases as with
    | nil => simp [ranksBefore]
    | cons a =>
      simp only [ranksBefore, Bool.or_eq_true, Bool.and_eq_true,
        decide_eq_true_eq, ih]
      constructor
      · rintro (hlt | ⟨rfl, hrest⟩)
        · exact .rel hlt
        · exact .cons hrest
      · rintro (_ | hlt | hrest)
        · exact .inl hlt
        · exact .inr ⟨rfl, hrest⟩

theorem textBefore_irrefl (a : String) : textBefore a a = false := by
  by_contra hbefore
  rw [Bool.not_eq_false] at hbefore
  exact irrefl_of (List.Lex (· < ·)) _ (ranksBefore_iff.mp hbefore)

theorem textBefore_trans {c : String} (hab : textBefore a b = true)
    (hbc : textBefore b c = true) : textBefore a c = true := by
  have horder : IsStrictWeakOrder (List Nat) (List.Lex (· < ·)) :=
    isStrictWeakOrder_of_isOrderConnected
  exact ranksBefore_iff.mpr (trans_of (List.Lex (· < ·))
    (ranksBefore_iff.mp hab) (ranksBefore_iff.mp hbc))

/-- Two event ids that are not before each other are the same. -/
theorem textBefore_total (hab : textBefore a b = false) :
    a = b ∨ textBefore b a = true := by
  rcases trichotomous_of (List.Lex (· < ·)) (unitRanks a) (unitRanks b) with
    hbefore | hsame | hafter
  · rw [textBefore, ranksBefore_iff.mpr hbefore] at hab
    cases hab
  · exact .inl (unitRanks_injective hsame)
  · exact .inr (ranksBefore_iff.mpr hafter)

end Texts

section Marks

variable {K : Type} [Field K] [LinearOrder K]
variable {families : Table (FamilyState K)}

/-- The time and event id that an observation leaves in its family. -/
def Candidate.mark (candidate : Candidate K) : K × String :=
  (candidate.observedAtMs, candidate.eventId)

def FamilyState.mark (family : FamilyState K) : K × String :=
  (family.lastObservedAtMs, family.lastEventId)

/-- One mark is before another in time, or in the order of the event ids. -/
def MarkBefore (a b : K × String) : Prop :=
  a.1 < b.1 ∨ a.1 = b.1 ∧ textBefore a.2 b.2 = true

omit [Field K] in
theorem MarkBefore.irrefl (a : K × String) : ¬ MarkBefore a a := by
  rintro (hlt | ⟨_, htext⟩)
  · exact lt_irrefl _ hlt
  · rw [textBefore_irrefl] at htext
    cases htext

omit [Field K] in
theorem MarkBefore.trans {a b c : K × String} (hab : MarkBefore a b)
    (hbc : MarkBefore b c) : MarkBefore a c := by
  rcases hab with hab | ⟨hab, htext⟩
  · rcases hbc with hbc | ⟨hbc, _⟩
    · exact .inl (lt_trans hab hbc)
    · exact .inl (hbc ▸ hab)
  · rcases hbc with hbc | ⟨hbc, htext'⟩
    · exact .inl (hab ▸ hbc)
    · exact .inr ⟨hab.trans hbc, textBefore_trans htext htext'⟩

/-- The mark of the family is at the candidate or after it. -/
def Seen (families : Table (FamilyState K)) (candidate : Candidate K) : Prop :=
  ∃ family, families.get? candidate.familyKey = some family ∧
    (candidate.mark = family.mark ∨ MarkBefore candidate.mark family.mark)

omit [Field K] [LinearOrder K] in
theorem get?_mem_all {P : FamilyState K → Prop} :
    (∀ family ∈ families.rows, P family) ↔
      ∀ name family, families.get? name = some family → P family := by
  constructor
  · intro hall _ family hfamily
    exact hall family (mem_of_get? hfamily)
  · intro hall family hmem
    exact hall _ family (get?_key hmem)

omit [Field K] in
/-- What is counted is not of the future, and after the mark of its family. -/
theorem isCounted_iff {effectiveNow : K} {candidate : Candidate K} :
    isCounted effectiveNow families candidate = true ↔
      candidate.observedAtMs ≤ effectiveNow ∧
        ∀ family, families.get? candidate.familyKey = some family →
          MarkBefore family.mark candidate.mark := by
  unfold isCounted isStale isDuplicate
  cases hfamily : families.get? candidate.familyKey with
  | none => simp
  | some family =>
    simp only [Option.any_some, Bool.and_eq_true, Bool.not_eq_true',
      Bool.or_eq_false_iff, decide_eq_false_iff_not, not_lt,
      Bool.and_eq_false_iff]
    constructor
    · rintro ⟨⟨hnow, hlate, hsame⟩, hother⟩
      refine ⟨hnow, fun _ hget => ?_⟩
      cases hget
      rcases lt_or_eq_of_le hlate with hlt | heq
      · exact .inl hlt
      · refine .inr ⟨heq, ?_⟩
        have hbefore := hsame.resolve_left (fun hne => hne heq.symm)
        rcases textBefore_total hbefore with hid | hafter
        · rcases hother with hne | hne
          · exact absurd hid.symm hne
          · exact absurd heq hne
        · exact hafter
    · rintro ⟨hnow, hmark⟩
      have hbefore := hmark family rfl
      refine ⟨⟨hnow, ?_, ?_⟩, ?_⟩
      · rcases hbefore with hlt | ⟨heq, _⟩
        · exact le_of_lt hlt
        · exact le_of_eq heq
      · rcases hbefore with hlt | ⟨_, htext⟩
        · exact .inl (ne_of_lt hlt).symm
        · refine .inr ?_
          by_contra hafter
          rw [Bool.not_eq_false] at hafter
          have hloop : textBefore family.lastEventId family.lastEventId =
              true := textBefore_trans htext hafter
          rw [textBefore_irrefl] at hloop
          cases hloop
      · by_contra hsame
        rw [not_or, not_not, not_not] at hsame
        obtain ⟨hid, htime⟩ := hsame
        have hmarks : family.mark = candidate.mark := Prod.ext htime hid
        exact MarkBefore.irrefl _ (hmarks ▸ hbefore)

end Marks

section Families

variable {K : Type} [Field K] [LinearOrder K]
  {families : Table (FamilyState K)} {candidate : Candidate K}
  {context : ThalamusContext K} {effectiveNow : K}

omit [Field K] [LinearOrder K] in
theorem get?_putFamily (family : FamilyState K) (name : String) :
    (putFamily families family).get? name =
      if name = family.familyKey then some family
      else families.get? name := by
  unfold putFamily
  rw [Table.get?_upsert]
  change (if name = family.familyKey then _ else _) = _
  split
  · rename_i hname
    cases hold : families.get? name with
    | none => rfl
    | some old =>
      have hkey : old.familyKey = family.familyKey :=
        (key_of_get? hold).trans hname
      rw [Option.map_some, Option.getD_some, hkey]
  · rfl

/-- A restored or untouched family. -/
theorem get?_dishabituate (name : String) :
    ∃ f : FamilyState K → FamilyState K,
      (∀ family, f family = family ∨ f family = family.restored) ∧
      (∀ family, family.source = candidate.source → f family = family) ∧
      (dishabituate families candidate).get? name =
        (families.get? name).map f := by
  unfold dishabituate
  dsimp only
  split
  · refine ⟨fun family => if decide (family.source ≠ candidate.source) then
      family.restored else family, fun family => ?_, fun family hsource => ?_,
      get?_update _ _ _ _ name⟩
    · dsimp only
      split
      · exact .inr rfl
      · exact .inl rfl
    · dsimp only
      rw [if_neg (by simpa using hsource)]
  · exact ⟨id, fun _ => .inl rfl, fun _ _ => rfl, by rw [Option.map_id]; rfl⟩

/-- A counted candidate leaves its own mark in its family, and the other
families keep theirs. -/
theorem get?_observe (hcounted : isCounted effectiveNow families candidate = true)
    (name : String) :
    ∃ f : FamilyState K → FamilyState K,
      (∀ family, f family = family ∨ f family = family.restored) ∧
      (observe context effectiveNow families candidate).get? name =
        if name = candidate.familyKey then
          some (observedFamily context effectiveNow
            (families.get? candidate.familyKey) candidate)
        else (families.get? name).map f := by
  unfold observe
  rw [if_pos hcounted]
  obtain ⟨f, hf, hsource, hget⟩ := @get?_dishabituate K _ _
    (putFamily families (observedFamily context effectiveNow
      (families.get? candidate.familyKey) candidate)) candidate name
  refine ⟨f, hf, ?_⟩
  rw [hget, get?_putFamily]
  change Option.map f (if name = candidate.familyKey then _ else _) = _
  split
  · rw [Option.map_some, hsource _ rfl]
  · rfl

theorem observe_of_not_counted
    (hcounted : isCounted effectiveNow families candidate = false) :
    observe context effectiveNow families candidate = families := by
  unfold observe
  rw [if_neg (by simp [hcounted])]

omit [Field K] in
/-- A candidate that is counted was not seen, and is seen from then on. -/
theorem not_seen_of_counted
    (hcounted : isCounted effectiveNow families candidate = true) :
    ¬ Seen families candidate := by
  rintro ⟨family, hfamily, hmark⟩
  have hafter := (isCounted_iff.mp hcounted).2 family hfamily
  rcases hmark with hsame | hbefore
  · rw [hsame] at hafter
    exact MarkBefore.irrefl _ hafter
  · exact MarkBefore.irrefl _ (hafter.trans hbefore)

theorem seen_observe_self
    (hcounted : isCounted effectiveNow families candidate = true) :
    Seen (observe context effectiveNow families candidate) candidate := by
  obtain ⟨f, _, hget⟩ := @get?_observe K _ _ families candidate context
    effectiveNow hcounted candidate.familyKey
  rw [if_pos rfl] at hget
  exact ⟨_, hget, .inl rfl⟩

/-- What was seen stays seen. -/
theorem Seen.observe {other : Candidate K} (hseen : Seen families other) :
    Seen (observe context effectiveNow families candidate) other := by
  obtain ⟨family, hfamily, hmark⟩ := hseen
  cases hcounted : isCounted effectiveNow families candidate with
  | false =>
    rw [observe_of_not_counted hcounted]
    exact ⟨family, hfamily, hmark⟩
  | true =>
    obtain ⟨f, hf, hget⟩ := @get?_observe K _ _ families candidate context
      effectiveNow hcounted other.familyKey
    by_cases hname : other.familyKey = candidate.familyKey
    · rw [if_pos hname] at hget
      refine ⟨_, hget, .inr ?_⟩
      have hafter := (isCounted_iff.mp hcounted).2 family (hname ▸ hfamily)
      rcases hmark with hsame | hbefore
      · rw [hsame]
        exact hafter
      · exact hbefore.trans hafter
    · rw [if_neg hname, hfamily] at hget
      refine ⟨_, hget, ?_⟩
      rcases hf family with hkept | hrestored
      · rw [hkept]
        exact hmark
      · rw [hrestored]
        exact hmark

/-- The candidates that a list of observations counts. -/
def countedIn (context : ThalamusContext K) (effectiveNow : K) :
    Table (FamilyState K) → List (Candidate K) → List (Candidate K)
  | _, [] => []
  | families, candidate :: rest =>
    let after := countedIn context effectiveNow
      (observe context effectiveNow families candidate) rest
    if isCounted effectiveNow families candidate then candidate :: after
    else after

theorem observeAll_fst (candidates : List (Candidate K)) :
    (observeAll context effectiveNow families candidates).1 =
      candidates.foldl (observe context effectiveNow) families := by
  induction candidates generalizing families with
  | nil => rfl
  | cons _ _ ih =>
    rw [observeAll, foldl_cons, ← ih]
    split <;> rfl

/-- A list of observations counts no candidate twice, none that was seen, and
all that it counts is seen after it. -/
theorem countedIn_once (candidates : List (Candidate K)) :
    (countedIn context effectiveNow families candidates).Nodup ∧
    (∀ candidate ∈ countedIn context effectiveNow families candidates,
      candidate ∈ candidates ∧ ¬ Seen families candidate ∧
      Seen (candidates.foldl (observe context effectiveNow) families)
        candidate) ∧
    ∀ other, Seen families other →
      Seen (candidates.foldl (observe context effectiveNow) families)
        other := by
  induction candidates generalizing families with
  | nil =>
    exact ⟨nodup_nil, fun _ hmem => absurd hmem not_mem_nil,
      fun _ hseen => hseen⟩
  | cons candidate rest ih =>
    obtain ⟨hnodup, hcounted, hkept⟩ := @ih
      (observe context effectiveNow families candidate)
    have hrest : ∀ other ∈ countedIn context effectiveNow
        (observe context effectiveNow families candidate) rest,
        other ∈ candidate :: rest ∧ ¬ Seen families other ∧
        Seen ((candidate :: rest).foldl (observe context effectiveNow)
          families) other := by
      intro other hmem
      obtain ⟨hin, hnew, hseen⟩ := hcounted other hmem
      exact ⟨mem_cons_of_mem _ hin, fun hold => hnew hold.observe, hseen⟩
    refine ⟨?_, ?_, fun other hseen => hkept other hseen.observe⟩
    · rw [countedIn]
      split
      · rename_i hself
        refine nodup_cons.mpr ⟨fun hmem => ?_, hnodup⟩
        exact (hcounted candidate hmem).2.1 (seen_observe_self hself)
      · exact hnodup
    · intro other hmem
      rw [countedIn] at hmem
      split at hmem
      · rename_i hself
        rcases mem_cons.mp hmem with rfl | hmem
        · exact ⟨mem_cons_self, not_seen_of_counted hself,
            hkept _ (seen_observe_self hself)⟩
        · exact hrest other hmem
      · exact hrest other hmem

end Families

section Validity

variable {K : Type} [Field K] [LinearOrder K] [IsStrictOrderedRing K]
  {families : Table (FamilyState K)} {candidate : Candidate K}
  {context : ThalamusContext K} {effectiveNow : K} {family : FamilyState K}

variable {state : ThalamusState K}
variable {nowMs now : K} {decay : K → K → K}

/-- A response is a fraction, an arousal is not negative, and nothing is dated
after its evaluation. -/
structure FamilyState.Valid (family : FamilyState K) (nowMs : K) : Prop where
  response_nonneg : 0 ≤ family.response
  response_le : family.response ≤ 1
  arousal : 0 ≤ family.arousal
  evaluated : family.lastEvaluatedAtMs ≤ nowMs
  observed : family.lastObservedAtMs ≤ family.lastEvaluatedAtMs

omit [IsStrictOrderedRing K] in
theorem FamilyState.isValid_iff :
    family.isValid nowMs = true ↔ family.Valid nowMs := by
  simp only [FamilyState.isValid, Bool.and_eq_true, decide_eq_true_eq]
  constructor
  · rintro ⟨⟨⟨⟨hnonneg, hle⟩, harousal⟩, hevaluated⟩, hobserved⟩
    exact ⟨hnonneg, hle, harousal, hevaluated, hobserved⟩
  · rintro ⟨hnonneg, hle, harousal, hevaluated, hobserved⟩
    exact ⟨⟨⟨⟨hnonneg, hle⟩, harousal⟩, hevaluated⟩, hobserved⟩

omit [Field K] [IsStrictOrderedRing K] in
theorem clamp_mem {value low high : K} (hle : low ≤ high) :
    low ≤ clamp value low high ∧ clamp value low high ≤ high :=
  ⟨le_max_left _ _, max_le hle (min_le_left _ _)⟩

theorem FamilyState.Valid.evaluate {lastNowMs : K}
    (hvalid : family.Valid lastNowMs) (decay : K → K → K)
    (hle : lastNowMs ≤ effectiveNow) :
    (family.evaluated decay effectiveNow).Valid effectiveNow where
  response_nonneg := by
    unfold FamilyState.evaluated
    dsimp only
    split
    · exact hvalid.response_nonneg
    · exact (clamp_mem zero_le_one).1
  response_le := by
    unfold FamilyState.evaluated
    dsimp only
    split
    · exact hvalid.response_le
    · exact (clamp_mem zero_le_one).2
  arousal := le_max_left _ _
  evaluated := le_refl _
  observed := le_trans hvalid.observed (le_trans hvalid.evaluated hle)

/-- A repetition takes a fraction of the response away. -/
theorem habituationAlpha_mem :
    0 ≤ habituationAlpha context candidate ∧
      habituationAlpha context candidate ≤ 1 := by
  unfold habituationAlpha
  split
  · obtain ⟨hlow, hhigh⟩ := @clamp_mem K _
      ((context.habituation candidate.familyKey).getD (1 / 10)) 0 (8 / 10)
      (by norm_num)
    exact ⟨hlow, le_trans hhigh (by norm_num)⟩
  · obtain ⟨hlow, hhigh⟩ := @clamp_mem K _
      ((context.habituation candidate.familyKey).getD (3 / 10)) (3 / 10)
      (8 / 10) (by norm_num)
    exact ⟨le_trans (by norm_num) hlow, le_trans hhigh (by norm_num)⟩

theorem observedFamily_valid
    (hfamily : ∀ family, families.get? candidate.familyKey = some family →
      family.Valid effectiveNow)
    (htime : candidate.observedAtMs ≤ effectiveNow) :
    (observedFamily context effectiveNow
      (families.get? candidate.familyKey) candidate).Valid effectiveNow := by
  have hresponse : 0 ≤ (observedFamily context effectiveNow
      (families.get? candidate.familyKey) candidate).response ∧
      (observedFamily context effectiveNow
        (families.get? candidate.familyKey) candidate).response ≤ 1 := by
    cases hold : families.get? candidate.familyKey with
    | none => exact ⟨zero_le_one, le_refl _⟩
    | some family =>
      have hvalid := hfamily family hold
      obtain ⟨hlow, hhigh⟩ := @habituationAlpha_mem K _ _ _ candidate context
      have hrest : 0 ≤ 1 - habituationAlpha context candidate :=
        sub_nonneg.mpr hhigh
      refine ⟨mul_nonneg hvalid.response_nonneg hrest, ?_⟩
      exact mul_le_one₀ hvalid.response_le hrest (sub_le_self _ hlow)
  refine ⟨hresponse.1, hresponse.2, ?_, le_refl _, htime⟩
  refine add_nonneg ?_ ?_
  · cases hold : families.get? candidate.familyKey with
    | none => exact le_refl _
    | some family => exact (hfamily family hold).arousal
  · split
    · exact le_refl _
    · exact mul_nonneg (clamp_mem zero_le_one).1 hresponse.1

theorem FamilyState.Valid.restore (hvalid : family.Valid nowMs) :
    family.restored.Valid nowMs := by
  have hnonneg := hvalid.response_nonneg
  have hle := hvalid.response_le
  refine ⟨?_, ?_, hvalid.arousal, hvalid.evaluated, hvalid.observed⟩
  · change 0 ≤ family.response + (1 - family.response) * (1 / 2)
    linarith
  · change family.response + (1 - family.response) * (1 / 2) ≤ 1
    linarith

omit [IsStrictOrderedRing K] in
theorem FamilyState.Valid.resets (hvalid : family.Valid nowMs) :
    family.reset.Valid nowMs := by
  refine ⟨hvalid.response_nonneg, hvalid.response_le, ?_, hvalid.evaluated,
    hvalid.observed⟩
  change 0 ≤ family.arousal * 0
  rw [mul_zero]

/-- All the families of a table are valid. -/
def AllValid (families : Table (FamilyState K)) (nowMs : K) : Prop :=
  ∀ name family, families.get? name = some family → family.Valid nowMs

omit [IsStrictOrderedRing K] in
theorem allValid_iff :
    families.rows.all (·.isValid nowMs) = true ↔ AllValid families nowMs := by
  rw [AllValid, ← get?_mem_all, all_eq_true]
  exact forall₂_congr fun _ _ => FamilyState.isValid_iff

theorem AllValid.observe (hvalid : AllValid families effectiveNow) :
    AllValid (observe context effectiveNow families candidate)
      effectiveNow := by
  cases hcounted : isCounted effectiveNow families candidate with
  | false =>
    rw [observe_of_not_counted hcounted]
    exact hvalid
  | true =>
    intro name _ hfamily
    obtain ⟨f, hf, hget⟩ := @get?_observe K _ _ families candidate context
      effectiveNow hcounted name
    rw [hget] at hfamily
    split at hfamily
    · cases hfamily
      exact observedFamily_valid (hvalid _) (isCounted_iff.mp hcounted).1
    · cases hold : families.get? name with
      | none =>
        rw [hold] at hfamily
        cases hfamily
      | some old =>
        rw [hold] at hfamily
        cases hfamily
        rcases hf old with hkept | hrestored
        · rw [hkept]
          exact hvalid name old hold
        · rw [hrestored]
          exact (hvalid name old hold).restore

theorem AllValid.observeAll (hvalid : AllValid families effectiveNow)
    (candidates : List (Candidate K)) :
    AllValid (observeAll context effectiveNow families candidates).1
      effectiveNow := by
  rw [observeAll_fst]
  induction candidates generalizing families with
  | nil => exact hvalid
  | cons _ _ ih => exact ih hvalid.observe

theorem AllValid.evaluate (hvalid : AllValid state.families state.lastNowMs) :
    AllValid (state.evaluatedFamilies decay now) (state.effectiveNow now) := by
  intro name _ hfamily
  unfold ThalamusState.evaluatedFamilies at hfamily
  rw [get?_update] at hfamily
  cases hold : state.families.get? name with
  | none =>
    rw [hold] at hfamily
    cases hfamily
  | some old =>
    rw [hold] at hfamily
    cases hfamily
    exact (hvalid name old hold).evaluate decay (le_max_right _ _)

omit [IsStrictOrderedRing K] in
theorem AllValid.select (hvalid : AllValid state.families nowMs) :
    AllValid (select effectiveNow state candidate).families nowMs := by
  intro name _ hfamily
  unfold Thalamus.select at hfamily
  rw [get?_update] at hfamily
  cases hold : state.families.get? name with
  | none =>
    rw [hold] at hfamily
    cases hfamily
  | some old =>
    rw [hold, Option.map_some] at hfamily
    split at hfamily
    · cases hfamily
      exact (hvalid name old hold).resets
    · cases hfamily
      exact hvalid name _ hold

omit [IsStrictOrderedRing K] in
/-- Evaluation and selection leave the marks alone. -/
theorem Seen.evaluate :
    Seen (state.evaluatedFamilies decay now) candidate ↔
      Seen state.families candidate := by
  unfold Seen ThalamusState.evaluatedFamilies
  rw [get?_update]
  cases state.families.get? candidate.familyKey with
  | none => simp
  | some old =>
    constructor
    · rintro ⟨_, hfamily, hmark⟩
      cases hfamily
      exact ⟨old, rfl, hmark⟩
    · rintro ⟨_, hfamily, hmark⟩
      cases hfamily
      exact ⟨_, rfl, hmark⟩

omit [IsStrictOrderedRing K] in
theorem Seen.select {other : Candidate K}
    (hseen : Seen state.families candidate) :
    Seen (select effectiveNow state other).families candidate := by
  obtain ⟨_, hfamily, hmark⟩ := hseen
  unfold Seen Thalamus.select
  rw [get?_update, hfamily, Option.map_some]
  refine ⟨_, rfl, ?_⟩
  split <;> exact hmark

end Validity

section Calls

variable {K : Type} [Field K] [LinearOrder K]

/-- The arguments of one call. -/
structure Call (K : Type) where
  candidates : List (Candidate K)
  now : K
  context : ThalamusContext K

/-- The distinct candidates in the order of their ids. -/
def sortedCandidates (kept : List (Candidate K)) : List (Candidate K) :=
  kept.insertionSort (byEventId · ·)

/-- The families and the stale ids after the observations of a call. -/
def observations (decay : K → K → K) (state : ThalamusState K) (call : Call K)
    (kept : List (Candidate K)) : Table (FamilyState K) × List String :=
  observeAll call.context (state.effectiveNow call.now)
    (state.evaluatedFamilies decay call.now)
    ((sortedCandidates kept).insertionSort (byTime · ·))

/-- The state after the observations of a call. -/
def observedState (decay : K → K → K) (state : ThalamusState K)
    (call : Call K) (kept : List (Candidate K)) : ThalamusState K where
  lastNowMs := state.effectiveNow call.now
  families := (observations decay state call kept).1
  lastSelectedAtMs := state.lastSelectedAtMs

/-- The row of a candidate in the ranking of a call. -/
def rankIn (decay : K → K → K) (state : ThalamusState K) (call : Call K)
    (kept : List (Candidate K)) (candidate : Candidate K) : Ranked K :=
  rank call.context state (observations decay state call kept).1
    (observations decay state call kept).2 (state.effectiveNow call.now)
    candidate

/-- What a call returns: the distinct candidates are all left, or some
available ones are selected. -/
structure Arbitrated (decay : K → K → K) (state : ThalamusState K)
    (call : Call K) (decision : Decision K) (state' : ThalamusState K)
    (kept : List (Candidate K)) : Prop where
  valid : AllValid state.families state.lastNowMs
  collected : eachOf collectCandidate [] call.candidates = .ok kept
  after : state' = decision.bundle.foldl
    (select (state.effectiveNow call.now))
    (observedState decay state call kept)
  selected : (decision.bundle = [] ∧
      decision.pending = sortedCandidates kept) ∨
    ∃ winner ∈ sortedCandidates kept,
      (rankIn decay state call kept winner).available = true ∧
      decision.bundle = winner :: (sortedCandidates kept).filter
        (fun candidate => candidate.eventId ≠ winner.eventId &&
          (rankIn decay state call kept candidate).available &&
          candidate.passType = winner.passType) ∧
      decision.pending = (sortedCandidates kept).filter fun candidate =>
        !(decision.bundle.map (·.eventId)).contains candidate.eventId

variable {decay : K → K → K} {state state' : ThalamusState K} {call : Call K}
  {decision : Decision K}

theorem arbitrate_ok (hok : arbitrate decay state call.candidates call.now
      call.context = .ok (decision, state')) :
    ∃ kept, Arbitrated decay state call decision state' kept := by
  unfold arbitrate at hok
  dsimp only at hok
  obtain ⟨hvalid, hok⟩ := of_require hok
  obtain ⟨kept, hkept, hok⟩ := of_bind hok
  have hvalid := allValid_iff.mp hvalid
  refine ⟨kept, ?_⟩
  split at hok
  · cases of_pure hok
    exact ⟨hvalid, hkept, rfl, .inl ⟨rfl, rfl⟩⟩
  split at hok
  · cases of_pure hok
    exact ⟨hvalid, hkept, rfl, .inl ⟨rfl, rfl⟩⟩
  · rename_i hwinner
    have hmem := mem_of_head? hwinner
    rw [mem_insertionSort] at hmem
    obtain ⟨hranked, heligible⟩ := mem_filter.mp hmem
    obtain ⟨candidate, hcandidate, rfl⟩ := mem_map.mp hranked
    have havailable : (rankIn decay state call kept candidate).available =
        true := by
      unfold Ranked.isEligible at heligible
      rw [Bool.and_eq_true] at heligible
      exact heligible.1
    have hrest : (((sortedCandidates kept).map
        (rankIn decay state call kept)).filter (fun row =>
          row.candidate.eventId ≠ candidate.eventId && row.available &&
            row.candidate.passType = candidate.passType)).map (·.candidate) =
        (sortedCandidates kept).filter (fun other =>
          other.eventId ≠ candidate.eventId &&
            (rankIn decay state call kept other).available &&
            other.passType = candidate.passType) := by
      rw [filter_map, map_map]
      exact map_id _
    cases of_pure hok
    exact ⟨hvalid, hkept, rfl, .inr ⟨candidate, hcandidate, havailable,
      congrArg (candidate :: ·) hrest, rfl⟩⟩

omit [Field K] in
/-- The candidates that are kept are distinct, and all are kept. -/
theorem collected_kept {kept' candidates : List (Candidate K)}
    (hok : eachOf collectCandidate kept candidates = .ok kept')
    (hnodup : (kept.map (·.eventId)).Nodup) :
    (kept'.map (·.eventId)).Nodup ∧
      ∀ candidate, candidate ∈ kept' ↔
        candidate ∈ kept ∨ candidate ∈ candidates := by
  induction candidates generalizing kept with
  | nil =>
    cases hok
    exact ⟨hnodup, by simp⟩
  | cons first _ ih =>
    obtain ⟨_, hfirst, hrest⟩ := of_bind hok
    replace hfirst := passed hfirst
    cases hfind : kept.find? (·.eventId = first.eventId) with
    | some =>
      rw [hfind] at hfirst
      obtain ⟨hsame, hfirst⟩ := of_require hfirst
      cases of_pure hfirst
      have hmem : first ∈ kept := hsame ▸ mem_of_find?_eq_some hfind
      obtain ⟨hnodup', hmembers⟩ := ih hrest hnodup
      refine ⟨hnodup', fun _ => ?_⟩
      rw [hmembers, mem_cons]
      constructor
      · rintro (hold | hnew)
        · exact .inl hold
        · exact .inr (.inr hnew)
      · rintro (hold | rfl | hnew)
        · exact .inl hold
        · exact .inl hmem
        · exact .inr hnew
    | none =>
      rw [hfind] at hfirst
      cases of_pure hfirst
      have hnew : first.eventId ∉ kept.map (·.eventId) := by
        intro hmem
        obtain ⟨old, hold, hid⟩ := mem_map.mp hmem
        have hother := List.find?_eq_none.mp hfind old hold
        exact hother (by simpa using hid)
      have hadded : ((kept ++ [first]).map (·.eventId)).Nodup := by
        rw [map_append, map_singleton]
        exact nodup_append.mpr ⟨hnodup, nodup_singleton _,
          fun a ha b hb => by
            rw [mem_singleton.mp hb]
            exact fun heq => hnew (heq ▸ ha)⟩
      obtain ⟨hnodup', hmembers⟩ := ih hrest hadded
      refine ⟨hnodup', fun _ => ?_⟩
      rw [hmembers, mem_append, mem_singleton, mem_cons,
        or_assoc]

variable {kept : List (Candidate K)}

theorem Arbitrated.sorted
    (hcall : Arbitrated decay state call decision state' kept) :
    ((sortedCandidates kept).map (·.eventId)).Nodup ∧
      ∀ candidate, candidate ∈ sortedCandidates kept ↔
        candidate ∈ call.candidates := by
  obtain ⟨hnodup, hmembers⟩ := collected_kept hcall.collected nodup_nil
  have hperm : (sortedCandidates kept).Perm kept := perm_insertionSort _ _
  refine ⟨(hperm.map _).nodup_iff.mpr hnodup, fun _ => ?_⟩
  rw [hperm.mem_iff, hmembers]
  simp

/-- The selected and the pending candidates partition the distinct ones. -/
theorem Arbitrated.partition
    (hcall : Arbitrated decay state call decision state' kept) :
    ((decision.bundle ++ decision.pending).map (·.eventId)).Nodup ∧
      ∀ candidate, candidate ∈ decision.bundle ++ decision.pending ↔
        candidate ∈ call.candidates := by
  obtain ⟨hnodup, hmembers⟩ := hcall.sorted
  rcases hcall.selected with
    ⟨hbundle, hpending⟩ | ⟨_, hwinner, _, hbundle, hpending⟩
  · rw [hbundle, hpending]
    exact ⟨hnodup, hmembers⟩
  have hsub : ∀ candidate ∈ decision.bundle,
      candidate ∈ sortedCandidates kept := by
    intro _ hmem
    rw [hbundle] at hmem
    rcases mem_cons.mp hmem with rfl | hmem
    · exact hwinner
    · exact (mem_filter.mp hmem).1
  have hbundleNodup : (decision.bundle.map (·.eventId)).Nodup := by
    rw [hbundle, map_cons]
    refine nodup_cons.mpr ⟨fun hmem => ?_,
      hnodup.sublist (filter_sublist.map _)⟩
    obtain ⟨_, hother, hid⟩ := mem_map.mp hmem
    have hkept := (mem_filter.mp hother).2
    simp only [Bool.and_eq_true, decide_eq_true_eq] at hkept
    exact hkept.1.1 hid
  have hleft : ∀ candidate, candidate ∈ decision.pending ↔
      candidate ∈ sortedCandidates kept ∧
        candidate.eventId ∉ decision.bundle.map (·.eventId) := by
    rw [hpending]
    simp
  refine ⟨?_, fun candidate => ?_⟩
  · rw [map_append]
    refine nodup_append.mpr ⟨hbundleNodup, ?_, ?_⟩
    · rw [hpending]
      exact hnodup.sublist (filter_sublist.map _)
    · intro _ hselected _ hother heq
      obtain ⟨candidate, hcandidate, rfl⟩ := mem_map.mp hother
      exact ((hleft candidate).mp hcandidate).2 (heq ▸ hselected)
  · rw [mem_append, ← hmembers]
    constructor
    · rintro (hselected | hpended)
      · exact hsub candidate hselected
      · exact ((hleft candidate).mp hpended).1
    · intro hmem
      by_cases hselected :
          candidate.eventId ∈ decision.bundle.map (·.eventId)
      · obtain ⟨other, hother, hid⟩ := mem_map.mp hselected
        have hsame : other = candidate :=
          inj_on_of_nodup_map hnodup (hsub other hother) hmem hid
        exact .inl (hsame ▸ hother)
      · exact .inr ((hleft candidate).mpr ⟨hmem, hselected⟩)

/-- A selected candidate was available. -/
theorem Arbitrated.available
    (hcall : Arbitrated decay state call decision state' kept)
    {candidate : Candidate K} (hmem : candidate ∈ decision.bundle) :
    (rankIn decay state call kept candidate).available = true := by
  rcases hcall.selected with ⟨hbundle, _⟩ | ⟨_, _, hwinner, hbundle, _⟩
  · rw [hbundle] at hmem
    exact absurd hmem not_mem_nil
  · rw [hbundle] at hmem
    rcases mem_cons.mp hmem with rfl | hmem
    · exact hwinner
    · have hkept := (mem_filter.mp hmem).2
      simp only [Bool.and_eq_true] at hkept
      exact hkept.1.2

omit [LinearOrder K] in
/-- Selection keeps the time of the state. -/
theorem foldl_select_lastNowMs (effectiveNow : K)
    (bundle : List (Candidate K)) (s : ThalamusState K) :
    (bundle.foldl (select effectiveNow) s).lastNowMs = s.lastNowMs := by
  induction bundle generalizing s with
  | nil => rfl
  | cons _ _ ih => exact ih _

omit [LinearOrder K] in
/-- A nucleus was last selected now, when the bundle has it, or before. -/
theorem foldl_select_lastSelected (effectiveNow : K)
    (bundle : List (Candidate K)) (s : ThalamusState K) (source : Nucleus) :
    (bundle.foldl (select effectiveNow) s).lastSelectedAtMs source =
      if source ∈ bundle.map (·.source) then some effectiveNow
      else s.lastSelectedAtMs source := by
  induction bundle generalizing s with
  | nil => rfl
  | cons candidate rest ih =>
    rw [foldl_cons, ih, map_cons]
    by_cases hrest : source ∈ rest.map (·.source)
    · rw [if_pos hrest, if_pos (mem_cons_of_mem _ hrest)]
    · rw [if_neg hrest]
      by_cases hsource : source = candidate.source
      · rw [if_pos (hsource ▸ mem_cons_self)]
        exact if_pos hsource
      · rw [if_neg (by simp [hsource, hrest])]
        exact if_neg hsource

theorem Arbitrated.lastNowMs
    (hcall : Arbitrated decay state call decision state' kept) :
    state'.lastNowMs = state.effectiveNow call.now := by
  rw [hcall.after, foldl_select_lastNowMs]
  rfl

theorem Arbitrated.lastSelected
    (hcall : Arbitrated decay state call decision state' kept)
    (source : Nucleus) :
    state'.lastSelectedAtMs source =
      if source ∈ decision.bundle.map (·.source) then
        some (state.effectiveNow call.now)
      else state.lastSelectedAtMs source := by
  rw [hcall.after, foldl_select_lastSelected]
  rfl

theorem Arbitrated.allValid [IsStrictOrderedRing K]
    (hcall : Arbitrated decay state call decision state' kept) :
    AllValid state'.families state'.lastNowMs := by
  rw [hcall.lastNowMs, hcall.after]
  have hobserved : AllValid (observedState decay state call kept).families
      (state.effectiveNow call.now) := hcall.valid.evaluate.observeAll _
  generalize observedState decay state call kept = next at hobserved
  induction decision.bundle generalizing next with
  | nil => exact hobserved
  | cons _ _ ih => exact ih _ hobserved.select

end Calls

section Runs

variable {K : Type} [Field K] [LinearOrder K]

/-- The state after a call; a call that throws leaves it. -/
def callStep (decay : K → K → K) (call : Call K) (state : ThalamusState K) :
    ThalamusState K :=
  match arbitrate decay state call.candidates call.now call.context with
  | .ok (_, next) => next
  | .error _ => state

/-- The arousal of a family, before its first observation zero. -/
def arousalOf (families : Table (FamilyState K)) (name : String) : K :=
  ((families.get? name).map (·.arousal)).getD 0

/-- The candidates whose observation adds to the arousal of their family. -/
def raisedIn (context : ThalamusContext K) (effectiveNow : K) :
    Table (FamilyState K) → List (Candidate K) → List (Candidate K)
  | _, [] => []
  | families, candidate :: rest =>
    let next := observe context effectiveNow families candidate
    let after := raisedIn context effectiveNow next rest
    if arousalOf next candidate.familyKey =
      arousalOf families candidate.familyKey then after
    else candidate :: after

/-- The candidates that a call adds to an arousal. -/
def raisedBy (decay : K → K → K) (state : ThalamusState K) (call : Call K) :
    List (Candidate K) :=
  match arbitrate decay state call.candidates call.now call.context,
      eachOf collectCandidate [] call.candidates with
  | .ok _, .ok kept =>
    raisedIn call.context (state.effectiveNow call.now)
      (state.evaluatedFamilies decay call.now)
      ((sortedCandidates kept).insertionSort (byTime · ·))
  | _, _ => []

/-- The candidates that a run of calls adds to an arousal, in its order. -/
def raisedOver (decay : K → K → K) :
    ThalamusState K → List (Call K) → List (Candidate K)
  | _, [] => []
  | state, call :: rest =>
    raisedBy decay state call ++
      raisedOver decay (callStep decay call state) rest

/-- Over the whole run an event id has one content. -/
def ConsistentEvents (calls : List (Call K)) : Prop :=
  ∀ call ∈ calls, ∀ other ∈ calls, ∀ candidate ∈ call.candidates,
    ∀ candidate' ∈ other.candidates,
      candidate.eventId = candidate'.eventId → candidate = candidate'

variable {decay : K → K → K} {state next : ThalamusState K} {call : Call K}
  {decision : Decision K} {candidate : Candidate K}

variable {kept : List (Candidate K)} {since : K} {source : Nucleus}

/-- Only what is counted adds to an arousal. -/
theorem raisedIn_sublist (context : ThalamusContext K) (effectiveNow : K)
    (families : Table (FamilyState K)) (candidates : List (Candidate K)) :
    (raisedIn context effectiveNow families candidates).Sublist
      (countedIn context effectiveNow families candidates) := by
  induction candidates generalizing families with
  | nil => exact List.Sublist.refl _
  | cons first _ ih =>
    rw [raisedIn, countedIn]
    cases hcounted : isCounted effectiveNow families first with
    | true =>
      split
      · exact (ih _).trans (sublist_cons_self _ _)
      · exact (ih _).cons_cons _
    | false =>
      rw [observe_of_not_counted hcounted,
        if_pos rfl]
      exact ih _

/-- An observation adds to no arousal but that of its own family. -/
theorem arousalOf_observe_other {context : ThalamusContext K}
    {effectiveNow : K} {families : Table (FamilyState K)} {name : String}
    (hname : name ≠ candidate.familyKey) :
    arousalOf (observe context effectiveNow families candidate) name =
      arousalOf families name := by
  cases hcounted : isCounted effectiveNow families candidate with
  | false => rw [observe_of_not_counted hcounted]
  | true =>
    obtain ⟨f, hf, hget⟩ := @get?_observe K _ _ families candidate context
      effectiveNow hcounted name
    unfold arousalOf
    rw [hget, if_neg hname]
    cases families.get? name with
    | none => rfl
    | some family =>
      rw [Option.map_some, Option.map_some, Option.map_some]
      rcases hf family with hkept | hrestored
      · rw [hkept]
      · rw [hrestored]
        rfl

theorem Arbitrated.seen (hcall : Arbitrated decay state call decision next kept)
    (hseen : Seen (observedState decay state call kept).families candidate) :
    Seen next.families candidate := by
  rw [hcall.after]
  generalize observedState decay state call kept = middle at hseen
  induction decision.bundle generalizing middle with
  | nil => exact hseen
  | cons _ _ ih => exact ih _ hseen.select

/-- What a call adds is among its candidates, once each, was not seen before
and is seen after it; what was seen before stays so. -/
theorem raisedBy_once (state : ThalamusState K) (call : Call K) :
    (raisedBy decay state call).Nodup ∧
    (∀ candidate ∈ raisedBy decay state call,
      candidate ∈ call.candidates ∧ ¬ Seen state.families candidate ∧
      Seen (callStep decay call state).families candidate) ∧
    ∀ other, Seen state.families other →
      Seen (callStep decay call state).families other := by
  unfold raisedBy callStep
  cases hresult : arbitrate decay state call.candidates call.now
    call.context with
  | error =>
    exact ⟨nodup_nil, fun _ hmem => absurd hmem not_mem_nil,
      fun _ hseen => hseen⟩
  | ok =>
    obtain ⟨kept, hcall⟩ := arbitrate_ok hresult
    rw [hcall.collected]
    have hsub := raisedIn_sublist call.context (state.effectiveNow call.now)
      (state.evaluatedFamilies decay call.now)
      ((sortedCandidates kept).insertionSort (byTime · ·))
    obtain ⟨hnodup, hcounted, hkept⟩ := @countedIn_once K _ _
      (state.evaluatedFamilies decay call.now) call.context
      (state.effectiveNow call.now)
      ((sortedCandidates kept).insertionSort (byTime · ·))
    have hfamilies : (observedState decay state call kept).families =
        ((sortedCandidates kept).insertionSort (byTime · ·)).foldl
          (observe call.context (state.effectiveNow call.now))
          (state.evaluatedFamilies decay call.now) := observeAll_fst _
    rw [← hfamilies] at hcounted hkept
    refine ⟨hnodup.sublist hsub, fun candidate hmem => ?_,
      fun other hseen => hcall.seen (hkept other (Seen.evaluate.mpr hseen))⟩
    obtain ⟨hin, hnew, hseen⟩ := hcounted candidate (hsub.subset hmem)
    rw [mem_insertionSort, hcall.sorted.2] at hin
    exact ⟨hin, fun hold => hnew (Seen.evaluate.mpr hold), hcall.seen hseen⟩

/-- A run adds no candidate twice, and none that was seen before it. -/
theorem raisedOver_once (calls : List (Call K)) (state : ThalamusState K) :
    (raisedOver decay state calls).Nodup ∧
    ∀ candidate ∈ raisedOver decay state calls,
      (∃ call ∈ calls, candidate ∈ call.candidates) ∧
      ¬ Seen state.families candidate := by
  induction calls generalizing state with
  | nil =>
    exact ⟨nodup_nil, fun _ hmem => absurd hmem not_mem_nil⟩
  | cons call _ ih =>
    obtain ⟨hnodup, hraised, hkept⟩ := @raisedBy_once K _ _ decay state call
    obtain ⟨hnodup', hlater⟩ := ih (callStep decay call state)
    refine ⟨nodup_append.mpr ⟨hnodup, hnodup', ?_⟩, ?_⟩
    · intro candidate hnow _ hafter heq
      subst heq
      exact (hlater candidate hafter).2 (hraised candidate hnow).2.2
    · intro candidate hmem
      rcases mem_append.mp hmem with hnow | hafter
      · obtain ⟨hin, hnew, _⟩ := hraised candidate hnow
        exact ⟨⟨call, mem_cons_self, hin⟩, hnew⟩
      · obtain ⟨⟨other, hother, hin⟩, hnew⟩ := hlater candidate hafter
        exact ⟨⟨other, mem_cons_of_mem _ hother, hin⟩,
          fun hold => hnew (hkept candidate hold)⟩

theorem raisedOver_eventIds {calls : List (Call K)}
    (hconsistent : ConsistentEvents calls) (state : ThalamusState K) :
    ((raisedOver decay state calls).map (·.eventId)).Nodup := by
  obtain ⟨hnodup, hraised⟩ := @raisedOver_once K _ _ decay calls state
  refine List.Nodup.map_on ?_ hnodup
  intro candidate hmem candidate' hmem' hid
  obtain ⟨call, hcall, hin⟩ := (hraised candidate hmem).1
  obtain ⟨other, hother, hin'⟩ := (hraised candidate' hmem').1
  exact hconsistent call hcall other hother candidate hin candidate' hin' hid

/-- The nucleus was selected at the given time or after it. -/
def SelectedSince (state : ThalamusState K) (source : Nucleus) (since : K) :
    Prop :=
  since ≤ state.lastNowMs ∧
    ∃ selectedAt, state.lastSelectedAtMs source = some selectedAt ∧
      since ≤ selectedAt

theorem Arbitrated.selectedSince
    (hcall : Arbitrated decay state call decision next kept)
    (hselected : SelectedSince state source since) :
    SelectedSince next source since := by
  obtain ⟨hnow, selectedAt, hat, hsince⟩ := hselected
  have hlater : since ≤ state.effectiveNow call.now :=
    le_trans hnow (le_max_right _ _)
  refine ⟨hcall.lastNowMs ▸ hlater, ?_⟩
  rw [hcall.lastSelected]
  split
  · exact ⟨_, rfl, hlater⟩
  · exact ⟨selectedAt, hat, hsince⟩

theorem SelectedSince.callStep (hselected : SelectedSince state source since) :
    SelectedSince (callStep decay call state) source since := by
  unfold Thalamus.callStep
  cases hresult : arbitrate decay state call.candidates call.now
    call.context with
  | error => exact hselected
  | ok =>
    obtain ⟨_, hcall⟩ := arbitrate_ok hresult
    exact hcall.selectedSince hselected

/-- A nucleus that is selected is so from the time of the call on. -/
theorem Arbitrated.selects
    (hcall : Arbitrated decay state call decision next kept)
    (hmem : candidate ∈ decision.bundle) :
    SelectedSince next candidate.source next.lastNowMs := by
  refine ⟨le_refl _, next.lastNowMs, ?_, le_refl _⟩
  rw [hcall.lastSelected, if_pos (mem_map.mpr ⟨candidate, hmem, rfl⟩),
    hcall.lastNowMs]

/-- A candidate that is selected without being mandatory finds its nucleus
rested. -/
theorem Arbitrated.rested [IsStrictOrderedRing K]
    (hcall : Arbitrated decay state call decision next kept)
    (hmem : candidate ∈ decision.bundle)
    (hmandatory : candidate.isMandatory next.lastNowMs = false)
    (hselected : SelectedSince state candidate.source since) :
    refractory candidate.source ≤ next.lastNowMs - since := by
  obtain ⟨_, _, hat, hsince⟩ := hselected
  have havailable := hcall.available hmem
  rw [hcall.lastNowMs] at hmandatory ⊢
  unfold rankIn rank at havailable
  dsimp only at havailable
  rw [hmandatory, Bool.false_or, hat] at havailable
  simp only [Bool.and_eq_true, Option.all_some, decide_eq_true_eq] at havailable
  exact le_trans havailable.2 (sub_le_sub_left hsince _)

/-- Nothing was selected after the time of the state. -/
def SelectedBefore (state : ThalamusState K) : Prop :=
  ∀ source selectedAt, state.lastSelectedAtMs source = some selectedAt →
    selectedAt ≤ state.lastNowMs

theorem validateCheckpoint_iff :
    validateCheckpoint state = true ↔
      AllValid state.families state.lastNowMs ∧ SelectedBefore state := by
  unfold validateCheckpoint
  rw [Bool.and_eq_true, allValid_iff, all_eq_true]
  refine and_congr_right fun _ => ⟨fun hall source selectedAt hat => ?_,
    fun hbefore source _ => ?_⟩
  · have hsource := hall source (by cases source <;> simp)
    rw [hat, Option.all_some, decide_eq_true_eq] at hsource
    exact hsource
  · cases hat : state.lastSelectedAtMs source with
    | none => rfl
    | some selectedAt =>
      rw [Option.all_some, decide_eq_true_eq]
      exact hbefore source selectedAt hat

theorem Arbitrated.selectedBefore
    (hcall : Arbitrated decay state call decision next kept)
    (hbefore : SelectedBefore state) : SelectedBefore next := by
  intro source selectedAt hat
  rw [hcall.lastNowMs]
  rw [hcall.lastSelected] at hat
  split at hat
  · cases hat
    exact le_refl _
  · exact le_trans (hbefore source selectedAt hat) (le_max_right _ _)

omit [Field K] in
/-- Collecting candidates blames no checkpoint. -/
theorem collected_fault {candidates : List (Candidate K)}
    {fault : ThalamusFault}
    (herror : eachOf collectCandidate kept candidates = .error fault) :
    fault ≠ .invalidCheckpoint := by
  induction candidates generalizing kept with
  | nil => cases herror
  | cons _ _ ih =>
    rcases bind_error.mp herror with hfirst | ⟨_, _, hrest⟩
    · rcases require_bind_error.mp hfirst with ⟨_, rfl⟩ | ⟨_, hfirst⟩
      · exact fun heq => by cases heq
      · split at hfirst
        · rcases require_bind_error.mp hfirst with ⟨_, rfl⟩ | ⟨_, hfirst⟩
          · exact fun heq => by cases heq
          · cases hfirst
        · cases hfirst
    · exact ih hrest

theorem SelectedBefore.callStep (hbefore : SelectedBefore state) :
    SelectedBefore (callStep decay call state) := by
  unfold Thalamus.callStep
  cases hresult : arbitrate decay state call.candidates call.now
    call.context with
  | error => exact hbefore
  | ok =>
    obtain ⟨_, hcall⟩ := arbitrate_ok hresult
    exact hcall.selectedBefore hbefore

/-- A call finds nothing wrong in a state whose families are valid. -/
theorem arbitrate_accepts (hvalid : AllValid state.families state.lastNowMs)
    (call : Call K) :
    arbitrate decay state call.candidates call.now call.context ≠
      .error .invalidCheckpoint := by
  intro herror
  unfold arbitrate at herror
  dsimp only at herror
  rcases require_bind_error.mp herror with ⟨hinvalid, _⟩ | ⟨_, herror⟩
  · exact hinvalid (allValid_iff.mpr hvalid)
  rcases bind_error.mp herror with hcollect | ⟨_, _, herror⟩
  · exact collected_fault hcollect rfl
  split at herror
  · cases herror
  · split at herror <;> cases herror

/-- Over a run of calls every event adds to the arousal of its family at most
once, and to no other arousal; and every call that returns leaves fractions as
responses, no negative arousal and a state that the next call accepts, sorts the
distinct candidates into selected and pending ones, and lets each selected
nucleus rest: only a mandatory candidate of it is selected within its refractory
period. -/
theorem arbitration_counts_once [IsStrictOrderedRing K] (decay : K → K → K)
    (state : ThalamusState K) (calls : List (Call K)) :
    (ConsistentEvents calls →
      ((raisedOver decay state calls).map (·.eventId)).Nodup) ∧
    (∀ context effectiveNow families (candidate : Candidate K) name,
      name ≠ candidate.familyKey →
      arousalOf (observe context effectiveNow families candidate) name =
        arousalOf families name) ∧
    ∀ before call after, calls = before ++ call :: after →
      ∀ decision next, arbitrate decay (run (callStep decay) state before)
        call.candidates call.now call.context = .ok (decision, next) →
      (∀ family ∈ next.families.rows,
        0 ≤ family.response ∧ family.response ≤ 1 ∧ 0 ≤ family.arousal) ∧
      (∀ other : Call K, arbitrate decay next other.candidates other.now
        other.context ≠ .error .invalidCheckpoint) ∧
      (validateCheckpoint state = true → validateCheckpoint next = true) ∧
      ((decision.bundle ++ decision.pending).map (·.eventId)).Nodup ∧
      (∀ candidate, candidate ∈ decision.bundle ++ decision.pending ↔
        candidate ∈ call.candidates) ∧
      ∀ middle later rest, after = middle ++ later :: rest →
        ∀ decision' next', arbitrate decay (run (callStep decay) next middle)
          later.candidates later.now later.context = .ok (decision', next') →
        ∀ candidate ∈ decision.bundle, ∀ candidate' ∈ decision'.bundle,
          candidate'.source = candidate.source →
          candidate'.isMandatory next'.lastNowMs = false →
          refractory candidate.source ≤
            next'.lastNowMs - next.lastNowMs := by
  refine ⟨fun hconsistent => raisedOver_eventIds hconsistent state,
    fun _ _ _ _ _ hname => arousalOf_observe_other hname, ?_⟩
  intro before _ _ _ _ next hresult
  obtain ⟨_, hcall⟩ := arbitrate_ok hresult
  have hvalid := hcall.allValid
  refine ⟨fun family hmem => ?_, arbitrate_accepts hvalid, fun hcheckpoint => ?_,
    hcall.partition.1, hcall.partition.2, ?_⟩
  · have hfamily := hvalid _ family (get?_key hmem)
    exact ⟨hfamily.response_nonneg, hfamily.response_le, hfamily.arousal⟩
  · have hbefore : SelectedBefore (run (callStep decay) state before) :=
      run_preserves (fun _ _ hselected => hselected.callStep)
        (validateCheckpoint_iff.mp hcheckpoint).2 before
    exact validateCheckpoint_iff.mpr ⟨hvalid, hcall.selectedBefore hbefore⟩
  · intro middle _ _ _ _ _ hresult' candidate hmem
      _ hmem' hsource hmandatory
    obtain ⟨_, hcall'⟩ := arbitrate_ok hresult'
    have hselected : SelectedSince (run (callStep decay) next middle)
        candidate.source next.lastNowMs :=
      @run_preserves _ _ (callStep decay)
        (SelectedSince · candidate.source next.lastNowMs)
        (fun _ _ hselected => hselected.callStep) next
        (hcall.selects hmem) middle
    rw [← hsource] at hselected ⊢
    exact hcall'.rested hmem' hmandatory hselected

end Runs

section Example

/-- A strong observation of the social nucleus. -/
def pressing (eventId : String) (observedAtMs : ℚ) : Candidate ℚ where
  eventId
  observedAtMs
  source := .social
  salience := 1
  candidateClass := .pressure
  coalesceKey := "room"
  passType := .conversation

def calmContext : ThalamusContext ℚ where
  budgetAvailable := true
  conversationClaimHeld := false
  spentFraction := 0
  energy := 1 / 2
  tension := 0
  circadianPhase := 0

def firstCall : Call ℚ := ⟨[pressing "first" 0], 0, calmContext⟩

/-- The second call presents the first event again. -/
def secondCall : Call ℚ :=
  ⟨[pressing "first" 0, pressing "second" 60000], 60000, calmContext⟩

def half (_ _ : ℚ) : ℚ := 1 / 2

example : (raisedOver half emptyState [firstCall, secondCall]).map
    (·.eventId) = ["first", "second"] := by
  decide +kernel

theorem consistent_calls : ConsistentEvents [firstCall, secondCall] := by
  unfold ConsistentEvents
  decide +kernel

theorem firstCall_selects :
    (arbitrate half emptyState firstCall.candidates firstCall.now
      firstCall.context).toOption.map (·.1.bundle) =
        some [pressing "first" 0] := by
  decide +kernel

theorem secondCall_selects :
    (arbitrate half (callStep half firstCall emptyState) secondCall.candidates
      secondCall.now secondCall.context).toOption.map
        (fun result => (result.1.bundle, result.2.lastNowMs)) =
      some ([pressing "first" 0, pressing "second" 60000], 60000) := by
  decide +kernel

theorem calls_count_once :
    ((raisedOver half emptyState [firstCall, secondCall]).map
      (·.eventId)).Nodup ∧
    ∃ decision next, arbitrate half emptyState firstCall.candidates
        firstCall.now firstCall.context = .ok (decision, next) ∧
      validateCheckpoint next = true ∧
      pressing "first" 0 ∈ decision.bundle ++ decision.pending ∧
      ∃ decision' next', arbitrate half next secondCall.candidates
          secondCall.now secondCall.context = .ok (decision', next') ∧
        pressing "second" 60000 ∈ decision'.bundle ∧
        refractory .social ≤ next'.lastNowMs - next.lastNowMs := by
  obtain ⟨honce, _, hcalls⟩ := arbitration_counts_once half emptyState
    [firstCall, secondCall]
  refine ⟨honce consistent_calls, ?_⟩
  have hfirst := firstCall_selects
  cases hresult : arbitrate half emptyState firstCall.candidates
      firstCall.now firstCall.context with
  | error =>
    rw [hresult] at hfirst
    cases hfirst
  | ok result =>
    obtain ⟨decision, next⟩ := result
    rw [hresult] at hfirst
    have hbundle : decision.bundle = [pressing "first" 0] :=
      Option.some.inj hfirst
    have hnext : callStep half firstCall emptyState = next := by
      unfold callStep
      rw [hresult]
    obtain ⟨_, _, hcheckpoint, _, hmembers, hrested⟩ :=
      hcalls [] _ _ rfl decision next hresult
    refine ⟨decision, next, rfl, hcheckpoint (by decide +kernel),
      (hmembers _).mpr List.mem_cons_self, ?_⟩
    have hsecond := secondCall_selects
    rw [hnext] at hsecond
    cases hresult' : arbitrate half next secondCall.candidates
        secondCall.now secondCall.context with
    | error =>
      rw [hresult'] at hsecond
      cases hsecond
    | ok result =>
      obtain ⟨decision', next'⟩ := result
      rw [hresult'] at hsecond
      obtain ⟨hbundle', _⟩ := Prod.mk.inj (Option.some.inj hsecond)
      have hmem : pressing "second" 60000 ∈ decision'.bundle := by
        rw [show decision'.bundle = _ from hbundle']
        exact List.mem_cons_of_mem _ List.mem_cons_self
      refine ⟨decision', next', rfl, hmem, ?_⟩
      refine hrested [] secondCall [] rfl decision' next' hresult'
        (pressing "first" 0) (hbundle ▸ List.mem_cons_self) _ hmem rfl ?_
      rfl

end Example

end CognitiveSidecar.Thalamus
