/-
The arbiter reads its candidates as a set: neither their order nor their
repetitions change the decision or the next state.
-/
import CognitiveSidecar.ThalamusRuns

namespace CognitiveSidecar.Thalamus

open List Relational

section Collecting

variable {K : Type} [LinearOrder K]
  {kept candidates candidates' : List (Candidate K)}

/-- Every candidate is named, and one event id has one content. -/
structure Consistent (candidates : List (Candidate K)) : Prop where
  named : ∀ candidate ∈ candidates,
    candidate.eventId ≠ "" ∧ candidate.coalesceKey ≠ ""
  single : ∀ first ∈ candidates, ∀ second ∈ candidates,
    first.eventId = second.eventId → first = second

omit [LinearOrder K] in
theorem Consistent.of_members (hconsistent : Consistent candidates)
    (hsame : ∀ candidate, candidate ∈ candidates ↔ candidate ∈ candidates') :
    Consistent candidates' where
  named := fun candidate hmem =>
    hconsistent.named candidate ((hsame candidate).mpr hmem)
  single := fun first hfirst second hsecond =>
    hconsistent.single first ((hsame first).mpr hfirst) second
      ((hsame second).mpr hsecond)

/-- What is collected is named. -/
theorem named_of_collected {kept' : List (Candidate K)}
    (hok : eachOf collectCandidate kept candidates = .ok kept') :
    ∀ candidate ∈ candidates,
      candidate.eventId ≠ "" ∧ candidate.coalesceKey ≠ "" := by
  induction candidates generalizing kept with
  | nil => exact fun candidate hmem => absurd hmem not_mem_nil
  | cons _ _ ih =>
    obtain ⟨_, hfirst, hrest⟩ := of_bind hok
    obtain ⟨hnamed, _⟩ := of_require hfirst
    intro candidate hmem
    rcases mem_cons.mp hmem with rfl | hmem
    · exact hnamed
    · exact ih hrest candidate hmem

theorem consistent_of_collected
    (hok : eachOf collectCandidate [] candidates = .ok kept) :
    Consistent candidates := by
  obtain ⟨hnodup, hmembers⟩ := collected_kept hok nodup_nil
  have hkept : ∀ candidate ∈ candidates, candidate ∈ kept :=
    fun candidate hmem => (hmembers candidate).mpr (.inr hmem)
  exact ⟨named_of_collected hok, fun first hfirst second hsecond hid =>
    inj_on_of_nodup_map hnodup (hkept first hfirst)
      (hkept second hsecond) hid⟩

/-- Consistent candidates are all collected. -/
theorem collected_of_consistent (hconsistent : Consistent (kept ++ candidates)) :
    ∃ kept', eachOf collectCandidate kept candidates = .ok kept' := by
  induction candidates generalizing kept with
  | nil => exact ⟨kept, rfl⟩
  | cons first rest ih =>
    have hfirst : first ∈ kept ++ first :: rest := by simp
    have hadmitted : ∃ middle, collectCandidate kept first = .ok middle ∧
        ∀ candidate ∈ middle, candidate ∈ kept ∨ candidate = first := by
      unfold collectCandidate
      rw [require_pos (hconsistent.named first hfirst)]
      cases hfind : kept.find? (·.eventId = first.eventId) with
      | some previous =>
        have hid : previous.eventId = first.eventId := by
          simpa using List.find?_some hfind
        have hold := mem_of_find?_eq_some hfind
        have hsame := hconsistent.single previous
          (mem_append_left _ hold) first hfirst hid
        dsimp only
        rw [require_pos hsame]
        exact ⟨kept, rfl, fun _ hmem => .inl hmem⟩
      | none =>
        refine ⟨kept ++ [first], rfl, fun _ hmem => ?_⟩
        simpa using hmem
    obtain ⟨middle, hmiddle, hmembers⟩ := hadmitted
    have hrest : Consistent (middle ++ rest) := by
      have hsub : ∀ candidate ∈ middle ++ rest,
          candidate ∈ kept ++ first :: rest := by
        intro candidate hmem
        rcases mem_append.mp hmem with hmem | hmem
        · rcases hmembers candidate hmem with hold | rfl
          · exact mem_append_left _ hold
          · exact hfirst
        · exact mem_append_right _ (mem_cons_of_mem _ hmem)
      exact ⟨fun candidate hmem => hconsistent.named candidate
          (hsub candidate hmem),
        fun a ha b hb => hconsistent.single a (hsub a ha) b (hsub b hb)⟩
    obtain ⟨kept', hkept'⟩ := ih hrest
    refine ⟨kept', ?_⟩
    rw [eachOf, hmiddle]
    exact hkept'

end Collecting

section Orders

variable {K : Type}
variable {a b : Candidate K}

theorem byEventId_total (a b : Candidate K) :
    byEventId a b = true ∨ byEventId b a = true := by
  unfold byEventId
  cases hab : textBefore b.eventId a.eventId with
  | false => exact .inl rfl
  | true =>
    cases hba : textBefore a.eventId b.eventId with
    | false => exact .inr rfl
    | true =>
      have hself := textBefore_trans hab hba
      rw [textBefore_irrefl] at hself
      cases hself

theorem byEventId_trans {c : Candidate K} (hab : byEventId a b = true)
    (hbc : byEventId b c = true) : byEventId a c = true := by
  unfold byEventId at hab hbc ⊢
  rw [Bool.not_eq_true'] at hab hbc ⊢
  by_contra hca
  rw [Bool.not_eq_false] at hca
  rcases textBefore_total hab with hsame | hbefore
  · rw [← hsame, hbc] at hca
    cases hca
  · have hcb := textBefore_trans hca hbefore
    rw [hbc] at hcb
    cases hcb

theorem byEventId_antisymm (hab : byEventId a b = true)
    (hba : byEventId b a = true) : a.eventId = b.eventId := by
  unfold byEventId at hab hba
  rw [Bool.not_eq_true'] at hab hba
  rcases textBefore_total hab with hsame | hbefore
  · exact hsame.symm
  · rw [hba] at hbefore
    cases hbefore

instance : Std.Total (fun a b : Candidate K => byEventId a b = true) :=
  ⟨byEventId_total⟩

instance : IsTrans (Candidate K) (fun a b => byEventId a b = true) :=
  ⟨fun _ _ _ => byEventId_trans⟩

/-- Two lists of the same distinct candidates are sorted to the same list. -/
theorem sortedCandidates_congr {kept kept' : List (Candidate K)}
    (hnodup : (kept.map (·.eventId)).Nodup)
    (hnodup' : (kept'.map (·.eventId)).Nodup)
    (hsame : ∀ candidate, candidate ∈ kept ↔ candidate ∈ kept') :
    sortedCandidates kept = sortedCandidates kept' := by
  have hperm : kept.Perm kept' :=
    (perm_ext_iff_of_nodup hnodup.of_map hnodup'.of_map).mpr hsame
  have hsorted : (sortedCandidates kept).Perm (sortedCandidates kept') :=
    ((perm_insertionSort _ kept).trans hperm).trans
      (perm_insertionSort _ kept').symm
  refine hsorted.eq_of_pairwise (fun a b ha hb hab hba => ?_)
    (pairwise_insertionSort _ kept) (pairwise_insertionSort _ kept')
  have hleft : a ∈ kept := (mem_insertionSort _).mp ha
  have hright : b ∈ kept :=
    (hsame b).mpr ((mem_insertionSort _).mp hb)
  exact inj_on_of_nodup_map hnodup hleft hright
    (byEventId_antisymm hab hba)

end Orders

section Arbitration

variable {K : Type} [Field K] [LinearOrder K]
variable {candidates candidates' : List (Candidate K)}

/-- The arbiter reads only the sorted list of the distinct candidates. -/
theorem arbitrate_congr {kept kept' : List (Candidate K)}
    (hkept : eachOf collectCandidate [] candidates = .ok kept)
    (hkept' : eachOf collectCandidate [] candidates' = .ok kept')
    (hsorted : sortedCandidates kept = sortedCandidates kept')
    (decay : K → K → K) (state : ThalamusState K) (now : K)
    (context : ThalamusContext K) :
    arbitrate decay state candidates now context =
      arbitrate decay state candidates' now context := by
  unfold sortedCandidates at hsorted
  unfold arbitrate
  rw [hkept, hkept']
  simp only [ok_bind, hsorted]

theorem arbitrates_of_members
    (hsame : ∀ candidate, candidate ∈ candidates ↔ candidate ∈ candidates')
    {decay : K → K → K} {state : ThalamusState K} {now : K}
    {context : ThalamusContext K} {outcome : Decision K × ThalamusState K}
    (hok : arbitrate decay state candidates now context = .ok outcome) :
    arbitrate decay state candidates' now context = .ok outcome := by
  obtain ⟨kept, hcall⟩ :=
    @arbitrate_ok K _ _ decay state _ ⟨candidates, now, context⟩ _ hok
  have hcollected : eachOf collectCandidate [] candidates = .ok kept :=
    hcall.collected
  have hconsistent : Consistent ([] ++ candidates') :=
    (consistent_of_collected hcollected).of_members hsame
  obtain ⟨kept', hcollected'⟩ := collected_of_consistent hconsistent
  obtain ⟨hnodup, hmembers⟩ := collected_kept hcollected nodup_nil
  obtain ⟨hnodup', hmembers'⟩ := collected_kept hcollected' nodup_nil
  have hsorted : sortedCandidates kept = sortedCandidates kept' := by
    refine sortedCandidates_congr hnodup hnodup' fun _ => ?_
    rw [hmembers, hmembers', hsame]
  rw [← arbitrate_congr hcollected hcollected' hsorted]
  exact hok

/-- Candidates in another order, or repeated, give the same decision and the
same next state; where one list is refused, the other is. -/
theorem arbitration_order_independent (decay : K → K → K)
    (state : ThalamusState K) (now : K) (context : ThalamusContext K)
    (candidates candidates' : List (Candidate K))
    (hsame : ∀ candidate, candidate ∈ candidates ↔ candidate ∈ candidates')
    (outcome : Decision K × ThalamusState K) :
    arbitrate decay state candidates now context = .ok outcome ↔
      arbitrate decay state candidates' now context = .ok outcome :=
  ⟨arbitrates_of_members hsame,
    arbitrates_of_members fun candidate => (hsame candidate).symm⟩

end Arbitration

section Example

def presented : List (Candidate ℚ) :=
  [pressing "first" 0, pressing "second" 60000]

/-- The same candidates the other way round, the second one twice. -/
def repeated : List (Candidate ℚ) :=
  [pressing "second" 60000, pressing "first" 0, pressing "second" 60000]

theorem presented_decided :
    ∃ next, arbitrate half emptyState presented 60000 calmContext =
      .ok (.fire .threshold .conversation presented [], next) := by
  have hbundle : (arbitrate half emptyState presented 60000
      calmContext).toOption.map (·.1) =
        some (.fire .threshold .conversation presented []) := by
    decide +kernel
  cases hresult : arbitrate half emptyState presented 60000 calmContext with
  | error =>
    rw [hresult] at hbundle
    cases hbundle
  | ok result =>
    rw [hresult] at hbundle
    exact ⟨result.2, congrArg Except.ok
      (Prod.ext (Option.some.inj hbundle) rfl)⟩

theorem repeated_decided_alike :
    ∃ next, arbitrate half emptyState repeated 60000 calmContext =
      .ok (.fire .threshold .conversation presented [], next) := by
  obtain ⟨next, hnext⟩ := presented_decided
  refine ⟨next, (arbitration_order_independent half emptyState 60000 calmContext
    presented repeated (fun _ => ?_) _).mp hnext⟩
  simp only [presented, repeated, List.mem_cons, List.not_mem_nil, or_false]
  tauto

end Example

end CognitiveSidecar.Thalamus
