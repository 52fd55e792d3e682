/-
Runs of model continuity: completions in any order, other writes of the
capabilities, and a crash between any two committed statements.
-/
import CognitiveSidecar.Lib.Run
import CognitiveSidecar.ModelContinuity

namespace CognitiveSidecar

open Option List Relational

section Models

variable {models models' : Table ModelState} {modelAlias : String}

def storedModel (models : Table ModelState) (modelAlias : String) :
    Option String :=
  (models.get? modelAlias).bind (·.resolvedModelId)

def storedEpoch (models : Table ModelState) (modelAlias : String) : Nat :=
  ((models.get? modelAlias).map (·.modelEpoch)).getD 0

def lastAccepted (models : Table ModelState) (modelAlias : String) :
    Option Nat :=
  (models.get? modelAlias).map (·.lastAcceptedDispatchSequence)

/-- The answers that take a completion as the latest one of its alias. -/
def ContinuityKind.isAccepted (kind : ContinuityKind) : Bool :=
  kind = .baseline || kind = .resolvedChange || kind = .none

/-- A stored alias has resolved to a model, in an epoch of its own. -/
def ModelsSound (models : Table ModelState) : Prop :=
  ∀ modelAlias row, models.get? modelAlias = some row →
    1 ≤ row.modelEpoch ∧ row.resolvedModelId.isSome = true

/-- An accepted completion: what is stored for its alias before and after. -/
structure AcceptedAs (models : Table ModelState) (input : ModelContinuityInput)
    (models' : Table ModelState) : Prop where
  newer : ∀ last, lastAccepted models input.modelAlias = some last →
    last < input.dispatchSequence
  resolved : input.resolvedModelId.isSome = true
  stored : models'.get? input.modelAlias = some
    ⟨input.modelAlias, input.resolvedModelId,
      if storedModel models input.modelAlias = input.resolvedModelId then
        storedEpoch models input.modelAlias
      else storedEpoch models input.modelAlias + 1,
      input.dispatchSequence⟩
  others : ∀ other, other ≠ input.modelAlias →
    models'.get? other = models.get? other

theorem get?_acceptModel {resolved : String} {modelEpoch dispatchSequence : Nat}
    {row : ModelState} (hrow : models.get? modelAlias = some row) (other : String) :
    (acceptModel models modelAlias resolved modelEpoch dispatchSequence).get?
      other = if other = modelAlias then
        some ⟨modelAlias, some resolved, modelEpoch, dispatchSequence⟩
      else models.get? other := by
  have hkey : row.modelAlias = modelAlias := key_of_get? hrow
  unfold acceptModel
  rw [get?_update]
  by_cases hother : other = modelAlias
  · subst hother
    rw [hrow]
    simp [hkey, ModelState.acceptedBy]
  · rw [if_neg hother]
    exact map_get?_self fun row (hown : row.modelAlias = other) => by
      simp [hown, hother]

/-- A completion is accepted, and a change of a stored model is told apart, or
it leaves the models alone. -/
theorem continuityTransaction_spec (hsound : ModelsSound models)
    (input : ModelContinuityInput) :
    ((continuityTransaction models input).1.1.isAccepted = true →
      AcceptedAs models input (continuityTransaction models input).2) ∧
    ((continuityTransaction models input).1.1.isAccepted = false →
      (continuityTransaction models input).2 = models) ∧
    ((continuityTransaction models input).1.1 = .resolvedChange ↔
      (continuityTransaction models input).1.1.isAccepted = true ∧
        storedModel models input.modelAlias ≠ none ∧
        storedModel models input.modelAlias ≠ input.resolvedModelId) := by
  unfold continuityTransaction
  cases hresolved : input.resolvedModelId.filter
      fun _ => !input.unresolvedAlias with
  | none => exact ⟨by simp [ContinuityKind.isAccepted], fun _ => rfl,
      by simp [ContinuityKind.isAccepted]⟩
  | some resolved =>
    have hid : input.resolvedModelId = some resolved :=
      (filter_eq_some_iff.mp hresolved).1
    dsimp only
    cases hrow : models.get? input.modelAlias with
    | none =>
      obtain ⟨inserted, hinsert⟩ := @exists_insert? _ _ _ _ models
        ⟨input.modelAlias, some resolved, 1, input.dispatchSequence⟩ hrow
      have hnew : models.insertNew ⟨input.modelAlias, some resolved, 1,
          input.dispatchSequence⟩ = inserted := by
        rw [Table.insertNew, hinsert, getD_some]
      rw [hnew]
      refine ⟨fun _ => ⟨?_, by simp [hid], ?_, ?_⟩,
        by simp [ContinuityKind.isAccepted], ?_⟩
      · intro _ hlast
        simp [lastAccepted, hrow] at hlast
      · rw [get?_insert hinsert]
        simp [storedModel, storedEpoch, hrow, hid, key]
      · intro _ hother
        rw [get?_insert hinsert]
        exact if_neg hother
      · simp [storedModel, hrow]
    | some row =>
      obtain ⟨_, hmodel⟩ := hsound _ _ hrow
      obtain ⟨model, hmodel⟩ := isSome_iff_exists.mp hmodel
      dsimp only
      rw [if_neg (by omega)]
      by_cases hstale :
          input.dispatchSequence ≤ row.lastAcceptedDispatchSequence
      · rw [if_pos hstale]
        exact ⟨by simp [ContinuityKind.isAccepted], fun _ => rfl,
          by simp [ContinuityKind.isAccepted]⟩
      rw [if_neg hstale]
      have hnewer : ∀ last, lastAccepted models input.modelAlias =
          some last → last < input.dispatchSequence := by
        intro _ hlast
        simp only [lastAccepted, hrow, map_some,
          some.injEq] at hlast
        omega
      have hstored : storedModel models input.modelAlias = some model := by
        simp [storedModel, hrow, hmodel]
      have hstoredEpoch : storedEpoch models input.modelAlias =
          row.modelEpoch := by
        simp [storedEpoch, hrow]
      by_cases hsame : row.resolvedModelId = some resolved
      · rw [if_pos hsame]
        have hequal : storedModel models input.modelAlias =
            input.resolvedModelId := by
          rw [hstored, hid, ← hsame, hmodel]
        refine ⟨fun _ => ⟨hnewer, by simp [hid], ?_, ?_⟩,
          by simp [ContinuityKind.isAccepted], by simp [hequal]⟩
        · rw [get?_acceptModel hrow, if_pos rfl, if_pos hequal,
            hstoredEpoch, hid]
        · intro _ hother
          rw [get?_acceptModel hrow, if_neg hother]
      · rw [if_neg hsame]
        have hdiffers : storedModel models input.modelAlias ≠
            input.resolvedModelId := by
          rw [hstored, hid, ← hmodel]
          exact hsame
        refine ⟨fun _ => ⟨hnewer, by simp [hid], ?_, ?_⟩,
          by simp [ContinuityKind.isAccepted],
          fun _ => ⟨rfl, by simp [hstored], hdiffers⟩, fun _ => rfl⟩
        · rw [get?_acceptModel hrow, if_pos rfl, if_neg hdiffers,
            hstoredEpoch, hid]
        · intro _ hother
          rw [get?_acceptModel hrow, if_neg hother]

theorem continuityTransaction_sound (hsound : ModelsSound models)
    (input : ModelContinuityInput) :
    ModelsSound (continuityTransaction models input).2 := by
  obtain ⟨haccepted, hkept, _⟩ := continuityTransaction_spec hsound input
  cases hkind : (continuityTransaction models input).1.1.isAccepted with
  | false =>
    rw [hkept hkind]
    exact hsound
  | true =>
    have hafter := haccepted hkind
    intro other row hrow
    by_cases hother : other = input.modelAlias
    · subst hother
      rw [hafter.stored] at hrow
      cases hrow
      refine ⟨?_, hafter.resolved⟩
      dsimp only
      split
      · rename_i hsame
        cases hold : models.get? input.modelAlias with
        | none =>
          have hresolved := hafter.resolved
          rw [← hsame, storedModel, hold] at hresolved
          cases hresolved
        | some => simpa [storedEpoch, hold] using (hsound _ _ hold).1
      · omega
    · rw [hafter.others other hother] at hrow
      exact hsound other row hrow

end Models

section Machine

/-- The run is between two calls: no demotion is under way. -/
def ContinuityMachine.AtRest (s : ContinuityMachine) : Prop := s.demoting = []

instance (s : ContinuityMachine) : Decidable s.AtRest :=
  inferInstanceAs (Decidable (_ = _))

/-- The operation completes a dispatch of the alias that is accepted. -/
def Accepts (op : ContinuityOp) (s : ContinuityMachine)
    (input : ModelContinuityInput) : Prop :=
  op = .complete input ∧ s.AtRest ∧
    (continuityTransaction s.models input).1.1.isAccepted = true

/-- The operation is accepted with another model than the stored one. -/
def Bumps (op : ContinuityOp) (s : ContinuityMachine)
    (input : ModelContinuityInput) : Prop :=
  Accepts op s input ∧
    storedModel s.models input.modelAlias ≠ input.resolvedModelId

/-- A capability may influence behaviour. -/
def ContinuityMachine.isActive (s : ContinuityMachine) (capability : String) :
    Prop :=
  ∃ row, s.releases.get? capability = some row ∧ row.state = .active

variable {s : ContinuityMachine} {op : ContinuityOp}
variable {since : List ContinuityOp}
variable {input : ModelContinuityInput} {releases : Table CapabilityRelease}
variable {capability other : String} {row : CapabilityRelease}

theorem continuityStep_accepts (hsound : ModelsSound s.models)
    (haccepts : Accepts op s input) :
    AcceptedAs s.models input (continuityStep op s).models := by
  obtain ⟨rfl, hrest, hkind⟩ := haccepts
  have hafter := (continuityTransaction_spec hsound input).1 hkind
  unfold continuityStep
  rw [show s.demoting = [] from hrest]
  exact hafter

/-- Only an accepted completion writes the models. -/
theorem continuityStep_models (hsound : ModelsSound s.models)
    (hrefused : ∀ input, ¬ Accepts op s input) :
    (continuityStep op s).models = s.models := by
  cases op with
  | complete input =>
    cases hrest : s.demoting with
    | cons =>
      unfold continuityStep
      rw [hrest]
    | nil =>
      have hkind : (continuityTransaction s.models input).1.1.isAccepted =
          false := by
        cases hkind :
            (continuityTransaction s.models input).1.1.isAccepted with
        | false => rfl
        | true => exact absurd ⟨rfl, hrest, hkind⟩ (hrefused input)
      unfold continuityStep
      rw [hrest]
      exact (continuityTransaction_spec hsound input).2.1 hkind
  | demoteNext | setRelease | crash =>
    unfold continuityStep
    split <;> first | rfl | contradiction

theorem continuityStep_sound (op : ContinuityOp) (hsound : ModelsSound s.models) :
    ModelsSound (continuityStep op s).models := by
  by_cases haccepts : ∃ input, Accepts op s input
  · obtain ⟨input, rfl, hrest, _⟩ := haccepts
    unfold continuityStep
    rw [show s.demoting = [] from hrest]
    exact continuityTransaction_sound hsound input
  · rw [continuityStep_models hsound (not_exists.mp haccepts)]
    exact hsound

/-- The epoch goes up by one on a bump of the alias, and stays otherwise. -/
theorem continuityStep_epoch (hsound : ModelsSound s.models)
    (modelAlias : String) :
    ((∃ input, Bumps op s input ∧ input.modelAlias = modelAlias) →
      storedEpoch (continuityStep op s).models modelAlias =
        storedEpoch s.models modelAlias + 1) ∧
    ((¬ ∃ input, Bumps op s input ∧ input.modelAlias = modelAlias) →
      storedEpoch (continuityStep op s).models modelAlias =
        storedEpoch s.models modelAlias) := by
  constructor
  · rintro ⟨_, ⟨haccepts, hdiffers⟩, rfl⟩
    have hafter := continuityStep_accepts hsound haccepts
    rw [storedEpoch, hafter.stored, if_neg hdiffers]
    rfl
  · intro hno
    by_cases haccepts : ∃ input, Accepts op s input
    · obtain ⟨input, haccepts⟩ := haccepts
      have hafter := continuityStep_accepts hsound haccepts
      by_cases halias : modelAlias = input.modelAlias
      · subst halias
        have hsame : storedModel s.models input.modelAlias =
            input.resolvedModelId := by
          by_contra hdiffers
          exact hno ⟨input, ⟨haccepts, hdiffers⟩, rfl⟩
        rw [storedEpoch, hafter.stored, if_pos hsame]
        rfl
      · rw [storedEpoch, storedEpoch, hafter.others modelAlias halias]
    · rw [continuityStep_models hsound (not_exists.mp haccepts)]

/-- The last accepted sequence of an alias goes up when a completion of it is
accepted, and stays otherwise. -/
theorem continuityStep_lastAccepted (hsound : ModelsSound s.models)
    (modelAlias : String) :
    (∀ input, Accepts op s input → input.modelAlias = modelAlias →
      lastAccepted (continuityStep op s).models modelAlias =
          some input.dispatchSequence ∧
        ∀ last, lastAccepted s.models modelAlias = some last →
          last < input.dispatchSequence) ∧
    ((¬ ∃ input, Accepts op s input ∧ input.modelAlias = modelAlias) →
      lastAccepted (continuityStep op s).models modelAlias =
        lastAccepted s.models modelAlias) := by
  constructor
  · rintro _ haccepts rfl
    have hafter := continuityStep_accepts hsound haccepts
    refine ⟨?_, hafter.newer⟩
    rw [lastAccepted, hafter.stored]
    rfl
  · intro hno
    by_cases haccepts : ∃ input, Accepts op s input
    · obtain ⟨input, haccepts⟩ := haccepts
      have hafter := continuityStep_accepts hsound haccepts
      have halias : modelAlias ≠ input.modelAlias := fun heq =>
        hno ⟨input, haccepts, heq.symm⟩
      rw [lastAccepted, lastAccepted, hafter.others modelAlias halias]
    · rw [continuityStep_models hsound (not_exists.mp haccepts)]

theorem run_continuity_sound (hsound : ModelsSound s.models)
    (ops : List ContinuityOp) :
    ModelsSound (run continuityStep s ops).models :=
  run_preserves (P := fun s : ContinuityMachine => ModelsSound s.models)
    (fun op _ hs => continuityStep_sound op hs) hsound ops

theorem run_epoch_mono (hsound : ModelsSound s.models) (modelAlias : String)
    (ops : List ContinuityOp) :
    storedEpoch s.models modelAlias ≤
      storedEpoch (run continuityStep s ops).models modelAlias := by
  induction ops generalizing s with
  | nil => exact Nat.le_refl _
  | cons op _ ih =>
    refine Nat.le_trans ?_ (ih (continuityStep_sound op hsound))
    obtain ⟨hup, hstay⟩ := @continuityStep_epoch s op hsound modelAlias
    by_cases hbumps : ∃ input, Bumps op s input ∧
        input.modelAlias = modelAlias
    · rw [hup hbumps]
      exact Nat.le_succ _
    · exact Nat.le_of_eq (hstay hbumps).symm

/-- A capability is inactive after its turn of the demotion. -/
theorem isActive_demoteCapability
    (hrow : (demoteCapability releases capability).get? other = some row)
    (hactive : row.state = .active) :
    other ≠ capability ∧ releases.get? other = some row := by
  unfold demoteCapability at hrow
  rw [get?_update] at hrow
  obtain ⟨old, hold, rfl⟩ := map_eq_some_iff.mp hrow
  have hkey : old.capability = other := key_of_get? hold
  by_cases hselected : (decide (old.capability = capability) &&
      decide (old.state = .active)) = true
  · rw [if_pos hselected] at hactive
    cases hactive
  · rw [if_neg hselected] at hactive ⊢
    refine ⟨?_, hold⟩
    rintro rfl
    exact hselected (by simp [hkey, hactive])

/-- What a bump leaves behind: each capability that depends on the model is
inactive, awaits its demotion, or has been activated since. -/
def Demoted (since : List ContinuityOp) (s : ContinuityMachine) : Prop :=
  ∀ capability ∈ modelSensitiveSetForContract, s.isActive capability →
    capability ∈ s.demoting ∨
      ContinuityOp.setRelease capability .active ∈ since

/-- No crash falls into a demotion. -/
def SparesDemotion (op : ContinuityOp) (s : ContinuityMachine) : Prop :=
  op = .crash → s.AtRest

theorem get?_setRelease {state : CapabilityState}
    (hrow : (setRelease releases capability state).get? other = some row) :
    (other = capability ∧ row.state = state) ∨
      releases.get? other = some row := by
  unfold setRelease Table.upsert at hrow
  cases hinsert : releases.insert? ⟨capability, state⟩ with
  | some =>
    rw [hinsert, getD_some, get?_insert hinsert] at hrow
    change (if other = capability then _ else _) = _ at hrow
    by_cases hother : other = capability
    · rw [if_pos hother] at hrow
      cases hrow
      exact .inl ⟨hother, rfl⟩
    · rw [if_neg hother] at hrow
      exact .inr hrow
  | none =>
    rw [hinsert, getD_none, get?_update] at hrow
    obtain ⟨old, hold, rfl⟩ := map_eq_some_iff.mp hrow
    have hkey : old.capability = other := key_of_get? hold
    change (other = capability ∧ (if decide (old.capability = capability) =
      true then old.inState state else old).state = state) ∨ _ = some (if
        decide (old.capability = capability) = true then _ else _)
    by_cases hselected : old.capability = capability
    · exact .inl ⟨hkey.symm.trans hselected,
        by rw [if_pos (decide_eq_true hselected)]; rfl⟩
    · rw [if_neg (by simpa using hselected)]
      exact .inr hold

/-- A step that activates nothing and forgets no pending demotion. -/
theorem Demoted.extend {s' : ContinuityMachine} (hdemoted : Demoted since s)
    (hactive : ∀ capability, s'.isActive capability → s.isActive capability)
    (hpending : ∀ capability ∈ s.demoting, capability ∈ s'.demoting) :
    Demoted (since ++ [op]) s' := by
  intro capability hsensitive hnow
  rcases hdemoted capability hsensitive (hactive capability hnow) with
    hmem | hmem
  · exact .inl (hpending capability hmem)
  · exact .inr (mem_append_left _ hmem)

theorem continuityStep_demoted (hspares : SparesDemotion op s)
    (hdemoted : Demoted since s) :
    Demoted (since ++ [op]) (continuityStep op s) := by
  -- Outside its own turn an operation waits for the running demotion.
  unfold continuityStep
  split
  · rename_i hrest
    refine hdemoted.extend (fun _ hnow => hnow) ?_
    intro _ hmem
    rw [hrest] at hmem
    cases hmem
  · rename_i hrest
    intro capability hsensitive hactive
    obtain ⟨row, hrow, hstate⟩ := hactive
    obtain ⟨hne, hold⟩ := isActive_demoteCapability hrow hstate
    rcases hdemoted capability hsensitive ⟨row, hold, hstate⟩ with hmem | hmem
    · rw [hrest] at hmem
      exact .inl ((mem_cons.mp hmem).resolve_left hne)
    · exact .inr (mem_append_left _ hmem)
  · rename_i hrest
    intro capability hsensitive hactive
    obtain ⟨row, hrow, hstate⟩ := hactive
    rcases get?_setRelease hrow with ⟨rfl, rfl⟩ | hold
    · rw [hstate]
      exact .inr (by simp)
    · rcases hdemoted capability hsensitive ⟨row, hold, hstate⟩ with
        hmem | hmem
      · rw [hrest] at hmem
        cases hmem
      · exact .inr (mem_append_left _ hmem)
  · have hrest : s.demoting = [] := hspares rfl
    refine hdemoted.extend (fun _ hnow => hnow) ?_
    intro _ hmem
    rw [hrest] at hmem
    cases hmem
  · exact hdemoted.extend (fun _ hnow => hnow) fun _ hmem => hmem

theorem run_demoted (hdemoted : Demoted since s) (ops : List ContinuityOp)
    (hspares : Meets continuityStep SparesDemotion s ops) :
    Demoted (since ++ ops) (run continuityStep s ops) := by
  induction ops generalizing s since with
  | nil => rwa [append_nil]
  | cons _ _ ih =>
    rw [append_cons]
    exact ih (continuityStep_demoted hspares.1 hdemoted) hspares.2

/-- A change of a stored model sets out to demote every capability that depends
on it. -/
theorem bump_demoted (hsound : ModelsSound s.models) (hbumps : Bumps op s input)
    (hstored : storedModel s.models input.modelAlias ≠ none) :
    Demoted [] (continuityStep op s) := by
  obtain ⟨⟨rfl, hrest, hkind⟩, hdiffers⟩ := hbumps
  have hchange := (continuityTransaction_spec hsound input).2.2.mpr
    ⟨hkind, hstored, hdiffers⟩
  intro _ hsensitive _
  left
  unfold continuityStep
  rw [show s.demoting = [] from hrest]
  dsimp only
  rw [if_pos hchange]
  exact hsensitive

end Machine

/-- What holds of a run of completions and other writes, with crashes anywhere
between two committed statements. -/
structure ContinuityHistory (ops : List ContinuityOp) : Prop where
  epochNeverDecreases : ∀ before after, ops = before ++ after →
    ∀ modelAlias,
      storedEpoch (run continuityStep {} before).models modelAlias ≤
        storedEpoch (run continuityStep {} ops).models modelAlias
  epochBumped : ∀ before op after, ops = before ++ op :: after →
    ∀ modelAlias,
      ((∃ input, Bumps op (run continuityStep {} before) input ∧
          input.modelAlias = modelAlias) →
        storedEpoch (run continuityStep {} (before ++ [op])).models modelAlias =
          storedEpoch (run continuityStep {} before).models modelAlias + 1) ∧
      ((¬ ∃ input, Bumps op (run continuityStep {} before) input ∧
          input.modelAlias = modelAlias) →
        storedEpoch (run continuityStep {} (before ++ [op])).models modelAlias =
          storedEpoch (run continuityStep {} before).models modelAlias)
  sequenceIncreases : ∀ before op after, ops = before ++ op :: after →
    ∀ modelAlias,
      (∀ input, Accepts op (run continuityStep {} before) input →
        input.modelAlias = modelAlias →
        lastAccepted (run continuityStep {} (before ++ [op])).models
            modelAlias = some input.dispatchSequence ∧
          ∀ last, lastAccepted (run continuityStep {} before).models
            modelAlias = some last → last < input.dispatchSequence) ∧
      ((¬ ∃ input, Accepts op (run continuityStep {} before) input ∧
          input.modelAlias = modelAlias) →
        lastAccepted (run continuityStep {} (before ++ [op])).models
            modelAlias =
          lastAccepted (run continuityStep {} before).models modelAlias)
  demoted : ∀ before op after input, ops = before ++ op :: after →
    Bumps op (run continuityStep {} before) input →
    storedModel (run continuityStep {} before).models input.modelAlias ≠ none →
    (run continuityStep {} ops).AtRest →
    ∀ capability ∈ modelSensitiveSetForContract,
      (run continuityStep {} ops).isActive capability →
      ContinuityOp.setRelease capability .active ∈ after

/-- In every run in which no crash falls into a demotion, the epoch never
decreases, it goes up on exactly the accepted completions with another model
than the stored one, the last accepted sequence increases, and after a change
of model no capability that depends on it is active again on its own. -/
theorem model_continuity_kept (ops : List ContinuityOp)
    (hspares : Meets continuityStep SparesDemotion {} ops) :
    ContinuityHistory ops := by
  have hstart : ModelsSound ({} : ContinuityMachine).models := by
    intro _ _ hrow
    cases hrow
  constructor
  · rintro before after rfl modelAlias
    rw [run_append]
    exact run_epoch_mono (run_continuity_sound hstart before) modelAlias after
  · rintro before _ _ rfl modelAlias
    rw [run_append]
    exact continuityStep_epoch (run_continuity_sound hstart before) modelAlias
  · rintro before _ _ rfl modelAlias
    rw [run_append]
    exact continuityStep_lastAccepted (run_continuity_sound hstart before)
      modelAlias
  · rintro before _ after _ rfl hbumps hstored hrest capability hsensitive
      hactive
    obtain ⟨_, hafter⟩ := meets_append.mp hspares
    have hdemoted := run_demoted
      (bump_demoted (run_continuity_sound hstart before) hbumps hstored) after
      hafter.2
    rw [run_append] at hrest hactive
    rcases hdemoted capability hsensitive hactive with hmem | hmem
    · change (run continuityStep _ after).demoting = [] at hrest
      rw [hrest] at hmem
      cases hmem
    · exact hmem

/-- A promoted capability, and the first completion of an alias. -/
def promotedCapability : List ContinuityOp :=
  [.setRelease "thought" .active, .complete ⟨⟨some "m", false⟩, "a", 1⟩]

/-- A later completion with another model. -/
def otherModel : ModelContinuityInput := ⟨⟨some "n", false⟩, "a", 2⟩

theorem model_continuity_kept_demoted :
    Meets continuityStep SparesDemotion {}
        (promotedCapability ++ [.complete otherModel, .demoteNext]) ∧
      ContinuityHistory
        (promotedCapability ++ [.complete otherModel, .demoteNext]) := by
  have hspares : Meets continuityStep SparesDemotion {}
      (promotedCapability ++ [.complete otherModel, .demoteNext]) := by
    refine ⟨?_, ?_, ?_, ?_, trivial⟩ <;> exact fun hcrash => by cases hcrash
  exact ⟨hspares, model_continuity_kept _ hspares⟩

/-- A crash between the new epoch and the demotion: the capability that was
active before the change is active after it, and nothing activated it again. -/
theorem crash_spares_capability :
    (run continuityStep {} promotedCapability).isActive "thought" ∧
      "thought" ∈ modelSensitiveSetForContract ∧
      Bumps (.complete otherModel) (run continuityStep {} promotedCapability)
        otherModel ∧
      storedModel (run continuityStep {} promotedCapability).models "a" =
        some "m" ∧
      (run continuityStep {}
        (promotedCapability ++ [.complete otherModel, .crash])).AtRest ∧
      (run continuityStep {}
        (promotedCapability ++ [.complete otherModel, .crash])).isActive
          "thought" ∧
      ContinuityOp.setRelease "thought" .active ∉ [ContinuityOp.crash] := by
  refine ⟨⟨⟨"thought", .active⟩, by decide +kernel, rfl⟩, by decide,
    ⟨⟨rfl, by decide +kernel, by decide +kernel⟩, by decide +kernel⟩,
    by decide +kernel, by decide +kernel,
    ⟨⟨"thought", .active⟩, by decide +kernel, rfl⟩, by simp⟩

end CognitiveSidecar
