/-
Model continuity: the model that each alias resolved to last, its epoch, and
the demotion of the capabilities that depend on the model.
-/
import CognitiveSidecar.Sidecar

namespace CognitiveSidecar

open Relational

/-- A row of `model_continuity_state`. -/
structure ModelState where
  modelAlias : String
  resolvedModelId : Option String
  (modelEpoch lastAcceptedDispatchSequence : Nat)

instance : Keyed ModelState String := ⟨ModelState.modelAlias⟩

inductive CapabilityState
  | observe | active | rolledBack | disabled
deriving DecidableEq

/-- A row of `capability_releases` under the declared contract. -/
structure CapabilityRelease where
  capability : String
  state : CapabilityState
deriving DecidableEq

instance : Keyed CapabilityRelease String := ⟨CapabilityRelease.capability⟩

/-- `MODEL_SENSITIVE_SET_FOR_CONTRACT`. -/
def modelSensitiveSetForContract : List String :=
  ["thought", "learning", "reading", "curiosity_consolidation",
    "source_discovery", "own_time_report", "affect", "relational_initiative",
    "vision", "conversational_read", "web_search"]

structure ResolvedModel where
  resolvedModelId : Option String
  unresolvedAlias : Bool

/-- What a provider's model name resolves to; a blank name, and the alias
itself, resolve nothing. -/
def resolveProviderModelId (modelAlias : String)
    (providerModel : Option String) : ResolvedModel :=
  match (providerModel.map trim).filter fun returned =>
    returned ≠ "" && returned ≠ modelAlias with
  | some returned => ⟨some returned, false⟩
  | none => ⟨none, true⟩

/-- One completed dispatch. -/
structure ModelContinuityInput extends ResolvedModel where
  modelAlias : String
  dispatchSequence : Nat

inductive ContinuityKind
  | baseline | resolvedChange | unresolvedAlias | stale | none
deriving DecidableEq

def ModelState.acceptedBy (row : ModelState) (resolved : String)
    (modelEpoch dispatchSequence : Nat) : ModelState :=
  { row with
    resolvedModelId := some resolved, modelEpoch
    lastAcceptedDispatchSequence := dispatchSequence }

theorem ModelState.acceptedBy_key (row : ModelState) (resolved : String)
    (modelEpoch dispatchSequence : Nat) :
    key (row.acceptedBy resolved modelEpoch dispatchSequence) = key row := rfl

/-- `UPDATE model_continuity_state … WHERE alias = ?`. -/
def acceptModel (models : Table ModelState) (modelAlias resolved : String)
    (modelEpoch dispatchSequence : Nat) : Table ModelState :=
  models.update (fun row => row.modelAlias = modelAlias)
    (·.acceptedBy resolved modelEpoch dispatchSequence)
    (ModelState.acceptedBy_key · resolved modelEpoch dispatchSequence)

/-- The transaction of `applyModelContinuity`: an older response than the last
accepted one changes nothing. -/
def continuityTransaction (models : Table ModelState)
    (input : ModelContinuityInput) :
    (ContinuityKind × Nat) × Table ModelState :=
  match input.resolvedModelId.filter fun _ => !input.unresolvedAlias with
  | none => ((.unresolvedAlias,
      ((models.get? input.modelAlias).map (·.modelEpoch)).getD 0), models)
  | some resolved =>
    match models.get? input.modelAlias with
    | none => ((.baseline, 1), models.insertNew
        ⟨input.modelAlias, some resolved, 1, input.dispatchSequence⟩)
    | some state =>
      if state.modelEpoch = 0 then
        ((.baseline, 1),
          acceptModel models input.modelAlias resolved 1
            input.dispatchSequence)
      else if
          input.dispatchSequence ≤ state.lastAcceptedDispatchSequence then
        ((.stale, state.modelEpoch), models)
      else if state.resolvedModelId = some resolved then
        ((.none, state.modelEpoch), acceptModel models input.modelAlias
          resolved state.modelEpoch input.dispatchSequence)
      else
        ((.resolvedChange, state.modelEpoch + 1),
          acceptModel models input.modelAlias resolved
            (state.modelEpoch + 1) input.dispatchSequence)

def CapabilityRelease.inState (row : CapabilityRelease)
    (state : CapabilityState) : CapabilityRelease :=
  { row with state }

theorem CapabilityRelease.inState_key (row : CapabilityRelease)
    (state : CapabilityState) : key (row.inState state) = key row := rfl

/-- One `UPDATE` of `defaultDemote`. -/
def demoteCapability (releases : Table CapabilityRelease)
    (capability : String) : Table CapabilityRelease :=
  releases.update
    (fun row => row.capability = capability && row.state = .active)
    (·.inState .observe) (CapabilityRelease.inState_key · .observe)

def defaultDemote (releases : Table CapabilityRelease) :
    Table CapabilityRelease :=
  modelSensitiveSetForContract.foldl demoteCapability releases

/-- The models and the capabilities that depend on them. -/
structure ModelContinuity where
  models : Table ModelState := Table.empty
  releases : Table CapabilityRelease := Table.empty

/-- Accept a completed dispatch and demote when the model has changed. -/
def applyModelContinuity (continuity : ModelContinuity)
    (input : ModelContinuityInput) :
    (ContinuityKind × Nat) × ModelContinuity :=
  let (answer, models) := continuityTransaction continuity.models input
  match answer.1 with
  | .resolvedChange =>
    (answer, ⟨models, defaultDemote continuity.releases⟩)
  | _ => (answer, ⟨models, continuity.releases⟩)

/-- The same tables between two committed statements: `demoting` are the
capabilities that the running demotion has still to reach. -/
structure ContinuityMachine extends ModelContinuity where
  demoting : List String := []

inductive ContinuityOp
  | complete (input : ModelContinuityInput)
  | demoteNext
  | setRelease (capability : String) (state : CapabilityState)
  | crash

/-- Write the state of a capability's release, as promotion, rollback and
qualification do. -/
def setRelease (releases : Table CapabilityRelease) (capability : String)
    (state : CapabilityState) : Table CapabilityRelease :=
  releases.upsert ⟨capability, state⟩ (·.inState state)
    (CapabilityRelease.inState_key · state)

/-- One committed statement, or the loss of the process.  The code between the
transaction and the last demotion runs without a pause, so no other call comes
in between; a crash may. -/
def continuityStep (op : ContinuityOp) (s : ContinuityMachine) :
    ContinuityMachine :=
  match op, s.demoting with
  | .complete input, [] =>
    let (answer, models) := continuityTransaction s.models input
    { s with
      models
      demoting := if answer.1 = .resolvedChange then
        modelSensitiveSetForContract else [] }
  | .demoteNext, capability :: rest =>
    { s with
      releases := demoteCapability s.releases capability
      demoting := rest }
  | .setRelease capability state, [] =>
    { s with releases := setRelease s.releases capability state }
  | .crash, _ => { s with demoting := [] }
  | _, _ => s

end CognitiveSidecar
