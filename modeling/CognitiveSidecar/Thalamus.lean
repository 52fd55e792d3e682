/-
Timing arbitration: nuclei propose timing facts, and a pure arbiter counts the
observations of each family once and selects a pass.  Numbers are exact.
-/
import CognitiveSidecar.Lib.Order
import CognitiveSidecar.Lib.Outcome
import CognitiveSidecar.Lib.Table
import Mathlib.Algebra.Order.Field.Basic

namespace CognitiveSidecar.Thalamus

open Relational

inductive Nucleus
  | reflective | sleep | prospective | external | boredom | interoceptive
  | social | domus
deriving DecidableEq

def Nucleus.text : Nucleus → String
  | reflective => "reflective"
  | sleep => "sleep"
  | prospective => "prospective"
  | external => "external"
  | boredom => "boredom"
  | interoceptive => "interoceptive"
  | social => "social"
  | domus => "domus"

inductive CandidateClass
  | alwaysThrough | pressure | opportunistic
deriving DecidableEq

inductive PassType
  | afterglow | night | ownTime | conversation
deriving DecidableEq

structure Candidate (K : Type) where
  eventId : String
  observedAtMs : K
  source : Nucleus
  salience : K
  candidateClass : CandidateClass
  coalesceKey : String
  deadlineMs : Option K := none
  passType : PassType
  refs : List String := []
  suppressed : Bool := false
deriving DecidableEq

/-- What is known of the candidates of one source and coalescing key. -/
structure FamilyState (K : Type) where
  familyKey : String
  source : Nucleus
  (response arousal lastObservedAtMs : K)
  lastEventId : String
  lastEvaluatedAtMs : K

instance {K : Type} : Keyed (FamilyState K) String := ⟨FamilyState.familyKey⟩

structure ThalamusState (K : Type) where
  lastNowMs : K
  families : Table (FamilyState K)
  lastSelectedAtMs : Nucleus → Option K

structure ThalamusContext (K : Type) where
  (budgetAvailable conversationClaimHeld : Bool)
  (spentFraction energy tension circadianPhase : K)
  gains : Nucleus → Option K := fun _ => none
  familyGains : String → Option K := fun _ => none
  habituation : String → Option K := fun _ => none

inductive NoneReason
  | budget | conversation | noCandidate
deriving DecidableEq

inductive FireReason
  | mandatory | threshold
deriving DecidableEq

inductive Decision (K : Type)
  | none (reason : NoneReason) (pending : List (Candidate K))
  | fire (reason : FireReason) (passType : PassType)
      (bundle pending : List (Candidate K))
deriving DecidableEq

/-- The candidates that a decision selects. -/
def Decision.bundle {K : Type} : Decision K → List (Candidate K)
  | .none _ _ => []
  | .fire _ _ bundle _ => bundle

/-- The candidates that a decision leaves. -/
def Decision.pending {K : Type} : Decision K → List (Candidate K)
  | .none _ pending => pending
  | .fire _ _ _ pending => pending

inductive ThalamusFault
  | invalidCheckpoint | invalidCandidate | eventConflict

/-- The rank of a character among UTF-16 code units: those outside the basic
plane are written with surrogates, which stand before `U+E000`. -/
def unitRank (c : Char) : Nat :=
  if c.toNat < 0xe000 then c.toNat
  else if c.toNat < 0x10000 then c.toNat + 0x110000
  else c.toNat

def unitRanks (text : String) : List Nat := text.toList.map unitRank

def ranksBefore : List Nat → List Nat → Bool
  | _, [] => false
  | [], _ :: _ => true
  | a :: as, b :: bs => decide (a < b) || (decide (a = b) && ranksBefore as bs)

/-- `a < b` between two texts. -/
def textBefore (a b : String) : Bool := ranksBefore (unitRanks a) (unitRanks b)

/-- `theta0`, the amplitudes and the other fixed parameters. -/
structure Parameters (K : Type) where
  (theta0 salienceMinimum salienceMaximum ambientAlpha ambientAlphaMin : K)
  (ambientAlphaMax socialAlpha socialAlphaMin socialAlphaMax moodAmplitude : K)
  (gain gainMin gainMax fatigueAmplitude circadianAmplitude arousalLeakMs : K)
  (arousalResetFraction habituationRecoveryMs dishabituationRecoveryFraction : K)

section Arbiter

variable {K : Type} [Field K] [LinearOrder K]

def thalamusParameters : Parameters K where
  theta0 := 1 / 2
  salienceMinimum := 0
  salienceMaximum := 1
  ambientAlpha := 3 / 10
  ambientAlphaMin := 3 / 10
  ambientAlphaMax := 8 / 10
  socialAlpha := 1 / 10
  socialAlphaMin := 0
  socialAlphaMax := 8 / 10
  moodAmplitude := 15 / 100
  gain := 1
  gainMin := 1 / 2
  gainMax := 2
  fatigueAmplitude := 1 / 2
  circadianAmplitude := 1 / 10
  arousalLeakMs := 60000
  arousalResetFraction := 0
  habituationRecoveryMs := 3600000
  dishabituationRecoveryFraction := 1 / 2

def clamp (value low high : K) : K := max low (min high value)

def refractory : Nucleus → K
  | .reflective => 60000
  | .sleep => 3600000
  | .prospective => 0
  | .external => 300000
  | .boredom => 300000
  | .interoceptive => 3600000
  | .social => 60000
  | .domus => 0

def threshold (source : Nucleus) (context : ThalamusContext K) : K :=
  let p : Parameters K := thalamusParameters
  let tension := if source = .social then clamp context.tension 0 1 else 0
  let mood := clamp
    (1 + p.moodAmplitude * (1 - 2 * clamp context.energy 0 1 - tension))
    (1 - p.moodAmplitude) (1 + p.moodAmplitude)
  p.theta0 *
    (1 + p.fatigueAmplitude * clamp context.spentFraction 0 1 ^ 2) *
    (1 + p.circadianAmplitude * clamp context.circadianPhase (-1) 1) * mood

def Candidate.familyKey (candidate : Candidate K) : String :=
  candidate.source.text ++ ":" ++ candidate.coalesceKey

/-- The checks that a family of the given state passes. -/
def FamilyState.isValid (family : FamilyState K) (lastNowMs : K) : Bool :=
  0 ≤ family.response && family.response ≤ 1 && 0 ≤ family.arousal &&
    family.lastEvaluatedAtMs ≤ lastNowMs &&
    family.lastObservedAtMs ≤ family.lastEvaluatedAtMs

/-- A family at a later time: its response recovers, its arousal leaks.
`decay elapsed tau` stands for `Math.exp(-elapsed / tau)`. -/
def FamilyState.evaluated (decay : K → K → K) (family : FamilyState K)
    (effectiveNow : K) : FamilyState K :=
  let p : Parameters K := thalamusParameters
  let elapsed := max 0 (effectiveNow - family.lastEvaluatedAtMs)
  { family with
    lastEvaluatedAtMs := effectiveNow
    response := if elapsed = 0 then family.response
      else clamp
        (1 - (1 - family.response) * decay elapsed p.habituationRecoveryMs) 0 1
    arousal := max 0 (family.arousal * decay elapsed p.arousalLeakMs) }

theorem FamilyState.evaluated_key (decay : K → K → K) (family : FamilyState K)
    (effectiveNow : K) :
    key (family.evaluated decay effectiveNow) = key family := rfl

/-- One candidate joins those that were read before; an event id has one
content. -/
def collectCandidate (kept : List (Candidate K)) (candidate : Candidate K) :
    Except ThalamusFault (List (Candidate K)) := do
  require (candidate.eventId ≠ "" ∧ candidate.coalesceKey ≠ "")
    .invalidCandidate
  match kept.find? (·.eventId = candidate.eventId) with
  | some previous => do
    require (previous = candidate) .eventConflict
    pure kept
  | none => pure (kept ++ [candidate])

/-- The order of the event ids. -/
def byEventId (a b : Candidate K) : Bool := !textBefore b.eventId a.eventId

/-- The order in which observations are counted. -/
def byTime (a b : Candidate K) : Bool :=
  a.observedAtMs < b.observedAtMs ||
    (a.observedAtMs = b.observedAtMs && byEventId a b)

/-- The candidate is of the future, or before the last observation of its
family. -/
def isStale (effectiveNow : K) (family : Option (FamilyState K))
    (candidate : Candidate K) : Bool :=
  decide (effectiveNow < candidate.observedAtMs) || family.any fun family =>
    decide (candidate.observedAtMs < family.lastObservedAtMs) ||
      (candidate.observedAtMs = family.lastObservedAtMs &&
        textBefore candidate.eventId family.lastEventId)

def isDuplicate (family : Option (FamilyState K)) (candidate : Candidate K) :
    Bool :=
  family.any fun family => family.lastEventId = candidate.eventId &&
    decide (family.lastObservedAtMs = candidate.observedAtMs)

/-- The fraction of the response that a repeated observation takes away. -/
def habituationAlpha (context : ThalamusContext K)
    (candidate : Candidate K) : K :=
  let p : Parameters K := thalamusParameters
  let alpha := context.habituation candidate.familyKey
  if candidate.source = .social then
    clamp (alpha.getD p.socialAlpha) p.socialAlphaMin p.socialAlphaMax
  else clamp (alpha.getD p.ambientAlpha) p.ambientAlphaMin p.ambientAlphaMax

/-- The family after an observation has been counted. -/
def observedFamily (context : ThalamusContext K) (effectiveNow : K)
    (family : Option (FamilyState K)) (candidate : Candidate K) :
    FamilyState K :=
  let response := match family with
    | some family =>
      family.response * (1 - habituationAlpha context candidate)
    | none => 1
  { familyKey := candidate.familyKey, source := candidate.source, response
    arousal := (family.map (·.arousal)).getD 0 +
      (if candidate.candidateClass = .opportunistic then 0
        else clamp candidate.salience 0 1 * response)
    lastObservedAtMs := candidate.observedAtMs, lastEventId := candidate.eventId
    lastEvaluatedAtMs := effectiveNow }

/-- Write the family of a key. -/
def putFamily (families : Table (FamilyState K)) (family : FamilyState K) :
    Table (FamilyState K) :=
  families.upsert family
    (fun old => { family with familyKey := old.familyKey })
    (fun _ => rfl)

def FamilyState.restored (family : FamilyState K) : FamilyState K :=
  let p : Parameters K := thalamusParameters
  { family with
    response := family.response +
      (1 - family.response) * p.dishabituationRecoveryFraction }

omit [LinearOrder K] in
theorem FamilyState.restored_key (family : FamilyState K) :
    key family.restored = key family := rfl

/-- A new strong observation from another nucleus restores attention. -/
def dishabituate (families : Table (FamilyState K))
    (candidate : Candidate K) : Table (FamilyState K) :=
  let p : Parameters K := thalamusParameters
  if candidate.candidateClass ≠ .opportunistic ∧
      p.theta0 ≤ candidate.salience then
    families.update (·.source ≠ candidate.source) FamilyState.restored
      FamilyState.restored_key
  else families

/-- Whether the candidate is counted as an observation of its family. -/
def isCounted (effectiveNow : K) (families : Table (FamilyState K))
    (candidate : Candidate K) : Bool :=
  let family := families.get? candidate.familyKey
  !isStale effectiveNow family candidate && !isDuplicate family candidate

/-- Count one observation; a stale or repeated one changes no family. -/
def observe (context : ThalamusContext K) (effectiveNow : K)
    (families : Table (FamilyState K)) (candidate : Candidate K) :
    Table (FamilyState K) :=
  if isCounted effectiveNow families candidate then
    dishabituate (putFamily families (observedFamily context effectiveNow
      (families.get? candidate.familyKey) candidate)) candidate
  else families

/-- The families after the candidates, and the stale event ids. -/
def observeAll (context : ThalamusContext K) (effectiveNow : K) :
    Table (FamilyState K) → List (Candidate K) →
      Table (FamilyState K) × List String
  | families, [] => (families, [])
  | families, candidate :: rest =>
    let after := observeAll context effectiveNow
      (observe context effectiveNow families candidate) rest
    if isStale effectiveNow (families.get? candidate.familyKey)
        candidate then (after.1, candidate.eventId :: after.2)
    else after

structure Ranked (K : Type) where
  candidate : Candidate K
  mandatory : Bool
  score : K
  available : Bool

def Candidate.isMandatory (candidate : Candidate K) (effectiveNow : K) :
    Bool :=
  candidate.candidateClass = .alwaysThrough ||
    candidate.deadlineMs.any (· ≤ effectiveNow)

def candidateScore (context : ThalamusContext K)
    (families : Table (FamilyState K)) (candidate : Candidate K) : K :=
  let p : Parameters K := thalamusParameters
  let gain := (context.gains candidate.source).getD p.gain
  let familyGain := ((context.familyGains candidate.familyKey).or
    (context.familyGains candidate.coalesceKey)).getD p.gain
  let family := families.get? candidate.familyKey
  max (clamp candidate.salience p.salienceMinimum p.salienceMaximum *
      (family.map (·.response)).getD 1) ((family.map (·.arousal)).getD 0) *
    clamp gain p.gainMin p.gainMax * clamp familyGain p.gainMin p.gainMax

def rank (context : ThalamusContext K) (state : ThalamusState K)
    (families : Table (FamilyState K)) (stale : List String)
    (effectiveNow : K) (candidate : Candidate K) : Ranked K :=
  let mandatory := candidate.isMandatory effectiveNow
  { candidate
    mandatory, score := candidateScore context families candidate
    available := mandatory || (!stale.contains candidate.eventId &&
      !candidate.suppressed && !context.conversationClaimHeld &&
      (state.lastSelectedAtMs candidate.source).all fun selectedAt =>
        decide (refractory candidate.source ≤ effectiveNow - selectedAt)) }

def Ranked.isEligible (row : Ranked K) (context : ThalamusContext K) : Bool :=
  row.available && (row.mandatory ||
    (row.candidate.candidateClass = .pressure &&
      decide (threshold row.candidate.source context ≤ row.score)))

/-- Mandatory work first, an afterglow first of it; then the higher score, the
longer wait, and the event id. -/
def Ranked.before (a b : Ranked K) : Bool :=
  if a.mandatory ≠ b.mandatory then a.mandatory
  else
    let first := decide (a.candidate.passType = .afterglow)
    let second := decide (b.candidate.passType = .afterglow)
    if (a.mandatory && b.mandatory) = true ∧ first ≠ second then first
    else if a.score ≠ b.score then b.score < a.score
    else byTime a.candidate b.candidate

def FamilyState.reset (family : FamilyState K) : FamilyState K :=
  let p : Parameters K := thalamusParameters
  { family with arousal := family.arousal * p.arousalResetFraction }

omit [LinearOrder K] in
theorem FamilyState.reset_key (family : FamilyState K) :
    key family.reset = key family := rfl

/-- The state after a candidate has been selected. -/
def select (effectiveNow : K) (state : ThalamusState K)
    (candidate : Candidate K) : ThalamusState K :=
  { state with
    lastSelectedAtMs := fun source =>
      if source = candidate.source then some effectiveNow
      else state.lastSelectedAtMs source
    families := state.families.update (·.familyKey = candidate.familyKey)
      FamilyState.reset FamilyState.reset_key }

/-- The time that the arbiter works with; it never goes back. -/
def ThalamusState.effectiveNow (state : ThalamusState K) (now : K) : K :=
  max now state.lastNowMs

/-- The families at the time of a call. -/
def ThalamusState.evaluatedFamilies (state : ThalamusState K)
    (decay : K → K → K) (now : K) : Table (FamilyState K) :=
  state.families.update (fun _ => true)
    (·.evaluated decay (state.effectiveNow now))
    (FamilyState.evaluated_key decay · (state.effectiveNow now))

/-- A fire result proposes timing. -/
def arbitrate (decay : K → K → K) (state : ThalamusState K)
    (candidates : List (Candidate K)) (now : K) (context : ThalamusContext K) :
    Except ThalamusFault (Decision K × ThalamusState K) := do
  let effectiveNow := state.effectiveNow now
  require (state.families.rows.all (·.isValid state.lastNowMs) = true)
    .invalidCheckpoint
  let evaluated := state.evaluatedFamilies decay now
  let kept ← eachOf collectCandidate [] candidates
  let pending := kept.insertionSort (byEventId · ·)
  let (families, stale) := observeAll context effectiveNow evaluated
    (pending.insertionSort (byTime · ·))
  let next : ThalamusState K :=
    { lastNowMs := effectiveNow, families
      lastSelectedAtMs := state.lastSelectedAtMs }
  let ranked := pending.map (rank context state families stale effectiveNow)
  if context.budgetAvailable = false then
    pure (.none .budget pending, next)
  else
    match ((ranked.filter (·.isEligible context)).insertionSort
        (·.before ·)).head? with
    | none =>
      pure (.none (if context.conversationClaimHeld then .conversation
        else .noCandidate) pending, next)
    | some winner =>
      let bundle := winner.candidate :: (ranked.filter fun row =>
        row.candidate.eventId ≠ winner.candidate.eventId && row.available &&
          row.candidate.passType = winner.candidate.passType).map
            (·.candidate)
      pure (.fire (if winner.mandatory then .mandatory else .threshold)
          winner.candidate.passType bundle
          (pending.filter fun candidate =>
            !(bundle.map (·.eventId)).contains candidate.eventId),
        bundle.foldl (select effectiveNow) next)

/-- A stored checkpoint is one that the arbiter accepts, and that selected
nothing after its own time. -/
def validateCheckpoint (state : ThalamusState K) : Bool :=
  state.families.rows.all (·.isValid state.lastNowMs) &&
    [Nucleus.reflective, .sleep, .prospective, .external, .boredom,
      .interoceptive, .social, .domus].all fun source =>
        (state.lastSelectedAtMs source).all (· ≤ state.lastNowMs)

/-- The state before the first call. -/
def emptyState : ThalamusState K where
  lastNowMs := 0
  families := Table.empty
  lastSelectedAtMs := fun _ => none

end Arbiter

end CognitiveSidecar.Thalamus
