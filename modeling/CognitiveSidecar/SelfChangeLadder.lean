/-
The self-change ladder: a level that the Owner commands and that a finding
lowers, beside the history of its changes.
-/
import CognitiveSidecar.Lib.Run
import CognitiveSidecar.Lib.Text
import CognitiveSidecar.WakeLedger

namespace CognitiveSidecar.Growth

open List Relational

inductive LadderKind
  | ownerCommand | blocking | revert
deriving DecidableEq

/-- A row of `self_change_ladder_history`. -/
structure LadderEntry where
  eventId : String
  kind : LadderKind
  (actor reference : String)
  (fromLevel toLevel revision createdAtMs : Int)

instance : Keyed LadderEntry String := ⟨LadderEntry.eventId⟩

/-- The one row of `self_change_ladder`, and the history. -/
structure SelfChangeLadder where
  level : Int := 1
  revision : Int := 0
  history : Table LadderEntry := Table.empty

inductive LadderFault
  | inputInvalid | eventConflict | revisionConflict

structure LadderChange where
  eventId : String
  kind : LadderKind
  (actor reference : String)
  nowMs : Int
  level : Option Int := none
  expectedRevision : Option Int := none

inductive FindingKind
  | accepted | blocking | revert

section Ladder

variable [Host]

def text (value : String) : Except LadderFault Unit :=
  require (!blank value && utf16Length value ≤ 200 &&
    !Host.hasCredentialShape value) .inputInvalid

def change (ladder : SelfChangeLadder) (input : LadderChange) :
    Except LadderFault SelfChangeLadder := do
  text input.eventId
  text input.actor
  text input.reference
  require (isSafeInteger input.nowMs ∧ 0 ≤ input.nowMs) .inputInvalid
  match ladder.history.get? input.eventId with
  | some previous =>
    require (previous.kind = input.kind ∧ previous.actor = input.actor ∧
      previous.reference = input.reference ∧
      input.level.all (previous.toLevel = ·)) .eventConflict
    pure ladder
  | none => do
    require (input.expectedRevision.all (· = ladder.revision)) .revisionConflict
    let level := input.level.getD (max 0 (ladder.level - 1))
    let entry : LadderEntry :=
      ⟨input.eventId, input.kind, input.actor, input.reference, ladder.level,
        level, ladder.revision + 1, input.nowMs⟩
    pure ⟨level, ladder.revision + 1, ladder.history.insertNew entry⟩

def commandSelfChangeLadder (ladder : SelfChangeLadder)
    (level expectedRevision : Int) (commandId actor : String) (nowMs : Int) :
    Except LadderFault SelfChangeLadder := do
  require ((0 ≤ level ∧ level ≤ 3) ∧ isSafeInteger expectedRevision ∧
    0 ≤ expectedRevision) .inputInvalid
  change ladder ⟨"owner:" ++ commandId, .ownerCommand, actor, commandId, nowMs,
    some level, some expectedRevision⟩

/-- An accepted result earns no level. -/
def recordSelfChangeLadderFinding (ladder : SelfChangeLadder)
    (eventId : String) (kind : FindingKind) (reference : String)
    (actor : Option String) (nowMs : Int) :
    Except LadderFault SelfChangeLadder :=
  let drop (kind : LadderKind) :=
    change ladder ⟨"finding:" ++ eventId, kind,
      actor.getD "operator_observation", reference, nowMs, none, none⟩
  match kind with
  | .accepted => pure ladder
  | .blocking => drop .blocking
  | .revert => drop .revert

inductive LadderOp
  | command (level expectedRevision : Int) (commandId actor : String)
      (nowMs : Int)
  | finding (eventId : String) (kind : FindingKind) (reference : String)
      (actor : Option String) (nowMs : Int)

/-- One operation; one that throws is rolled back. -/
def ladderStep (op : LadderOp) (ladder : SelfChangeLadder) : SelfChangeLadder :=
  commit ladder <| match op with
  | .command level expectedRevision commandId actor nowMs =>
    commandSelfChangeLadder ladder level expectedRevision commandId actor nowMs
  | .finding eventId kind reference actor nowMs =>
    recordSelfChangeLadderFinding ladder eventId kind reference actor nowMs

/-- The level and the revision that a history leads to: each entry goes on where
the one before it ended, and only a command of the Owner does anything but go
down by one. -/
inductive Climbs : List LadderEntry → Int → Int → Prop
  | start : Climbs [] 1 0
  | change {entries : List LadderEntry} {entry : LadderEntry}
      (hclimbs : Climbs entries entry.fromLevel (entry.revision - 1))
      (hlevel : 0 ≤ entry.toLevel ∧ entry.toLevel ≤ 3)
      (hdrop : entry.kind ≠ .ownerCommand →
        entry.toLevel = max 0 (entry.fromLevel - 1)) :
      Climbs (entries ++ [entry]) entry.toLevel entry.revision

omit [Host] in
theorem Climbs.bounded {entries : List LadderEntry} {level revision : Int}
    (hclimbs : Climbs entries level revision) : 0 ≤ level ∧ level ≤ 3 := by
  cases hclimbs with
  | start => decide
  | change _ hlevel => exact hlevel

variable {ladder after : SelfChangeLadder} {input : LadderChange}

/-- The history goes on from the one before, and leads to the level. -/
def GoesOn (ladder after : SelfChangeLadder) : Prop :=
  ladder.history.rows <+: after.history.rows ∧
    Climbs after.history.rows after.level after.revision

theorem change_goesOn
    (hclimbs : Climbs ladder.history.rows ladder.level ladder.revision)
    (hlevel : ∀ level, input.level = some level → 0 ≤ level ∧ level ≤ 3)
    (hdrop : input.kind ≠ .ownerCommand → input.level = none)
    (hok : change ladder input = .ok after) : GoesOn ladder after := by
  unfold change text at hok
  replace hok := passed hok
  replace hok := passed hok
  replace hok := passed hok
  replace hok := passed hok
  split at hok
  · replace hok := passed hok
    cases of_pure hok
    exact ⟨prefix_refl _, hclimbs⟩
  · replace hok := passed hok
    cases of_pure hok
    unfold GoesOn
    rw [Table.rows_insertNew ‹_ = none›]
    refine ⟨prefix_append _ _, .change ?_ ?_ fun hkind => ?_⟩
    · simpa using hclimbs
    · dsimp only
      cases hgiven : input.level with
      | some level => exact hlevel level hgiven
      | none =>
        obtain ⟨hlow, hhigh⟩ := hclimbs.bounded
        rw [Option.getD_none]
        omega
    · rw [hdrop hkind]
      rfl

theorem ladderStep_goesOn (op : LadderOp)
    (hclimbs : Climbs ladder.history.rows ladder.level ladder.revision) :
    GoesOn ladder (ladderStep op ladder) := by
  refine commit_preserves ⟨prefix_refl _, hclimbs⟩ fun after hok => ?_
  cases op with
  | command level =>
    obtain ⟨⟨hlevel, _⟩, hok⟩ := of_require hok
    refine change_goesOn hclimbs (fun _ hgiven => ?_)
      (fun hkind => absurd rfl hkind) hok
    cases hgiven
    exact hlevel
  | finding _ kind =>
    cases kind with
    | accepted =>
      cases of_pure hok
      exact ⟨prefix_refl _, hclimbs⟩
    | blocking | revert =>
      exact change_goesOn hclimbs (fun _ hgiven => by cases hgiven)
        (fun _ => rfl) hok

theorem run_goesOn
    (hclimbs : Climbs ladder.history.rows ladder.level ladder.revision)
    (ops : List LadderOp) : GoesOn ladder (run ladderStep ladder ops) := by
  induction ops generalizing ladder with
  | nil => exact ⟨prefix_refl _, hclimbs⟩
  | cons op _ ih =>
    obtain ⟨hfirst, hclimbs⟩ := ladderStep_goesOn op hclimbs
    obtain ⟨hrest, hclimbs⟩ := ih hclimbs
    exact ⟨hfirst.trans hrest, hclimbs⟩

/-- An event that the history names is not counted again. -/
theorem change_replay (hseen : (ladder.history.get? input.eventId).isSome) :
    commit ladder (change ladder input) = ladder := by
  refine commit_preserves (P := (· = ladder)) rfl fun after hok => ?_
  unfold change text at hok
  replace hok := passed hok
  replace hok := passed hok
  replace hok := passed hok
  replace hok := passed hok
  split at hok
  · replace hok := passed hok
    exact (of_pure hok).symm
  · simp [‹_ = none›] at hseen

end Ladder

/-- After every run the level is where the history leads, from 0 to 3; no later
run rewrites the history; and what was recorded once changes nothing again. -/
theorem ladder_follows_history [Host] (ops more : List LadderOp) :
    let ladder := run ladderStep {} ops
    Climbs ladder.history.rows ladder.level ladder.revision ∧
      (0 ≤ ladder.level ∧ ladder.level ≤ 3) ∧
      ladder.history.rows <+: (run ladderStep ladder more).history.rows ∧
      ∀ input, (ladder.history.get? input.eventId).isSome →
        commit ladder (change ladder input) = ladder := by
  obtain ⟨_, hclimbs⟩ := @run_goesOn _ {} .start ops
  exact ⟨hclimbs, hclimbs.bounded, (run_goesOn hclimbs more).1,
    fun _ => change_replay⟩

end CognitiveSidecar.Growth
