/-
Firing due triggers: a pass matures the candidates one after another, each in a
transaction of its own, and what one of them raises ends the pass.
-/
import CognitiveSidecar.Lib.Passes
import CognitiveSidecar.System

namespace CognitiveSidecar

open Relational

section Passes

variable [Host]

/-- The options of a pass, and what the concern tables say of each trigger. -/
structure FutureTriggerFireOptions where
  nowMs : Int
  conversationId : Option String := none
  triggerIds : Option (List String) := none
  staleReason : String → Option TriggerStaleVerdict := fun _ => none
  updatedGeneration : String → Option Int := fun _ => none

def FutureTriggerFireOptions.selects (options : FutureTriggerFireOptions)
    (row : FutureTrigger) : Bool :=
  isTriggerOpen row && row.dueAtMs ≤ options.nowMs &&
    (options.conversationId.filter (· ≠ "")).all (· = row.conversationId) &&
    options.triggerIds.all (row.triggerId ∈ ·)

/-- `ORDER BY due_at_ms ASC, trigger_id ASC`. -/
def dueBefore (left right : FutureTrigger) : Prop :=
  left.dueAtMs < right.dueAtMs ∨
    (left.dueAtMs = right.dueAtMs ∧ left.triggerId ≤ right.triggerId)

instance : DecidableRel dueBefore := fun _ _ => inferInstanceAs (Decidable (_ ∨ _))

def fireCandidates (db : Sidecar) (options : FutureTriggerFireOptions) :
    List String :=
  ((db.triggers.rows.filter options.selects).insertionSort dueBefore).map
    (·.triggerId)

/-- One round of a pass: whether the trigger matured, and the state that its
transaction commits. -/
def fireOne (options : FutureTriggerFireOptions) (triggerId : String)
    (db : Sidecar) : Outcome (Bool × Sidecar) := do
  let (result, db) ← matureFutureTriggerToWake db triggerId options.nowMs
    (options.staleReason triggerId) (options.updatedGeneration triggerId) 0
  pure (result.isSome, db)

/-- The triggers that a pass matures, and the state that it leaves. -/
def fireDueTriggers (db : Sidecar) (options : FutureTriggerFireOptions) :
    List String × Sidecar :=
  untilFault (fireOne options) (fireCandidates db options) db

/-- The triggers that mature when each one that cannot is passed over. -/
def maturesOnItsOwn (db : Sidecar) (options : FutureTriggerFireOptions) :
    List String :=
  (isolated (fireOne options) (fireCandidates db options) db).1

omit [Host] in
theorem fireCandidates_nodup (db : Sidecar)
    (options : FutureTriggerFireOptions) : (fireCandidates db options).Nodup := by
  have hkeys : ((db.triggers.rows.filter options.selects).map
      (·.triggerId)).Nodup :=
    db.triggers.keys_nodup.sublist (List.filter_sublist.map _)
  exact ((List.perm_insertionSort _ _).map _).nodup_iff.mpr hkeys

end Passes

section Plain

attribute [local instance] plainHost

def reminder (triggerId conversationId : String) (dueAtMs : Int) : Op :=
  .scheduleTrigger
    { triggerId, conversationId, concernId := "k", snapshotHash := "h", dueAtMs }

/-- A trigger waits for review, a worker leases its wake, and a trigger of
another conversation comes due after it. -/
def leasedReview : List Op :=
  [reminder "t" "c" 0, .matureTrigger "t" 1 (some .snapshotMismatch) none 0,
    .claimWake "wake:wake-occurrence:future_triggertc" "w" 2 1000,
    reminder "u" "d" 1]

/-- The concern of the trigger under review is resolved by then. -/
def resolvedReview : FutureTriggerFireOptions where
  nowMs := 3
  staleReason := fun triggerId => if triggerId = "t" then some .other else none

end Plain

end CognitiveSidecar
