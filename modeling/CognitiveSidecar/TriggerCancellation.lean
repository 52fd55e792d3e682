/-
The answer to the cancellation of a trigger, and what it promises: a trigger
that is reported as cancelled has no wake that anyone may still work on.
-/
import CognitiveSidecar.TriggerFiring
import CognitiveSidecar.WakeFencing

namespace CognitiveSidecar

open Relational

inductive FutureTriggerCancellationAcknowledgement
  | queuedCancelled | effectFenced | effectUnknown | effectAlreadyCompleted
  | alreadyCancelled | notCancellable | notFound
deriving DecidableEq

/-- The trigger is reported as cancelled. -/
def FutureTriggerCancellationAcknowledgement.claimsUndone
    (acknowledgement : FutureTriggerCancellationAcknowledgement) : Bool :=
  acknowledgement = .queuedCancelled || acknowledgement = .effectFenced

section Named

variable [Host] {permit : Permit} {db after : Sidecar}

/-- Every lease is held under a token. -/
def LeasesNamed (db : Sidecar) : Prop :=
  ∀ id wake, db.wakes.get? id = some wake → wake.LeaseNamed

theorem Moved.leasesNamed (hmoved : Moved permit db after)
    (hnamed : LeasesNamed db) : LeasesNamed after := by
  intro id wake hwake
  cases hmoved with
  | shift _ hwakes =>
    obtain ⟨old, hold, hchange⟩ := hwakes.backward hwake
    exact hchange.named (hnamed id old hold)
  | admission _ _ _ hadmits _ hwakes =>
    rw [get?_insert hwakes] at hwake
    split at hwake
    · cases hwake
      exact ⟨by simp [hadmits.pending], fun _ => hadmits.unleased⟩
    · exact hnamed id wake hwake
  | append _ _ _ _ _ hwakes | lease _ _ _ _ _ _ _ _ hwakes =>
    rw [hwakes] at hwake
    exact hnamed id wake hwake

theorem Trace.leasesNamed (htrace : Trace permit db after)
    (hnamed : LeasesNamed db) : LeasesNamed after := by
  induction htrace with
  | refl => exact hnamed
  | tail _ hmoved ih => exact hmoved.leasesNamed ih

theorem Reached.leasesNamed (hreached : Reached db) : LeasesNamed db :=
  (hreached.invariant (P := fun db => Sound db ∧ LeasesNamed db)
    ⟨sound_empty, fun _ _ hwake => by cases hwake⟩ fun _ _ hkept =>
      ⟨step_sound hkept.1, (step_trace hkept.1).leasesNamed hkept.2⟩).2

end Named

section Answers

variable [Host]

/-- What the cancellation of a trigger answers, as computed from the state
before it; `aborts` says whether a thought of its cycle is aborted. -/
def cancellationAcknowledgement (db : Sidecar) (triggerId : String)
    (aborts : Bool) : FutureTriggerCancellationAcknowledgement :=
  match getFutureTrigger db triggerId with
  | none => .notFound
  | some trigger =>
    let wakeBefore := trigger.wakeId.bind (getWake db)
    let activeWork := wakeBefore.bind fun wake => db.cycles.get? wake.cycleId
    if trigger.status = .cancelled then .alreadyCancelled
    else if trigger.status = .suppressedStale ∨
        (trigger.status = .fired ∧ ¬ trigger.wakeId.any (· ≠ "")) then
      .notCancellable
    else if wakeBefore.any fun wake =>
        wake.state = .terminal && wake.terminalReason = some .completed then
      .effectAlreadyCompleted
    else if wakeBefore.any fun wake => hasAmbiguousEffect db wake.wakeId ||
        wake.state = .consequencePending || wake.state = .reconciling then
      .effectUnknown
    else if activeWork.isSome && aborts then .effectFenced
    else .queuedCancelled

/-- The Owner's form of the cancellation: its answer and the state that it
commits. -/
def cancelFutureTriggerWithOutcome (db : Sidecar) (triggerId : String)
    (nowMs : Int) (aborts : Bool) :
    Outcome (FutureTriggerCancellationAcknowledgement × Sidecar) := do
  let (_, after) ← cancelFutureTrigger db triggerId nowMs
  pure (cancellationAcknowledgement db triggerId aborts, after)

variable {db after : Sidecar} {triggerId wakeId : String} {nowMs : Int}
variable {wake : Wake}

omit [Host] in
/-- A wake that waits, or is held under its token, can be closed as cancelled
under that token. -/
theorem finishWakeInTransaction_cancels (nowMs : Int)
    (hwake : db.wakes.get? wakeId = some wake) (hnamed : wake.LeaseNamed)
    (hopen : wake.state = .pending ∨ wake.state = .claimed ∨
      wake.state = .authorized) :
    finishWakeInTransaction db wakeId wake.leaseToken .cancelled nowMs =
      .ok (db.updateWake wakeId (·.isFinishable wake.leaseToken) fun row =>
        row.closed .cancelled nowMs) ∧
      wake.isFinishable wake.leaseToken = true := by
  have hfinishable : wake.isFinishable wake.leaseToken = true := by
    unfold Wake.isFinishable
    rcases hopen with hstate | hstate | hstate
    · simp [hstate, hnamed.2 hstate]
    all_goals
      obtain ⟨_, htoken, _⟩ := (Option.any_eq_true _ _).mp
        (hnamed.1 (by simp [hstate]))
      simp [hstate, htoken]
  refine ⟨?_, hfinishable⟩
  unfold finishWakeInTransaction
  rw [getWakeRequired_ok.mpr hwake, ok_bind,
    if_neg (by rcases hopen with h | h | h <;> simp [h]),
    require_pos (by rcases hopen with h | h | h <;> simp [h]), require_pos,
    require_pos, require_pos hfinishable]
  · rfl
  · rintro ⟨_, _, hlate⟩
    cases hlate
  · intro hholds
    refine ⟨hnamed.1 ?_, rfl⟩
    unfold Wake.holdsLease at hholds
    rcases hopen with h | h | h <;> simp_all

/-- Cancelling the wake of a trigger closes it, unless its effect is in
doubt. -/
theorem cancelTriggerWake_closes (hnamed : LeasesNamed db)
    (hwake : db.wakes.get? wakeId = some wake)
    (hresolved : hasAmbiguousEffect db wakeId = false)
    (hpending : wake.state ≠ .consequencePending)
    (hreconciling : wake.state ≠ .reconciling)
    (hok : cancelTriggerWake db wakeId nowMs = .ok after) :
    after.effects = db.effects ∧ after.triggers = db.triggers ∧
      ∃ ended, after.wakes.get? wakeId = some ended ∧
        ended.state = .terminal := by
  unfold cancelTriggerWake at hok
  simp only [getWake, hwake] at hok
  by_cases hterminal : wake.state = .terminal
  · rw [if_pos hterminal] at hok
    cases of_pure hok
    exact ⟨rfl, rfl, wake, hwake, hterminal⟩
  rw [if_neg hterminal] at hok
  obtain ⟨⟨recorded, mid⟩, hrecord, hok⟩ := of_bind hok
  obtain ⟨_, hrecorded⟩ :=
    @recordWakeCancellationInTransaction_cases _ .lenient _ _ _ _ _ _ hrecord
  obtain ⟨_, hold, hstate, htoken⟩ := hrecorded.origin
  cases hwake.symm.trans hold
  have hopen : recorded.state = .pending ∨ recorded.state = .claimed ∨
      recorded.state = .authorized := by
    cases hcase : wake.state <;> simp_all
  have hnamed' : recorded.LeaseNamed := by
    unfold Wake.LeaseNamed
    rw [hstate, htoken]
    exact hnamed wakeId wake hwake
  obtain ⟨hfinish, hfinishable⟩ := finishWakeInTransaction_cancels nowMs
    hrecorded.stored hnamed' hopen
  rw [htoken] at hfinish hfinishable
  simp only [hresolved, hpending, hreconciling, hfinish, Bool.false_eq_true,
    or_self, if_false] at hok
  cases of_pure hok
  refine ⟨?_, ?_, recorded.closed .cancelled nowMs, ?_, rfl⟩
  · change mid.effects = db.effects
    rw [hrecorded.frame]
  · change mid.triggers = db.triggers
    rw [hrecorded.frame]
  · rw [Sidecar.get?_updateWake, hrecorded.stored, Option.map_some,
      if_pos ⟨rfl, hfinishable⟩]

/-- Nobody may work on the wake any more. -/
structure ClosedForGood (db : Sidecar) (wakeId : String) : Prop where
  resolved : hasAmbiguousEffect db wakeId = false
  unleased : ∀ ops workerId nowMs leaseMs token last,
    claimWake (run step db ops) wakeId workerId nowMs leaseMs ≠
      .ok (token, last)
  unbegun : ∀ ops leaseToken semanticPass nowMs chainId last,
    beginConsequenceInTransaction (run step db ops) wakeId leaseToken
      semanticPass nowMs ≠ .ok (chainId, last)
  kept : ∀ ops, (run step db ops).wakes.get? wakeId = db.wakes.get? wakeId

theorem closedForGood_of_terminal {ended : Wake} (hsound : Sound db)
    (hended : db.wakes.get? wakeId = some ended)
    (hterminal : ended.state = .terminal)
    (hresolved : hasAmbiguousEffect db wakeId = false) :
    ClosedForGood db wakeId where
  resolved := hresolved
  unleased := by
    intro ops _ _ _ _ _ hok
    have hstill := run_terminal_wake hsound hended hterminal ops
    have hok := (of_require hok).2
    unfold claimWakeInTransaction at hok
    obtain ⟨_, hcurrent, hok⟩ := of_bind hok
    cases (getWakeRequired_ok.mp hcurrent).symm.trans hstill
    exact (of_require hok).1 hterminal
  unbegun := by
    intro ops _ _ _ _ _ hok
    have hstill := run_terminal_wake hsound hended hterminal ops
    obtain ⟨_, hcurrent, ⟨hstate, _⟩ | ⟨hstate, _⟩⟩ :=
        beginConsequenceInTransaction_held hok
    · cases hcurrent.symm.trans hstill
      rw [hterminal] at hstate
      cases hstate
    · cases hcurrent.symm.trans hstill
      rw [hterminal] at hstate
      cases hstate
  kept := fun ops => (run_terminal_wake hsound hended hterminal ops).trans
    hended.symm

omit [Host] in
/-- What an answer that a trigger is cancelled says of the state before it. -/
theorem claimsUndone_spec {aborts : Bool}
    (hclaims :
      (cancellationAcknowledgement db triggerId aborts).claimsUndone = true) :
    ∃ trigger, getFutureTrigger db triggerId = some trigger ∧
      trigger.status ≠ .cancelled ∧
      ¬ (trigger.status = .suppressedStale ∨
        (trigger.status = .fired ∧ ¬ trigger.wakeId.any (· ≠ ""))) ∧
      ∀ wake, trigger.wakeId.bind (getWake db) = some wake →
        ¬ (wake.state = .terminal ∧ wake.terminalReason = some .completed) ∧
        hasAmbiguousEffect db wake.wakeId = false ∧
        wake.state ≠ .consequencePending ∧ wake.state ≠ .reconciling := by
  unfold cancellationAcknowledgement at hclaims
  cases htrigger : getFutureTrigger db triggerId with
  | none =>
    simp only [htrigger] at hclaims
    cases hclaims
  | some trigger =>
    simp only [htrigger] at hclaims
    split at hclaims
    · cases hclaims
    rename_i hcancelled
    split at hclaims
    · cases hclaims
    rename_i hclosed
    split at hclaims
    · cases hclaims
    rename_i hcompleted
    split at hclaims
    · cases hclaims
    rename_i hdoubt
    refine ⟨trigger, rfl, hcancelled, hclosed, ?_⟩
    intro _ hwake
    simp only [hwake, Option.any_some, Bool.and_eq_true, Bool.or_eq_true,
      decide_eq_true_eq, not_or, Bool.not_eq_true] at hcompleted hdoubt
    exact ⟨hcompleted, hdoubt.1.1, hdoubt.1.2, hdoubt.2⟩

/-- In every reachable state, a cancellation that answers that the trigger is
cancelled leaves it cancelled, and nobody may work on its wake any more: the
wake has no effect in doubt, was neither completed nor on its way to it, and
stays closed in every later state. -/
theorem cancellation_honest (hreached : Reached db) {aborts : Bool}
    {acknowledgement : FutureTriggerCancellationAcknowledgement}
    (hok : cancelFutureTriggerWithOutcome db triggerId nowMs aborts =
      .ok (acknowledgement, after))
    (hclaims : acknowledgement.claimsUndone = true) :
    ∃ trigger, getFutureTrigger db triggerId = some trigger ∧
      getFutureTrigger after triggerId =
        some { trigger with status := .cancelled } ∧
      ∀ wakeId wake, trigger.wakeId = some wakeId →
        db.wakes.get? wakeId = some wake →
        ¬ (wake.state = .terminal ∧ wake.terminalReason = some .completed) ∧
        wake.state ≠ .consequencePending ∧ wake.state ≠ .reconciling ∧
        ClosedForGood after wakeId := by
  obtain ⟨⟨_, _⟩, hcancel, hok⟩ := of_bind hok
  cases of_pure hok
  obtain ⟨trigger, htrigger, hcancelled, hclosed, hwakes⟩ :=
    claimsUndone_spec hclaims
  have hsound : Sound after := by
    have hstep : step (.cancelTrigger triggerId nowMs) db = after := by
      simp only [step, perform, hcancel]
      rfl
    rw [← hstep]
    exact step_sound hreached.sound
  unfold cancelFutureTrigger at hcancel
  simp only [htrigger] at hcancel
  split at hcancel
  · rename_i hended
    rcases hended with hstatus | hstatus | hstatus | hcompleted
    · exact absurd hstatus hcancelled
    · exact absurd (Or.inl hstatus) hclosed
    · exact absurd (Or.inr hstatus) hclosed
    · obtain ⟨wake, hwake, hcompleted⟩ := (Option.any_eq_true _ _).mp hcompleted
      simp only [Bool.and_eq_true, decide_eq_true_eq] at hcompleted
      exact absurd hcompleted (hwakes wake hwake).1
  generalize hmarked : updateTrigger db triggerId isTriggerCancellable _ _ =
    marked at hcancel
  have hkept : marked.wakes = db.wakes ∧ marked.effects = db.effects := by
    rw [← hmarked]
    exact ⟨rfl, rfl⟩
  have hstored : getFutureTrigger marked triggerId =
      some { trigger with status := .cancelled } := by
    have hopen : isTriggerCancellable trigger = true := by
      unfold isTriggerCancellable
      cases hstatus : trigger.status <;> simp_all
    have hid : trigger.triggerId = triggerId := key_of_get? htrigger
    rw [← hmarked]
    unfold getFutureTrigger at htrigger ⊢
    simp only [updateTrigger, get?_update, htrigger, Option.map_some, hid,
      hopen, decide_true, Bool.and_self, if_true]
  refine ⟨trigger, htrigger, ?_⟩
  rcases Option.eq_none_or_eq_some trigger.wakeId with howner | ⟨owner, howner⟩
  · simp only [howner] at hcancel
    cases of_pure hcancel
    exact ⟨hstored, fun _ _ hid => by cases howner.symm.trans hid⟩
  simp only [howner] at hcancel
  obtain ⟨_, hmid, hcancel⟩ := of_bind hcancel
  cases of_pure hcancel
  have hdoubt : hasAmbiguousEffect marked owner = hasAmbiguousEffect db owner := by
    unfold hasAmbiguousEffect getUnresolvedInFlightForWake
    rw [hkept.2]
  cases hwake : marked.wakes.get? owner with
  | none =>
    unfold cancelTriggerWake at hmid
    simp only [getWake, hwake] at hmid
    cases of_pure hmid
    refine ⟨hstored, fun _ _ hid hbefore => ?_⟩
    cases howner.symm.trans hid
    rw [← hkept.1, hwake] at hbefore
    cases hbefore
  | some wake =>
    have hbefore : db.wakes.get? owner = some wake := by
      rw [← hkept.1]
      exact hwake
    have hid : wake.wakeId = owner := key_of_get? hwake
    obtain ⟨hcompleted, hresolved, hpending, hreconciling⟩ := hwakes wake
      (by rw [howner]; exact hbefore)
    rw [hid, ← hdoubt] at hresolved
    have hnamed : LeasesNamed marked := by
      unfold LeasesNamed
      rw [hkept.1]
      exact hreached.leasesNamed
    obtain ⟨heffects, htriggers, _, hended, hterminal⟩ :=
      cancelTriggerWake_closes hnamed hwake hresolved hpending hreconciling
        hmid
    refine ⟨?_, fun _ _ hrow hstored' => ?_⟩
    · unfold getFutureTrigger at hstored ⊢
      rw [htriggers]
      exact hstored
    · cases howner.symm.trans hrow
      cases hbefore.symm.trans hstored'
      refine ⟨hcompleted, hpending, hreconciling,
        closedForGood_of_terminal hsound hended hterminal ?_⟩
      unfold hasAmbiguousEffect getUnresolvedInFlightForWake at hresolved ⊢
      rw [heffects]
      exact hresolved

end Answers

section Plain

attribute [local instance] plainHost

/-- A worker holds the wake of a matured trigger. -/
def leasedReminder : List Op :=
  [reminder "t" "c" 0, .matureTrigger "t" 1 none none 0,
    .claimWake "wake:wake-occurrence:future_triggertc" "w" 2 1000]

theorem cancellation_honest_fenced :
    ∃ after, cancelFutureTriggerWithOutcome (run step {} leasedReminder) "t" 3
        true = .ok (.effectFenced, after) ∧
      ClosedForGood after "wake:wake-occurrence:future_triggertc" := by
  have hanswer : (cancelFutureTriggerWithOutcome (run step {} leasedReminder)
      "t" 3 true).toOption.map Prod.fst = some .effectFenced := by
    decide +kernel
  cases hok : cancelFutureTriggerWithOutcome (run step {} leasedReminder) "t" 3
      true with
  | error =>
    rw [hok] at hanswer
    cases hanswer
  | ok pair =>
    obtain ⟨_, after⟩ := pair
    rw [hok] at hanswer
    cases hanswer
    obtain ⟨_, htrigger, _, hwakes⟩ :=
        cancellation_honest ⟨leasedReminder, rfl⟩ hok rfl
    have howner : (getFutureTrigger (run step {} leasedReminder) "t").bind
        (·.wakeId) = some "wake:wake-occurrence:future_triggertc" := by
      decide +kernel
    rw [htrigger] at howner
    obtain ⟨wake, hwake⟩ := Option.isSome_iff_exists.mp (show
      ((run step {} leasedReminder).wakes.get?
        "wake:wake-occurrence:future_triggertc").isSome = true by
      decide +kernel)
    exact ⟨after, rfl, (hwakes _ wake howner hwake).2.2.2⟩

end Plain

end CognitiveSidecar
