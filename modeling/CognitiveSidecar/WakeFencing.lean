/-
Wakes over whole runs: a terminal wake is final, and a lease is used only by
the caller who presents its token in time.
-/
import CognitiveSidecar.LedgerHistory
import CognitiveSidecar.System

namespace CognitiveSidecar

open Option Relational

/-- The token is the wake's current one, and its lease has not run out. -/
def Wake.IsHeldBy (wake : Wake) (leaseToken : String) (nowMs : Int) : Prop :=
  wake.leaseToken = some leaseToken ∧ wake.leaseRanOut nowMs = false

section Runs

variable [Host] {db after : Sidecar}
variable {wakeId : String} {nowMs : Int}
variable {wake : Wake} {leaseToken : String}

/-- Along a run a terminal wake keeps its row. -/
theorem run_terminal_wake {id : String} (hsound : Sound db)
    (hwake : db.wakes.get? id = some wake) (hterminal : wake.state = .terminal)
    (ops : List Op) : (run step db ops).wakes.get? id = some wake := by
  induction ops generalizing db with
  | nil => exact hwake
  | cons op _ ih =>
    have htrace : Trace (op.permit db) db (step op db) := step_trace hsound
    exact ih (step_sound hsound) (htrace.terminal_wake hwake hterminal)

omit [Host] in
theorem authorizeWakeInTransaction_held
    (hok : authorizeWakeInTransaction db wakeId leaseToken nowMs =
      .ok (wake, after)) :
    ∃ current, db.wakes.get? wakeId = some current ∧
      current.state = .claimed ∧ current.IsHeldBy leaseToken nowMs := by
  obtain ⟨current, hcurrent, hok⟩ := of_bind hok
  replace hok := passed hok
  obtain ⟨⟨hclaimed, htoken⟩, hok⟩ := of_require hok
  obtain ⟨hruns, _⟩ := of_require hok
  exact ⟨current, getWakeRequired_ok.mp hcurrent, hclaimed, htoken,
    Bool.eq_false_iff.mpr hruns⟩

omit [Host] in
theorem renewWakeLeaseInTransaction_held {input : RenewWakeLeaseInput}
    (hok : renewWakeLeaseInTransaction db input = (true, after)) :
    ∃ current, db.wakes.get? input.wakeId = some current ∧
      current.state = .authorized ∧
      current.IsHeldBy input.leaseToken input.nowMs := by
  unfold renewWakeLeaseInTransaction at hok
  split at hok
  · cases (Prod.mk.inj hok).1
  · have hrenewable := (Prod.mk.inj hok).1
    rw [any_eq_true] at hrenewable
    obtain ⟨current, hcurrent, hrenewable⟩ := hrenewable
    simp only [Wake.isRenewable, Bool.and_eq_true, decide_eq_true_eq]
      at hrenewable
    obtain ⟨⟨⟨⟨_, hauthorized⟩, _⟩, htoken⟩, _⟩ := hrenewable.1
    refine ⟨current, hcurrent, hauthorized, htoken, ?_⟩
    have hruns := hrenewable.2
    unfold Wake.leaseRuns at hruns
    unfold Wake.leaseRanOut
    cases hexpiry : current.leaseExpiresAtMs with
    | none => rfl
    | some =>
      rw [hexpiry, any_some, decide_eq_true_eq] at hruns
      rw [any_some, decide_eq_false_iff_not]
      omega

theorem beginConsequenceInTransaction_held {chainId : String}
    {semanticPass : Int}
    (hok : beginConsequenceInTransaction db wakeId leaseToken semanticPass
      nowMs = .ok (chainId, after)) :
    ∃ current, db.wakes.get? wakeId = some current ∧
      ((current.state = .consequencePending ∧
          current.consequenceChainId = some chainId ∧ after = db) ∨
        (current.state = .authorized ∧ current.IsHeldBy leaseToken nowMs)) := by
  replace hok := passed hok
  obtain ⟨current, hcurrent, hok⟩ := of_bind hok
  replace hok := passed hok
  refine ⟨current, getWakeRequired_ok.mp hcurrent, ?_⟩
  split at hok
  · rename_i hpending hchain
    obtain ⟨rfl, rfl⟩ := of_pure_pair hok
    exact .inl ⟨hpending, hchain, rfl⟩
  · replace hok := passed hok
    obtain ⟨⟨hauthorized, htoken⟩, hok⟩ := of_require hok
    obtain ⟨hruns, _⟩ := of_require hok
    exact .inr ⟨hauthorized, htoken, Bool.eq_false_iff.mpr hruns⟩

omit [Host] in
/-- Finishing as completed repeats an ending, uses a lease, or closes a wake
that is pending. -/
theorem finishWakeInTransaction_held {leaseToken : Option String}
    (hok : finishWakeInTransaction db wakeId leaseToken .completed nowMs =
      .ok after) :
    ∃ current, db.wakes.get? wakeId = some current ∧
      ((current.state = .terminal ∧ current.terminalReason = some .completed ∧
          after = db) ∨
        (∃ token, leaseToken = some token ∧ current.holdsLease = true ∧
          current.IsHeldBy token nowMs) ∨
        current.state = .pending) := by
  obtain ⟨current, hcurrent, hok⟩ := of_bind hok
  refine ⟨current, getWakeRequired_ok.mp hcurrent, ?_⟩
  by_cases hterminal : current.state = .terminal
  · rw [if_pos hterminal] at hok
    obtain ⟨hreason, hok⟩ := of_require hok
    exact .inl ⟨hterminal, hreason, (of_pure hok).symm⟩
  rw [if_neg hterminal] at hok
  right
  obtain ⟨_, hok⟩ := of_require hok
  obtain ⟨hlease, hok⟩ := of_require hok
  obtain ⟨hruns, _⟩ := of_require hok
  by_cases hholds : current.holdsLease = true
  · obtain ⟨hsome, htoken⟩ := hlease hholds
    obtain ⟨token, rfl, _⟩ := (any_eq_true _ _).mp hsome
    refine .inl ⟨token, rfl, hholds, htoken, Bool.eq_false_iff.mpr ?_⟩
    intro hranOut
    exact hruns ⟨hholds, hranOut, rfl⟩
  · unfold Wake.holdsLease at hholds
    cases hstate : current.state <;> simp_all

/-- In every reachable state a terminal wake keeps its row in every later
state; authorizing, renewing and beginning a consequence for the first time
succeed only under the current token of a lease that has not run out; and
finishing an open wake as completed does too, unless the wake is pending. -/
theorem wake_terminality_and_fencing (hreached : Reached db) :
    (∀ id wake ops, db.wakes.get? id = some wake → wake.state = .terminal →
      (run step db ops).wakes.get? id = some wake) ∧
    (∀ wakeId leaseToken nowMs wake after,
      authorizeWakeInTransaction db wakeId leaseToken nowMs =
        .ok (wake, after) →
      ∃ current, db.wakes.get? wakeId = some current ∧
        current.state = .claimed ∧ current.IsHeldBy leaseToken nowMs) ∧
    (∀ input after, renewWakeLeaseInTransaction db input = (true, after) →
      ∃ current, db.wakes.get? input.wakeId = some current ∧
        current.state = .authorized ∧
        current.IsHeldBy input.leaseToken input.nowMs) ∧
    (∀ wakeId leaseToken semanticPass nowMs chainId after,
      beginConsequenceInTransaction db wakeId leaseToken semanticPass nowMs =
        .ok (chainId, after) →
      ∃ current, db.wakes.get? wakeId = some current ∧
        ((current.state = .consequencePending ∧
            current.consequenceChainId = some chainId ∧ after = db) ∨
          (current.state = .authorized ∧
            current.IsHeldBy leaseToken nowMs))) ∧
    (∀ wakeId leaseToken nowMs after,
      finishWakeInTransaction db wakeId leaseToken .completed nowMs =
        .ok after →
      ∃ current, db.wakes.get? wakeId = some current ∧
        ((current.state = .terminal ∧
            current.terminalReason = some .completed ∧ after = db) ∨
          (∃ token, leaseToken = some token ∧ current.holdsLease = true ∧
            current.IsHeldBy token nowMs) ∨
          current.state = .pending)) := by
  refine ⟨?_, ?_, ?_, ?_, ?_⟩
  · intro _ _ ops hwake hterminal
    exact run_terminal_wake hreached.sound hwake hterminal ops
  · intro _ _ _ _ _ hok
    exact authorizeWakeInTransaction_held hok
  · intro _ _ hok
    exact renewWakeLeaseInTransaction_held hok
  · intro _ _ _ _ _ _ hok
    exact beginConsequenceInTransaction_held hok
  · intro _ _ _ _ hok
    exact finishWakeInTransaction_held hok

end Runs

section Plain

attribute [local instance] plainHost

/-- A wake that is admitted and not claimed. -/
def admittedOnly : List Op :=
  [.admitWake
    { occurrenceId := "o", triggerRef := "r", sourceKind := .inbox
      conversationId := "c", nowMs := 0 }]

/-- A wake that is claimed and finished under its token. -/
def claimedAndFinished : List Op :=
  admittedOnly ++ [.claimWake "wake:o" "w" 1 1000,
    .finishWake "wake:o" (some "wake-lease:u") .completed 2]

theorem wake_terminality_and_fencing_finished :
    ∃ wake, (run step {} claimedAndFinished).wakes.get? "wake:o" = some wake ∧
      ∀ ops, (run step (run step {} claimedAndFinished) ops).wakes.get?
        "wake:o" = some wake := by
  obtain ⟨wake, hwake⟩ : ∃ wake,
      (run step {} claimedAndFinished).wakes.get? "wake:o" = some wake :=
    Option.isSome_iff_exists.mp (by decide +kernel)
  have hstate : ((run step {} claimedAndFinished).wakes.get? "wake:o").map
      Wake.state = some .terminal := by decide +kernel
  rw [hwake] at hstate
  exact ⟨wake, hwake, fun ops => (wake_terminality_and_fencing
    ⟨claimedAndFinished, rfl⟩).1 "wake:o" wake ops hwake
      (Option.some.inj hstate)⟩

/-- A pending wake is finished as completed by a caller without a token. -/
theorem pending_wake_completed_without_token :
    ((run step {} admittedOnly).wakes.get? "wake:o").map Wake.leaseToken =
        some none ∧
      ((run step {} (admittedOnly ++
          [.finishWake "wake:o" none .completed 1])).wakes.get? "wake:o").bind
        Wake.terminalReason = some .completed := by
  decide +kernel

end Plain

end CognitiveSidecar
