/-
What a publication does to the tables: the ways in which the call leaves its
transaction, and the rows that an accepted settlement writes together.
-/
import CognitiveSidecar.LedgerHistory
import CognitiveSidecar.Publication
import CognitiveSidecar.TriggerMoves

namespace CognitiveSidecar

open List Relational

/-- The tables after the call. -/
def PublicationExit.state (db : PublicationDb) : PublicationExit → PublicationDb
  | .committed _ after => after
  | .rolledBack _ => db
  | .thrown _ => db

/-- The answer of the call; a thrown fault has none. -/
def PublicationExit.result? : PublicationExit → Option PublicationResult
  | .committed result _ => some result
  | .rolledBack result => some result
  | .thrown _ => none

/-- The exits that roll back, without a publication. -/
inductive PublicationExit.Undone : PublicationExit → Prop
  | refused (reason : PublicationRejectionReason) : Undone (refused reason)
  | thrown (fault : MindFault) : Undone (.thrown fault)

theorem MindFault.exit_undone (fault : MindFault) : fault.exit.Undone := by
  cases fault <;> first | exact .refused _ | exact .thrown _

variable {exit : PublicationExit}

theorem orThrow_error {α : Type} {outcome : Minded α}
    (herror : orThrow outcome = .error exit) : exit.Undone := by
  cases outcome with
  | ok => cases herror
  | error fault =>
    cases herror
    exact fault.exit_undone

theorem orThrow_ok {α : Type} {outcome : Minded α} {value : α} :
    orThrow outcome = .ok value ↔ outcome = .ok value := by
  cases outcome <;> simp [orThrow]

theorem ofKernel_ok {α : Type} {outcome : Outcome α} {value : α} :
    ofKernel outcome = .ok value ↔ outcome = .ok value := by
  cases outcome <;> simp [ofKernel]

variable {options : PublicationOptions}

theorem requireAuthority_error (herror : requireAuthority options = .error exit) :
    exit.Undone := by
  unfold requireAuthority at herror
  split at herror
  · cases herror
  · cases herror
    exact .refused _

theorem requireAuthority_ok :
    requireAuthority options = .ok () ↔ authorityFenceReason options = none := by
  unfold requireAuthority
  cases authorityFenceReason options <;> simp [pure, Except.pure]

variable {settlement : PublishedSettlement}

theorem publishableWake_error {db : Sidecar}
    (herror : publishableWake db settlement options = .error exit) :
    exit.Undone := by
  rcases orFault_bind_error.mp herror with ⟨_, rfl⟩ | ⟨_, _, herror⟩
  · exact .refused _
  rcases require_bind_error.mp herror with ⟨_, rfl⟩ | ⟨_, herror⟩
  · exact .refused _
  rcases require_bind_error.mp herror with ⟨_, rfl⟩ | ⟨_, herror⟩
  · exact .refused _
  rcases require_bind_error.mp herror with ⟨_, rfl⟩ | ⟨_, herror⟩
  · exact .refused _
  · cases herror

/-- The wake that a publication goes through is that of the cycle, and open. -/
theorem publishableWake_ok {db : Sidecar} {wake : Wake}
    (hok : publishableWake db settlement options = .ok wake) :
    getWakeForCycle db settlement.cycleId = some wake ∧
      wake.state ≠ .terminal ∧ wake.state ≠ .reconciling := by
  obtain ⟨_, hfound, hok⟩ := of_orFault hok
  replace hok := passed hok
  obtain ⟨hterminal, hok⟩ := of_require hok
  obtain ⟨hreconciling, hok⟩ := of_require hok
  cases of_pure hok
  exact ⟨hfound, hterminal, hreconciling⟩

theorem requireOwnerAnswerHold_error {db : Sidecar}
    (herror : requireOwnerAnswerHold db options = .error exit) :
    exit.Undone := by
  unfold requireOwnerAnswerHold at herror
  split at herror
  · cases herror
  · rcases bind_error.mp herror with herror | ⟨_, _, herror⟩
    · exact orThrow_error herror
    · unfold require at herror
      split at herror
      · cases herror
      · cases herror
        exact .refused _

variable {db : PublicationDb}

theorem requireSources_error
    (herror : requireSources db settlement options = .error exit) :
    exit.Undone := by
  rcases bind_error.mp herror with hcurrent | ⟨_, _, herror⟩
  · unfold requireCurrentSources at hcurrent
    split at hcurrent
    · cases hcurrent
    · split at hcurrent
      · cases hcurrent
      · cases hcurrent
        exact .refused _
      · cases hcurrent
        exact MindFault.exit_undone _
  · rcases require_bind_error.mp herror with ⟨_, rfl⟩ | ⟨_, herror⟩
    · exact .refused _
    · split at herror
      · cases herror
      · cases herror
        exact .refused _

/-- What a publication promises: no wake is admitted and no event resumed. -/
def publicationPermit : Permit where
  tidy := False
  orderly := False
  resumes := fun _ => False
  admits := fun _ => False

variable [Host]
variable {wakeId : String}
variable {sidecar : Sidecar} {nowMs : Int} {after begun : PublicationDb}
variable {conversationId : String} {intent : Option DeliveryIntent}

/-- What the transaction may have done before it writes its own rows. -/
structure PreparedFrom (before after : PublicationDb) : Prop where
  trace : Trace publicationPermit before.sidecar after.sidecar
  settlements : after.settlements = before.settlements
  aftermath : after.aftermath = before.aftermath
  ledger : before.causalLedger <+: after.causalLedger

theorem PreparedFrom.refl (db : PublicationDb) : PreparedFrom db db :=
  ⟨.refl _, rfl, rfl, prefix_refl _⟩

theorem PreparedFrom.trans {first second third : PublicationDb}
    (hfirst : PreparedFrom first second) (hsecond : PreparedFrom second third) :
    PreparedFrom first third where
  trace := hfirst.trace.trans hsecond.trace
  settlements := hsecond.settlements.trans hfirst.settlements
  aftermath := hsecond.aftermath.trans hfirst.aftermath
  ledger := hfirst.ledger.trans hsecond.ledger

theorem PreparedFrom.ofTrace
    (htrace : Trace publicationPermit db.sidecar sidecar) :
    PreparedFrom db { db with sidecar } :=
  ⟨htrace, rfl, rfl, prefix_refl _⟩

theorem PreparedFrom.ofMind {mind : Mind} :
    PreparedFrom db { db with mind } :=
  ⟨.refl _, rfl, rfl, prefix_refl _⟩

/-- What one delta prepares, a list of deltas prepares. -/
theorem preparedFrom_foldl {ι : Type} {f : PublicationDb → ι → PublicationDb}
    (hstep : ∀ db item, PreparedFrom db (f db item)) (db : PublicationDb)
    (items : List ι) : PreparedFrom db (items.foldl f db) := by
  induction items generalizing db with
  | nil => exact .refl db
  | cons item _ ih => exact (hstep db item).trans (ih (f db item))

theorem applyFutureTriggerDelta_prepared {delta : FutureTriggerDelta}
    (hok : applyFutureTriggerDelta nowMs db delta = .ok after) :
    PreparedFrom db after := by
  cases delta with
  | cancel =>
    obtain ⟨⟨_, _⟩, hcancel, hok⟩ := of_bind hok
    cases of_pure hok
    refine .ofTrace (cancelFutureTrigger_trace (ofKernel_ok.mp hcancel) ?_)
    intro _ _
    exact ⟨False.elim, False.elim⟩
  | create =>
    obtain ⟨_, _, hok⟩ := of_orFault hok
    replace hok := passed hok
    replace hok := passed hok
    cases of_pure hok
    exact .ofTrace (Moved.trace (.aside (Nat.le_refl _) rfl rfl rfl rfl))

theorem markFutureTriggerNeedsReview_prepared (db : PublicationDb)
    (triggerId : String) (nowMs : Int) :
    PreparedFrom db (markFutureTriggerNeedsReview db triggerId nowMs) := by
  unfold markFutureTriggerNeedsReview
  split
  · exact .refl db
  · exact ⟨updateTrigger_moved.trace, rfl, rfl, prefix_append _ _⟩

theorem markUnreaffirmedFutureTriggers_prepared (db : PublicationDb)
    (settlement : PublishedSettlement) (nowMs : Int) :
    PreparedFrom db (markUnreaffirmedFutureTriggers db settlement nowMs) := by
  refine preparedFrom_foldl ?_ db _
  intro db _
  refine preparedFrom_foldl ?_ db _
  intro db triggerId
  exact markFutureTriggerNeedsReview_prepared db triggerId nowMs

theorem applySemanticDeltas_prepared {reads : MindReads}
    (hok : applySemanticDeltas reads db settlement conversationId options =
      .ok after) : PreparedFrom db after := by
  obtain ⟨_, _, hok⟩ := of_bind hok
  obtain ⟨triggered, htriggers, hok⟩ := of_bind hok
  obtain ⟨_, _, hok⟩ := of_bind hok
  obtain ⟨_, _, hok⟩ := of_bind hok
  cases of_pure hok
  have htriggered : PreparedFrom db triggered := by
    refine eachOf_preserves (P := PreparedFrom db) ?_ htriggers .ofMind
    intro _ _ _ hstep hmid
    exact hmid.trans (applyFutureTriggerDelta_prepared hstep)
  exact (htriggered.trans
    (markUnreaffirmedFutureTriggers_prepared _ settlement _)).trans .ofMind

theorem requireSources_prepared
    (hok : requireSources db settlement options = .ok after) :
    PreparedFrom db after := by
  obtain ⟨current, hcurrent, hok⟩ := of_bind hok
  replace hok := passed hok
  have hprepared : PreparedFrom db current := by
    unfold requireCurrentSources at hcurrent
    split at hcurrent
    · cases of_pure hcurrent
      exact .refl db
    · split at hcurrent
      · cases of_pure hcurrent
        exact .ofMind
      · cases hcurrent
      · cases hcurrent
  split at hok
  · cases of_pure hok
    exact hprepared
  · cases hok

/-- Beginning a consequence writes its wake, and only from an authorization. -/
theorem beginConsequenceInTransaction_writes {db after : Sidecar}
    {leaseToken chainId : String} {semanticPass : Int}
    (hok : beginConsequenceInTransaction db wakeId leaseToken semanticPass
      nowMs = .ok (chainId, after)) :
    after = db ∨
      (∃ wake, db.wakes.get? wakeId = some wake ∧ wake.state = .authorized ∧
        wake.leaseToken = some leaseToken ∧ after.cycles = db.cycles ∧
        after.events = db.events) := by
  replace hok := passed hok
  obtain ⟨current, hcurrent, hok⟩ := of_bind hok
  replace hok := passed hok
  split at hok
  · obtain ⟨rfl, rfl⟩ := of_pure_pair hok
    exact .inl rfl
  · replace hok := passed hok
    obtain ⟨⟨hauthorized, htoken⟩, hok⟩ := of_require hok
    replace hok := passed hok
    replace hok := passed hok
    obtain ⟨rfl, rfl⟩ := of_pure_pair hok
    exact .inr ⟨current, getWakeRequired_ok.mp hcurrent, hauthorized, htoken,
      rfl, rfl⟩

/-- What opening the consequence leaves. -/
theorem openConsequence_cases
    (hok : openConsequence db wakeId options = .ok (intent, begun)) :
    begun = db ∨
      ∃ sidecar wake, begun = { db with sidecar } ∧
        Trace publicationPermit db.sidecar sidecar ∧
        sidecar.cycles = db.sidecar.cycles ∧
        sidecar.events = db.sidecar.events ∧
        db.sidecar.wakes.get? wakeId = some wake ∧
        wake.state = .authorized ∧ wake.leaseToken = options.wakeLeaseToken := by
  replace hok := passed hok
  obtain ⟨_, _, hok⟩ := of_orFault hok
  replace hok := passed hok
  split at hok
  · rename_i htoken
    split at hok
    · obtain ⟨⟨_, sidecar⟩, hbegun, hok⟩ := of_bind hok
      obtain ⟨rfl, rfl⟩ := of_pure_pair hok
      have hbegun := ofKernel_ok.mp (orThrow_ok.mp hbegun)
      rcases beginConsequenceInTransaction_writes hbegun with
        rfl | ⟨wake, hwake, hauthorized, hheld, hcycles, hevents⟩
      · exact .inl rfl
      · refine .inr ⟨sidecar, wake, rfl,
          beginConsequenceInTransaction_trace hbegun, hcycles, hevents, hwake,
          hauthorized, ?_⟩
        rw [hheld, (Option.filter_eq_some_iff.mp htoken).1]
    · obtain ⟨rfl, rfl⟩ := of_pure_pair hok
      exact .inl rfl
  · replace hok := passed hok
    obtain ⟨rfl, rfl⟩ := of_pure_pair hok
    exact .inl rfl

theorem openConsequence_error
    (herror : openConsequence db wakeId options = .error exit) :
    exit.Undone := by
  rcases require_bind_error.mp herror with ⟨_, rfl⟩ | ⟨_, herror⟩
  · exact .refused _
  rcases orFault_bind_error.mp herror with ⟨_, rfl⟩ | ⟨_, _, herror⟩
  · exact .refused _
  rcases require_bind_error.mp herror with ⟨_, rfl⟩ | ⟨_, herror⟩
  · exact .refused _
  split at herror
  · split at herror
    · rcases bind_error.mp herror with herror | ⟨_, _, herror⟩
      · exact orThrow_error herror
      · cases herror
    · cases herror
  · rcases require_bind_error.mp herror with ⟨_, rfl⟩ | ⟨_, herror⟩
    · exact .refused _
    · cases herror

theorem openConsequence_prepared
    (hok : openConsequence db wakeId options = .ok (intent, begun)) :
    PreparedFrom db begun := by
  rcases openConsequence_cases hok with rfl | ⟨_, _, rfl, htrace, _⟩
  · exact .refl _
  · exact .ofTrace htrace

omit [Host] in
/-- The fence reads neither the wakes nor what a consequence writes. -/
theorem publicationFence_congr (hcycles : sidecar.cycles = db.sidecar.cycles)
    (hevents : sidecar.events = db.sidecar.events) :
    publicationFence { db with sidecar } settlement conversationId options =
      publicationFence db settlement conversationId options := by
  unfold publicationFence isExactCycle currentGeneration
    activeThoughtMayFinishWhileDetachedCompletionQueued
  simp only [hcycles, hevents]

end CognitiveSidecar
