/-
Runs of the private budget: its operations with their arguments, recovery as a
sequence of table changes, and what one step does under a law.
-/
import CognitiveSidecar.PrivateTraces

namespace CognitiveSidecar

open Option Relational

section Runs

variable [Host]

section Recovery

variable {law : BudgetLaw} {reached : PrivateRecoveryState} {nowMs : Int}
variable {receipts : PrivateReceipts}
variable {reservation : PrivateBudgetReservation} {input : PrivateDispatchInput}
variable {db : Sidecar}

theorem recoverPolicy_trace {policyId : String} :
    BudgetTrace law reached.2 (recoverPolicy nowMs policyId reached).2 := by
  unfold recoverPolicy
  split
  · exact .refl
  · split
    · rename_i hexpire
      exact expirePrivateReservations_trace hexpire
    · exact .refl

theorem recoverRelease_trace {proofRef : String}
    {invocationId attemptId : Option String} :
    BudgetTrace law reached.2
      (recoverRelease nowMs reached reservation proofRef invocationId
        attemptId).2 := by
  unfold recoverRelease
  split
  · rename_i hrelease
    exact releasePrivateReservation_trace hrelease
  · exact .refl

theorem recoverConserve_trace {reservationId : String}
    (hunproven : ∀ row, getPrivateReservation reached.2 reservationId =
      some row → row.state = .held → row.isProvenHeld = false) :
    BudgetTrace law reached.2
      (recoverConserve nowMs reached reservationId).2 := by
  unfold recoverConserve
  split
  · refine commit_preserves (P := fun after => BudgetTrace law reached.2 after)
      .refl ?_
    intro _ hok
    obtain ⟨_, hmark⟩ := snd_ok.mp hok
    refine markPrivateReservationUnknown_trace ?_ hmark
    intro row hrow hheld
    exact law.markedUnknown _ _ (hunproven row hrow hheld)
  · exact .refl

omit [Host] in
/-- A committed dispatch leaves its row committed and attempted. -/
theorem commitPrivateDispatch_attempted {row : PrivateBudgetReservation}
    (hopen : ∀ row, getPrivateReservation b input.reservationId = some row →
      row.state ≠ .committed)
    (hok : commitPrivateDispatch b input = .ok (reservation, after))
    (hrow : getPrivateReservation after input.reservationId = some row) :
    row.state = .committed ∧ row.dispatchTruth = .attempted := by
  obtain ⟨_, _, hok⟩ := of_bind hok
  obtain ⟨current, hcurrent, hok⟩ := of_bind hok
  have hstored : b.reservations.get? input.reservationId = some current :=
    orFault_ok.mp hcurrent
  have hid : current.reservationId = input.reservationId :=
    key_of_get? hstored
  split at hok
  · rename_i hsame
    exact absurd hsame.1 (hopen current hstored)
  obtain ⟨hstate, hok⟩ := of_require hok
  obtain ⟨hbound, hok⟩ := of_require hok
  obtain ⟨htruth, hok⟩ := of_require hok
  obtain ⟨_, _, hok⟩ := of_bind hok
  obtain ⟨_, rfl⟩ := of_pure_pair hok
  have hguard : ((current.state = .held || current.state = .reconcileRequired) &&
      (current.dispatchTruth = .notStarted || current.dispatchTruth = .unknown) &&
      current.isBoundTo input) = true := by
    have hwas : current.state = .held ∨ current.state = .reconcileRequired :=
      hstate.imp id And.left
    simp [hwas, htruth, hbound]
  unfold getPrivateReservation PrivateBudget.updateReservation at hrow
  rw [get?_update, hstored] at hrow
  simp only [hid, decide_true, hguard, Bool.and_self, if_true,
    map_some, some.injEq] at hrow
  rw [← hrow]
  exact ⟨rfl, rfl⟩

theorem recoverDispatch_trace {target : ReceiptTarget}
    (hunproven : ∀ row, getPrivateReservation reached.2 input.reservationId =
      some row → row.state ≠ .committed ∧ row.isProvenHeld = false) :
    BudgetTrace law reached.2
      (recoverDispatch nowMs reached input target).2 := by
  unfold recoverDispatch
  split
  · exact recoverConserve_trace fun row hrow _ => (hunproven row hrow).2
  · rename_i b hcommit
    have htrace : BudgetTrace law reached.2 b :=
      commitPrivateDispatch_trace (fun row hrow _ _ =>
        law.dispatched _ _ (hunproven row hrow).2) hcommit
    have hattempted {row : PrivateBudgetReservation}
        (hrow : getPrivateReservation b input.reservationId = some row) :
        row.state = .committed ∧ row.dispatchTruth = .attempted :=
      commitPrivateDispatch_attempted (fun row hrow => (hunproven row hrow).1)
        hcommit hrow
    cases target with
    | attempted => exact htrace
    | responded =>
      dsimp only
      split
      · rename_i hrespond
        refine htrace.trans (recordPrivateProviderResponse_trace ?_ hrespond)
        intro _ hrow _ _ _
        exact law.responded _ _ (hattempted hrow).2
      · refine htrace.trans
          (@recoverConserve_trace _ law (reached.1, b) nowMs _ ?_)
        intro _ hrow hheld
        rw [(hattempted hrow).1] at hheld
        cases hheld

theorem recoverReservation_trace {db : Sidecar} {receipts : PrivateReceipts}
    {reservationId : String} :
    BudgetTrace law reached.2
      (recoverReservation db receipts nowMs reservationId reached).2 := by
  unfold recoverReservation
  split
  · exact .refl
  split
  · exact .refl
  split
  · exact .refl
  rename_i reservation hreservation
  obtain ⟨hstored, hopen⟩ := filter_eq_some_iff.mp hreservation
  have hid : reservation.reservationId = reservationId :=
    key_of_get? hstored
  rw [Bool.or_eq_true, decide_eq_true_eq, decide_eq_true_eq] at hopen
  split
  · exact recoverRelease_trace
  split
  · split
    · exact .refl
    · exact recoverRelease_trace
    · exact .refl
  rename_i hunproven
  have hnot : ∀ row, getPrivateReservation reached.2
      reservation.reservationId = some row →
      row.state ≠ .committed ∧ row.isProvenHeld = false := by
    intro _ hrow
    rw [hid, hstored] at hrow
    cases hrow
    refine ⟨?_, Bool.eq_false_iff.mpr hunproven⟩
    intro hcommitted
    rcases hopen with hstate | hstate <;> rw [hstate] at hcommitted <;>
      cases hcommitted
  unfold recoverFromReceipt
  dsimp only
  split
  · exact recoverRelease_trace
  · exact recoverDispatch_trace hnot
  · exact recoverConserve_trace fun row hrow _ => (hnot row hrow).2

/-- The convergence that recovery would write for a later attempt. -/
def recoveredWrite (receipts : PrivateReceipts) (attempt : String × String)
    (b : PrivateBudget) : Option BudgetWrite :=
  ((repairBindingRow b attempt.1 attempt.2).filter fun row =>
    row.releaseProofRef = none && row.dispatchTruth ≠ .responded &&
      match receipts.ofChild row with
      | some (.dispatched _ _) => true
      | _ => false).map fun row => .repairReconciled row.reservationId

theorem recoverBinding_trace {attempt : String × String}
    (hlaw : ∀ write ∈ recoveredWrite receipts attempt reached.2,
      law.allows reached.2 write) :
    BudgetTrace law reached.2
      (recoverBinding receipts nowMs attempt reached).2 := by
  unfold recoverBinding
  dsimp only
  split
  · exact .refl
  split
  · rename_i hbinding
    replace hbinding := passed hbinding
    replace hbinding := passed hbinding
    have hrow := of_pure hbinding
    split
    · exact .refl
    split
    · split
      · rename_i hok
        exact releasePrivateRepairAttempt_trace hok
      · exact .refl
    · rename_i hreceipt
      have hreceipt := (filter_eq_some_iff.mp hreceipt).1
      split
      · rename_i hok
        refine reconcilePrivateRepairAttempt_trace ?_ hok
        intro _ hget hfree hopen
        refine hlaw _ ?_
        cases hrow.symm.trans hget
        rw [recoveredWrite, hrow]
        simp [hfree, hopen, hreceipt]
      · exact .refl
    · split
      · split
        · rename_i hok
          exact releasePrivateRepairAttempt_trace hok
        · exact .refl
      · exact .refl
  · exact .refl

/-- Every phase of recovery is a sequence of table changes. -/
theorem recoverParents_trace :
    BudgetTrace law b (recoverParents b db receipts nowMs).2 := by
  refine run_preserves
    (P := fun s : PrivateRecoveryState => BudgetTrace law b s.2) ?_ ?_ _
  · intro _ s htrace
    exact htrace.trans recoverReservation_trace
  · refine run_preserves
      (P := fun s : PrivateRecoveryState => BudgetTrace law b s.2) ?_ .refl _
    intro _ s htrace
    exact htrace.trans recoverPolicy_trace

/-- The convergences that recovery writes are all allowed. -/
def RecoveryAllowed (law : BudgetLaw) (db : Sidecar)
    (receipts : PrivateReceipts) (nowMs : Int) (b : PrivateBudget) : Prop :=
  let settled := recoverParents b db receipts nowMs
  Meets (recoverBinding receipts nowMs)
    (fun attempt reached => ∀ write ∈ recoveredWrite receipts attempt reached.2,
      law.allows reached.2 write) settled (strandedBindings settled.2)

theorem recoverPrivateBudget_trace
    (hallowed : RecoveryAllowed law db receipts nowMs b) :
    BudgetTrace law b (recoverPrivateBudget b db receipts nowMs).2 := by
  refine meets_preserves
    (P := fun s : PrivateRecoveryState => BudgetTrace law b s.2) ?_
    recoverParents_trace hallowed
  intro _ s hwrite htrace
  exact htrace.trans (recoverBinding_trace hwrite)

end Recovery

/-- An operation of the private budget with its arguments.  The wakes and
cycles an operation reads are those of the moment it runs in. -/
inductive BudgetOp
  | configure (policy : VersionedBudgetPolicy)
  | reserve (db : Sidecar) (input : PrivateAdmissionInput)
  | bindInvocation (input : PrivateDispatchInput)
  | commitDispatch (input : PrivateDispatchInput)
  | recordResponse (input : PrivateDispatchInput)
  | release (input : PrivateReleaseInput)
  | recordNoDispatchProof (input : PrivateDispatchInput) (proofRef : String)
  | markUnknown (reservationId : String) (nowMs : Int)
  | expire (policyId : String) (wallClockNowMs : Int)
  | reconcileClock (policyId : String) (wallClockNowMs : Int)
      (authorizationRef : String)
  | bindRepair (input : PrivateRepairInput)
  | bindAttempt (input : PrivateRouteInput)
  | commitRepair (input : PrivateRepairRef) (attemptId : Option String)
  | recordRepairResponse (input : PrivateRepairRef)
      (attemptId providerRequestId : Option String)
  | releaseRepair (input : PrivateRepairRef) (proofRef : String)
  | markRepairUnknown (input : PrivateRepairRef)
  | reconcileRepair (input : PrivateRepairRef) (target : ReceiptTarget)
      (providerRequestId : Option String)
  | recover (db : Sidecar) (receipts : PrivateReceipts) (nowMs : Int)

def performBudget (op : BudgetOp) (b : PrivateBudget) :
    BudgetOutcome PrivateBudget :=
  match op with
  | .configure policy => Prod.snd <$> configureBudgetPolicy b policy
  | .reserve db input => Prod.snd <$> reservePrivateThought b db input
  | .bindInvocation input =>
    Prod.snd <$> bindPrivateReservationInvocation b input
  | .commitDispatch input => Prod.snd <$> commitPrivateDispatch b input
  | .recordResponse input => Prod.snd <$> recordPrivateProviderResponse b input
  | .release input => Prod.snd <$> releasePrivateReservation b input
  | .recordNoDispatchProof input proofRef =>
    Prod.snd <$> recordPrivateReservationNoDispatchProof b input proofRef
  | .markUnknown reservationId nowMs =>
    Prod.snd <$> markPrivateReservationUnknown b reservationId nowMs
  | .expire policyId wallClockNowMs =>
    Prod.snd <$> expirePrivateReservations b policyId wallClockNowMs
  | .reconcileClock policyId wallClockNowMs authorizationRef =>
    Prod.snd <$>
      reconcilePolicyClock b policyId wallClockNowMs authorizationRef
  | .bindRepair input => Prod.snd <$> bindPrivateRepairAttempt b input
  | .bindAttempt input =>
    Prod.snd <$> bindPrivateReservationOrRepairAttempt b input
  | .commitRepair input attemptId =>
    Prod.snd <$> commitPrivateRepairDispatch b input attemptId
  | .recordRepairResponse input attemptId providerRequestId =>
    Prod.snd <$>
      recordPrivateRepairResponse b input attemptId providerRequestId
  | .releaseRepair input proofRef =>
    Prod.snd <$> releasePrivateRepairAttempt b input proofRef
  | .markRepairUnknown input =>
    Prod.snd <$> markPrivateRepairAttemptUnknown b input
  | .reconcileRepair input target providerRequestId =>
    Prod.snd <$>
      reconcilePrivateRepairAttempt b input target providerRequestId
  | .recover db receipts nowMs =>
    .ok (recoverPrivateBudget b db receipts nowMs).2

def budgetStep (op : BudgetOp) (b : PrivateBudget) : PrivateBudget :=
  commit b (performBudget op b)

/-- The dispatch write that an operation would make. -/
def BudgetOp.write (op : BudgetOp) (b : PrivateBudget) : Option BudgetWrite :=
  match op with
  | .commitDispatch input =>
    ((getPrivateReservation b input.reservationId).filter fun row =>
      (row.state = .held || (row.state = .reconcileRequired &&
        row.dispatchTruth = .unknown)) && row.isBoundTo input).map .dispatched
  | .recordResponse input =>
    ((getPrivateReservation b input.reservationId).filter fun row =>
      row.state = .committed && row.isBoundTo input &&
        row.dispatchTruth ≠ .responded).map .responded
  | .markUnknown reservationId _ =>
    ((getPrivateReservation b reservationId).filter fun row =>
      row.state = .held).map .markedUnknown
  | .commitRepair input attemptId =>
    ((repairBindingRow b input.reservationId input.invocationId).filter
      fun row => (attemptId = none || attemptId = some row.attemptId) &&
        row.dispatchTruth = .notStarted &&
        (getPrivateReservation b input.reservationId).any
          PrivateBudgetReservation.canContinue).map .repairDispatched
  | .reconcileRepair input _ _ =>
    ((repairBindingRow b input.reservationId input.invocationId).filter
      fun row => row.releaseProofRef = none &&
        row.dispatchTruth ≠ .responded).map
      fun row => .repairReconciled row.reservationId
  | _ => none

/-- The law allows what the operation writes. -/
def BudgetOp.Allowed (law : BudgetLaw) (op : BudgetOp) (b : PrivateBudget) :
    Prop :=
  (∀ write ∈ op.write b, law.allows b write) ∧
    match op with
    | .recover db receipts nowMs => RecoveryAllowed law db receipts nowMs b
    | _ => True

/-- Operations that write no dispatch. -/
def BudgetOp.isQuiet (op : BudgetOp) : Bool :=
  match op with
  | .commitDispatch _ | .recordResponse _ | .markUnknown _ _
  | .commitRepair _ _ | .reconcileRepair _ _ _ | .recover _ _ _ => false
  | _ => true

variable {law : BudgetLaw} {op : BudgetOp} {b after : PrivateBudget}

/-- Every law allows them. -/
theorem BudgetOp.allowed_of_quiet (hquiet : op.isQuiet = true) :
    op.Allowed law b := by
  have hnone : op.write b = none := by
    cases op <;> first | rfl | cases hquiet
  refine ⟨?_, ?_⟩
  · intro _ hwrite
    rw [hnone] at hwrite
    cases hwrite
  · cases op with
    | recover => cases hquiet
    | _ => trivial

/-- Apart from configuration, an allowed operation is a sequence of allowed
table changes. -/
theorem performBudget_trace (hallowed : op.Allowed law b)
    (hop : ∀ policy, op ≠ .configure policy)
    (hok : performBudget op b = .ok after) : BudgetTrace law b after := by
  obtain ⟨hwrite, hrecovery⟩ := hallowed
  cases op with
  | configure policy => exact absurd rfl (hop policy)
  | reserve =>
    obtain ⟨_, hok⟩ := snd_ok.mp hok
    exact reservePrivateThought_trace hok
  | bindInvocation =>
    obtain ⟨_, hok⟩ := snd_ok.mp hok
    exact bindPrivateReservationInvocation_trace hok
  | commitDispatch =>
    obtain ⟨_, hok⟩ := snd_ok.mp hok
    refine commitPrivateDispatch_trace ?_ hok
    intro _ hrow hstate hbound
    refine hwrite _ ?_
    rw [BudgetOp.write, hrow]
    simp [hstate, hbound]
  | recordResponse =>
    obtain ⟨_, hok⟩ := snd_ok.mp hok
    refine recordPrivateProviderResponse_trace ?_ hok
    intro _ hrow hstate hbound hopen
    refine hwrite _ ?_
    rw [BudgetOp.write, hrow]
    simp [hstate, hbound, hopen]
  | release =>
    obtain ⟨_, hok⟩ := snd_ok.mp hok
    exact releasePrivateReservation_trace hok
  | recordNoDispatchProof =>
    obtain ⟨_, hok⟩ := snd_ok.mp hok
    exact recordPrivateReservationNoDispatchProof_trace hok
  | markUnknown =>
    obtain ⟨_, hok⟩ := snd_ok.mp hok
    refine markPrivateReservationUnknown_trace ?_ hok
    intro _ hrow hheld
    refine hwrite _ ?_
    rw [BudgetOp.write, hrow]
    simp [hheld]
  | expire =>
    obtain ⟨_, hok⟩ := snd_ok.mp hok
    exact expirePrivateReservations_trace hok
  | reconcileClock =>
    obtain ⟨_, hok⟩ := snd_ok.mp hok
    exact reconcilePolicyClock_trace hok
  | bindRepair =>
    obtain ⟨_, hok⟩ := snd_ok.mp hok
    exact bindPrivateRepairAttempt_trace hok
  | bindAttempt =>
    obtain ⟨_, hok⟩ := snd_ok.mp hok
    exact bindPrivateReservationOrRepairAttempt_trace hok
  | commitRepair =>
    obtain ⟨_, hok⟩ := snd_ok.mp hok
    refine commitPrivateRepairDispatch_trace ?_ hok
    intro _ hrow hattempt hstarted hcontinue
    refine hwrite _ ?_
    rw [BudgetOp.write, hrow]
    simp [hattempt, hstarted, hcontinue]
  | recordRepairResponse =>
    obtain ⟨_, hok⟩ := snd_ok.mp hok
    exact recordPrivateRepairResponse_trace hok
  | releaseRepair =>
    obtain ⟨_, hok⟩ := snd_ok.mp hok
    exact releasePrivateRepairAttempt_trace hok
  | markRepairUnknown =>
    obtain ⟨_, hok⟩ := snd_ok.mp hok
    exact markPrivateRepairAttemptUnknown_trace hok
  | reconcileRepair =>
    obtain ⟨_, hok⟩ := snd_ok.mp hok
    refine reconcilePrivateRepairAttempt_trace ?_ hok
    intro _ hrow hproof hopen
    refine hwrite _ ?_
    rw [BudgetOp.write, hrow]
    simp [hproof, hopen]
  | recover =>
    cases hok
    exact recoverPrivateBudget_trace hrecovery

/-- Configuration stores policies only. -/
theorem configureBudgetPolicy_policies {policy : VersionedBudgetPolicy}
    {configured : BudgetPolicySnapshot}
    (hok : configureBudgetPolicy b policy = .ok (configured, after)) :
    ∃ policies, after = { b with policies } := by
  obtain ⟨_, _, hok⟩ := of_bind hok
  replace hok := passed hok
  dsimp only at hok
  split at hok
  · obtain ⟨_, _, hok⟩ := of_bind hok
    obtain ⟨_, rfl⟩ := of_pure_pair hok
    exact ⟨b.policies, rfl⟩
  · replace hok := passed hok
    replace hok := passed hok
    obtain ⟨policies, _, hok⟩ := of_orFault hok
    obtain ⟨_, rfl⟩ := of_pure_pair hok
    exact ⟨policies, rfl⟩

/-- An allowed step changes the policies only, or the other tables by a
sequence of allowed changes. -/
theorem budgetStep_cases (hallowed : op.Allowed law b) :
    (∃ policies, budgetStep op b = { b with policies }) ∨
      BudgetTrace law b (budgetStep op b) := by
  unfold budgetStep
  cases hperform : performBudget op b with
  | error => exact .inr .refl
  | ok =>
    by_cases hop : ∃ policy, op = .configure policy
    · obtain ⟨_, rfl⟩ := hop
      obtain ⟨_, hok⟩ := snd_ok.mp hperform
      exact .inl (configureBudgetPolicy_policies hok)
    · refine .inr (performBudget_trace hallowed ?_ hperform)
      intro policy heq
      exact hop ⟨policy, heq⟩

end Runs

/-- A sidecar whose one wake is claimed, to reserve under. -/
def claimedWake : Sidecar where
  wakes :=
    { rows :=
        [{ wakeId := "w", occurrenceId := "o", triggerRef := "r"
           sourceKind := .idle, conversationId := "c", cycleId := "k"
           state := .claimed, terminalReason := none
           capturedTriggerGeneration := none, capturedAuthorityRevision := 0
           consequenceChainId := none, leaseOwner := none, leaseToken := none
           leaseExpiresAtMs := none, cancellationId := none
           createdAtMs := 0, updatedAtMs := 0 }]
      keys_nodup := by simp }

end CognitiveSidecar
