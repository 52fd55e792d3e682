/-
Every private-budget operation as a sequence of table changes, under the law
that its own dispatch write obeys.
-/
import CognitiveSidecar.PrivateMoves

namespace CognitiveSidecar

open List Relational

variable [Host]

section Policies

variable {b after : PrivateBudget}
variable {policyId : String}
variable {policy : BudgetPolicySnapshot}

theorem resolveBudgetPolicy_congr (hpolicies : after.policies = b.policies)
    (policyId : String) (fingerprint : Option String) :
    resolveBudgetPolicy after policyId fingerprint =
      resolveBudgetPolicy b policyId fingerprint := by
  unfold resolveBudgetPolicy
  rw [hpolicies]

theorem reservationBudgetPolicy_congr (hpolicies : after.policies = b.policies)
    (row : PrivateBudgetReservation) :
    reservationBudgetPolicy after row = reservationBudgetPolicy b row := by
  unfold reservationBudgetPolicy
  simp only [resolveBudgetPolicy_congr hpolicies]

/-- Reading a stored policy returns its own columns. -/
theorem snapshot_ok {row : BudgetPolicyRow} (hok : snapshot row = .ok policy) :
    policy.toVersionedBudgetPolicy = row.toVersionedBudgetPolicy ∧
      policy.fingerprint = row.fingerprint := by
  obtain ⟨_, hread, hok⟩ := of_bind hok
  obtain ⟨hfingerprint, hok⟩ := of_require hok
  cases of_pure hok
  refine ⟨?_, hfingerprint⟩
  unfold validate at hread
  split at hread
  · cases hread
    rfl
  · cases hread

/-- The current policy is a stored row that is marked current. -/
theorem resolveBudgetPolicy_current
    (hok : resolveBudgetPolicy b policyId = .ok policy) :
    ∃ row ∈ b.policies.rows, row.policyId = policyId ∧ row.isCurrent = true ∧
      snapshot row = .ok policy := by
  obtain ⟨row, hrow, hok⟩ := of_orFault hok
  have hfound := List.find?_some hrow
  rw [Bool.and_eq_true, decide_eq_true_eq] at hfound
  exact ⟨row, mem_of_find?_eq_some hrow, hfound.1, hfound.2, hok⟩

/-- The rows that a window counts. -/
theorem mem_activeBudgetRows {policyTimeMs : Int}
    {active : List PrivateBudgetReservation}
    (hok : activeBudgetRows b policyId policyTimeMs = .ok active)
    {row : PrivateBudgetReservation} :
    row ∈ active ↔ row ∈ b.reservations.rows ∧ row.policyId = policyId ∧
      row.isConsuming = true ∧ ∃ policy,
        reservationBudgetPolicy b row = .ok policy ∧
          policyTimeMs - policy.windowMs < row.policyTimeMs := by
  rw [mem_filterOk hok, mem_filter, Bool.and_eq_true, bind_ok, and_assoc, and_assoc]
  simp only [pure_ok, decide_eq_true_eq]

omit [Host] in
/-- Rewriting one clock to a later time moves no clock back. -/
theorem forward_update {policyId : String} {clock : PolicyClock}
    {f : PolicyClock → PolicyClock} {hkey : ∀ row, key (f row) = key row}
    (hclock : b.clocks.get? policyId = some clock)
    (hlater : clock.lastPolicyNowMs ≤ (f clock).lastPolicyNowMs) (id : String)
    (row : PolicyClock) (hrow : b.clocks.get? id = some row) :
    ∃ later,
      (b.clocks.update (fun row => row.policyId = policyId) f hkey).get? id =
        some later ∧ row.lastPolicyNowMs ≤ later.lastPolicyNowMs := by
  rw [get?_update, hrow]
  by_cases hsame : row.policyId = policyId
  · have hid : row.policyId = id := key_of_get? hrow
    rw [← hid, hsame, hclock] at hrow
    cases hrow
    simpa [hsame] using hlater
  · simp [hsame]

/-- Advancing the clock of a policy moves that clock forward and nothing
else. -/
theorem advancePolicyClock_ok {wallClockNowMs : Int}
    {fingerprint : Option String} {time : PolicyTime}
    (hok : advancePolicyClock b policyId wallClockNowMs fingerprint =
      .ok (time, after)) :
    ∃ clocks, after = { b with clocks } ∧
      (∀ id clock, b.clocks.get? id = some clock →
        ∃ later, clocks.get? id = some later ∧
          clock.lastPolicyNowMs ≤ later.lastPolicyNowMs) ∧
      ∃ clock, clocks.get? policyId = some clock ∧
        clock.lastPolicyNowMs = time.policyTimeMs := by
  replace hok := passed hok
  replace hok := passed hok
  obtain ⟨clock, hclock, hok⟩ := of_orFault hok
  obtain ⟨_, _, hok⟩ := of_bind hok
  obtain ⟨rfl, rfl⟩ := of_pure_pair hok
  have hid : clock.policyId = policyId := key_of_get? hclock
  refine ⟨_, rfl, forward_update hclock (Int.le_max_left _ _), ?_⟩
  rw [get?_update, hclock]
  simp [hid]

end Policies

section Expiry

variable {law : BudgetLaw} {b mid after : PrivateBudget}
variable {policyTimeMs : Int}

/-- Expiry leaves the policies and clocks, and no row starts to consume. -/
structure Expires (b after : PrivateBudget) : Prop where
  policies : after.policies = b.policies
  clocks : after.clocks = b.clocks
  uuidsDrawn : after.uuidsDrawn = b.uuidsDrawn
  consuming : ∀ row ∈ after.reservations.rows, row.isConsuming = true →
    row ∈ b.reservations.rows

omit [Host] in
theorem Expires.refl (b : PrivateBudget) : Expires b b :=
  ⟨rfl, rfl, rfl, fun _ hrow _ => hrow⟩

omit [Host] in
theorem Expires.trans (hfirst : Expires b mid) (hsecond : Expires mid after) :
    Expires b after where
  policies := hsecond.policies.trans hfirst.policies
  clocks := hsecond.clocks.trans hfirst.clocks
  uuidsDrawn := hsecond.uuidsDrawn.trans hfirst.uuidsDrawn
  consuming := fun row hrow hconsuming =>
    hfirst.consuming row (hsecond.consuming row hrow hconsuming) hconsuming

/-- One row of the expiry loop, and what it leaves of the other rows. -/
theorem expireReservation_ok (law : BudgetLaw)
    {counted counted' : Nat × PrivateBudget} {row : PrivateBudgetReservation}
    (hrow : row ∈ counted.2.reservations.rows)
    (hconsuming : row.isConsuming = true)
    (hclock : ∃ clock, counted.2.clocks.get? row.policyId = some clock ∧
      clock.lastPolicyNowMs = policyTimeMs)
    (hok : expireReservation policyTimeMs counted row = .ok counted') :
    BudgetTrace law counted.2 counted'.2 ∧ Expires counted.2 counted'.2 ∧
      ∀ other ∈ counted.2.reservations.rows,
        other.reservationId ≠ row.reservationId →
        other ∈ counted'.2.reservations.rows := by
  obtain ⟨policy, hpolicy, hok⟩ := of_bind hok
  split at hok
  · rename_i hgone
    cases of_pure hok
    refine ⟨?_, ⟨rfl, rfl, rfl, ?_⟩, ?_⟩
    · refine updateReservation_trace ?_
      intro _ hstored _
      have hsame := get?_key hrow
      cases hstored.symm.trans hsame
      obtain ⟨clock, hget, hlast⟩ := hclock
      refine .expired hconsuming ⟨policy, clock, hpolicy, hget, ?_⟩ policyTimeMs
      rw [hlast]
      exact hgone
    · intro _ hnew hstill
      simp only [PrivateBudget.updateReservation, Table.update,
        mem_map] at hnew
      obtain ⟨_, hold, heq⟩ := hnew
      split at heq
      · rw [← heq] at hstill
        cases hstill
      · rw [← heq]
        exact hold
    · intro other hother hne
      simp only [PrivateBudget.updateReservation, Table.update, mem_map]
      refine ⟨other, hother, ?_⟩
      simp [hne]
  · cases of_pure hok
    exact ⟨.refl, .refl _, fun _ hother _ => hother⟩

/-- The expiry loop, by induction on the rows that remain: they are still
stored, since each turn rewrites its own row only. -/
theorem expireRows_ok (law : BudgetLaw) {policyId : String} {policyTimeMs : Int}
    {counted counted' : Nat × PrivateBudget}
    {rows : List PrivateBudgetReservation}
    (hclock : ∃ clock, counted.2.clocks.get? policyId = some clock ∧
      clock.lastPolicyNowMs = policyTimeMs)
    (hrows : ∀ row ∈ rows, row ∈ counted.2.reservations.rows ∧
      row.policyId = policyId ∧ row.isConsuming = true)
    (hnodup : (rows.map PrivateBudgetReservation.reservationId).Nodup)
    (hok : eachOf (expireReservation policyTimeMs) counted rows =
      .ok counted') :
    BudgetTrace law counted.2 counted'.2 ∧ Expires counted.2 counted'.2 := by
  induction rows generalizing counted with
  | nil =>
    cases hok
    exact ⟨.refl, .refl _⟩
  | cons row _ ih =>
    obtain ⟨_, hhead, htail⟩ := of_bind hok
    obtain ⟨hrow, hpolicy, hconsuming⟩ := hrows row mem_cons_self
    rw [map_cons, nodup_cons] at hnodup
    obtain ⟨htrace, hexpires, hothers⟩ := expireReservation_ok law
      hrow hconsuming (by rw [hpolicy]; exact hclock) hhead
    have hrest := ih (by rw [hexpires.clocks]; exact hclock) ?_ hnodup.2 htail
    · exact ⟨htrace.trans hrest.1, hexpires.trans hrest.2⟩
    · intro other hother
      obtain ⟨hstored, hsame, hstill⟩ :=
        hrows other (mem_cons_of_mem _ hother)
      refine ⟨hothers other hstored ?_, hsame, hstill⟩
      intro heq
      exact hnodup.1 (heq ▸ mem_map_of_mem hother)

theorem expireInTransaction_ok (law : BudgetLaw) {policyId : String}
    {expired : Nat}
    (hclock : ∃ clock, b.clocks.get? policyId = some clock ∧
      clock.lastPolicyNowMs = policyTimeMs)
    (hok : expireInTransaction b policyId policyTimeMs = .ok (expired, after)) :
    BudgetTrace law b after ∧ Expires b after := by
  refine @expireRows_ok _ law policyId policyTimeMs (0, b) (expired, after) _
    hclock ?_ ?_ hok
  · intro _ hrow
    rw [mem_filter, Bool.and_eq_true, decide_eq_true_eq] at hrow
    exact hrow
  · exact b.reservations.keys_nodup.sublist
      (filter_sublist.map PrivateBudgetReservation.reservationId)

end Expiry

section Reservations

variable {law : BudgetLaw} {b after : PrivateBudget}
variable {input : PrivateDispatchInput} {reservation : PrivateBudgetReservation}
variable {admission : PrivateBudgetAdmission} {policyId : String}
variable {wallClockNowMs : Int}

theorem reserveAgainstClock_trace {policy : BudgetPolicySnapshot}
    {input : PrivateAdmissionInput}
    (hpolicy : resolveBudgetPolicy b input.policyId = .ok policy)
    (hok : reserveAgainstClock b policy input = .ok (admission, after)) :
    BudgetTrace law b after := by
  obtain ⟨⟨_, mid⟩, hadvance, hok⟩ := of_bind hok
  obtain ⟨clocks, rfl, hforward, hclock⟩ := advancePolicyClock_ok hadvance
  have hclocks : BudgetTrace law b { b with clocks } :=
    .single (.clocks clocks hforward)
  dsimp only at hok
  split at hok
  · obtain ⟨_, rfl⟩ := of_pure_pair hok
    exact hclocks
  obtain ⟨_, hcurrent, hok⟩ := of_bind hok
  obtain ⟨⟨_, mid⟩, hexpire, hok⟩ := of_bind hok
  obtain ⟨htrace, hexpires⟩ := expireInTransaction_ok law hclock hexpire
  obtain ⟨used, hused, hok⟩ := of_bind hok
  split at hok
  · obtain ⟨_, rfl⟩ := of_pure_pair hok
    exact hclocks.trans htrace
  rename_i hroom
  obtain ⟨reservations, hinsert, hok⟩ := of_orFault hok
  obtain ⟨_, rfl⟩ := of_pure_pair hok
  refine (hclocks.trans htrace).tail
    (.reserved _ policy used ?_ reservations hinsert)
  obtain ⟨_, hactive, hall⟩ := of_bind hcurrent
  have hsame : mid.policies = b.policies := hexpires.policies
  refine
    { identity := rfl, state := rfl, dispatchTruth := rfl, invocationId := rfl
      releaseProofRef := rfl, fingerprint := rfl, counts := hused
      resolved := ?_, counted := ?_, current := ?_, room := ?_ }
  · rw [resolveBudgetPolicy_congr hsame]
    exact hpolicy
  · rw [hexpires.clocks]
    exact hclock
  · -- a row that still counts was counted before the expiry
    intro other hother
    obtain ⟨hstored, hid, hconsuming, bound, hbound, hin⟩ :=
      (mem_activeBudgetRows hused).mp hother
    refine require_ok.mp hall other ((mem_activeBudgetRows hactive).mpr
      ⟨hexpires.consuming other hstored hconsuming, ?_, hconsuming, bound, ?_,
        hin⟩)
    · obtain ⟨_, _, hrow, _, hread⟩ := resolveBudgetPolicy_current hpolicy
      have hcolumns := (snapshot_ok hread).1
      rw [hid, ← hrow, ← congrArg VersionedBudgetPolicy.policyId hcolumns]
    · rw [← hbound, reservationBudgetPolicy_congr hexpires.policies]
  · exact Int.not_le.mp hroom

theorem reservePrivateThought_trace {db : Sidecar}
    {input : PrivateAdmissionInput}
    (hok : reservePrivateThought b db input = .ok (admission, after)) :
    BudgetTrace law b after := by
  obtain ⟨_, _, hok⟩ := of_bind hok
  obtain ⟨_, hpolicy, hok⟩ := of_bind hok
  split at hok
  · replace hok := passed hok
    obtain ⟨_, _, hok⟩ := of_bind hok
    obtain ⟨_, _, hok⟩ := of_bind hok
    obtain ⟨_, rfl⟩ := of_pure_pair hok
    exact .refl
  obtain ⟨_, _, hok⟩ := of_bind hok
  split at hok
  · exact reserveAgainstClock_trace hpolicy hok
  split at hok
  · obtain ⟨_, rfl⟩ := of_pure_pair hok
    exact .refl
  obtain ⟨clocks, hinsert, hok⟩ := of_orFault hok
  have hclocks : BudgetTrace law b { b with clocks } := by
    refine .single (.clocks clocks ?_)
    intro _ clock hclock
    exact ⟨clock, get?_insert_of_some hinsert hclock, Int.le_refl _⟩
  refine hclocks.trans (reserveAgainstClock_trace ?_ hok)
  exact hpolicy

theorem bindPrivateReservationInvocation_trace
    (hok : bindPrivateReservationInvocation b input =
      .ok (reservation, after)) : BudgetTrace law b after := by
  obtain ⟨_, _, hok⟩ := of_bind hok
  obtain ⟨_, _, hok⟩ := of_bind hok
  obtain ⟨_, _, hok⟩ := of_bind hok
  split at hok
  · obtain ⟨_, rfl⟩ := of_pure_pair hok
    exact .refl
  obtain ⟨_, hok⟩ := of_require hok
  split at hok
  · replace hok := passed hok
    obtain ⟨_, rfl⟩ := of_pure_pair hok
    exact .refl
  replace hok := passed hok
  obtain ⟨_, _, hok⟩ := of_bind hok
  obtain ⟨_, rfl⟩ := of_pure_pair hok
  refine updateReservation_trace ?_
  intro _ _ hguard
  rw [Bool.and_eq_true, decide_eq_true_eq, decide_eq_true_eq] at hguard
  exact .bound hguard.1 hguard.2 _ _ _

theorem commitPrivateDispatch_trace
    (hlaw : ∀ row, getPrivateReservation b input.reservationId = some row →
      row.state = .held ∨ (row.state = .reconcileRequired ∧
        row.dispatchTruth = .unknown) → row.isBoundTo input = true →
      law.allows b (.dispatched row))
    (hok : commitPrivateDispatch b input = .ok (reservation, after)) :
    BudgetTrace law b after := by
  obtain ⟨_, _, hok⟩ := of_bind hok
  obtain ⟨current, hcurrent, hok⟩ := of_bind hok
  have hstored := orFault_ok.mp hcurrent
  split at hok
  · obtain ⟨_, rfl⟩ := of_pure_pair hok
    exact .refl
  obtain ⟨hstate, hok⟩ := of_require hok
  obtain ⟨hbound, hok⟩ := of_require hok
  obtain ⟨htruth, hok⟩ := of_require hok
  obtain ⟨_, _, hok⟩ := of_bind hok
  obtain ⟨_, rfl⟩ := of_pure_pair hok
  refine updateReservation_trace ?_
  intro _ hrow _
  cases hstored.symm.trans hrow
  exact .dispatched (hstate.imp id And.left) htruth
    (hlaw current hstored hstate hbound) _

theorem recordPrivateProviderResponse_trace
    (hlaw : ∀ row, getPrivateReservation b input.reservationId = some row →
      row.state = .committed → row.isBoundTo input = true →
      row.dispatchTruth ≠ .responded → law.allows b (.responded row))
    (hok : recordPrivateProviderResponse b input = .ok (reservation, after)) :
    BudgetTrace law b after := by
  replace hok := passed hok
  obtain ⟨current, hcurrent, hok⟩ := of_bind hok
  have hstored := orFault_ok.mp hcurrent
  split at hok
  · obtain ⟨_, rfl⟩ := of_pure_pair hok
    exact .refl
  rename_i hnew
  obtain ⟨⟨hstate, hbound⟩, hok⟩ := of_require hok
  obtain ⟨_, _, hok⟩ := of_bind hok
  obtain ⟨_, rfl⟩ := of_pure_pair hok
  refine updateReservation_trace ?_
  intro _ hrow _
  cases hstored.symm.trans hrow
  refine .responded hstate (hlaw current hstored hstate hbound ?_) _
  exact fun hresponded => hnew ⟨hstate, hbound, hresponded⟩

theorem releasePrivateReservation_trace {input : PrivateReleaseInput}
    (hok : releasePrivateReservation b input = .ok (reservation, after)) :
    BudgetTrace law b after := by
  replace hok := passed hok
  replace hok := passed hok
  replace hok := passed hok
  obtain ⟨_, _, hok⟩ := of_bind hok
  split at hok
  · replace hok := passed hok
    obtain ⟨_, rfl⟩ := of_pure_pair hok
    exact .refl
  replace hok := passed hok
  replace hok := passed hok
  replace hok := passed hok
  replace hok := passed hok
  obtain ⟨_, _, hok⟩ := of_bind hok
  obtain ⟨_, rfl⟩ := of_pure_pair hok
  refine updateReservation_trace ?_
  intro _ _ hguard
  rw [Bool.or_eq_true, decide_eq_true_eq, decide_eq_true_eq] at hguard
  exact .released hguard _ _ _ _

theorem recordPrivateReservationNoDispatchProof_trace {proofRef : String}
    (hok : recordPrivateReservationNoDispatchProof b input proofRef =
      .ok (reservation, after)) : BudgetTrace law b after := by
  obtain ⟨_, _, hok⟩ := of_bind hok
  replace hok := passed hok
  obtain ⟨_, _, hok⟩ := of_bind hok
  replace hok := passed hok
  replace hok := passed hok
  replace hok := passed hok
  split at hok
  · replace hok := passed hok
    obtain ⟨_, rfl⟩ := of_pure_pair hok
    exact .refl
  obtain ⟨_, _, hok⟩ := of_bind hok
  obtain ⟨_, rfl⟩ := of_pure_pair hok
  refine updateReservation_trace ?_
  intro _ _ hguard
  simp only [Bool.and_eq_true, decide_eq_true_eq] at hguard
  exact .proven hguard.1.1 hguard.1.2 _ _

theorem markPrivateReservationUnknown_trace {reservationId : String}
    {nowMs : Int}
    (hlaw : ∀ row, getPrivateReservation b reservationId = some row →
      row.state = .held → law.allows b (.markedUnknown row))
    (hok : markPrivateReservationUnknown b reservationId nowMs =
      .ok (reservation, after)) : BudgetTrace law b after := by
  replace hok := passed hok
  replace hok := passed hok
  obtain ⟨_, _, hok⟩ := of_bind hok
  split at hok
  · obtain ⟨_, rfl⟩ := of_pure_pair hok
    exact .refl
  split at hok
  · replace hok := passed hok
    obtain ⟨_, rfl⟩ := of_pure_pair hok
    exact .refl
  obtain ⟨_, _, hok⟩ := of_bind hok
  obtain ⟨_, rfl⟩ := of_pure_pair hok
  refine updateReservation_trace ?_
  intro row hrow hguard
  have hheld := of_decide_eq_true hguard
  exact .markedUnknown hheld (hlaw row hrow hheld) _

theorem expirePrivateReservations_trace {expiry : PrivateExpiry}
    (hok : expirePrivateReservations b policyId wallClockNowMs =
      .ok (expiry, after)) : BudgetTrace law b after := by
  replace hok := passed hok
  replace hok := passed hok
  obtain ⟨_, _, hok⟩ := of_bind hok
  split at hok
  · obtain ⟨_, rfl⟩ := of_pure_pair hok
    exact .refl
  obtain ⟨⟨_, _⟩, hadvance, hok⟩ := of_bind hok
  obtain ⟨clocks, rfl, hforward, hclock⟩ := advancePolicyClock_ok hadvance
  obtain ⟨⟨_, _⟩, hexpire, hok⟩ := of_bind hok
  obtain ⟨_, rfl⟩ := of_pure_pair hok
  have hclocks : BudgetTrace law b { b with clocks } :=
    .single (.clocks clocks hforward)
  exact hclocks.trans (expireInTransaction_ok law hclock hexpire).1

theorem reconcilePolicyClock_trace {authorizationRef : String}
    {policyTimeMs : Int}
    (hok : reconcilePolicyClock b policyId wallClockNowMs authorizationRef =
      .ok (policyTimeMs, after)) : BudgetTrace law b after := by
  replace hok := passed hok
  replace hok := passed hok
  replace hok := passed hok
  obtain ⟨_, _, hok⟩ := of_bind hok
  split at hok
  · rename_i hclock
    obtain ⟨_, rfl⟩ := of_pure_pair hok
    exact .single (.clocks _ (forward_update hclock (Int.le_max_left _ _)))
  · obtain ⟨clocks, hinsert, hok⟩ := of_orFault hok
    obtain ⟨_, rfl⟩ := of_pure_pair hok
    refine .single (.clocks clocks ?_)
    intro _ clock hclock
    exact ⟨clock, get?_insert_of_some hinsert hclock, Int.le_refl _⟩

end Reservations

section Repairs

variable {law : BudgetLaw} {b after : PrivateBudget}
variable {binding : PrivateBudgetAttemptBinding} {input : PrivateRepairRef}
variable {reservationId invocationId : String}
variable {attemptId providerRequestId : Option String}

omit [Host] in
theorem repairBindingRow_stored
    (hrow : repairBindingRow b reservationId invocationId = some binding) :
    binding ∈ b.bindings.rows ∧ binding.reservationId = reservationId ∧
      binding.invocationId = invocationId := by
  have hfound := List.find?_some hrow
  rw [Bool.and_eq_true, decide_eq_true_eq, decide_eq_true_eq] at hfound
  exact ⟨mem_of_find?_eq_some hrow, hfound⟩

omit [Host] in
/-- A later attempt is the one row of its invocation. -/
theorem repairBindingRow_unique {row : PrivateBudgetAttemptBinding}
    (hbinding : repairBindingRow b reservationId invocationId = some binding)
    (hrow : row ∈ b.bindings.rows) (hid : row.invocationId = invocationId) :
    row = binding := by
  obtain ⟨hstored, _, hsame⟩ := repairBindingRow_stored hbinding
  have hrow' := get?_key hrow
  have hbinding' := get?_key hstored
  have hkey : key row = key binding := hid.trans hsame.symm
  rw [hkey, hbinding'] at hrow'
  exact (Option.some.inj hrow').symm

omit [Host] in
/-- The evidence about the attempt before an ordinal comes from its own row. -/
theorem previousAttempt_ok {parent : PrivateBudgetReservation} {ordinal : Int}
    {truth : PrivateDispatchTruth} {released : Bool}
    (hok : previousAttempt b parent ordinal = .ok (truth, released)) :
    (ordinal = 2 → truth = parent.dispatchTruth ∧
      released = parent.releaseProofRef.isSome) ∧
    (ordinal ≠ 2 → ∃ previous ∈ b.bindings.rows,
      previous.reservationId = parent.reservationId ∧
      previous.ordinal = ordinal - 1 ∧ truth = previous.dispatchTruth ∧
      released = previous.releaseProofRef.isSome) := by
  unfold previousAttempt at hok
  split at hok
  · rename_i hfirst
    obtain ⟨rfl, rfl⟩ := of_pure_pair hok
    exact ⟨fun _ => ⟨rfl, rfl⟩, fun hne => absurd hfirst hne⟩
  · rename_i hlater
    obtain ⟨previous, hprevious, hok⟩ := of_orFault hok
    obtain ⟨rfl, rfl⟩ := of_pure_pair hok
    have hfound := List.find?_some hprevious
    rw [Bool.and_eq_true, decide_eq_true_eq, decide_eq_true_eq] at hfound
    exact ⟨fun hfirst => absurd hfirst hlater, fun _ =>
      ⟨previous, mem_of_find?_eq_some hprevious, hfound.1, hfound.2, rfl,
        rfl⟩⟩

theorem bindPrivateRepairAttempt_trace {input : PrivateRepairInput}
    (hok : bindPrivateRepairAttempt b input = .ok (binding, after)) :
    BudgetTrace law b after := by
  obtain ⟨_, _, hok⟩ := of_bind hok
  replace hok := passed hok
  replace hok := passed hok
  obtain ⟨_, _, hok⟩ := of_bind hok
  obtain ⟨parent, hparent, hok⟩ := of_bind hok
  have hstored := orFault_ok.mp hparent
  split at hok
  · cases hok
  replace hok := passed hok
  obtain ⟨hordinal, hok⟩ := of_require hok
  replace hok := passed hok
  split at hok
  · replace hok := passed hok
    obtain ⟨_, rfl⟩ := of_pure_pair hok
    exact .refl
  replace hok := passed hok
  obtain ⟨⟨_, _⟩, hprevious, hok⟩ := of_bind hok
  obtain ⟨hsettled, hok⟩ := of_require hok
  replace hok := passed hok
  obtain ⟨bindings, hinsert, hok⟩ := of_orFault hok
  obtain ⟨_, rfl⟩ := of_pure_pair hok
  obtain ⟨hfirst, hlater⟩ := previousAttempt_ok hprevious
  have hid : parent.reservationId = input.reservationId :=
    key_of_get? hstored
  refine .single (.repairBound _ ⟨hordinal, rfl, rfl, ?_, ?_⟩ bindings hinsert)
  · intro hsecond
    obtain ⟨rfl, rfl⟩ := hfirst hsecond
    exact ⟨parent, hstored, hsettled⟩
  · intro hthird
    obtain ⟨previous, hmem, hsame, hnumber, rfl, rfl⟩ := hlater hthird
    exact ⟨previous, hmem, hsame.trans hid, hnumber, hsettled⟩

theorem bindPrivateReservationOrRepairAttempt_trace {input : PrivateRouteInput}
    {bound : PrivateBoundAttempt}
    (hok : bindPrivateReservationOrRepairAttempt b input =
      .ok (bound, after)) : BudgetTrace law b after := by
  replace hok := passed hok
  replace hok := passed hok
  replace hok := passed hok
  dsimp only at hok
  split at hok
  · obtain ⟨_, _, hok⟩ := of_orFault hok
    obtain ⟨_, _, hok⟩ := of_orFault hok
    obtain ⟨_, _, hok⟩ := of_orFault hok
    obtain ⟨⟨_, _⟩, hbind, hok⟩ := of_bind hok
    obtain ⟨_, rfl⟩ := of_pure_pair hok
    exact bindPrivateRepairAttempt_trace hbind
  · obtain ⟨⟨_, _⟩, hbind, hok⟩ := of_bind hok
    obtain ⟨_, rfl⟩ := of_pure_pair hok
    exact bindPrivateReservationInvocation_trace hbind

/-- After the parent step of a commit the parent is committed, and the later
attempts are as before. -/
theorem commitRepairParent_ok (law : BudgetLaw)
    (hok : commitRepairParent b input = .ok after) :
    BudgetTrace law b after ∧ after.bindings = b.bindings ∧
      (∃ parent, after.reservations.get? input.reservationId = some parent ∧
        parent.state = .committed) ∧
      (getPrivateReservation b input.reservationId).any
        PrivateBudgetReservation.canContinue = true := by
  obtain ⟨parent, hparent, hok⟩ := of_bind hok
  have hstored : b.reservations.get? input.reservationId = some parent :=
    orFault_ok.mp hparent
  have hid : parent.reservationId = input.reservationId :=
    key_of_get? hstored
  split at hok
  · rename_i hheld
    obtain ⟨⟨htruth, hproof, hinvocation, hattempt⟩, hok⟩ :=
      of_require hok
    cases of_pure hok
    have hsome {value : Option String} (hany : value.any (!blank ·) = true) :
        value.isSome = true := by
      cases value with
      | none => cases hany
      | some => rfl
    refine ⟨updateReservation_trace ?_, rfl, ⟨{ parent with
      state := .committed, updatedAtMs := input.nowMs }, ?_, rfl⟩, ?_⟩
    · intro _ _ hguard
      simp only [Bool.and_eq_true, decide_eq_true_eq] at hguard
      exact .continued hguard.1.1.1.1 hguard.1.1.1.2 hguard.1.1.2 _
    · rw [PrivateBudget.updateReservation, get?_update, hstored]
      simp [hid, hheld, htruth, hsome hproof, hsome hinvocation,
        hsome hattempt]
    · rw [getPrivateReservation, hstored]
      simp [PrivateBudgetReservation.canContinue,
        PrivateBudgetReservation.isContinuable, hheld, htruth, hproof,
        hsome hinvocation, hsome hattempt]
  · obtain ⟨hcommitted, hok⟩ := of_require hok
    cases of_pure hok
    refine ⟨.refl, rfl, ⟨parent, hstored, hcommitted⟩, ?_⟩
    rw [getPrivateReservation, hstored]
    simp [PrivateBudgetReservation.canContinue, hcommitted]

theorem commitPrivateRepairDispatch_trace (hlaw : ∀ row,
      repairBindingRow b input.reservationId input.invocationId = some row →
      attemptId = none ∨ attemptId = some row.attemptId →
      row.dispatchTruth = .notStarted →
      (getPrivateReservation b input.reservationId).any
        PrivateBudgetReservation.canContinue = true →
      law.allows b (.repairDispatched row))
    (hok : commitPrivateRepairDispatch b input attemptId =
      .ok (binding, after)) : BudgetTrace law b after := by
  obtain ⟨_, _, hok⟩ := of_bind hok
  obtain ⟨current, hcurrent, hok⟩ := of_orFault hok
  obtain ⟨hattempt, hok⟩ := of_require hok
  replace hok := passed hok
  obtain ⟨mid, hparent, hok⟩ := of_bind hok
  obtain ⟨htrace, hbindings, ⟨parent, hget, hcommitted⟩, hcontinue⟩ :=
    commitRepairParent_ok law hparent
  split at hok
  · obtain ⟨_, rfl⟩ := of_pure_pair hok
    exact htrace
  obtain ⟨_, _, hok⟩ := of_bind hok
  obtain ⟨_, rfl⟩ := of_pure_pair hok
  refine htrace.trans (updateBinding_trace ?_)
  intro row hrow hid hinvocation hguard
  have hstarted := of_decide_eq_true hguard
  refine .dispatched hstarted ⟨parent, ?_, hcommitted⟩ ?_ _
  · rw [hid]
    exact hget
  · refine law.repairDispatched b mid row hbindings ?_
    rw [hbindings] at hrow
    cases repairBindingRow_unique hcurrent hrow hinvocation
    exact hlaw current hcurrent hattempt hstarted hcontinue

theorem recordPrivateRepairResponse_trace
    (hok : recordPrivateRepairResponse b input attemptId providerRequestId =
      .ok (binding, after)) : BudgetTrace law b after := by
  obtain ⟨_, _, hok⟩ := of_bind hok
  obtain ⟨_, _, hok⟩ := of_orFault hok
  replace hok := passed hok
  split at hok
  · obtain ⟨_, rfl⟩ := of_pure_pair hok
    exact .refl
  replace hok := passed hok
  obtain ⟨_, _, hok⟩ := of_bind hok
  obtain ⟨_, rfl⟩ := of_pure_pair hok
  refine updateBinding_trace ?_
  intro _ _ _ _ hguard
  exact .responded (of_decide_eq_true hguard) _ _

theorem releasePrivateRepairAttempt_trace {proofRef : String}
    (hok : releasePrivateRepairAttempt b input proofRef =
      .ok (binding, after)) : BudgetTrace law b after := by
  obtain ⟨_, _, hok⟩ := of_bind hok
  replace hok := passed hok
  obtain ⟨_, _, hok⟩ := of_orFault hok
  replace hok := passed hok
  split at hok
  · replace hok := passed hok
    obtain ⟨_, rfl⟩ := of_pure_pair hok
    exact .refl
  obtain ⟨_, _, hok⟩ := of_bind hok
  obtain ⟨_, rfl⟩ := of_pure_pair hok
  refine updateBinding_trace ?_
  intro _ _ _ _ hguard
  rw [Bool.and_eq_true, decide_eq_true_eq] at hguard
  exact .released hguard.1 _ _

theorem markPrivateRepairAttemptUnknown_trace
    (hok : markPrivateRepairAttemptUnknown b input = .ok (binding, after)) :
    BudgetTrace law b after := by
  obtain ⟨_, _, hok⟩ := of_bind hok
  obtain ⟨_, _, hok⟩ := of_orFault hok
  split at hok
  · obtain ⟨_, rfl⟩ := of_pure_pair hok
    exact .refl
  replace hok := passed hok
  obtain ⟨_, _, hok⟩ := of_bind hok
  obtain ⟨_, rfl⟩ := of_pure_pair hok
  refine updateBinding_trace ?_
  intro _ _ _ _ hguard
  exact .markedUnknown (of_decide_eq_true hguard) _

theorem reconcilePrivateRepairAttempt_trace {target : ReceiptTarget}
    (hlaw : ∀ row,
      repairBindingRow b input.reservationId input.invocationId = some row →
      row.releaseProofRef = none → row.dispatchTruth ≠ .responded →
      law.allows b (.repairReconciled row.reservationId))
    (hok : reconcilePrivateRepairAttempt b input target providerRequestId =
      .ok (binding, after)) : BudgetTrace law b after := by
  obtain ⟨_, _, hok⟩ := of_bind hok
  obtain ⟨current, hcurrent, hok⟩ := of_orFault hok
  obtain ⟨hproof, hok⟩ := of_require hok
  cases target with
  | attempted =>
    dsimp only at hok
    split at hok
    · obtain ⟨_, rfl⟩ := of_pure_pair hok
      exact .refl
    obtain ⟨hopen, hok⟩ := of_require hok
    replace hok := passed hok
    obtain ⟨_, _, hok⟩ := of_bind hok
    obtain ⟨_, rfl⟩ := of_pure_pair hok
    refine updateBinding_trace ?_
    intro _ hrow _ hid _
    cases repairBindingRow_unique hcurrent hrow hid
    exact .reconciled hproof hopen (hlaw current hcurrent hproof hopen)
      .attempted (.inl rfl) current.providerRequestId _
  | responded =>
    dsimp only at hok
    split at hok
    · rename_i hresponded
      split at hok
      · obtain ⟨_, _, hok⟩ := of_bind hok
        obtain ⟨_, rfl⟩ := of_pure_pair hok
        refine updateBinding_trace ?_
        intro _ hrow _ hid _
        cases repairBindingRow_unique hcurrent hrow hid
        exact .named hresponded _ _
      · obtain ⟨_, rfl⟩ := of_pure_pair hok
        exact .refl
    · rename_i hopen
      replace hok := passed hok
      obtain ⟨_, _, hok⟩ := of_bind hok
      obtain ⟨_, rfl⟩ := of_pure_pair hok
      refine updateBinding_trace ?_
      intro _ hrow _ hid _
      cases repairBindingRow_unique hcurrent hrow hid
      exact .reconciled hproof hopen (hlaw current hcurrent hproof hopen)
        .responded (.inr rfl) _ _

end Repairs

end CognitiveSidecar
