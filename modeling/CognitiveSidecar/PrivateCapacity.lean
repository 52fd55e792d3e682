/-
The capacity of the private budget over whole runs: the high-water time only
moves forward, and the reservations that a window counts fit their policy.
-/
import CognitiveSidecar.PrivateRuns

namespace CognitiveSidecar

open List Relational

section Capacity

variable [Host]

/-- Every stored policy reads back, and no two share a fingerprint. -/
structure PoliciesSound (policies : Table BudgetPolicyRow) : Prop where
  reads : ∀ row ∈ policies.rows, ∃ policy, snapshot row = .ok policy
  fingerprints : (policies.rows.map BudgetPolicyRow.fingerprint).Nodup

/-- The snapshot that a policy and a fingerprint name. -/
def Stores (policies : Table BudgetPolicyRow) (policyId fingerprint : String)
    (policy : BudgetPolicySnapshot) : Prop :=
  ∃ row ∈ policies.rows, row.policyId = policyId ∧
    row.fingerprint = fingerprint ∧ snapshot row = .ok policy

theorem BudgetPolicySnapshot.fingerprint_ne (policy : BudgetPolicySnapshot) :
    policy.fingerprint ≠ "" := by
  rw [policy.fingerprinted, budgetPolicyFingerprint]
  intro hempty
  have hlength := congrArg String.length hempty
  simp at hlength

variable {policy : BudgetPolicySnapshot}

theorem snapshot_fingerprint_ne {row : BudgetPolicyRow}
    (hread : snapshot row = .ok policy) :
    row.fingerprint ≠ "" := by
  rw [← (snapshot_ok hread).2]
  exact policy.fingerprint_ne

variable {law : BudgetLaw} {b after : PrivateBudget}
variable {row : PrivateBudgetReservation} {policyId : String}
variable {policyTimeMs : Int}

theorem resolveBudgetPolicy_bound (hsound : PoliciesSound b.policies)
    {fingerprint : String}
    (hstores : Stores b.policies policyId fingerprint policy) :
    resolveBudgetPolicy b policyId (some fingerprint) = .ok policy := by
  obtain ⟨row, hrow, hid, hfingerprint, hread⟩ := hstores
  have hne : fingerprint ≠ "" := hfingerprint ▸ snapshot_fingerprint_ne hread
  have hfilter : (some fingerprint).filter (fun text => decide (text ≠ "")) =
      some fingerprint := by simp [Option.filter, hne]
  unfold resolveBudgetPolicy
  rw [hfilter]
  dsimp only
  have hfind : (b.policies.rows.find? fun row => row.policyId = policyId &&
      row.fingerprint = fingerprint) = some row := by
    cases hfound : b.policies.rows.find? fun row => row.policyId = policyId &&
        row.fingerprint = fingerprint with
    | none =>
      have hnot := List.find?_eq_none.mp hfound row hrow
      simp [hid, hfingerprint] at hnot
    | some =>
      have hother := List.find?_some hfound
      rw [Bool.and_eq_true, decide_eq_true_eq, decide_eq_true_eq] at hother
      rw [inj_on_of_nodup_map hsound.fingerprints
        (mem_of_find?_eq_some hfound) hrow
        (hother.2.trans hfingerprint.symm)]
  rw [hfind, orFault_some, ok_bind]
  exact hread

/-- The reservation was admitted under a policy that is still stored. -/
def BackedBy (policies : Table BudgetPolicyRow) (row : PrivateBudgetReservation)
    (policy : BudgetPolicySnapshot) : Prop :=
  row.policyFingerprint = some policy.fingerprint ∧
    Stores policies row.policyId policy.fingerprint policy

theorem reservationBudgetPolicy_backed (hsound : PoliciesSound b.policies)
    (hbacked : BackedBy b.policies row policy) :
    reservationBudgetPolicy b row = .ok policy := by
  unfold reservationBudgetPolicy
  rw [hbacked.1]
  exact resolveBudgetPolicy_bound hsound hbacked.2

theorem BackedBy.unique (hsound : PoliciesSound b.policies)
    {row row' : PrivateBudgetReservation}
    {policy policy' : BudgetPolicySnapshot}
    (hbacked : BackedBy b.policies row policy)
    (hbacked' : BackedBy b.policies row' policy')
    (hid : row'.policyId = row.policyId)
    (hfingerprint : policy'.fingerprint = policy.fingerprint) :
    policy' = policy := by
  have hfirst := resolveBudgetPolicy_bound hsound hbacked.2
  have hsecond := resolveBudgetPolicy_bound hsound hbacked'.2
  rw [hid, hfingerprint, hfirst] at hsecond
  exact (Except.ok.inj hsecond).symm

/-- The reservation's time lies in the window of its policy. -/
def inWindow (b : PrivateBudget) (policyTimeMs : Int)
    (row : PrivateBudgetReservation) : Bool :=
  match reservationBudgetPolicy b row with
  | .ok policy => policyTimeMs - policy.windowMs < row.policyTimeMs
  | .error _ => false

/-- The reservations of a policy that count at a time. -/
def counted (b : PrivateBudget) (policyId : String) (policyTimeMs : Int) :
    List PrivateBudgetReservation :=
  b.reservations.rows.filter fun row =>
    (row.policyId = policyId && row.isConsuming) && inWindow b policyTimeMs row

theorem mem_counted :
    row ∈ counted b policyId policyTimeMs ↔ row ∈ b.reservations.rows ∧
      row.policyId = policyId ∧ row.isConsuming = true ∧
      inWindow b policyTimeMs row = true := by
  rw [counted, mem_filter, Bool.and_eq_true, Bool.and_eq_true,
    decide_eq_true_eq, and_assoc]

/-- A later window counts no more. -/
theorem inWindow_later {later : Int} (hlater : policyTimeMs ≤ later)
    (hin : inWindow b later row = true) :
    inWindow b policyTimeMs row = true := by
  unfold inWindow at hin ⊢
  split at hin
  · have hlt := of_decide_eq_true hin
    exact decide_eq_true (by omega)
  · cases hin

/-- Everything a window needs to know of a row was fixed at its admission. -/
theorem inWindow_congr {row' : PrivateBudgetReservation}
    (hpolicies : after.policies = b.policies)
    (hid : row'.policyId = row.policyId)
    (htime : row'.policyTimeMs = row.policyTimeMs)
    (hfingerprint : row'.policyFingerprint = row.policyFingerprint) :
    inWindow after policyTimeMs row' = inWindow b policyTimeMs row := by
  have hsame : reservationBudgetPolicy after row' =
      reservationBudgetPolicy b row := by
    rw [reservationBudgetPolicy_congr hpolicies]
    unfold reservationBudgetPolicy
    rw [hid, hfingerprint]
  unfold inWindow
  rw [hsame, htime]

/-- The budget's invariant: policies read back, every reservation is backed and
clocked, and what counts at the high-water time fits its policy. -/
structure Budgeted (b : PrivateBudget) : Prop where
  policies : PoliciesSound b.policies
  backed : ∀ row ∈ b.reservations.rows, ∃ policy,
    BackedBy b.policies row policy
  clocked : ∀ row ∈ b.reservations.rows, ∃ clock,
    b.clocks.get? row.policyId = some clock ∧
      row.policyTimeMs ≤ clock.lastPolicyNowMs
  capacity : ∀ policyId clock, b.clocks.get? policyId = some clock →
    ∀ row ∈ counted b policyId clock.lastPolicyNowMs, ∀ policy,
      BackedBy b.policies row policy →
      ((counted b policyId clock.lastPolicyNowMs).length : Int) ≤ policy.limit

/-- In a budgeted state the count of a window never faults. -/
theorem Budgeted.activeBudgetRows_eq (hb : Budgeted b) (policyId : String)
    (policyTimeMs : Int) :
    activeBudgetRows b policyId policyTimeMs =
      .ok (counted b policyId policyTimeMs) := by
  have hsplit : counted b policyId policyTimeMs =
      (b.reservations.rows.filter fun row =>
        row.policyId = policyId && row.isConsuming).filter
          (inWindow b policyTimeMs) := by
    rw [filter_filter, counted]
    congr 1
    funext row
    exact Bool.and_comm _ _
  rw [hsplit]
  refine filterOk_eq ?_
  intro row hrow
  obtain ⟨_, hbacked⟩ := hb.backed row (mem_filter.mp hrow).1
  have hpolicy := reservationBudgetPolicy_backed hb.policies hbacked
  rw [inWindow, hpolicy]
  rfl

section Moves

variable {row : PrivateBudgetReservation} {policy : BudgetPolicySnapshot}
variable {active : List PrivateBudgetReservation}

theorem Budgeted.clocks (hb : Budgeted b) {clocks : Table PolicyClock}
    (hforward : ∀ policyId clock, b.clocks.get? policyId = some clock →
      ∃ later, clocks.get? policyId = some later ∧
        clock.lastPolicyNowMs ≤ later.lastPolicyNowMs) :
    Budgeted { b with clocks } where
  policies := hb.policies
  backed := hb.backed
  clocked := by
    intro row hrow
    obtain ⟨clock, hclock, htime⟩ := hb.clocked row hrow
    obtain ⟨later, hlater, hle⟩ := hforward row.policyId clock hclock
    exact ⟨later, hlater, htime.trans hle⟩
  capacity := by
    intro policyId later hlater row hrow policy hbacked
    obtain ⟨hstored, hid, hconsuming, hin⟩ := mem_counted.mp hrow
    obtain ⟨clock, hclock, _⟩ := hb.clocked row hstored
    rw [hid] at hclock
    obtain ⟨_, hlater', hle⟩ := hforward policyId clock hclock
    cases hlater.symm.trans hlater'
    have hwas : row ∈ counted b policyId clock.lastPolicyNowMs :=
      mem_counted.mpr ⟨hstored, hid, hconsuming, inWindow_later hle hin⟩
    have hfewer :
        (counted { b with clocks } policyId later.lastPolicyNowMs).length ≤
          (counted b policyId clock.lastPolicyNowMs).length := by
      refine (monotone_filter_right b.reservations.rows ?_).length_le
      intro _ hother
      rw [Bool.and_eq_true] at hother ⊢
      exact ⟨hother.1, inWindow_later hle hother.2⟩
    have hlimit := hb.capacity policyId clock hclock row hwas policy hbacked
    omega

theorem Budgeted.reservations (hb : Budgeted b)
    {reservations : Table PrivateBudgetReservation}
    (hmoves : List.Forall₂ (ReservationMove law b) b.reservations.rows
      reservations.rows) : Budgeted { b with reservations } where
  policies := hb.policies
  backed := by
    intro _ hrow'
    obtain ⟨row, hrow, hstep⟩ := Table.exists_old hmoves hrow'
    obtain ⟨_, hid, _, hfingerprint⟩ := hstep.identity
    obtain ⟨policy, hpolicy, hstores⟩ := hb.backed row hrow
    exact ⟨policy, hfingerprint.trans hpolicy, hid ▸ hstores⟩
  clocked := by
    intro _ hrow'
    obtain ⟨row, hrow, hstep⟩ := Table.exists_old hmoves hrow'
    obtain ⟨_, hid, htime, _⟩ := hstep.identity
    rw [hid, htime]
    exact hb.clocked row hrow
  capacity := by
    intro policyId clock hclock _ hrow' policy hbacked
    obtain ⟨hstored', hid', hconsuming', hin'⟩ := mem_counted.mp hrow'
    obtain ⟨row, hrow, hstep⟩ := Table.exists_old hmoves hstored'
    obtain ⟨_, hid, htime, hfingerprint⟩ := hstep.identity
    have hwas : row ∈ counted b policyId clock.lastPolicyNowMs := by
      refine mem_counted.mpr ⟨hrow, hid.symm.trans hid',
        hstep.consuming hconsuming', ?_⟩
      rw [← hin']
      exact (inWindow_congr rfl hid htime hfingerprint).symm
    have hfewer :
        (counted { b with reservations } policyId clock.lastPolicyNowMs).length ≤
          (counted b policyId clock.lastPolicyNowMs).length := by
      refine Table.length_filter_le hmoves ?_
      intro _ _ hmove hnew
      obtain ⟨_, hid, htime, hfingerprint⟩ := hmove.identity
      simp only [Bool.and_eq_true, decide_eq_true_eq] at hnew ⊢
      refine ⟨⟨hid.symm.trans hnew.1.1, hmove.consuming hnew.1.2⟩, ?_⟩
      rw [← hnew.2]
      exact (inWindow_congr rfl hid htime hfingerprint).symm
    have hbacked' : BackedBy b.policies row policy :=
      ⟨hfingerprint.symm.trans hbacked.1, hid ▸ hbacked.2⟩
    have hlimit := hb.capacity policyId clock hclock row hwas policy hbacked'
    omega

/-- An admitted reservation is backed by the current policy. -/
theorem BudgetAdmits.backed (hadmits : BudgetAdmits b row policy active) :
    BackedBy b.policies row policy := by
  obtain ⟨stored, hstored, hid, _, hread⟩ :=
    resolveBudgetPolicy_current hadmits.resolved
  exact ⟨hadmits.fingerprint, stored, hstored, hid, (snapshot_ok hread).2.symm,
    hread⟩

theorem Budgeted.reserved (hb : Budgeted b)
    (hadmits : BudgetAdmits b row policy active)
    {reservations : Table PrivateBudgetReservation}
    (hinsert : b.reservations.insert? row = some reservations) :
    Budgeted { b.drew with reservations } where
  policies := hb.policies
  backed := by
    intro other hother
    rcases (mem_insert_iff hinsert).mp hother with hold | rfl
    · exact hb.backed other hold
    · exact ⟨policy, hadmits.backed⟩
  clocked := by
    intro other hother
    rcases (mem_insert_iff hinsert).mp hother with hold | rfl
    · exact hb.clocked other hold
    · obtain ⟨clock, hclock, hlast⟩ := hadmits.counted
      exact ⟨clock, hclock, hlast.ge⟩
  capacity := by
    intro policyId clock hclock other hother bound hbacked
    change b.clocks.get? policyId = some clock at hclock
    have hrows : counted { b.drew with reservations } policyId
        clock.lastPolicyNowMs = counted b policyId clock.lastPolicyNowMs ++
          [row].filter fun row => (row.policyId = policyId &&
            row.isConsuming) && inWindow b clock.lastPolicyNowMs row := by
      have happend : reservations.rows = b.reservations.rows ++ [row] :=
        (insert?_eq_some hinsert).2
      rw [counted, happend, filter_append]
      rfl
    rw [hrows] at hother ⊢
    by_cases hid : row.policyId = policyId
    · -- the window of this policy had room, under the policy all its rows share
      obtain ⟨_, hcounting, hlast⟩ := hadmits.counted
      rw [hid, hclock] at hcounting
      cases hcounting
      have hactive := hb.activeBudgetRows_eq policyId clock.lastPolicyNowMs
      have hcounts := hadmits.counts
      rw [hid, ← hlast, hactive] at hcounts
      cases hcounts
      have hsame : bound = policy := by
        rw [mem_append] at hother
        rcases hother with hold | hnew
        · have hcurrent := hadmits.current other hold
          rw [hbacked.1] at hcurrent
          exact hadmits.backed.unique hb.policies hbacked
            ((mem_counted.mp hold).2.1.trans hid.symm)
            (Option.some.inj hcurrent)
        · have heq : other = row :=
            mem_singleton.mp (mem_filter.mp hnew).1
          subst heq
          have hfingerprint := hbacked.1.symm.trans hadmits.fingerprint
          exact hadmits.backed.unique hb.policies hbacked rfl
            (Option.some.inj hfingerprint)
      subst hsame
      have hroom := hadmits.room
      have hone := length_filter_le (fun row : PrivateBudgetReservation =>
        (row.policyId = policyId && row.isConsuming) &&
          inWindow b clock.lastPolicyNowMs row) [row]
      rw [length_append]
      rw [length_singleton] at hone
      omega
    · have hnone : ([row].filter fun row => (row.policyId = policyId &&
          row.isConsuming) && inWindow b clock.lastPolicyNowMs row) = [] := by
        simp [hid]
      rw [hnone, append_nil] at hother ⊢
      exact hb.capacity policyId clock hclock other hother bound hbacked

theorem BudgetMove.budgeted (hmove : BudgetMove law b after)
    (hb : Budgeted b) : Budgeted after := by
  cases hmove with
  | clocks _ hforward => exact hb.clocks hforward
  | reservations _ hmoves => exact hb.reservations hmoves
  | bindings | repairBound =>
    exact ⟨hb.policies, hb.backed, hb.clocked, hb.capacity⟩
  | reserved _ _ _ hadmits _ hinsert =>
    exact hb.reserved hadmits hinsert

end Moves

section Configuration

variable {policy : VersionedBudgetPolicy} {configured : BudgetPolicySnapshot}

theorem snapshot_validated (hvalid : validate policy = .ok configured)
    (isCurrent : Bool) :
    snapshot { policy with fingerprint := configured.fingerprint, isCurrent } =
      .ok configured := by
  rw [snapshot, hvalid, ok_bind, require_pos rfl]
  rfl

/-- Configuration keeps the stored snapshots, and keeps the table sound. -/
theorem configureBudgetPolicy_stores (hsound : PoliciesSound b.policies)
    (hok : configureBudgetPolicy b policy = .ok (configured, after)) :
    PoliciesSound after.policies ∧ ∀ policyId fingerprint stored,
      Stores b.policies policyId fingerprint stored →
        Stores after.policies policyId fingerprint stored := by
  obtain ⟨valid, hvalid, hok⟩ := of_bind hok
  replace hok := passed hok
  dsimp only at hok
  split at hok
  · obtain ⟨_, _, hok⟩ := of_bind hok
    obtain ⟨_, rfl⟩ := of_pure_pair hok
    exact ⟨hsound, fun _ _ _ hstores => hstores⟩
  replace hok := passed hok
  obtain ⟨hfresh, hok⟩ := of_require hok
  obtain ⟨_, hinsert, hok⟩ := of_orFault hok
  obtain ⟨_, rfl⟩ := of_pure_pair hok
  have hrows := (insert?_eq_some hinsert).2
  refine ⟨⟨?_, ?_⟩, ?_⟩
  · intro _ hrow
    rcases (mem_insert_iff hinsert).mp hrow with hold | rfl
    · obtain ⟨old, hwas, rfl⟩ := Table.mem_update_iff.mp hold
      obtain ⟨stored, hread⟩ := hsound.reads old hwas
      refine ⟨stored, ?_⟩
      split
      · exact hread
      · exact hread
    · exact ⟨valid, snapshot_validated hvalid true⟩
  · have hsame : ((b.policies.update
        (fun row => row.policyId = policy.policyId)
        (fun row => { row with isCurrent := false }) (fun _ => rfl)).rows.map
          BudgetPolicyRow.fingerprint) =
        b.policies.rows.map BudgetPolicyRow.fingerprint := by
      simp only [Table.update, map_map]
      apply map_congr_left
      intro row _
      by_cases hp : row.policyId = policy.policyId <;> simp [hp]
    rw [hrows, map_append, hsame, nodup_append]
    refine ⟨hsound.fingerprints, by simp, ?_⟩
    intro _ hold _ hnew heq
    rw [← hsame] at hold
    obtain ⟨row, hrow, rfl⟩ := mem_map.mp hold
    rw [map_cons, map_nil, mem_singleton] at hnew
    exact hfresh row hrow (heq.trans hnew)
  · rintro _ _ _ ⟨row, hrow, hid, hfingerprint, hread⟩
    refine ⟨if row.policyId = policy.policyId then
      { row with isCurrent := false } else row, ?_, ?_, ?_, ?_⟩
    · refine (mem_insert_iff hinsert).mpr (.inl ?_)
      simp only [Table.update, mem_map]
      exact ⟨row, hrow, by simp⟩
    · split <;> exact hid
    · split <;> exact hfingerprint
    · split <;> exact hread

theorem configureBudgetPolicy_budgeted (hb : Budgeted b)
    (hok : configureBudgetPolicy b policy = .ok (configured, after)) :
    Budgeted after := by
  obtain ⟨hsound, hstores⟩ := configureBudgetPolicy_stores hb.policies hok
  obtain ⟨policies, rfl⟩ := configureBudgetPolicy_policies hok
  have hkept {row : PrivateBudgetReservation} {bound : BudgetPolicySnapshot}
      (hbacked : BackedBy b.policies row bound) :
      BackedBy policies row bound :=
    ⟨hbacked.1, hstores _ _ _ hbacked.2⟩
  have hcounted (policyId : String) (policyTimeMs : Int) :
      counted { b with policies } policyId policyTimeMs =
        counted b policyId policyTimeMs := by
    refine filter_congr ?_
    intro row hrow
    obtain ⟨bound, hbacked⟩ := hb.backed row hrow
    have hbefore := reservationBudgetPolicy_backed hb.policies hbacked
    have hafter : reservationBudgetPolicy { b with policies } row =
        .ok bound := reservationBudgetPolicy_backed hsound (hkept hbacked)
    unfold inWindow
    rw [hbefore, hafter]
  refine ⟨hsound, ?_, hb.clocked, ?_⟩
  · intro row hrow
    obtain ⟨bound, hbacked⟩ := hb.backed row hrow
    exact ⟨bound, hkept hbacked⟩
  · intro policyId clock hclock row hrow bound hbacked
    rw [hcounted] at hrow ⊢
    obtain ⟨was, hwas⟩ := hb.backed row (mem_counted.mp hrow).1
    have hafter : BackedBy policies row was := hkept hwas
    have hsame : bound = was := by
      have hfingerprint := hbacked.1.symm.trans hafter.1
      exact @BackedBy.unique _ { b with policies } hsound row row was bound
        hafter hbacked rfl (Option.some.inj hfingerprint)
    rw [hsame]
    exact hb.capacity policyId clock hclock row hrow was hwas

end Configuration

section Steps

/-- The law that forbids nothing. -/
def anyWrite : BudgetLaw where
  allows := fun _ _ => True
  dispatched := fun _ _ _ => trivial
  markedUnknown := fun _ _ _ => trivial
  responded := fun _ _ _ => trivial
  repairDispatched := fun _ _ _ _ _ => trivial

theorem BudgetOp.allowed_any (op : BudgetOp) (b : PrivateBudget) :
    op.Allowed anyWrite b := by
  refine ⟨fun _ _ => trivial, ?_⟩
  cases op with
  | recover =>
    exact meets_of_forall (fun _ _ _ _ => trivial) _ _
  | _ => trivial

/-- A step configures a policy, or changes the other tables move by move. -/
theorem budgetStep_any (op : BudgetOp) (b : PrivateBudget) :
    (∃ policy configured, op = .configure policy ∧
      configureBudgetPolicy b policy = .ok (configured, budgetStep op b)) ∨
    BudgetTrace anyWrite b (budgetStep op b) := by
  unfold budgetStep
  cases hperform : performBudget op b with
  | error => exact .inr .refl
  | ok =>
    by_cases hop : ∃ policy, op = .configure policy
    · obtain ⟨policy, rfl⟩ := hop
      obtain ⟨configured, hok⟩ := snd_ok.mp hperform
      exact .inl ⟨policy, configured, rfl, hok⟩
    · refine .inr (performBudget_trace (op.allowed_any b) ?_ hperform)
      intro policy heq
      exact hop ⟨policy, heq⟩

/-- What configuration and every table change keep, a step keeps. -/
theorem budgetStep_keeps {P : PrivateBudget → Prop} {op : BudgetOp}
    (hconfigure : ∀ policy configured,
      configureBudgetPolicy b policy = .ok (configured, budgetStep op b) →
      P b → P (budgetStep op b))
    (hmove : ∀ b after, BudgetMove anyWrite b after → P b → P after)
    (hb : P b) : P (budgetStep op b) := by
  rcases budgetStep_any op b with ⟨policy, configured, _, hok⟩ | htrace
  · exact hconfigure policy configured hok hb
  · generalize budgetStep op b = after at htrace
    induction htrace with
    | refl => exact hb
    | tail _ hlast ih => exact hmove _ _ hlast ih

theorem budgetStep_budgeted (op : BudgetOp) (b : PrivateBudget)
    (hb : Budgeted b) : Budgeted (budgetStep op b) :=
  budgetStep_keeps (P := Budgeted)
    (fun _ _ hok hb => configureBudgetPolicy_budgeted hb hok)
    (fun _ _ hmove hb => hmove.budgeted hb) hb

theorem initialBudget_budgeted : Budgeted initialBudget where
  policies := by
    refine ⟨?_, by simp [initialBudget]⟩
    intro _ hrow
    rw [mem_singleton.mp hrow]
    have hvalid : ∃ policy, validate defaultBudgetPolicy = .ok policy ∧
        policy.fingerprint = budgetPolicyFingerprint defaultBudgetPolicy := by
      exact ⟨_, rfl, rfl⟩
    obtain ⟨policy, hvalid, hfingerprint⟩ := hvalid
    rw [← hfingerprint]
    exact ⟨policy, snapshot_validated hvalid true⟩
  backed := fun _ hrow => absurd hrow not_mem_nil
  clocked := fun _ hrow => absurd hrow not_mem_nil
  capacity := by
    intro _ _ hclock
    cases hclock

end Steps

section Forward

variable {row : PrivateBudgetReservation}
variable {row' : PrivateBudgetReservation} {reservationId : String}

/-- The high-water time of a policy is at least `policyTimeMs`. -/
def HighWater (policyId : String) (policyTimeMs : Int) (b : PrivateBudget) :
    Prop :=
  ∃ clock, b.clocks.get? policyId = some clock ∧
    policyTimeMs ≤ clock.lastPolicyNowMs

theorem budgetStep_highWater (op : BudgetOp) (b : PrivateBudget)
    (hwater : HighWater policyId policyTimeMs b) :
    HighWater policyId policyTimeMs (budgetStep op b) := by
  refine budgetStep_keeps (P := HighWater policyId policyTimeMs) ?_ ?_ hwater
  · intro _ _ hok hwater
    obtain ⟨_, heq⟩ := configureBudgetPolicy_policies hok
    rw [heq]
    exact hwater
  · rintro b _ hmove ⟨clock, hclock, hle⟩
    cases hmove with
    | clocks _ hforward =>
      obtain ⟨later, hlater, hforth⟩ := hforward policyId clock hclock
      exact ⟨later, hlater, hle.trans hforth⟩
    | reservations | bindings | reserved | repairBound =>
      exact ⟨clock, hclock, hle⟩

/-- What frees capacity: a proof that dispatch did not start, or the window. -/
def Freed (b : PrivateBudget) (row : PrivateBudgetReservation) : Prop :=
  (row.state = .released ∧ row.dispatchTruth = .notStarted ∧
    row.releaseProofRef.isSome = true) ∨
  (row.state = .expired ∧ OutOfWindow b row)

/-- The reservation counts, or something freed its capacity. -/
def CountsOrFreed (reservationId : String) (b : PrivateBudget) : Prop :=
  ∃ row, b.reservations.get? reservationId = some row ∧
    (row.isConsuming = true ∨ Freed b row)

/-- A reservation that gave its capacity back does not change. -/
theorem ReservationMove.frozen (hmove : ReservationMove law b row row')
    (hidle : row.isConsuming = false) :
    row' = row := by
  simp only [PrivateBudgetReservation.isConsuming, Bool.or_eq_false_iff,
    decide_eq_false_iff_not] at hidle
  obtain ⟨⟨hheld, hcommitted⟩, hreconcile⟩ := hidle
  cases hmove with
  | kept => rfl
  | bound hstate | proven hstate | markedUnknown hstate | continued hstate =>
    exact absurd hstate hheld
  | dispatched hstate | released hstate =>
    exact absurd hstate (not_or.mpr ⟨hheld, hreconcile⟩)
  | responded hstate => exact absurd hstate hcommitted
  | expired hconsuming =>
    simp [PrivateBudgetReservation.isConsuming, hheld, hcommitted,
      hreconcile] at hconsuming

/-- A counting reservation counts on, unless a proof or the window frees it. -/
theorem ReservationMove.counts (hmove : ReservationMove law b row row')
    (hconsuming : row.isConsuming = true) :
    row'.isConsuming = true ∨ Freed b row' := by
  cases hmove with
  | kept | bound | responded | proven => exact .inl hconsuming
  | dispatched | markedUnknown | continued => exact .inl rfl
  | released =>
    exact .inr (.inl ⟨rfl, rfl, rfl⟩)
  | expired _ hgone => exact .inr (.inr ⟨rfl, hgone⟩)

theorem Freed.idle (hfreed : Freed b row) :
    row.isConsuming = false := by
  rcases hfreed with ⟨hstate, _⟩ | ⟨hstate, _⟩ <;>
    simp [PrivateBudgetReservation.isConsuming, hstate]

/-- What the window has left stays outside when the clocks move forward. -/
theorem Freed.forward (hfreed : Freed b row)
    (hpolicy : ∀ policy, reservationBudgetPolicy b row = .ok policy →
      reservationBudgetPolicy after row = .ok policy)
    (hforward : ∀ policyId clock, b.clocks.get? policyId = some clock →
      ∃ later, after.clocks.get? policyId = some later ∧
        clock.lastPolicyNowMs ≤ later.lastPolicyNowMs) :
    Freed after row := by
  rcases hfreed with hreleased | ⟨hstate, policy, clock, hbound, hclock, _⟩
  · exact .inl hreleased
  · obtain ⟨later, hlater, _⟩ := hforward row.policyId clock hclock
    exact .inr ⟨hstate, policy, later, hpolicy policy hbound, hlater,
      by omega⟩

theorem Freed.same (hfreed : Freed b row)
    (hpolicy : ∀ policy, reservationBudgetPolicy b row = .ok policy →
      reservationBudgetPolicy after row = .ok policy)
    (hclocks : after.clocks = b.clocks) : Freed after row := by
  refine hfreed.forward hpolicy ?_
  intro _ clock hclock
  exact ⟨clock, hclocks ▸ hclock, Int.le_refl _⟩

theorem BudgetMove.countsOrFreed (hmove : BudgetMove law b after)
    (hcounts : CountsOrFreed reservationId b) :
    CountsOrFreed reservationId after := by
  obtain ⟨row, hrow, hcase⟩ := hcounts
  cases hmove with
  | clocks _ hforward =>
    exact ⟨row, hrow, hcase.imp id fun hfreed =>
      hfreed.forward (fun _ hpolicy => hpolicy) hforward⟩
  | reservations _ hmoves =>
    obtain ⟨row', hrow', hstep⟩ := (reservations_rewrites hmoves).forward hrow
    refine ⟨row', hrow', ?_⟩
    rcases hcase with hconsuming | hfreed
    · exact (hstep.counts hconsuming).imp id fun hfreed =>
        hfreed.same (fun _ hpolicy => hpolicy) rfl
    · rw [hstep.frozen hfreed.idle]
      exact .inr (hfreed.same (fun _ hpolicy => hpolicy) rfl)
  | bindings | repairBound => exact ⟨row, hrow, hcase⟩
  | reserved _ _ _ _ _ hinsert =>
    exact ⟨row, get?_insert_of_some hinsert hrow, hcase⟩

theorem budgetStep_countsOrFreed (op : BudgetOp) (b : PrivateBudget)
    (hb : Budgeted b ∧ CountsOrFreed reservationId b) :
    Budgeted (budgetStep op b) ∧ CountsOrFreed reservationId (budgetStep op b) := by
  refine ⟨budgetStep_budgeted op b hb.1, ?_⟩
  refine budgetStep_keeps (P := CountsOrFreed reservationId) ?_
    (fun _ _ hmove hcounts => hmove.countsOrFreed hcounts) hb.2
  rintro _ _ hok ⟨row, hrow, hcase⟩
  obtain ⟨hsound, hstores⟩ := configureBudgetPolicy_stores hb.1.policies hok
  obtain ⟨_, heq⟩ := configureBudgetPolicy_policies hok
  rw [heq] at hsound hstores ⊢
  refine ⟨row, hrow, hcase.imp id fun hfreed => hfreed.same ?_ rfl⟩
  intro _ hbound
  obtain ⟨_, hwas⟩ := hb.1.backed row (mem_of_get? hrow)
  rw [reservationBudgetPolicy_backed hb.1.policies hwas] at hbound
  cases hbound
  exact reservationBudgetPolicy_backed hsound ⟨hwas.1, hstores _ _ _ hwas.2⟩

end Forward

section Current

/-- Every reservation is under the policy in force. -/
def UnderCurrent (b : PrivateBudget) : Prop :=
  ∀ row ∈ b.reservations.rows, ∀ policy,
    resolveBudgetPolicy b row.policyId = .ok policy →
      row.policyFingerprint = some policy.fingerprint

theorem BudgetMove.underCurrent (hmove : BudgetMove law b after)
    (hcurrent : UnderCurrent b) : UnderCurrent after := by
  cases hmove with
  | clocks | bindings | repairBound => exact hcurrent
  | reservations _ hmoves =>
    intro _ hrow' policy hpolicy
    obtain ⟨row, hrow, hstep⟩ := Table.exists_old hmoves hrow'
    obtain ⟨_, hid, _, hfingerprint⟩ := hstep.identity
    rw [hid] at hpolicy
    exact hfingerprint.trans (hcurrent row hrow policy hpolicy)
  | reserved _ _ _ hadmits _ hinsert =>
    intro other hother bound hbound
    rcases (mem_insert_iff hinsert).mp hother with hold | rfl
    · exact hcurrent other hold bound hbound
    · cases hadmits.resolved.symm.trans hbound
      exact hadmits.fingerprint

def BudgetOp.isConfiguration (op : BudgetOp) : Bool :=
  match op with
  | .configure _ => true
  | _ => false

theorem run_underCurrent {ops : List BudgetOp}
    (hfixed : ∀ op ∈ ops, op.isConfiguration = false)
    (hcurrent : UnderCurrent b) : UnderCurrent (run budgetStep b ops) := by
  induction ops generalizing b with
  | nil => exact hcurrent
  | cons op _ ih =>
    refine ih (fun other hother => hfixed other (mem_cons_of_mem _ hother))
      ?_
    refine budgetStep_keeps (P := UnderCurrent) ?_
      (fun _ _ hmove hb => hmove.underCurrent hb) hcurrent
    intro policy _ _ hcurrent
    rcases budgetStep_any op b with ⟨policy, _, rfl, _⟩ | htrace
    · cases hfixed (.configure policy) mem_cons_self
    · generalize budgetStep op b = after at htrace
      induction htrace with
      | refl => exact hcurrent
      | tail _ hlast ih => exact hlast.underCurrent ih

/-- Configuration admits nothing. -/
theorem run_configured_reservations (policies : List VersionedBudgetPolicy)
    (hnone : b.reservations.rows = []) :
    (run budgetStep b (policies.map .configure)).reservations.rows = [] := by
  induction policies generalizing b with
  | nil => exact hnone
  | cons _ _ ih =>
    refine ih ?_
    refine commit_preserves
      (P := fun b : PrivateBudget => b.reservations.rows = []) hnone ?_
    intro _ hok
    obtain ⟨_, hok⟩ := snd_ok.mp hok
    obtain ⟨_, rfl⟩ := configureBudgetPolicy_policies hok
    exact hnone

/-- What a window counts at the high-water time fits the policy that each of
its reservations was admitted under. -/
def WithinLimit (b : PrivateBudget) : Prop :=
  ∀ policyId clock, b.clocks.get? policyId = some clock → ∃ active,
    activeBudgetRows b policyId clock.lastPolicyNowMs = .ok active ∧
      ∀ row ∈ active, ∃ policy, reservationBudgetPolicy b row = .ok policy ∧
        (active.length : Int) ≤ policy.limit

/-- What a window counts at the high-water time fits the policy in force. -/
def WithinCurrentLimit (b : PrivateBudget) : Prop :=
  ∀ policyId clock, b.clocks.get? policyId = some clock → ∃ active,
    activeBudgetRows b policyId clock.lastPolicyNowMs = .ok active ∧
      ∀ policy, resolveBudgetPolicy b policyId = .ok policy →
        (active.length : Int) ≤ policy.limit

theorem Budgeted.withinLimit (hb : Budgeted b) : WithinLimit b := by
  intro policyId clock hclock
  refine ⟨_, hb.activeBudgetRows_eq policyId clock.lastPolicyNowMs, ?_⟩
  intro row hrow
  obtain ⟨policy, hbacked⟩ := hb.backed row (mem_counted.mp hrow).1
  exact ⟨policy, reservationBudgetPolicy_backed hb.policies hbacked,
    hb.capacity policyId clock hclock row hrow policy hbacked⟩

theorem Budgeted.withinCurrentLimit (hb : Budgeted b)
    (hcurrent : UnderCurrent b) : WithinCurrentLimit b := by
  intro policyId clock hclock
  refine ⟨_, hb.activeBudgetRows_eq policyId clock.lastPolicyNowMs, ?_⟩
  intro policy hpolicy
  cases hrows : counted b policyId clock.lastPolicyNowMs with
  | nil =>
    have hpositive := policy.valid.2.2.2.1
    simp only [length_nil]
    omega
  | cons row =>
    have hrow : row ∈ counted b policyId clock.lastPolicyNowMs := by
      rw [hrows]
      exact mem_cons_self
    obtain ⟨hstored, hid, _, _⟩ := mem_counted.mp hrow
    have hfingerprint := hcurrent row hstored policy (by rw [hid]; exact hpolicy)
    obtain ⟨stored, hmem, hsame, _, hread⟩ :=
      resolveBudgetPolicy_current hpolicy
    have hbacked : BackedBy b.policies row policy :=
      ⟨hfingerprint, stored, hmem, hsame.trans hid.symm,
        (snapshot_ok hread).2.symm, hread⟩
    rw [← hrows]
    exact hb.capacity policyId clock hclock row hrow policy hbacked

/-- Over every run, with any wall clock: what a window counts at the high-water
time fits the policy it was admitted under, and the policy in force when that
was configured before the run; the high-water time never decreases; and a
reservation that counts goes on counting until a proof that its dispatch did not
start, or the window, frees it. -/
theorem private_budget_capacity (ops : List BudgetOp) :
    WithinLimit (run budgetStep initialBudget ops) ∧
    (∀ configured : List VersionedBudgetPolicy,
      (∀ op ∈ ops, op.isConfiguration = false) →
        WithinCurrentLimit (run budgetStep initialBudget
          (configured.map .configure ++ ops))) ∧
    ∀ later : List BudgetOp,
      (∀ policyId clock,
        (run budgetStep initialBudget ops).clocks.get? policyId = some clock →
          HighWater policyId clock.lastPolicyNowMs
            (run budgetStep initialBudget (ops ++ later))) ∧
      ∀ reservationId row,
        (run budgetStep initialBudget ops).reservations.get? reservationId =
          some row → row.isConsuming = true →
          CountsOrFreed reservationId
            (run budgetStep initialBudget (ops ++ later)) := by
  have hbudgeted (ops : List BudgetOp) :
      Budgeted (run budgetStep initialBudget ops) :=
    run_preserves (P := Budgeted) budgetStep_budgeted initialBudget_budgeted ops
  refine ⟨(hbudgeted ops).withinLimit, ?_, fun later => ⟨?_, ?_⟩⟩
  · intro configured hfixed
    refine (hbudgeted _).withinCurrentLimit ?_
    rw [run_append]
    refine run_underCurrent hfixed ?_
    intro _ hrow
    rw [run_configured_reservations configured rfl] at hrow
    exact absurd hrow List.not_mem_nil
  · intro policyId clock hclock
    rw [run_append]
    exact run_preserves (P := HighWater policyId clock.lastPolicyNowMs)
      budgetStep_highWater ⟨clock, hclock, Int.le_refl _⟩ later
  · intro reservationId row hrow hconsuming
    rw [run_append]
    have hkept := run_preserves
      (P := fun b => Budgeted b ∧ CountsOrFreed reservationId b)
      budgetStep_countsOrFreed
      ⟨hbudgeted ops, row, hrow, Or.inl hconsuming⟩ later
    exact hkept.2

end Current

end Capacity

section Plain

attribute [local instance] plainHost

/-- Two reservations, the second one after the wall clock went back. -/
def reservedTwice : List BudgetOp :=
  [.reserve claimedWake
      { admissionId := "a", wakeId := "w", conversationId := "c"
        policyId := "ashley.private_thought.v1", wallClockNowMs := 5000 },
    .reserve claimedWake
      { admissionId := "b", wakeId := "w", conversationId := "c"
        policyId := "ashley.private_thought.v1", wallClockNowMs := 2000 },
    .markUnknown "private-reservation:u" 3000]

theorem private_budget_capacity_reserved_twice :
    (run budgetStep initialBudget reservedTwice).reservations.rows.map
        (fun row => (row.state, row.policyTimeMs)) =
        [(.reconcileRequired, 5000), (.held, 5000)] ∧
      WithinCurrentLimit (run budgetStep initialBudget reservedTwice) := by
  refine ⟨by decide +kernel,
    (private_budget_capacity reservedTwice).2.1 [] ?_⟩
  intro _ hop
  simp only [reservedTwice, List.mem_cons, List.not_mem_nil, or_false] at hop
  rcases hop with rfl | rfl | rfl <;> rfl

end Plain

end CognitiveSidecar
