/-
The read-only projection of the private budget: what it reports is what a fresh
admission at the same wall time would find.
-/
import CognitiveSidecar.PrivateCapacity

namespace CognitiveSidecar

open List Relational

inductive ProjectedClockState
  | stable | clockReconciliation | migrationEpochRequired
deriving DecidableEq

structure PrivateBudgetProjection where
  policyId : String
  (limit windowMs : Int)
  (policyTimeMs lowerBoundMs : Option Int)
  clockState : ProjectedClockState
  discrepancyMs : Option Int
  consumingCount : Nat
  remaining : Int
  stateCounts : PrivateReservationState → Nat

section Projection

variable [Host]

/-- The clock state by the rule of the write path; no clock row is a fresh
history only when nothing was reserved. -/
def projectedClockState (b : PrivateBudget) (policy : BudgetPolicySnapshot)
    (policyId : String) (wallClockNowMs : Int) : ProjectedClockState :=
  match b.clocks.get? policyId with
  | none =>
    if b.reservations.rows.any (·.policyId = policyId) then
      .clockReconciliation
    else .migrationEpochRequired
  | some clock =>
    if policy.clockDiscontinuityMs <
        clock.lastPolicyNowMs - wallClockNowMs then .clockReconciliation
    else .stable

/-- The rows that count at the projected policy time. -/
def projectedConsuming (b : PrivateBudget) (policy : BudgetPolicySnapshot)
    (policyId : String) : Option Int → BudgetOutcome Nat
  | none => pure 0
  | some policyTimeMs => do
    assertCurrentBudgetPolicy b policy policyTimeMs
    let active ← activeBudgetRows b policyId policyTimeMs
    pure active.length

/-- Read-only authoritative budget projection. -/
def getPrivateBudgetProjection (b : PrivateBudget) (policyId : String)
    (wallClockNowMs : Int) : BudgetOutcome PrivateBudgetProjection := do
  require (!blank policyId) .policyIdRequired
  require (0 ≤ wallClockNowMs) .timeInvalid
  let policy ← resolveBudgetPolicy b policyId
  let clock := b.clocks.get? policyId
  let policyTimeMs := clock.map fun clock =>
    max clock.lastPolicyNowMs wallClockNowMs
  let clockState := projectedClockState b policy policyId wallClockNowMs
  let consuming ← projectedConsuming b policy policyId policyTimeMs
  pure
    { policyId
      limit := policy.limit, windowMs := policy.windowMs, policyTimeMs
      lowerBoundMs := policyTimeMs.map (· - policy.windowMs), clockState
      discrepancyMs := clock.map fun clock =>
        (wallClockNowMs - clock.lastPolicyNowMs).natAbs
      consumingCount := consuming
      remaining := match clockState with
        | .clockReconciliation => 0
        | .migrationEpochRequired => policy.limit
        | .stable => max 0 (policy.limit - consuming)
      stateCounts := fun state => b.reservations.rows.countP fun row =>
        row.policyId = policyId && row.state = state }

/-- The projection reports room for an admission. -/
def PrivateBudgetProjection.hasRoom (projection : PrivateBudgetProjection) :
    Bool :=
  projection.clockState ≠ .clockReconciliation &&
    decide (0 < projection.remaining)

end Projection

section Identifiers

variable [Host] {law : BudgetLaw} {b after : PrivateBudget}

/-- Every reservation has an identifier that was drawn. -/
def ReservationsDrawn (b : PrivateBudget) : Prop :=
  ∀ row ∈ b.reservations.rows, ∃ drawn < b.uuidsDrawn,
    row.reservationId = "private-reservation:" ++ Host.randomUUID drawn

theorem ReservationMove.reservationId {row row' : PrivateBudgetReservation}
    (hmove : ReservationMove law b row row') :
    row'.reservationId = row.reservationId := hmove.identity.1

theorem BudgetMove.drawn (hmove : BudgetMove law b after)
    (hdrawn : ReservationsDrawn b) : ReservationsDrawn after := by
  cases hmove with
  | clocks | bindings => exact hdrawn
  | reservations _ hmoves =>
    intro _ hrow'
    obtain ⟨row, hrow, hstep⟩ := Table.exists_old hmoves hrow'
    rw [hstep.reservationId]
    exact hdrawn row hrow
  | reserved _ _ _ hadmits _ hinsert =>
    intro other hother
    rcases (mem_insert_iff hinsert).mp hother with hold | rfl
    · obtain ⟨drawn, hlt, hid⟩ := hdrawn other hold
      exact ⟨drawn, Nat.lt_succ_of_lt hlt, hid⟩
    · exact ⟨b.uuidsDrawn, Nat.lt_succ_self _, hadmits.identity⟩
  | repairBound =>
    intro other hother
    obtain ⟨drawn, hlt, hid⟩ := hdrawn other hother
    exact ⟨drawn, Nat.lt_succ_of_lt hlt, hid⟩

theorem BudgetTrace.drawn (htrace : BudgetTrace law b after)
    (hdrawn : ReservationsDrawn b) : ReservationsDrawn after := by
  induction htrace with
  | refl => exact hdrawn
  | tail _ hmove ih => exact hmove.drawn ih

theorem budgetStep_drawn (op : BudgetOp) (b : PrivateBudget)
    (hdrawn : ReservationsDrawn b) : ReservationsDrawn (budgetStep op b) := by
  refine budgetStep_keeps (P := ReservationsDrawn) (fun _ _ hok => ?_)
    (fun _ _ hmove => hmove.drawn) hdrawn
  obtain ⟨_, heq⟩ := configureBudgetPolicy_policies hok
  rw [heq]
  exact id

/-- The next identifier is not taken. -/
theorem ReservationsDrawn.fresh (hdrawn : ReservationsDrawn b) :
    b.reservations.get?
      ("private-reservation:" ++ Host.randomUUID b.uuidsDrawn) = none := by
  cases hget : b.reservations.get?
      ("private-reservation:" ++ Host.randomUUID b.uuidsDrawn) with
  | none => rfl
  | some row =>
    obtain ⟨_, _, hid⟩ := hdrawn row (mem_of_get? hget)
    have hkey : row.reservationId =
        "private-reservation:" ++ Host.randomUUID b.uuidsDrawn :=
      key_of_get? hget
    have hsame := Host.randomUUID_injective
      (String.append_right_inj _ |>.mp (hid.symm.trans hkey))
    omega

end Identifiers

section Admission

variable [Host] {b : PrivateBudget} {policy : BudgetPolicySnapshot}
variable {policyId : String} {wallClockNowMs : Int} {clock : PolicyClock}

section Update

variable {reservationId : String} {guard : PrivateBudgetReservation → Bool}
  {f : PrivateBudgetReservation → PrivateBudgetReservation}
  {hkey : ∀ row, key (f row) = key row}

omit [Host] in
theorem mem_updateReservation_of_ne {other : PrivateBudgetReservation}
    (hother : other ∈ b.reservations.rows)
    (hne : other.reservationId ≠ reservationId) :
    other ∈ (b.updateReservation reservationId guard f hkey).reservations.rows :=
  (@Table.mem_update_iff _ _ _ _ _ _ hkey _).mpr
    ⟨other, hother, by simp [hne]⟩

/-- Taking a row outside the window from the consuming ones changes nothing
that counts in it. -/
theorem counted_update {row : PrivateBudgetReservation} {policyTimeMs : Int}
    (hrow : row ∈ b.reservations.rows)
    (hgone : inWindow b policyTimeMs row = false)
    (hidle : ∀ stored, (f stored).isConsuming = false) :
    counted (b.updateReservation row.reservationId guard f hkey) policyId
      policyTimeMs = counted b policyId policyTimeMs := by
  refine @Table.filter_update _ _ _ _ _ _ _ hkey fun other hother hguard => ?_
  rw [Bool.and_eq_true, decide_eq_true_eq] at hguard
  have hsame : other = row :=
    inj_on_of_nodup_map b.reservations.keys_nodup hother hrow hguard.1
  constructor
  · change (_ && inWindow b policyTimeMs other) = false
    rw [hsame, hgone, Bool.and_false]
  · rw [hidle, Bool.and_false, Bool.false_and]

end Update

/-- The expiry of rows whose policies are stored succeeds, and what counts
stays; each turn leaves the rows of the later ones as they are. -/
theorem expireRows_counted {rows : List PrivateBudgetReservation}
    {policyTimeMs : Int} {expired : Nat} (policyId : String)
    (hrows : ∀ row ∈ rows, row ∈ b.reservations.rows ∧
      ∃ policy, reservationBudgetPolicy b row = .ok policy)
    (hnodup : (rows.map PrivateBudgetReservation.reservationId).Nodup) :
    ∃ counts after,
      eachOf (expireReservation policyTimeMs) (expired, b) rows =
        .ok (counts, after) ∧
      counted after policyId policyTimeMs = counted b policyId policyTimeMs := by
  induction rows generalizing b expired with
  | nil => exact ⟨expired, b, rfl, rfl⟩
  | cons row rest ih =>
    obtain ⟨hrow, policy, hpolicy⟩ := hrows row mem_cons_self
    rw [map_cons, nodup_cons] at hnodup
    by_cases hgone : row.policyTimeMs ≤ policyTimeMs - policy.windowMs
    · have hhead : expireReservation policyTimeMs (expired, b) row =
          .ok (expired + 1, b.updateReservation row.reservationId
            (fun _ => true) fun stored =>
              { stored with
                state := .expired, updatedAtMs := policyTimeMs }) := by
        unfold expireReservation
        rw [hpolicy, ok_bind, if_pos hgone]
        rfl
      have hout : inWindow b policyTimeMs row = false := by
        unfold inWindow
        rw [hpolicy]
        exact decide_eq_false (Int.not_lt.mpr hgone)
      have hothers : ∀ other ∈ rest, other ∈ (b.updateReservation
          row.reservationId (fun _ => true) fun stored =>
            { stored with state := .expired, updatedAtMs := policyTimeMs }
            ).reservations.rows ∧
          ∃ policy, reservationBudgetPolicy b other = .ok policy := by
        intro other hother
        obtain ⟨hstored, hbound⟩ := hrows other (mem_cons_of_mem _ hother)
        have hne : other.reservationId ≠ row.reservationId := fun heq =>
          hnodup.1 (heq ▸ mem_map_of_mem hother)
        exact ⟨mem_updateReservation_of_ne hstored hne, hbound⟩
      obtain ⟨counts, after, htail, hcounted⟩ := ih hothers hnodup.2
      refine ⟨counts, after, ?_, hcounted.trans
        (counted_update hrow hout fun _ => rfl)⟩
      rw [eachOf, hhead]
      exact htail
    · have hhead : expireReservation policyTimeMs (expired, b) row =
          .ok (expired, b) := by
        unfold expireReservation
        rw [hpolicy, ok_bind, if_neg hgone]
        rfl
      obtain ⟨counts, after, htail, hcounted⟩ := ih
        (fun other hother => hrows other (mem_cons_of_mem _ hother))
        hnodup.2
      refine ⟨counts, after, ?_, hcounted⟩
      rw [eachOf, hhead]
      exact htail

theorem Budgeted.expire (hb : Budgeted b) (policyId : String)
    (policyTimeMs : Int) :
    ∃ counts after, expireInTransaction b policyId policyTimeMs =
        .ok (counts, after) ∧
      counted after policyId policyTimeMs = counted b policyId policyTimeMs := by
  refine expireRows_counted policyId (fun row hrow => ?_) ?_
  · have hstored := (mem_filter.mp hrow).1
    obtain ⟨policy, hbacked⟩ := hb.backed row hstored
    exact ⟨hstored, policy, reservationBudgetPolicy_backed hb.policies hbacked⟩
  · exact b.reservations.keys_nodup.sublist (filter_sublist.map _)

/-- The rows that count are all under the policy, and fewer than its limit. -/
def HasCapacity (b : PrivateBudget) (policy : BudgetPolicySnapshot)
    (policyId : String) (policyTimeMs : Int) : Prop :=
  (∀ row ∈ counted b policyId policyTimeMs,
    row.policyFingerprint = some policy.fingerprint) ∧
  ((counted b policyId policyTimeMs).length : Int) < policy.limit

/-- The clock allows an admission at a wall time, and there is capacity for it;
without a clock, nothing has been reserved. -/
def HasRoom (b : PrivateBudget) (policy : BudgetPolicySnapshot)
    (policyId : String) (wallClockNowMs : Int) : Prop :=
  (b.clocks.get? policyId = none ∧
    ∀ row ∈ b.reservations.rows, row.policyId ≠ policyId) ∨
  ∃ clock, b.clocks.get? policyId = some clock ∧
    clock.lastPolicyNowMs - wallClockNowMs ≤ policy.clockDiscontinuityMs ∧
    HasCapacity b policy policyId (max clock.lastPolicyNowMs wallClockNowMs)

theorem resolved_columns (hpolicy : resolveBudgetPolicy b policyId = .ok policy) :
    policy.policyId = policyId ∧
      Stores b.policies policyId policy.fingerprint policy := by
  obtain ⟨row, hrow, hid, _, hread⟩ := resolveBudgetPolicy_current hpolicy
  obtain ⟨hcolumns, hfingerprint⟩ := snapshot_ok hread
  refine ⟨?_, row, hrow, hid, hfingerprint.symm, hread⟩
  rw [congrArg VersionedBudgetPolicy.policyId hcolumns]
  exact hid

theorem assertCurrentBudgetPolicy_ok (hb : Budgeted b) {policyTimeMs : Int} :
    assertCurrentBudgetPolicy b policy policyTimeMs = .ok () ↔
      ∀ row ∈ counted b policy.policyId policyTimeMs,
        row.policyFingerprint = some policy.fingerprint := by
  unfold assertCurrentBudgetPolicy
  rw [hb.activeBudgetRows_eq]
  exact require_ok

/-- The clock of a policy after an observation, when the policy is current. -/
theorem advancePolicyClock_current (hb : Budgeted b)
    (hnamed : blank policyId = false) (hwall : 0 ≤ wallClockNowMs)
    (hpolicy : resolveBudgetPolicy b policyId = .ok policy)
    (hclock : b.clocks.get? policyId = some clock) :
    ∃ clocks, advancePolicyClock b policyId wallClockNowMs
        (some policy.fingerprint) =
      .ok (computePolicyTime clock.lastPolicyNowMs wallClockNowMs
        policy.clockDiscontinuityMs, { b with clocks }) := by
  have hbound := resolveBudgetPolicy_bound hb.policies
    (resolved_columns hpolicy).2
  unfold advancePolicyClock
  rw [require_pos (by simp [hnamed]), require_pos hwall, hclock, hbound]
  exact ⟨_, rfl⟩

/-- An admission against a stored clock reserves exactly when there is room. -/
theorem reserveAgainstClock_reserves (hb : Budgeted b)
    (hdrawn : ReservationsDrawn b) {input : PrivateAdmissionInput}
    {clock : PolicyClock} (hnamed : blank input.policyId = false)
    (hwall : 0 ≤ input.wallClockNowMs)
    (hpolicy : resolveBudgetPolicy b input.policyId = .ok policy)
    (hclock : b.clocks.get? input.policyId = some clock) :
    (∃ row remaining after, reserveAgainstClock b policy input =
        .ok (.reserved row remaining, after)) ↔
      clock.lastPolicyNowMs - input.wallClockNowMs ≤
          policy.clockDiscontinuityMs ∧
        HasCapacity b policy input.policyId
          (max clock.lastPolicyNowMs input.wallClockNowMs) := by
  obtain ⟨clocks, hadvance⟩ :=
    advancePolicyClock_current hb hnamed hwall hpolicy hclock
  obtain ⟨_, hsame, hforward, hstored⟩ := advancePolicyClock_ok hadvance
  have hbudgeted : Budgeted { b with clocks } := by
    rw [hsame]
    exact hb.clocks hforward
  have hdrawn' : ReservationsDrawn { b with clocks } := hdrawn
  unfold reserveAgainstClock
  rw [hadvance, ok_bind]
  dsimp only
  generalize htime : max clock.lastPolicyNowMs input.wallClockNowMs =
    policyTimeMs
  have hpolicyTime : (computePolicyTime clock.lastPolicyNowMs
      input.wallClockNowMs policy.clockDiscontinuityMs).policyTimeMs =
        policyTimeMs := htime
  rw [hpolicyTime]
  by_cases hback : clock.lastPolicyNowMs - input.wallClockNowMs ≤
      policy.clockDiscontinuityMs
  case neg =>
    have hstate : (computePolicyTime clock.lastPolicyNowMs
        input.wallClockNowMs policy.clockDiscontinuityMs).state ≠ .stable := by
      unfold computePolicyTime
      rw [if_pos (Int.not_le.mp hback)]
      exact fun heq => by cases heq
    rw [if_pos hstate]
    constructor
    · rintro ⟨_, _, _, hok⟩
      cases hok
    · exact fun hroom => absurd hroom.1 hback
  have hstate : ¬ (computePolicyTime clock.lastPolicyNowMs
      input.wallClockNowMs policy.clockDiscontinuityMs).state ≠ .stable := by
    unfold computePolicyTime
    rw [if_neg (Int.not_lt.mpr hback)]
    exact not_not_intro rfl
  rw [if_neg hstate]
  have hcurrent := @assertCurrentBudgetPolicy_ok _ _ policy hbudgeted
    policyTimeMs
  rw [(resolved_columns hpolicy).1] at hcurrent
  obtain ⟨_, after, hexpire, hcounted⟩ :=
      hbudgeted.expire input.policyId policyTimeMs
  obtain ⟨htrace, hexpires⟩ := expireInTransaction_ok anyWrite
    (by rw [← hpolicyTime]; exact hsame ▸ hstored) hexpire
  have hafter : Budgeted after := by
    clear hexpire hcounted hexpires
    induction htrace with
    | refl => exact hbudgeted
    | tail _ hmove ih => exact hmove.budgeted ih
  have hinserts : ∀ row : PrivateBudgetReservation, row.reservationId =
      "private-reservation:" ++ Host.randomUUID after.uuidsDrawn →
      ∃ reservations, after.reservations.insert? row = some reservations := by
    intro row hid
    refine exists_insert? ?_
    change after.reservations.get? row.reservationId = none
    rw [hid]
    exact (htrace.drawn hdrawn').fresh
  have hsameCount : counted after input.policyId policyTimeMs =
      counted b input.policyId policyTimeMs := hcounted
  have hactive := hafter.activeBudgetRows_eq input.policyId policyTimeMs
  rw [hsameCount] at hactive
  constructor
  · rintro ⟨_, _, _, hok⟩
    obtain ⟨_, hassert, hok⟩ := of_bind hok
    rw [hexpire, ok_bind] at hok
    rw [hactive, ok_bind] at hok
    refine ⟨hback, hcurrent.mp hassert, ?_⟩
    split at hok
    · cases hok
    · rename_i hroom
      exact Int.not_le.mp hroom
  · rintro ⟨_, hunder, hroom⟩
    rw [hcurrent.mpr hunder, ok_bind, hexpire, ok_bind]
    rw [hactive, ok_bind, if_neg (Int.not_le.mpr hroom)]
    exact ⟨_, _, _, orFault_bind_ok.mpr
      ⟨_, (hinserts _ rfl).choose_spec, rfl⟩⟩

/-- An admission that was not tried before, on a wake that can be dispatched. -/
structure FreshAdmission (b : PrivateBudget) (db : Sidecar)
    (input : PrivateAdmissionInput) : Prop where
  admission : blank input.admissionId = false
  wake : blank input.wakeId = false
  conversation : blank input.conversationId = false
  fresh : ∀ row ∈ b.reservations.rows, row.admissionId ≠ input.admissionId
  dispatchable : ∃ wake, db.wakes.get? input.wakeId = some wake ∧
    wake.conversationId = input.conversationId ∧ wake.state ≠ .terminal ∧
      wake.state ≠ .reconciling ∧ wake.state ≠ .consequencePending

/-- The policy is configured, the wall time is valid, and there is room. -/
def Admissible (b : PrivateBudget) (policyId : String)
    (wallClockNowMs : Int) : Prop :=
  blank policyId = false ∧ 0 ≤ wallClockNowMs ∧
    ∃ policy, resolveBudgetPolicy b policyId = .ok policy ∧
      HasRoom b policy policyId wallClockNowMs

theorem HasRoom.of_clock (hclock : b.clocks.get? policyId = some clock) :
    HasRoom b policy policyId wallClockNowMs ↔
      clock.lastPolicyNowMs - wallClockNowMs ≤ policy.clockDiscontinuityMs ∧
        HasCapacity b policy policyId
          (max clock.lastPolicyNowMs wallClockNowMs) := by
  constructor
  · rintro (⟨hnone, _⟩ | ⟨_, hother, hroom⟩)
    · rw [hclock] at hnone
      cases hnone
    · rw [hclock] at hother
      cases hother
      exact hroom
  · exact fun hroom => .inr ⟨clock, hclock, hroom⟩

theorem HasRoom.of_no_clock (hclock : b.clocks.get? policyId = none) :
    HasRoom b policy policyId wallClockNowMs ↔
      ∀ row ∈ b.reservations.rows, row.policyId ≠ policyId := by
  constructor
  · rintro (⟨_, hnone⟩ | ⟨_, hother, _⟩)
    · exact hnone
    · rw [hclock] at hother
      cases hother
  · exact fun hnone => .inl ⟨hclock, hnone⟩

/-- Without reservations of a policy there is capacity at any time. -/
theorem hasCapacity_of_none {policyId : String}
    (hnone : ∀ row ∈ b.reservations.rows, row.policyId ≠ policyId)
    (policyTimeMs : Int) : HasCapacity b policy policyId policyTimeMs := by
  have hempty : counted b policyId policyTimeMs = [] := by
    refine filter_eq_nil_iff.mpr fun row hrow => ?_
    simp [hnone row hrow]
  unfold HasCapacity
  rw [hempty]
  refine ⟨fun _ hrow => absurd hrow not_mem_nil, ?_⟩
  have hlimit := policy.valid.2.2.2.1
  change (0 : Int) < policy.limit
  omega

/-- A fresh admission reserves exactly when there is room for it. -/
theorem reservePrivateThought_reserves (hb : Budgeted b)
    (hdrawn : ReservationsDrawn b) {db : Sidecar}
    {input : PrivateAdmissionInput} (hfresh : FreshAdmission b db input) :
    (∃ row remaining after, reservePrivateThought b db input =
        .ok (.reserved row remaining, after)) ↔
      Admissible b input.policyId input.wallClockNowMs := by
  obtain ⟨_, hwake, hsame, hterminal, hreconciling, hpending⟩ :=
      hfresh.dispatchable
  have hverified : verifyWakeForAdmission db input = .ok () := by
    unfold verifyWakeForAdmission
    rw [hwake, orFault_some, ok_bind, require_pos hsame, ok_bind]
    exact require_pos ⟨hterminal, hreconciling, hpending⟩ _
  have hfind : b.reservations.rows.find?
      (·.admissionId = input.admissionId) = none := by
    refine List.find?_eq_none.mpr fun row hrow => ?_
    simpa using hfresh.fresh row hrow
  have hvalidated : validateAdmission input = .ok () ↔
      blank input.policyId = false ∧ 0 ≤ input.wallClockNowMs := by
    unfold validateAdmission
    rw [require_pos (by simp [hfresh.admission]), ok_bind,
      require_pos (by simp [hfresh.wake]), ok_bind,
      require_pos (by simp [hfresh.conversation]), ok_bind, require_bind_ok]
    refine and_congr ?_ require_ok
    simp
  unfold reservePrivateThought Admissible
  rw [hfind]
  dsimp only
  constructor
  · rintro ⟨row, remaining, after, hok⟩
    obtain ⟨_, hvalid, hok⟩ := of_bind hok
    obtain ⟨hnamed, hwall⟩ := hvalidated.mp hvalid
    obtain ⟨policy, hpolicy, hok⟩ := of_bind hok
    refine ⟨hnamed, hwall, policy, hpolicy, ?_⟩
    rw [hverified] at hok
    cases hclock : b.clocks.get? input.policyId with
    | some =>
      rw [hclock] at hok
      exact (HasRoom.of_clock hclock).mpr
        ((reserveAgainstClock_reserves hb hdrawn hnamed hwall hpolicy
          hclock).mp ⟨row, remaining, after, hok⟩)
    | none =>
      rw [hclock] at hok
      dsimp only at hok
      split at hok
      · cases hok
      · rename_i hnone
        refine (HasRoom.of_no_clock hclock).mpr fun other hother hid => ?_
        exact hnone (any_eq_true.mpr ⟨other, hother, by simpa using hid⟩)
  · rintro ⟨hnamed, hwall, policy, hpolicy, hroom⟩
    rw [hvalidated.mpr ⟨hnamed, hwall⟩, ok_bind, hpolicy, ok_bind, hverified,
      ok_bind]
    cases hclock : b.clocks.get? input.policyId with
    | some =>
      exact (reserveAgainstClock_reserves hb hdrawn hnamed hwall hpolicy
        hclock).mpr ((HasRoom.of_clock hclock).mp hroom)
    | none =>
      have hnone := (HasRoom.of_no_clock hclock).mp hroom
      have hany : ¬ (b.reservations.rows.any
          (·.policyId = input.policyId)) = true := by
        intro hany
        obtain ⟨row, hrow, hid⟩ := any_eq_true.mp hany
        exact hnone row hrow (by simpa using hid)
      dsimp only
      rw [if_neg hany]
      have hinserts : ∀ clock : PolicyClock,
          clock.policyId = input.policyId → ∃ clocks,
            b.clocks.insert? clock = some clocks := by
        intro clock hid
        refine exists_insert? ?_
        change b.clocks.get? clock.policyId = none
        rw [hid]
        exact hclock
      obtain ⟨clocks, hinsert⟩ := hinserts
        { policyId := input.policyId, lastPolicyNowMs := input.wallClockNowMs
          clockState := .stable, discrepancyMs := 0, reconciledAtMs := none
          reconciliationRef := none } rfl
      have hstored : clocks.get? input.policyId = some
          { policyId := input.policyId, lastPolicyNowMs := input.wallClockNowMs
            clockState := .stable, discrepancyMs := 0, reconciledAtMs := none
            reconciliationRef := none } := by
        rw [get?_insert hinsert]
        exact if_pos rfl
      have hbudgeted : Budgeted { b with clocks } := by
        refine hb.clocks fun _ clock hold => ?_
        exact ⟨clock, get?_insert_of_some hinsert hold, Int.le_refl _⟩
      rw [hinsert]
      refine (@reserveAgainstClock_reserves _ { b with clocks } policy
        hbudgeted hdrawn input _ hnamed hwall hpolicy hstored).mpr ⟨?_, ?_⟩
      · have hnonneg := policy.valid.2.2.2.2.2
        change input.wallClockNowMs - input.wallClockNowMs ≤
          policy.clockDiscontinuityMs
        omega
      · exact @hasCapacity_of_none _ { b with clocks } policy _ hnone _

/-- The projection reports room exactly when there is room. -/
theorem projection_hasRoom (hb : Budgeted b) (policyId : String)
    (wallClockNowMs : Int) :
    (∃ projection, getPrivateBudgetProjection b policyId wallClockNowMs =
        .ok projection ∧ projection.hasRoom = true) ↔
      Admissible b policyId wallClockNowMs := by
  constructor
  · rintro ⟨_, hok, hroom⟩
    obtain ⟨hnamed, hok⟩ := of_require hok
    obtain ⟨hwall, hok⟩ := of_require hok
    obtain ⟨policy, hpolicy, hok⟩ := of_bind hok
    obtain ⟨_, hconsuming, hok⟩ := of_bind hok
    refine ⟨by simpa using hnamed, hwall, policy, hpolicy, ?_⟩
    cases of_pure hok
    unfold PrivateBudgetProjection.hasRoom projectedClockState at hroom
    cases hclock : b.clocks.get? policyId with
    | none =>
      simp only [hclock] at hroom
      refine (HasRoom.of_no_clock hclock).mpr fun row hrow hid => ?_
      have hany : (b.reservations.rows.any
          (·.policyId = policyId)) = true :=
        any_eq_true.mpr ⟨row, hrow, by simpa using hid⟩
      simp [hany] at hroom
    | some =>
      simp only [hclock] at hroom hconsuming
      obtain ⟨_, hassert, hconsuming⟩ := of_bind hconsuming
      rw [hb.activeBudgetRows_eq] at hconsuming
      cases of_pure hconsuming
      have hunder := (assertCurrentBudgetPolicy_ok hb).mp hassert
      rw [(resolved_columns hpolicy).1] at hunder
      refine (HasRoom.of_clock hclock).mpr ⟨?_, hunder, ?_⟩
      · by_contra hback
        rw [if_pos (Int.not_le.mp hback)] at hroom
        simp at hroom
      · split at hroom
        · simp at hroom
        · simp only [Bool.and_eq_true, decide_eq_true_eq] at hroom
          omega
  · rintro ⟨hnamed, hwall, policy, hpolicy, hroom⟩
    unfold getPrivateBudgetProjection
    rw [require_pos (by simp [hnamed]), ok_bind, require_pos hwall, ok_bind,
      hpolicy, ok_bind]
    unfold PrivateBudgetProjection.hasRoom projectedClockState
    cases hclock : b.clocks.get? policyId with
    | none =>
      have hnone := (HasRoom.of_no_clock hclock).mp hroom
      have hany : ¬ (b.reservations.rows.any
          (·.policyId = policyId)) = true := by
        intro hany
        obtain ⟨row, hrow, hid⟩ := any_eq_true.mp hany
        exact hnone row hrow (by simpa using hid)
      refine ⟨_, rfl, ?_⟩
      have hlimit := policy.valid.2.2.2.1
      simp only [if_neg hany, Bool.and_eq_true, decide_eq_true_eq]
      exact ⟨by decide, by omega⟩
    | some clock =>
      obtain ⟨hback, hunder, _⟩ := (HasRoom.of_clock hclock).mp hroom
      have hassert : assertCurrentBudgetPolicy b policy
          (max clock.lastPolicyNowMs wallClockNowMs) = .ok () := by
        refine (assertCurrentBudgetPolicy_ok hb).mpr ?_
        rw [(resolved_columns hpolicy).1]
        exact hunder
      dsimp only [Option.map_some, projectedConsuming]
      rw [hassert, hb.activeBudgetRows_eq]
      refine ⟨_, rfl, ?_⟩
      simp only [if_neg (Int.not_lt.mpr hback), Bool.and_eq_true,
        decide_eq_true_eq]
      exact ⟨by decide, by omega⟩

/-- In every reachable state, for every policy and wall time, the projection
reports remaining capacity and no clock reconciliation exactly when a fresh
admission on a dispatchable wake would reserve. -/
theorem projection_agrees (ops : List BudgetOp) (db : Sidecar)
    (input : PrivateAdmissionInput)
    (hfresh : FreshAdmission (run budgetStep initialBudget ops) db input) :
    (∃ projection, getPrivateBudgetProjection
        (run budgetStep initialBudget ops) input.policyId
          input.wallClockNowMs = .ok projection ∧
        projection.clockState ≠ .clockReconciliation ∧
        0 < projection.remaining) ↔
      ∃ row remaining after, reservePrivateThought
        (run budgetStep initialBudget ops) db input =
          .ok (.reserved row remaining, after) := by
  have hb : Budgeted (run budgetStep initialBudget ops) :=
    run_preserves (P := Budgeted) budgetStep_budgeted initialBudget_budgeted ops
  have hdrawn : ReservationsDrawn (run budgetStep initialBudget ops) :=
    run_preserves (P := ReservationsDrawn) budgetStep_drawn
      (fun _ hrow => absurd hrow List.not_mem_nil) ops
  rw [reservePrivateThought_reserves hb hdrawn hfresh, ← projection_hasRoom hb]
  unfold PrivateBudgetProjection.hasRoom
  simp only [Bool.and_eq_true, decide_eq_true_eq]

end Admission

section Example

attribute [local instance] plainHost

def laterAdmission : PrivateAdmissionInput :=
  { admissionId := "c", wakeId := "w", conversationId := "c"
    policyId := "ashley.private_thought.v1", wallClockNowMs := 4000 }

/-- After two reservations the projection has room left, so a third one is
made. -/
theorem projection_agrees_reserved_twice :
    ∃ row remaining after, reservePrivateThought
      (run budgetStep initialBudget reservedTwice) claimedWake
        laterAdmission = .ok (.reserved row remaining, after) := by
  refine (projection_agrees reservedTwice claimedWake laterAdmission
    ⟨by decide, by decide, by decide, by decide +kernel,
      ⟨_, rfl, by decide, by decide, by decide, by decide⟩⟩).mp ?_
  have hprojected : (getPrivateBudgetProjection
      (run budgetStep initialBudget reservedTwice) laterAdmission.policyId
        laterAdmission.wallClockNowMs).toOption.map
          (fun projection => (projection.clockState, projection.remaining)) =
      some (.stable, 10) := by
    decide +kernel
  cases hresult : getPrivateBudgetProjection
      (run budgetStep initialBudget reservedTwice) laterAdmission.policyId
        laterAdmission.wallClockNowMs with
  | error =>
    rw [hresult] at hprojected
    cases hprojected
  | ok projection =>
    rw [hresult] at hprojected
    obtain ⟨hstate, hremaining⟩ :=
      Prod.mk.inj (Option.some.inj hprojected)
    exact ⟨projection, rfl, by rw [hstate]; decide, by rw [hremaining]; decide⟩

end Example

end CognitiveSidecar
