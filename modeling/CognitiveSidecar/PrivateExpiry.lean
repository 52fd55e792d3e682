/-
Expiry of the private budget row by row: what the expiry of one policy makes of
its clock and of its reservations, and the expiry of every policy in turn.
-/
import CognitiveSidecar.Lib.Loop
import CognitiveSidecar.Lib.Order
import CognitiveSidecar.PrivateProjection

namespace CognitiveSidecar

open Option List Relational

section Expiry

variable [Host]

/-- The row when its window has passed at a policy time. -/
def PrivateBudgetReservation.expiredAt (row : PrivateBudgetReservation)
    (policyTimeMs : Int) : PrivateBudgetReservation :=
  { row with state := .expired, updatedAtMs := policyTimeMs }

/-- The policy of an expiry is named and in force, at a time of the epoch. -/
def observes (policies : Table BudgetPolicyRow) (nowMs : Int)
    (policyId : String) : Bool :=
  decide (0 ≤ nowMs) && !blank policyId &&
    (resolveBudgetPolicy { policies } policyId).isOk

/-- A clock that has made an observation. -/
def PolicyClock.observed (clock : PolicyClock) (time : PolicyTime) :
    PolicyClock :=
  { clock with
    lastPolicyNowMs := time.policyTimeMs, clockState := time.state
    discrepancyMs := time.discrepancyMs }

/-- What expiry makes of a clock. -/
def observedClock (policies : Table BudgetPolicyRow) (nowMs : Int)
    (clock : PolicyClock) : PolicyClock :=
  match resolveBudgetPolicy { policies } clock.policyId with
  | .ok policy =>
    if observes policies nowMs clock.policyId then
      clock.observed (computePolicyTime clock.lastPolicyNowMs nowMs
        policy.clockDiscontinuityMs)
    else clock
  | .error _ => clock

/-- The policy time at which a policy expires its rows. -/
def expiryTime (b : PrivateBudget) (nowMs : Int) (policyId : String) :
    Option Int :=
  ((b.clocks.get? policyId).filter fun _ =>
    observes b.policies nowMs policyId).map fun clock =>
      max clock.lastPolicyNowMs nowMs

/-- What expiry at a policy time makes of a reservation. -/
def expiredIfGone (b : PrivateBudget) (policyTimeMs : Int)
    (row : PrivateBudgetReservation) : PrivateBudgetReservation :=
  if row.isConsuming && !inWindow b policyTimeMs row then
    row.expiredAt policyTimeMs
  else row

/-- What the expiry of its policy makes of a reservation. -/
def expiredReservation (b : PrivateBudget) (nowMs : Int)
    (row : PrivateBudgetReservation) : PrivateBudgetReservation :=
  match expiryTime b nowMs row.policyId with
  | some policyTimeMs => expiredIfGone b policyTimeMs row
  | none => row

/-- The tables that the expiry of reservations leaves as they are. -/
structure RewritesReservations (b after : PrivateBudget)
    (f : PrivateBudgetReservation → PrivateBudgetReservation) : Prop where
  policies : after.policies = b.policies
  clocks : after.clocks = b.clocks
  bindings : after.bindings = b.bindings
  uuidsDrawn : after.uuidsDrawn = b.uuidsDrawn
  reservations : Table.MapsTo f b.reservations after.reservations

variable {b after : PrivateBudget} {row : PrivateBudgetReservation}
  {policyTimeMs nowMs : Int} {policyId : String}

variable {policies : Table BudgetPolicyRow} {clock : PolicyClock}

/-- The expiry of listed rows whose policies are stored rewrites them and no
other; each turn leaves the rows of the later ones as they are. -/
theorem expireRows_rewrites {rows : List PrivateBudgetReservation}
    {expired : Nat}
    (hrows : ∀ row ∈ rows, row ∈ b.reservations.rows ∧
      ∃ policy, reservationBudgetPolicy b row = .ok policy)
    (hnodup : (rows.map PrivateBudgetReservation.reservationId).Nodup) :
    ∃ counts after,
      eachOf (expireReservation policyTimeMs) (expired, b) rows =
        .ok (counts, after) ∧
      RewritesReservations b after fun row =>
        if row ∈ rows ∧ inWindow b policyTimeMs row = false then
          row.expiredAt policyTimeMs
        else row := by
  induction rows generalizing b expired with
  | nil =>
    refine ⟨expired, b, rfl, rfl, rfl, rfl, rfl, .of_id fun row _ => ?_⟩
    exact if_neg fun hall => not_mem_nil hall.1
  | cons row rest ih =>
    obtain ⟨hrow, policy, hpolicy⟩ := hrows row mem_cons_self
    rw [map_cons, nodup_cons] at hnodup
    have hother : ∀ other ∈ rest, other.reservationId ≠ row.reservationId :=
      fun other hother heq => hnodup.1 (heq ▸ List.mem_map_of_mem hother)
    have hwindow : inWindow b policyTimeMs row =
        decide (policyTimeMs - policy.windowMs < row.policyTimeMs) := by
      unfold inWindow
      rw [hpolicy]
    by_cases hgone : row.policyTimeMs ≤ policyTimeMs - policy.windowMs
    case neg =>
      have hhead : expireReservation policyTimeMs (expired, b) row =
          .ok (expired, b) := by
        unfold expireReservation
        dsimp only
        rw [hpolicy, ok_bind, if_neg hgone]
        rfl
      obtain ⟨counts, after, htail, hrewrites⟩ := ih
        (fun other hother => hrows other (mem_cons_of_mem _ hother))
        hnodup.2
      refine ⟨counts, after, ?_, hrewrites.policies, hrewrites.clocks,
        hrewrites.bindings, hrewrites.uuidsDrawn,
        hrewrites.reservations.congr fun other _ => ?_⟩
      · rw [eachOf, hhead, ok_bind]
        exact htail
      · refine if_congr ⟨fun hall => ⟨mem_cons_of_mem _ hall.1, hall.2⟩,
          fun hall => ⟨?_, hall.2⟩⟩ rfl rfl
        rcases mem_cons.mp hall.1 with rfl | hrest
        · rw [hwindow, decide_eq_false_iff_not] at hall
          exact absurd (Int.not_lt.mp hall.2) hgone
        · exact hrest
    have hhead : expireReservation policyTimeMs (expired, b) row =
        .ok (expired + 1, b.updateReservation row.reservationId
          (fun _ => true) fun stored => stored.expiredAt policyTimeMs) := by
      unfold expireReservation
      dsimp only
      rw [hpolicy, ok_bind, if_pos hgone]
      rfl
    have hmaps : Table.MapsTo (fun stored =>
        if stored.reservationId = row.reservationId then
          stored.expiredAt policyTimeMs
        else stored) b.reservations (b.updateReservation row.reservationId
          (fun _ => true) fun stored =>
            stored.expiredAt policyTimeMs).reservations := by
      have hupdate := @Table.MapsTo.update _ _ _ _
        (fun stored => stored.expiredAt policyTimeMs) b.reservations
        (fun stored => decide (stored.reservationId = row.reservationId) &&
          true) fun _ => rfl
      exact hupdate.congr fun stored _ => by simp
    obtain ⟨counts, after, htail, hrewrites⟩ := @ih
      (b.updateReservation row.reservationId (fun _ => true) fun stored =>
        stored.expiredAt policyTimeMs) (expired + 1) (by
        intro other hmem
        obtain ⟨hstored, hbound⟩ := hrows other (mem_cons_of_mem _ hmem)
        exact ⟨mem_updateReservation_of_ne hstored (hother other hmem),
          hbound⟩) hnodup.2
    refine ⟨counts, after, ?_, hrewrites.policies, hrewrites.clocks,
      hrewrites.bindings, hrewrites.uuidsDrawn,
      (hmaps.trans hrewrites.reservations).congr fun other hstored => ?_⟩
    · rw [eachOf, hhead, ok_bind]
      exact htail
    · dsimp only [Function.comp_apply]
      by_cases hsame : other.reservationId = row.reservationId
      · obtain rfl : other = row :=
          inj_on_of_nodup_map b.reservations.keys_nodup hstored hrow hsame
        have hout : other.expiredAt policyTimeMs ∉ rest := fun hmem =>
          hother _ hmem rfl
        rw [if_pos hsame, if_neg fun hall => hout hall.1, if_pos]
        refine ⟨mem_cons_self, ?_⟩
        rw [hwindow]
        exact decide_eq_false (Int.not_lt.mpr hgone)
      · rw [if_neg hsame]
        refine if_congr ⟨fun hall => ⟨mem_cons_of_mem _ hall.1, hall.2⟩,
          fun hall => ⟨?_, hall.2⟩⟩ rfl rfl
        rcases mem_cons.mp hall.1 with rfl | hrest
        · exact absurd rfl hsame
        · exact hrest

/-- The expiry of a policy in a budgeted state. -/
theorem Budgeted.expireInTransaction_rewrites (hb : Budgeted b)
    (policyId : String) (policyTimeMs : Int) :
    ∃ counts after, expireInTransaction b policyId policyTimeMs =
        .ok (counts, after) ∧
      RewritesReservations b after fun row =>
        if row.policyId = policyId then expiredIfGone b policyTimeMs row
        else row := by
  obtain ⟨counts, after, hok, hrewrites⟩ := @expireRows_rewrites _ b
    policyTimeMs (b.reservations.rows.filter fun row =>
      row.policyId = policyId && row.isConsuming) 0 (by
      intro row hrow
      have hstored := (mem_filter.mp hrow).1
      obtain ⟨policy, hbacked⟩ := hb.backed row hstored
      exact ⟨hstored, policy,
        reservationBudgetPolicy_backed hb.policies hbacked⟩)
    (b.reservations.keys_nodup.sublist (filter_sublist.map _))
  refine ⟨counts, after, hok, hrewrites.policies, hrewrites.clocks,
    hrewrites.bindings, hrewrites.uuidsDrawn,
    hrewrites.reservations.congr fun row hrow => ?_⟩
  unfold expiredIfGone
  by_cases hid : row.policyId = policyId
  · rw [if_pos hid]
    refine if_congr ?_ rfl rfl
    simp [mem_filter, hrow, hid]
  · rw [if_neg hid, if_neg]
    rintro ⟨hmem, _⟩
    simp [mem_filter, hid] at hmem

theorem observes_iff :
    observes b.policies nowMs policyId = true ↔ 0 ≤ nowMs ∧
      blank policyId = false ∧
        ∃ policy, resolveBudgetPolicy b policyId = .ok policy := by
  have hread := @resolveBudgetPolicy_congr _ { policies := b.policies } b rfl
    policyId none
  unfold observes
  rw [← hread]
  cases resolveBudgetPolicy b policyId with
  | error fault | ok => simp [Except.isOk, Except.toBool]

theorem observedClock_eq {clock : PolicyClock} {policy : BudgetPolicySnapshot}
    (hobserves : observes b.policies nowMs clock.policyId = true)
    (hpolicy : resolveBudgetPolicy b clock.policyId = .ok policy) :
    observedClock b.policies nowMs clock = clock.observed
      (computePolicyTime clock.lastPolicyNowMs nowMs
        policy.clockDiscontinuityMs) := by
  have hread := @resolveBudgetPolicy_congr _ { policies := b.policies } b rfl
    clock.policyId none
  unfold observedClock
  rw [← hread, hpolicy]
  exact if_pos hobserves

theorem observedClock_of_not
    (hnot : observes policies nowMs clock.policyId = false) :
    observedClock policies nowMs clock = clock := by
  unfold observedClock
  split
  · rw [if_neg (Bool.eq_false_iff.mp hnot)]
  · rfl

theorem expiryTime_eq (hclock : b.clocks.get? policyId = some clock)
    (hobserves : observes b.policies nowMs policyId = true) :
    expiryTime b nowMs policyId = some (max clock.lastPolicyNowMs nowMs) := by
  unfold expiryTime
  rw [hclock, filter_some, if_pos hobserves, map_some]

theorem expiryTime_of_not (hnot : observes b.policies nowMs policyId = false) :
    expiryTime b nowMs policyId = none := by
  unfold expiryTime
  rw [map_eq_none_iff, filter_eq_none_iff]
  intro _ _ hobserves
  rw [hnot] at hobserves
  cases hobserves

/-- The clocks and the reservations are rewritten, and nothing else. -/
structure RewritesClocked (b after : PrivateBudget)
    (f : PolicyClock → PolicyClock)
    (g : PrivateBudgetReservation → PrivateBudgetReservation) : Prop where
  policies : after.policies = b.policies
  bindings : after.bindings = b.bindings
  uuidsDrawn : after.uuidsDrawn = b.uuidsDrawn
  clocks : Table.MapsTo f b.clocks after.clocks
  reservations : Table.MapsTo g b.reservations after.reservations

/-- Expiry of one policy rewrites its clock and its reservations. -/
theorem recoverPolicy_rewrites {reached : PrivateRecoveryState}
    (hb : Budgeted reached.2) :
    RewritesClocked reached.2 (recoverPolicy nowMs policyId reached).2
      (fun clock =>
        if clock.policyId = policyId then
          observedClock reached.2.policies nowMs clock
        else clock)
      fun row =>
        if row.policyId = policyId then expiredReservation reached.2 nowMs row
        else row := by
  obtain ⟨result, b⟩ := reached
  dsimp only at hb ⊢
  by_cases hobserves : observes b.policies nowMs policyId = true
  case neg =>
    have hkept : (recoverPolicy nowMs policyId (result, b)).2 = b := by
      unfold recoverPolicy
      split
      · rfl
      split
      · rename_i expiry after hok
        obtain ⟨hnow, hok⟩ := of_require hok
        obtain ⟨hnamed, hok⟩ := of_require hok
        obtain ⟨policy, hpolicy, _⟩ := of_bind hok
        rw [Bool.not_eq_true'] at hnamed
        exact absurd (observes_iff.mpr ⟨hnow, hnamed, policy, hpolicy⟩) hobserves
      · rfl
    rw [Bool.not_eq_true] at hobserves
    rw [hkept]
    refine ⟨rfl, rfl, rfl, .of_id fun clock _ => ?_, .of_id fun row _ => ?_⟩
    · split
      · rename_i hid
        exact observedClock_of_not (by rw [hid]; exact hobserves)
      · rfl
    · split
      · rename_i hid
        unfold expiredReservation
        rw [hid, expiryTime_of_not hobserves]
      · rfl
  obtain ⟨hnow, hnamed, policy, hpolicy⟩ := observes_iff.mp hobserves
  have hne : policyId ≠ "" := by
    rintro rfl
    cases hnamed
  unfold recoverPolicy expirePrivateReservations
  rw [if_neg hne, require_pos hnow, ok_bind, require_pos (by simp [hnamed]),
    ok_bind, hpolicy, ok_bind]
  cases hclock : b.clocks.get? policyId with
  | none =>
    refine ⟨rfl, rfl, rfl, .of_id fun clock hmem => if_neg ?_,
      .of_id fun row _ => ?_⟩
    · rintro rfl
      cases hclock.symm.trans (get?_key hmem)
    · split
      · rename_i hid
        unfold expiredReservation expiryTime
        rw [hid, hclock]
        rfl
      · rfl
  | some clock =>
    have hkeyed : clock.policyId = policyId := key_of_get? hclock
    let time := computePolicyTime clock.lastPolicyNowMs nowMs
      policy.clockDiscontinuityMs
    let clocks := b.clocks.update (fun row => row.policyId = policyId)
      (fun row => row.observed time) fun _ => rfl
    have hadvance : advancePolicyClock b policyId nowMs
        (some policy.fingerprint) = .ok (time, { b with clocks }) := by
      unfold advancePolicyClock
      rw [require_pos (by simp [hnamed]), ok_bind, require_pos hnow, ok_bind,
        hclock, orFault_some, ok_bind, resolveBudgetPolicy_bound hb.policies
          (resolved_columns hpolicy).2, ok_bind]
      rfl
    have hforward := @forward_update b policyId clock
      (fun row => row.observed time) (fun _ => rfl) hclock
      (Int.le_max_left _ nowMs)
    obtain ⟨counts, after, hexpire, hrewrites⟩ :=
      (hb.clocks hforward).expireInTransaction_rewrites policyId
        time.policyTimeMs
    have htime := expiryTime_eq hclock hobserves
    dsimp only
    rw [hadvance, ok_bind, hexpire, ok_bind]
    refine ⟨hrewrites.policies, hrewrites.bindings, hrewrites.uuidsDrawn, ?_,
      hrewrites.reservations.congr fun row _ => ?_⟩
    · change Table.MapsTo _ b.clocks after.clocks
      rw [hrewrites.clocks]
      have hupdate := @Table.MapsTo.update _ _ _ _
        (fun row : PolicyClock => row.observed time) b.clocks
        (fun row => row.policyId = policyId) fun _ => rfl
      refine hupdate.congr fun other hmem => ?_
      by_cases hid : other.policyId = policyId
      · obtain rfl : other = clock :=
          inj_on_of_nodup_map b.clocks.keys_nodup hmem
            (mem_of_get? hclock) (hid.trans hkeyed.symm)
        rw [if_pos hid, if_pos (decide_eq_true hid), observedClock_eq
          (hid.symm ▸ hobserves) (hid.symm ▸ hpolicy)]
      · rw [if_neg hid, if_neg (by simpa using hid)]
    · by_cases hid : row.policyId = policyId
      · rw [if_pos hid, if_pos hid]
        unfold expiredReservation
        rw [hid, htime]
        rfl
      · rw [if_neg hid, if_neg hid]

/-- An observation at the same time finds the same policy time. -/
theorem observedClock_time :
    max (observedClock policies nowMs clock).lastPolicyNowMs nowMs =
      max clock.lastPolicyNowMs nowMs := by
  unfold observedClock
  split
  · split
    · change max (max clock.lastPolicyNowMs nowMs) nowMs = _
      omega
    · rfl
  · rfl

theorem observedClock_policyId :
    (observedClock policies nowMs clock).policyId = clock.policyId := by
  unfold observedClock
  split
  · split
    · rfl
    · rfl
  · rfl

theorem expiryTime_congr {f : PolicyClock → PolicyClock}
    (hpolicies : after.policies = b.policies)
    (hclocks : Table.MapsTo f b.clocks after.clocks)
    (hf : ∀ clock, max (f clock).lastPolicyNowMs nowMs =
      max clock.lastPolicyNowMs nowMs) (policyId : String) :
    expiryTime after nowMs policyId = expiryTime b nowMs policyId := by
  unfold expiryTime
  rw [hpolicies, hclocks.lookup]
  cases hobserves : observes b.policies nowMs policyId with
  | false =>
    cases b.clocks.get? policyId with
    | none | some => rfl
  | true =>
    cases b.clocks.get? policyId with
    | none => rfl
    | some =>
      simp only [map_some, filter_some, if_true, hf]

theorem expiredReservation_congr (hpolicies : after.policies = b.policies)
    (htime : ∀ policyId, expiryTime after nowMs policyId =
      expiryTime b nowMs policyId) :
    expiredReservation after nowMs row = expiredReservation b nowMs row := by
  unfold expiredReservation expiredIfGone
  rw [htime]
  simp only [inWindow_congr hpolicies rfl rfl rfl]

theorem expiredReservation_policyId :
    (expiredReservation b nowMs row).policyId = row.policyId := by
  unfold expiredReservation
  split
  · unfold expiredIfGone
    split
    · rfl
    · rfl
  · rfl

theorem BudgetTrace.budgeted {law : BudgetLaw} (htrace : BudgetTrace law b after)
    (hb : Budgeted b) : Budgeted after := by
  induction htrace with
  | refl => exact hb
  | tail _ hmove ih => exact hmove.budgeted ih

/-- Expiry of the listed policies, one after the other. -/
theorem recoverPolicies_rewrites {reached : PrivateRecoveryState}
    (hb : Budgeted reached.2) {policyIds : List String}
    (hnodup : policyIds.Nodup) :
    RewritesClocked reached.2 (run (recoverPolicy nowMs) reached policyIds).2
      (fun clock =>
        if clock.policyId ∈ policyIds then
          observedClock reached.2.policies nowMs clock
        else clock)
      fun row =>
        if row.policyId ∈ policyIds then expiredReservation reached.2 nowMs row
        else row := by
  let Kept (s : PrivateRecoveryState) : Prop :=
    (s.2.policies = reached.2.policies ∧ s.2.bindings = reached.2.bindings ∧
      s.2.uuidsDrawn = reached.2.uuidsDrawn) ∧ Budgeted s.2 ∧
      ∀ policyId, expiryTime s.2 nowMs policyId =
        expiryTime reached.2 nowMs policyId
  have hkeeps : ∀ policyId s, Kept s → Kept (recoverPolicy nowMs policyId s) := by
    rintro policyId s ⟨⟨hpolicies, hbindings, hdrawn⟩, hbudgeted, htime⟩
    have hrewrites := @recoverPolicy_rewrites _ nowMs policyId s hbudgeted
    refine ⟨⟨hrewrites.policies.trans hpolicies,
      hrewrites.bindings.trans hbindings,
      hrewrites.uuidsDrawn.trans hdrawn⟩, ?_, fun policyId => ?_⟩
    · have htrace := @recoverPolicy_trace _ anyWrite s nowMs policyId
      exact htrace.budgeted hbudgeted
    · refine (expiryTime_congr hrewrites.policies hrewrites.clocks
        (fun clock => ?_) policyId).trans (htime policyId)
      split
      · exact observedClock_time
      · rfl
  have hstart : Kept reached := ⟨⟨rfl, rfl, rfl⟩, hb, fun _ => rfl⟩
  have hframe := (run_preserves hkeeps hstart policyIds).1
  refine ⟨hframe.1, hframe.2.1, hframe.2.2, ?_, ?_⟩
  · refine run_mapsTo (fun s : PrivateRecoveryState => s.2.clocks)
      PolicyClock.policyId (fun _ => observedClock_policyId) hkeeps ?_ hnodup
      hstart
    rintro policyId s ⟨⟨hpolicies, _⟩, hbudgeted, _⟩
    rw [← hpolicies]
    exact (recoverPolicy_rewrites hbudgeted).clocks
  · refine run_mapsTo (fun s : PrivateRecoveryState => s.2.reservations)
      PrivateBudgetReservation.policyId
      (fun _ => expiredReservation_policyId) hkeeps ?_ hnodup hstart
    rintro policyId s ⟨⟨hpolicies, _⟩, hbudgeted, htime⟩
    refine (recoverPolicy_rewrites hbudgeted).reservations.congr fun row _ => ?_
    rw [expiredReservation_congr hpolicies htime]

omit [Host] in
theorem mem_strandedPolicies :
    policyId ∈ strandedPolicies b ↔
      ∃ row ∈ b.reservations.rows, row.policyId = policyId := by
  unfold strandedPolicies
  rw [mem_insertionSort, mem_eraseDups, List.mem_map]

/-- The policies are expired: every clock of a policy with reservations makes
its observation, and every row outside its window expires. -/
theorem recoverExpired_rewrites {reached : PrivateRecoveryState}
    (hb : Budgeted reached.2) :
    RewritesClocked reached.2
      (run (recoverPolicy nowMs) reached (strandedPolicies reached.2)).2
      (fun clock =>
        if clock.policyId ∈ strandedPolicies reached.2 then
          observedClock reached.2.policies nowMs clock
        else clock)
      (expiredReservation reached.2 nowMs) := by
  have hnodup : (strandedPolicies reached.2).Nodup :=
    (perm_insertionSort _ _).nodup_iff.mpr (nodup_eraseDups _)
  have hrewrites := @recoverPolicies_rewrites _ nowMs reached hb _ hnodup
  refine ⟨hrewrites.policies, hrewrites.bindings, hrewrites.uuidsDrawn,
    hrewrites.clocks, hrewrites.reservations.congr fun row hrow => if_pos ?_⟩
  exact mem_strandedPolicies.mpr ⟨row, hrow, rfl⟩

end Expiry

end CognitiveSidecar
