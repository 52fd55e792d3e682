/-
The attempts of one reservation over whole runs: none is dispatched while the
one before it is undetermined, a proof excludes a dispatch, and a later dispatch
keeps its reservation spent.
-/
import CognitiveSidecar.PrivateRuns

namespace CognitiveSidecar

open List Relational

instance (truth : PrivateDispatchTruth) (proof : Option String) :
    Decidable (Settled truth proof) :=
  inferInstanceAs (Decidable (_ ∨ _))

/-- The dispatch of the attempt began, or it cannot be excluded that it did. -/
def PrivateDispatchTruth.isDispatched (truth : PrivateDispatchTruth) : Bool :=
  truth = .attempted || truth = .responded || truth = .unknown

/-- Attempt `k` of a reservation is settled: the reservation's own attempt when
`k` is 1, and its later attempt with that ordinal otherwise. -/
def attemptSettled (b : PrivateBudget) (reservationId : String) (k : Int) :
    Bool :=
  if k = 1 then
    (b.reservations.get? reservationId).any fun row =>
      decide (Settled row.dispatchTruth row.releaseProofRef)
  else
    b.bindings.rows.any fun row =>
      row.reservationId = reservationId && row.ordinal = k &&
        decide (Settled row.dispatchTruth row.releaseProofRef)

/-- Every bound later attempt follows a settled one. -/
def PreviousSettled (b : PrivateBudget) : Prop :=
  ∀ row ∈ b.bindings.rows,
    attemptSettled b row.reservationId (row.ordinal - 1) = true

/-- No attempt carries both a no-dispatch proof and a dispatch. -/
def ProofExclusive (b : PrivateBudget) : Prop :=
  (∀ row ∈ b.reservations.rows, row.releaseProofRef.isSome = true →
    row.dispatchTruth.isDispatched = false) ∧
  ∀ row ∈ b.bindings.rows, row.releaseProofRef.isSome = true →
    row.dispatchTruth.isDispatched = false

/-- The reservation is spent: committed, or gone from the window. -/
def spent (b : PrivateBudget) (reservationId : String) : Bool :=
  (b.reservations.get? reservationId).any fun row =>
    row.state = .committed || row.state = .expired

/-- A later attempt that may have dispatched leaves its reservation spent. -/
def DispatchSpends (b : PrivateBudget) : Prop :=
  ∀ row ∈ b.bindings.rows,
    row.dispatchTruth = .attempted ∨ row.dispatchTruth = .responded →
      spent b row.reservationId = true

instance (b : PrivateBudget) : Decidable (PreviousSettled b) :=
  inferInstanceAs (Decidable (∀ _ ∈ _, _))

instance (b : PrivateBudget) : Decidable (ProofExclusive b) :=
  inferInstanceAs (Decidable ((∀ _ ∈ _, _) ∧ ∀ _ ∈ _, _))

instance (b : PrivateBudget) : Decidable (DispatchSpends b) :=
  inferInstanceAs (Decidable (∀ _ ∈ _, _))

/-- The attempt with this ordinal is bound. -/
def Bound (b : PrivateBudget) (reservationId : String) (ordinal : Int) : Prop :=
  ∃ row ∈ b.bindings.rows,
    row.reservationId = reservationId ∧ row.ordinal = ordinal

instance (b : PrivateBudget) (reservationId : String) (ordinal : Int) :
    Decidable (Bound b reservationId ordinal) :=
  inferInstanceAs (Decidable (∃ _ ∈ _, _))

/-- No dispatch write hits an attempt that is proved not started once the
attempt after it is bound. -/
def sparesFollowed : BudgetLaw where
  allows := fun b write =>
    match write with
    | .dispatched row | .markedUnknown row =>
      row.isProvenHeld = true → ¬ Bound b row.reservationId 2
    | .repairDispatched row =>
      row.releaseProofRef.isSome = true →
        ¬ Bound b row.reservationId (row.ordinal + 1)
    | .responded _ | .repairReconciled _ => True
  dispatched := by
    intro b row hunproven hproven
    rw [hunproven] at hproven
    cases hproven
  markedUnknown := by
    intro b row hunproven hproven
    rw [hunproven] at hproven
    cases hproven
  responded := fun _ _ _ => trivial
  repairDispatched := by
    intro b b' row hbindings hspares hproof
    have hspares := hspares hproof
    rw [Bound, hbindings]
    exact hspares

/-- No dispatch write hits an attempt that is proved not started. -/
def sparesProven : BudgetLaw where
  allows := fun _ write =>
    match write with
    | .dispatched row | .markedUnknown row => row.isProvenHeld = false
    | .responded row =>
      row.dispatchTruth = .notStarted → row.releaseProofRef = none
    | .repairDispatched row => row.releaseProofRef = none
    | .repairReconciled _ => True
  dispatched := fun _ _ hunproven => hunproven
  markedUnknown := fun _ _ hunproven => hunproven
  responded := by
    intro b row hattempted hstarted
    rw [hattempted] at hstarted
    cases hstarted
  repairDispatched := fun _ _ _ _ hspares => hspares

/-- A later attempt converges to a receipt only under a spent reservation. -/
def reconcilesSpent : BudgetLaw where
  allows := fun b write =>
    match write with
    | .repairReconciled reservationId => spent b reservationId = true
    | _ => True
  dispatched := fun _ _ _ => trivial
  markedUnknown := fun _ _ _ => trivial
  responded := fun _ _ _ => trivial
  repairDispatched := fun _ _ _ _ hspares => hspares

instance (b : PrivateBudget) : DecidablePred (sparesFollowed.allows b)
  | .dispatched _ | .markedUnknown _ | .repairDispatched _ =>
    inferInstanceAs (Decidable (_ → ¬ _))
  | .responded _ | .repairReconciled _ => inferInstanceAs (Decidable True)

instance (b : PrivateBudget) : DecidablePred (sparesProven.allows b)
  | .dispatched _ | .markedUnknown _ => inferInstanceAs (Decidable (_ = false))
  | .responded _ => inferInstanceAs (Decidable (_ → _))
  | .repairDispatched _ => inferInstanceAs (Decidable (_ = none))
  | .repairReconciled _ => inferInstanceAs (Decidable True)

instance (b : PrivateBudget) : DecidablePred (reconcilesSpent.allows b)
  | .repairReconciled _ => inferInstanceAs (Decidable (_ = true))
  | .dispatched _ | .markedUnknown _ | .responded _ | .repairDispatched _ =>
    inferInstanceAs (Decidable True)

section Runs

variable [Host]

section Steps

variable {law : BudgetLaw} {b after : PrivateBudget}
variable {row : PrivateBudgetReservation}

/-- What every allowed change keeps, an allowed run keeps. -/
theorem budget_run_preserves {P : PrivateBudget → Prop}
    (hpolicies : ∀ b policies, P b → P { b with policies })
    (hmove : ∀ b after, BudgetMove law b after → P b → P after) (hb : P b)
    {ops : List BudgetOp} (hmeets : Meets budgetStep (BudgetOp.Allowed law) b ops) :
    P (run budgetStep b ops) := by
  refine meets_preserves (P := P) ?_ hb hmeets
  intro op b hallowed hb
  rcases budgetStep_cases hallowed with ⟨policies, heq⟩ | htrace
  · rw [heq]
    exact hpolicies b policies hb
  · generalize budgetStep op b = after at htrace
    induction htrace with
    | refl => exact hb
    | tail _ hlast ih => exact hmove _ _ hlast ih

/-- A held row has no dispatch yet, and a reconciling one is unknown. -/
def PrivateBudgetReservation.Shaped (row : PrivateBudgetReservation) : Prop :=
  (row.state = .held →
    row.dispatchTruth = .notBound ∨ row.dispatchTruth = .notStarted) ∧
  (row.state = .reconcileRequired → row.dispatchTruth = .unknown)

omit [Host] in
theorem shaped_of_ne (hheld : row.state ≠ .held)
    (hreconcile : row.state ≠ .reconcileRequired) :
    row.Shaped :=
  ⟨fun hstate => absurd hstate hheld, fun hstate => absurd hstate hreconcile⟩

theorem ReservationMove.shaped {row' : PrivateBudgetReservation}
    (hmove : ReservationMove law b row row') (hshaped : row.Shaped) :
    row'.Shaped := by
  cases hmove with
  | kept => exact hshaped
  | bound hstate =>
    refine ⟨fun _ => .inr rfl, fun hreconcile => ?_⟩
    rw [hstate] at hreconcile
    cases hreconcile
  | dispatched | released | expired | continued =>
    exact shaped_of_ne nofun nofun
  | responded hstate =>
    refine shaped_of_ne ?_ ?_ <;> rw [hstate] <;> nofun
  | proven _ htruth =>
    exact ⟨fun _ => .inr htruth, hshaped.2⟩
  | markedUnknown =>
    exact ⟨nofun, fun _ => rfl⟩

/-- Every reservation has its shape, whatever the law. -/
def AllShaped (b : PrivateBudget) : Prop :=
  ∀ row ∈ b.reservations.rows, row.Shaped

theorem BudgetMove.shaped (hmove : BudgetMove law b after)
    (hshaped : AllShaped b) : AllShaped after := by
  cases hmove with
  | clocks | bindings | repairBound => exact hshaped
  | reservations _ hmoves =>
    intro _ hrow'
    obtain ⟨row, hrow, hstep⟩ := Table.exists_old hmoves hrow'
    exact hstep.shaped (hshaped row hrow)
  | reserved _ _ _ hadmits _ hinsert =>
    intro other hother
    rcases (mem_insert_iff hinsert).mp hother with hold | rfl
    · exact hshaped other hold
    · refine ⟨fun _ => .inl hadmits.dispatchTruth, fun hreconcile => ?_⟩
      rw [hadmits.state] at hreconcile
      cases hreconcile

end Steps

section Proofs

variable {b after : PrivateBudget}

/-- A no-dispatch proof stands beside a dispatch that was not started. -/
def ProofMeansNotStarted (b : PrivateBudget) : Prop :=
  (∀ row ∈ b.reservations.rows, row.releaseProofRef.isSome = true →
    row.dispatchTruth = .notStarted) ∧
  ∀ row ∈ b.bindings.rows, row.releaseProofRef.isSome = true →
    row.dispatchTruth = .notStarted

theorem ReservationMove.proof {row row' : PrivateBudgetReservation}
    (hmove : ReservationMove sparesProven b row row') (hshaped : row.Shaped)
    (hmeans : row.releaseProofRef.isSome = true →
      row.dispatchTruth = .notStarted) :
    row'.releaseProofRef.isSome = true → row'.dispatchTruth = .notStarted := by
  -- a held row with a proof is proved not started, which the law spares
  have hheld (hstate : row.state = .held)
      (hunproven : row.isProvenHeld = false) :
      ¬ row.releaseProofRef.isSome = true := by
    intro hproof
    simp [PrivateBudgetReservation.isProvenHeld, hstate, hmeans hproof,
      hproof] at hunproven
  cases hmove with
  | kept | expired => exact hmeans
  | bound | released => exact fun _ => rfl
  | dispatched hstate _ hlaw =>
    intro hproof
    rcases hstate with hstate | hstate
    · exact absurd hproof (hheld hstate hlaw)
    · have hstarted := hmeans hproof
      rw [hshaped.2 hstate] at hstarted
      cases hstarted
  | responded _ hlaw =>
    intro hproof
    have hnone : row.releaseProofRef = none := hlaw (hmeans hproof)
    simp [hnone] at hproof
  | proven _ htruth | continued _ htruth => exact fun _ => htruth
  | markedUnknown hstate hlaw =>
    exact fun hproof => absurd hproof (hheld hstate hlaw)

omit [Host] in
theorem BindingMove.proof {row row' : PrivateBudgetAttemptBinding}
    (hmove : BindingMove sparesProven b row row')
    (hmeans : row.releaseProofRef.isSome = true →
      row.dispatchTruth = .notStarted) :
    row'.releaseProofRef.isSome = true → row'.dispatchTruth = .notStarted := by
  have hattempted (htruth : row.dispatchTruth = .attempted) :
      ¬ row.releaseProofRef.isSome = true := by
    intro hproof
    have hstarted := hmeans hproof
    rw [htruth] at hstarted
    cases hstarted
  cases hmove with
  | kept | named => exact hmeans
  | dispatched _ _ hlaw =>
    intro hproof
    have hnone : row.releaseProofRef = none := hlaw
    simp [hnone] at hproof
  | responded htruth | markedUnknown htruth =>
    exact fun hproof => absurd hproof (hattempted htruth)
  | released htruth => exact fun _ => htruth
  | reconciled hnone =>
    intro hproof
    simp [hnone] at hproof

theorem BudgetMove.proof (hmove : BudgetMove sparesProven b after)
    (hshaped : AllShaped b) (hmeans : ProofMeansNotStarted b) :
    ProofMeansNotStarted after := by
  obtain ⟨hparents, hchildren⟩ := hmeans
  cases hmove with
  | clocks => exact ⟨hparents, hchildren⟩
  | reservations _ hmoves =>
    refine ⟨?_, hchildren⟩
    intro _ hrow'
    obtain ⟨row, hrow, hstep⟩ := Table.exists_old hmoves hrow'
    exact hstep.proof (hshaped row hrow) (hparents row hrow)
  | bindings _ hmoves =>
    refine ⟨hparents, ?_⟩
    intro _ hrow'
    obtain ⟨row, hrow, hstep⟩ := Table.exists_old hmoves hrow'
    exact hstep.proof (hchildren row hrow)
  | reserved _ _ _ hadmits _ hinsert =>
    refine ⟨?_, hchildren⟩
    intro other hother hproof
    rcases (mem_insert_iff hinsert).mp hother with hold | rfl
    · exact hparents other hold hproof
    · simp [hadmits.releaseProofRef] at hproof
  | repairBound _ hfollows _ hinsert =>
    refine ⟨hparents, ?_⟩
    intro other hother hproof
    rcases (mem_insert_iff hinsert).mp hother with hold | rfl
    · exact hchildren other hold hproof
    · simp [hfollows.releaseProofRef] at hproof

/-- In every run whose dispatch writes spare the attempts that are proved not
started, no attempt carries both a no-dispatch proof and a dispatch. -/
theorem proof_excludes_dispatch {ops : List BudgetOp}
    (hmeets : Meets budgetStep (BudgetOp.Allowed sparesProven) initialBudget
      ops) :
    ProofExclusive (run budgetStep initialBudget ops) := by
  have hinv : AllShaped (run budgetStep initialBudget ops) ∧
      ProofMeansNotStarted (run budgetStep initialBudget ops) := by
    refine budget_run_preserves
      (P := fun b => AllShaped b ∧ ProofMeansNotStarted b) ?_ ?_ ?_ hmeets
    · exact fun b _ hb => hb
    · exact fun b _ hmove hb =>
        ⟨hmove.shaped hb.1, hmove.proof hb.1 hb.2⟩
    · exact ⟨fun _ hrow => absurd hrow List.not_mem_nil,
        fun _ hrow => absurd hrow List.not_mem_nil,
        fun _ hrow => absurd hrow List.not_mem_nil⟩
  obtain ⟨_, hparents, hchildren⟩ := hinv
  refine ⟨fun row hrow hproof => ?_, fun row hrow hproof => ?_⟩
  · rw [hparents row hrow hproof]
    rfl
  · rw [hchildren row hrow hproof]
    rfl

end Proofs

section Order

variable {b after : PrivateBudget}
variable {reservationId : String} {k : Int}

omit [Host] in
theorem attemptSettled_first (hk : k = 1) :
    attemptSettled b reservationId k = true ↔ ∃ row,
      b.reservations.get? reservationId = some row ∧
        Settled row.dispatchTruth row.releaseProofRef := by
  rw [attemptSettled, if_pos hk, Option.any_eq_true]
  simp only [decide_eq_true_eq]

omit [Host] in
theorem attemptSettled_later (hk : k ≠ 1) :
    attemptSettled b reservationId k = true ↔ ∃ row ∈ b.bindings.rows,
      row.reservationId = reservationId ∧ row.ordinal = k ∧
        Settled row.dispatchTruth row.releaseProofRef := by
  rw [attemptSettled, if_neg hk, any_eq_true]
  simp only [Bool.and_eq_true, decide_eq_true_eq, and_assoc]

/-- A settled first attempt stays settled once the second is bound. -/
theorem ReservationMove.settled {row row' : PrivateBudgetReservation}
    (hmove : ReservationMove sparesFollowed b row row') (hshaped : row.Shaped)
    (hsecond : Bound b row.reservationId 2)
    (hsettled : Settled row.dispatchTruth row.releaseProofRef) :
    Settled row'.dispatchTruth row'.releaseProofRef := by
  -- a held row is not responded, so its settlement is the proof
  have hheld (hstate : row.state = .held) : row.dispatchTruth = .notStarted ∧
      row.releaseProofRef.isSome = true := by
    rcases hsettled with hresponded | hproven
    · rcases hshaped.1 hstate with htruth | htruth <;>
        rw [htruth] at hresponded <;> cases hresponded
    · exact hproven
  have hspared (hstate : row.state = .held)
      (hlaw : row.isProvenHeld = true → ¬ Bound b row.reservationId 2) :
      False := by
    obtain ⟨htruth, hproof⟩ := hheld hstate
    refine hlaw ?_ hsecond
    simp [PrivateBudgetReservation.isProvenHeld, hstate, htruth, hproof]
  cases hmove with
  | kept | expired => exact hsettled
  | bound hstate =>
    exact .inr ⟨rfl, (hheld hstate).2⟩
  | dispatched hstate _ hlaw =>
    rcases hstate with hstate | hstate
    · exact (hspared hstate hlaw).elim
    · rcases hsettled with hsettled | ⟨hsettled, _⟩ <;>
        rw [hshaped.2 hstate] at hsettled <;> cases hsettled
  | responded => exact .inl rfl
  | released =>
    exact .inr ⟨rfl, rfl⟩
  | proven _ htruth => exact .inr ⟨htruth, rfl⟩
  | markedUnknown hstate hlaw => exact (hspared hstate hlaw).elim
  | continued _ htruth hproof => exact .inr ⟨htruth, hproof⟩

omit [Host] in
/-- A settled later attempt stays settled once the one after it is bound. -/
theorem BindingMove.settled {row row' : PrivateBudgetAttemptBinding}
    (hmove : BindingMove sparesFollowed b row row')
    (hnext : Bound b row.reservationId (row.ordinal + 1))
    (hsettled : Settled row.dispatchTruth row.releaseProofRef) :
    Settled row'.dispatchTruth row'.releaseProofRef := by
  cases hmove with
  | kept | named => exact hsettled
  | dispatched htruth _ hlaw =>
    rcases hsettled with hresponded | ⟨_, hproof⟩
    · rw [htruth] at hresponded
      cases hresponded
    · exact absurd hnext (hlaw hproof)
  | responded => exact .inl rfl
  | released htruth => exact .inr ⟨htruth, rfl⟩
  | markedUnknown htruth =>
    rcases hsettled with hsettled | ⟨hsettled, _⟩ <;>
      rw [htruth] at hsettled <;> cases hsettled
  | reconciled hnone htruth =>
    rcases hsettled with hresponded | ⟨_, hproof⟩
    · exact absurd hresponded htruth
    · simp [hnone] at hproof

theorem BudgetMove.previousSettled (hmove : BudgetMove sparesFollowed b after)
    (hshaped : AllShaped b) (hprevious : PreviousSettled b) :
    PreviousSettled after := by
  cases hmove with
  | clocks => exact hprevious
  | reservations _ hmoves =>
    intro row hrow
    have hold := hprevious row hrow
    by_cases hfirst : row.ordinal - 1 = 1
    · obtain ⟨parent, hparent, hsettled⟩ := (attemptSettled_first hfirst).mp hold
      obtain ⟨parent', hparent', hstep⟩ :=
        (reservations_rewrites hmoves).forward hparent
      have hid : parent.reservationId = row.reservationId :=
        key_of_get? hparent
      refine (attemptSettled_first hfirst).mpr ⟨parent', hparent', ?_⟩
      refine hstep.settled (hshaped parent (mem_of_get? hparent)) ?_
        hsettled
      exact ⟨row, hrow, hid.symm, by omega⟩
    · obtain ⟨before, hbefore, hrest⟩ := (attemptSettled_later hfirst).mp hold
      exact (attemptSettled_later hfirst).mpr ⟨before, hbefore, hrest⟩
  | bindings _ hmoves =>
    intro _ hrow'
    obtain ⟨row, hrow, hstep⟩ := Table.exists_old hmoves hrow'
    obtain ⟨_, hid, _, hordinal⟩ := hstep.identity
    have hold := hprevious row hrow
    rw [hid, hordinal]
    by_cases hfirst : row.ordinal - 1 = 1
    · obtain ⟨parent, hparent, hsettled⟩ := (attemptSettled_first hfirst).mp hold
      exact (attemptSettled_first hfirst).mpr ⟨parent, hparent, hsettled⟩
    · obtain ⟨_, hbefore, hsame, hnumber, hsettled⟩ :=
          (attemptSettled_later hfirst).mp hold
      obtain ⟨before', hbefore', hmoved⟩ := Table.exists_new hmoves hbefore
      obtain ⟨_, hid', _, hordinal'⟩ := hmoved.identity
      refine (attemptSettled_later hfirst).mpr
        ⟨before', hbefore', hid'.trans hsame, hordinal'.trans hnumber, ?_⟩
      refine hmoved.settled ⟨row, hrow, hsame.symm, ?_⟩ hsettled
      omega
  | reserved _ _ _ _ _ hinsert =>
    intro child hchild
    have hold := hprevious child hchild
    by_cases hfirst : child.ordinal - 1 = 1
    · obtain ⟨parent, hparent, hsettled⟩ := (attemptSettled_first hfirst).mp hold
      exact (attemptSettled_first hfirst).mpr
        ⟨parent, get?_insert_of_some hinsert hparent, hsettled⟩
    · obtain ⟨before, hbefore, hrest⟩ := (attemptSettled_later hfirst).mp hold
      exact (attemptSettled_later hfirst).mpr ⟨before, hbefore, hrest⟩
  | repairBound _ hfollows bindings hinsert =>
    intro child hchild
    have hstored {other : PrivateBudgetAttemptBinding}
        (hother : other ∈ b.bindings.rows) : other ∈ bindings.rows :=
      (mem_insert_iff hinsert).mpr (.inl hother)
    by_cases hfirst : child.ordinal - 1 = 1
    · rw [attemptSettled_first hfirst]
      rcases (mem_insert_iff hinsert).mp hchild with hold | rfl
      · obtain ⟨parent, hparent, hsettled⟩ :=
          (attemptSettled_first hfirst).mp (hprevious child hold)
        exact ⟨parent, hparent, hsettled⟩
      · exact hfollows.first (by omega)
    · rw [attemptSettled_later hfirst]
      rcases (mem_insert_iff hinsert).mp hchild with hold | rfl
      · obtain ⟨before, hbefore, hrest⟩ :=
          (attemptSettled_later hfirst).mp (hprevious child hold)
        exact ⟨before, hstored hbefore, hrest⟩
      · obtain ⟨before, hbefore, hrest⟩ := hfollows.later (by omega)
        exact ⟨before, hstored hbefore, hrest⟩

/-- In every run whose dispatch writes spare the proved attempts that are
already followed, every bound later attempt follows a settled one. -/
theorem bound_attempt_follows_settled {ops : List BudgetOp}
    (hmeets : Meets budgetStep (BudgetOp.Allowed sparesFollowed) initialBudget
      ops) :
    PreviousSettled (run budgetStep initialBudget ops) := by
  have hinv : AllShaped (run budgetStep initialBudget ops) ∧
      PreviousSettled (run budgetStep initialBudget ops) := by
    refine budget_run_preserves
      (P := fun b => AllShaped b ∧ PreviousSettled b) ?_ ?_ ?_ hmeets
    · exact fun b _ hb => hb
    · exact fun b _ hmove hb =>
        ⟨hmove.shaped hb.1, hmove.previousSettled hb.1 hb.2⟩
    · exact ⟨fun _ hrow => absurd hrow List.not_mem_nil,
        fun _ hrow => absurd hrow List.not_mem_nil⟩
  exact hinv.2

end Order

section Spend

variable {law : BudgetLaw} {b after : PrivateBudget}
variable {reservationId : String}

omit [Host] in
theorem spent_iff :
    spent b reservationId = true ↔ ∃ row,
      b.reservations.get? reservationId = some row ∧
        (row.state = .committed ∨ row.state = .expired) := by
  rw [spent, Option.any_eq_true]
  simp only [Bool.or_eq_true, decide_eq_true_eq]

/-- A spent reservation stays spent. -/
theorem ReservationMove.spent {row row' : PrivateBudgetReservation}
    (hmove : ReservationMove law b row row')
    (hspent : row.state = .committed ∨ row.state = .expired) :
    row'.state = .committed ∨ row'.state = .expired := by
  have hopen (hstate : row.state = .held ∨ row.state = .reconcileRequired) :
      False := by
    rcases hspent with hspent | hspent <;> rw [hspent] at hstate <;>
      rcases hstate with hstate | hstate <;> cases hstate
  cases hmove with
  | kept => exact hspent
  | bound hstate | proven hstate | markedUnknown hstate =>
    exact (hopen (.inl hstate)).elim
  | dispatched | continued => exact .inl rfl
  | responded hstate => exact .inl hstate
  | released hstate =>
    exact (hopen hstate).elim
  | expired => exact .inr rfl

/-- What any law keeps: a reservation that is spent stays so. -/
theorem BudgetMove.spent (hmove : BudgetMove law b after)
    (hspent : spent b reservationId = true) :
    CognitiveSidecar.spent after reservationId = true := by
  obtain ⟨row, hrow, hstate⟩ := spent_iff.mp hspent
  cases hmove with
  | clocks | bindings | repairBound => exact hspent
  | reservations _ hmoves =>
    obtain ⟨row', hrow', hstep⟩ := (reservations_rewrites hmoves).forward hrow
    exact spent_iff.mpr ⟨row', hrow', hstep.spent hstate⟩
  | reserved _ _ _ _ _ hinsert =>
    exact spent_iff.mpr
      ⟨row, get?_insert_of_some hinsert hrow, hstate⟩

/-- Every later attempt that left the not-started truth has a spent
reservation. -/
def StartedSpends (b : PrivateBudget) : Prop :=
  ∀ row ∈ b.bindings.rows, row.dispatchTruth ≠ .notStarted →
    spent b row.reservationId = true

omit [Host] in
theorem BindingMove.spends {row row' : PrivateBudgetAttemptBinding}
    (hmove : BindingMove reconcilesSpent b row row')
    (hold : row.dispatchTruth ≠ .notStarted →
      spent b row.reservationId = true)
    (hstarted : row'.dispatchTruth ≠ .notStarted) :
    spent b row.reservationId = true := by
  have hattempted (htruth : row.dispatchTruth = .attempted) :
      spent b row.reservationId = true := by
    refine hold ?_
    rw [htruth]
    nofun
  cases hmove with
  | kept | named => exact hold hstarted
  | dispatched _ hparent =>
    obtain ⟨parent, hget, hcommitted⟩ := hparent
    exact spent_iff.mpr ⟨parent, hget, .inl hcommitted⟩
  | responded htruth | markedUnknown htruth => exact hattempted htruth
  | released htruth => exact absurd htruth hstarted
  | reconciled _ _ hlaw =>
    exact hlaw

theorem BudgetMove.spends (hmove : BudgetMove reconcilesSpent b after)
    (hspends : StartedSpends b) : StartedSpends after := by
  have hkept {reservationId : String}
      (hspent : CognitiveSidecar.spent b reservationId = true) :
      CognitiveSidecar.spent after reservationId = true := hmove.spent hspent
  cases hmove with
  | clocks => exact hspends
  | reservations =>
    exact fun row hrow hstarted => hkept (hspends row hrow hstarted)
  | bindings _ hmoves =>
    intro _ hrow' hstarted
    obtain ⟨row, hrow, hstep⟩ := Table.exists_old hmoves hrow'
    rw [hstep.identity.2.1]
    exact hkept (hstep.spends (hspends row hrow) hstarted)
  | reserved =>
    exact fun child hchild hstarted => hkept (hspends child hchild hstarted)
  | repairBound _ hfollows _ hinsert =>
    intro child hchild hstarted
    rcases (mem_insert_iff hinsert).mp hchild with hold | rfl
    · exact hkept (hspends child hold hstarted)
    · exact absurd hfollows.dispatchTruth hstarted

/-- In every run that converges later attempts under spent reservations only, a
later attempt that was attempted or responded has a reservation that is
committed or gone from the window. -/
theorem later_dispatch_keeps_reservation_spent {ops : List BudgetOp}
    (hmeets : Meets budgetStep (BudgetOp.Allowed reconcilesSpent) initialBudget
      ops) :
    DispatchSpends (run budgetStep initialBudget ops) := by
  have hinv : StartedSpends (run budgetStep initialBudget ops) := by
    refine budget_run_preserves (P := StartedSpends) ?_ ?_ ?_ hmeets
    · exact fun b _ hb => hb
    · exact fun b _ hmove hb => hmove.spends hb
    · exact fun _ hrow => absurd hrow List.not_mem_nil
  intro row hrow hdispatched
  refine hinv row hrow ?_
  rcases hdispatched with htruth | htruth <;> rw [htruth] <;> nofun

end Spend

end Runs

section Plain

attribute [local instance] plainHost

def firstDispatch : PrivateDispatchInput where
  reservationId := "private-reservation:u"
  invocationId := "i1"
  attemptId := "t1"
  nowMs := 2000

def secondDispatch : PrivateRepairRef where
  reservationId := "private-reservation:u"
  invocationId := "i2"
  nowMs := 4000

/-- A reservation is bound, and its dispatch is proved not started. -/
def boundAndProved : List BudgetOp :=
  [.reserve claimedWake
      { admissionId := "a", wakeId := "w", conversationId := "c"
        policyId := "ashley.private_thought.v1", wallClockNowMs := 1000 },
    .bindInvocation firstDispatch,
    .recordNoDispatchProof firstDispatch "proof"]

/-- A second attempt of that reservation is bound. -/
def secondBound : List BudgetOp :=
  boundAndProved ++
    [.bindRepair
      { reservationId := "private-reservation:u", invocationId := "i2"
        attemptId := "t2", nowMs := 3000, wakeId := "w", conversationId := "c"
        ordinal := 2, reason := .cycleContinuation }]

theorem bound_attempt_follows_settled_second :
    (run budgetStep initialBudget
        (secondBound ++ [.commitRepair secondDispatch none])).bindings.rows.map
        (fun row => (row.ordinal, row.dispatchTruth)) = [(2, .attempted)] ∧
      PreviousSettled (run budgetStep initialBudget
        (secondBound ++ [.commitRepair secondDispatch none])) := by
  have hmeets : Meets budgetStep (BudgetOp.Allowed sparesFollowed) initialBudget
      (secondBound ++ [.commitRepair secondDispatch none]) := by
    refine ⟨BudgetOp.allowed_of_quiet rfl, BudgetOp.allowed_of_quiet rfl,
      BudgetOp.allowed_of_quiet rfl, BudgetOp.allowed_of_quiet rfl,
      ⟨?_, trivial⟩, trivial⟩
    decide +kernel
  exact ⟨by decide +kernel, bound_attempt_follows_settled hmeets⟩

/-- The commit of a proved reservation does not look at its proof. -/
theorem proved_first_attempt_committed_late :
    ¬ PreviousSettled (run budgetStep initialBudget
      (secondBound ++ [.commitDispatch firstDispatch])) := by
  decide +kernel

theorem proof_excludes_dispatch_bound :
    (run budgetStep initialBudget boundAndProved).reservations.rows.map
        (fun row => (row.dispatchTruth, row.releaseProofRef)) =
        [(.notStarted, some "proof")] ∧
      ProofExclusive (run budgetStep initialBudget boundAndProved) := by
  have hmeets : Meets budgetStep (BudgetOp.Allowed sparesProven) initialBudget
      boundAndProved :=
    ⟨BudgetOp.allowed_of_quiet rfl, BudgetOp.allowed_of_quiet rfl,
      BudgetOp.allowed_of_quiet rfl, trivial⟩
  exact ⟨by decide +kernel, proof_excludes_dispatch hmeets⟩

theorem proved_reservation_dispatched :
    ¬ ProofExclusive (run budgetStep initialBudget
      (boundAndProved ++ [.commitDispatch firstDispatch])) := by
  decide +kernel

theorem later_dispatch_keeps_reservation_spent_committed :
    (run budgetStep initialBudget
        (secondBound ++ [.commitRepair secondDispatch none])
          ).reservations.rows.map PrivateBudgetReservation.state =
        [.committed] ∧
      DispatchSpends (run budgetStep initialBudget
        (secondBound ++ [.commitRepair secondDispatch none])) := by
  have hmeets : Meets budgetStep (BudgetOp.Allowed reconcilesSpent)
      initialBudget (secondBound ++ [.commitRepair secondDispatch none]) := by
    refine ⟨BudgetOp.allowed_of_quiet rfl, BudgetOp.allowed_of_quiet rfl,
      BudgetOp.allowed_of_quiet rfl, BudgetOp.allowed_of_quiet rfl,
      ⟨?_, trivial⟩, trivial⟩
    decide +kernel
  exact ⟨by decide +kernel, later_dispatch_keeps_reservation_spent hmeets⟩

/-- A convergence to a receipt does not look at the reservation. -/
theorem held_reservation_has_dispatched_attempt :
    ¬ DispatchSpends (run budgetStep initialBudget
      (secondBound ++ [.reconcileRepair secondDispatch .attempted none])) := by
  decide +kernel

end Plain

end CognitiveSidecar
