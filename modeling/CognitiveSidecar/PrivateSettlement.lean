/-
Recovery of the private budget row by row: what it makes of one stranded
reservation, and of one stranded later attempt.
-/
import CognitiveSidecar.Lib.Loop
import CognitiveSidecar.PrivateAttempts
import CognitiveSidecar.PrivateProjection

namespace CognitiveSidecar

open Option List Relational

section Reservations

/-- The row after a release with a proof that its dispatch did not start. -/
def PrivateBudgetReservation.releasedBy (row : PrivateBudgetReservation)
    (proofRef : String) (nowMs : Int) : PrivateBudgetReservation :=
  { row with
    state := .released, dispatchTruth := .notStarted
    releaseProofRef := some proofRef, updatedAtMs := nowMs }

def PrivateBudgetReservation.unknownAt (row : PrivateBudgetReservation)
    (nowMs : Int) : PrivateBudgetReservation :=
  { row with
    state := .reconcileRequired, dispatchTruth := .unknown
    updatedAtMs := nowMs }

/-- The row after the conservative end. -/
def PrivateBudgetReservation.conserved (row : PrivateBudgetReservation)
    (nowMs : Int) : PrivateBudgetReservation :=
  if row.state = .held then row.unknownAt nowMs else row

def ReceiptTarget.truth : ReceiptTarget → PrivateDispatchTruth
  | .attempted => .attempted
  | .responded => .responded

/-- The row after a dispatch that a receipt proves. -/
def PrivateBudgetReservation.dispatchedTo (row : PrivateBudgetReservation)
    (target : ReceiptTarget) (nowMs : Int) : PrivateBudgetReservation :=
  { row with
    state := .committed, dispatchTruth := target.truth
    updatedAtMs := nowMs }

def PrivateBudgetReservation.isStranded (row : PrivateBudgetReservation) :
    Bool :=
  row.state = .held || row.state = .reconcileRequired

/-- A stranded reservation that was never bound to an invocation. -/
def PrivateBudgetReservation.IsUnbound (row : PrivateBudgetReservation) :
    Prop :=
  row.invocationId.filter (· ≠ "") = none ∧ row.dispatchTruth = .notBound

instance (row : PrivateBudgetReservation) : Decidable row.IsUnbound :=
  inferInstanceAs (Decidable (_ ∧ _))

/-- The policy in force and the policy of the reservation can be read. -/
def hasBudgetPolicy [Host] (policies : Table BudgetPolicyRow)
    (row : PrivateBudgetReservation) : Bool :=
  (resolveBudgetPolicy { policies } row.policyId).isOk &&
    (reservationBudgetPolicy { policies } row).isOk

/-- The row that its receipt settles. -/
def settledFromReceipt (receipts : PrivateReceipts) (nowMs : Int)
    (row : PrivateBudgetReservation) : PrivateBudgetReservation :=
  match (receipts.ofParent row).filter (· ≠ .notStarted ""),
      row.invocationId.filter (· ≠ ""), row.attemptId.filter (· ≠ "") with
  | some (.notStarted proofRef), _, _ =>
    if blank proofRef then row else row.releasedBy proofRef nowMs
  | some (.dispatched target _), some invocationId, some attemptId =>
    if blank invocationId || blank attemptId then row.conserved nowMs
    else row.dispatchedTo target nowMs
  | _, _, _ => row.conserved nowMs

/-- What recovery makes of a stranded row whose policy can be read. -/
def settledStranded (db : Sidecar) (receipts : PrivateReceipts) (nowMs : Int)
    (row : PrivateBudgetReservation) : PrivateBudgetReservation :=
  if row.IsUnbound then
    row.releasedBy
      ("recovery:" ++ row.reservationId ++ ":w0-binding-not-crossed") nowMs
  else if row.isProvenHeld then
    match resolveDurableContinuationOwner db row.wakeId row.conversationId with
    | .provenNoOwner _ _ =>
      if blank (row.releaseProofRef.getD "") then row
      else row.releasedBy (row.releaseProofRef.getD "") nowMs
    | _ => row
  else settledFromReceipt receipts nowMs row

/-- What recovery makes of a reservation. -/
def settledReservation [Host] (policies : Table BudgetPolicyRow) (db : Sidecar)
    (receipts : PrivateReceipts) (nowMs : Int)
    (row : PrivateBudgetReservation) : PrivateBudgetReservation :=
  if 0 ≤ nowMs ∧ row.isStranded = true ∧ hasBudgetPolicy policies row = true then
    settledStranded db receipts nowMs row
  else row

/-- Only the reservation of one id is rewritten. -/
structure Replaces (b after : PrivateBudget) (reservationId : String)
    (row : PrivateBudgetReservation) : Prop where
  policies : after.policies = b.policies
  clocks : after.clocks = b.clocks
  bindings : after.bindings = b.bindings
  uuidsDrawn : after.uuidsDrawn = b.uuidsDrawn
  keys : after.reservations.rows.map key = b.reservations.rows.map key
  lookup : ∀ id, after.reservations.get? id =
    if id = reservationId then some row else b.reservations.get? id

variable {b mid after : PrivateBudget} {row row' : PrivateBudgetReservation}
  {reservationId : String}

theorem Replaces.refl (hrow : b.reservations.get? reservationId = some row) :
    Replaces b b reservationId row where
  policies := rfl
  clocks := rfl
  bindings := rfl
  uuidsDrawn := rfl
  keys := rfl
  lookup := by
    intro _
    split
    · rename_i hid
      rw [hid, hrow]
    · rfl

theorem Replaces.trans (hfirst : Replaces b mid reservationId row)
    (hsecond : Replaces mid after reservationId row') :
    Replaces b after reservationId row' where
  policies := hsecond.policies.trans hfirst.policies
  clocks := hsecond.clocks.trans hfirst.clocks
  bindings := hsecond.bindings.trans hfirst.bindings
  uuidsDrawn := hsecond.uuidsDrawn.trans hfirst.uuidsDrawn
  keys := hsecond.keys.trans hfirst.keys
  lookup := by
    intro _
    rw [hsecond.lookup, hfirst.lookup]
    split
    · rfl
    · rfl

theorem Replaces.stored (hreplaces : Replaces b after reservationId row) :
    after.reservations.get? reservationId = some row := by
  rw [hreplaces.lookup, if_pos rfl]

theorem updateReservation_replaces
    {guard : PrivateBudgetReservation → Bool}
    {f : PrivateBudgetReservation → PrivateBudgetReservation}
    {hkey : ∀ row, key (f row) = key row}
    (hrow : b.reservations.get? reservationId = some row)
    (hguard : guard row = true) (hf : f row = row') :
    Replaces b (b.updateReservation reservationId guard f hkey) reservationId
      row' where
  policies := rfl
  clocks := rfl
  bindings := rfl
  uuidsDrawn := rfl
  keys := Table.keys_update hkey
  lookup := by
    intro id
    change (b.reservations.update _ f hkey).get? id = _
    rw [get?_update]
    split
    · rename_i hid
      have hkeyed : row.reservationId = reservationId := key_of_get? hrow
      rw [hid, hrow]
      simp [hkeyed, hguard, hf]
    · rename_i hid
      cases hget : b.reservations.get? id with
      | none => rfl
      | some other =>
        have hkeyed : other.reservationId = id := key_of_get? hget
        simp [hkeyed, hid]

variable {reached : PrivateRecoveryState} {nowMs : Int} {proofRef : String}
  {invocationId attemptId : Option String}

theorem isStranded_iff :
    row.isStranded = true ↔
      row.state = .held ∨ row.state = .reconcileRequired := by
  unfold PrivateBudgetReservation.isStranded
  rw [Bool.or_eq_true, decide_eq_true_eq, decide_eq_true_eq]

theorem recoverRelease_replaces (hnow : 0 ≤ nowMs)
    (hproof : blank proofRef = false)
    (hrow : reached.2.reservations.get? row.reservationId = some row)
    (hstranded : row.isStranded = true)
    (hinvocation : invocationId = none ∨ invocationId = row.invocationId)
    (hattempt : attemptId = none ∨ attemptId = row.attemptId) :
    Replaces reached.2
      (recoverRelease nowMs reached row proofRef invocationId attemptId).2
      row.reservationId (row.releasedBy proofRef nowMs) := by
  have hopen := isStranded_iff.mp hstranded
  have hnot : ¬ row.state = .released := by
    intro hreleased
    rcases hopen with hstate | hstate <;> rw [hstate] at hreleased <;>
      cases hreleased
  have hinvocation' : row.invocationId = none ∨ invocationId = none ∨
      row.invocationId = invocationId := by
    rcases hinvocation with hnone | hsame
    · exact .inr (.inl hnone)
    · exact .inr (.inr hsame.symm)
  have hattempt' : row.attemptId = none ∨ attemptId = none ∨
      row.attemptId = attemptId := by
    rcases hattempt with hnone | hsame
    · exact .inr (.inl hnone)
    · exact .inr (.inr hsame.symm)
  have hunique : row.invocationId = none → invocationId ≠ none →
      ∀ other ∈ reached.2.reservations.rows,
        other.invocationId ≠ invocationId := by
    intro hnone hsome
    rcases hinvocation with hempty | hsame
    · exact absurd hempty hsome
    · exact absurd (hsame.trans hnone) hsome
  have hreplaces := @updateReservation_replaces reached.2 row
    (row.releasedBy proofRef nowMs) row.reservationId
    (fun row => row.state = .held || row.state = .reconcileRequired)
    (fun row =>
      { row with
        state := .released, dispatchTruth := .notStarted
        invocationId := row.invocationId.or invocationId
        attemptId := row.attemptId.or attemptId
        releaseProofRef := some proofRef
        updatedAtMs := nowMs }) (fun _ => rfl) hrow hstranded (by
      have hkept : row.invocationId.or invocationId = row.invocationId := by
        rcases hinvocation with rfl | rfl
        · exact or_none
        · exact Option.or_self
      have hkept' : row.attemptId.or attemptId = row.attemptId := by
        rcases hattempt with rfl | rfl
        · exact or_none
        · exact Option.or_self
      rw [hkept, hkept']
      rfl)
  have hok : ∃ after, releasePrivateReservation reached.2
      { reservationId := row.reservationId, proofRef
        dispatchTruth := some .notStarted
        invocationId, attemptId, nowMs } =
      .ok (row.releasedBy proofRef nowMs, after) ∧
      Replaces reached.2 after row.reservationId
        (row.releasedBy proofRef nowMs) := by
    refine ⟨_, ?_, hreplaces⟩
    unfold releasePrivateReservation reservationRequired getPrivateReservation
    rw [require_pos hnow, ok_bind, require_pos rfl, ok_bind,
      require_pos (by simp [hproof]), ok_bind, hrow, orFault_some, ok_bind,
      if_neg hnot, require_pos hopen, require_pos hinvocation',
      require_pos hattempt', require_pos hunique]
    exact orFault_bind_ok.mpr ⟨_, hreplaces.stored, rfl⟩
  obtain ⟨_, hok, hreplaces⟩ := hok
  unfold recoverRelease
  rw [hok]
  exact hreplaces

theorem recoverRelease_refused (hrefused : nowMs < 0 ∨ blank proofRef = true) :
    (recoverRelease nowMs reached row proofRef invocationId attemptId).2 =
      reached.2 := by
  unfold recoverRelease
  split
  · rename_i hok
    obtain ⟨hnow, hok⟩ := of_require hok
    replace hok := passed hok
    obtain ⟨hproof, _⟩ := of_require hok
    rcases hrefused with hpast | hblank
    · exact absurd hnow (Int.not_le.mpr hpast)
    · simp [hblank] at hproof
  · rfl

theorem recoverConserve_replaces (hnow : 0 ≤ nowMs)
    (hnamed : blank row.reservationId = false)
    (hrow : reached.2.reservations.get? row.reservationId = some row) :
    Replaces reached.2 (recoverConserve nowMs reached row.reservationId).2
      row.reservationId (row.conserved nowMs) := by
  unfold recoverConserve PrivateBudgetReservation.conserved
    getPrivateReservation
  rw [hrow, any_some]
  by_cases hheld : row.state = .held
  · rw [if_pos (decide_eq_true hheld), if_pos hheld]
    have hreplaces := @updateReservation_replaces reached.2 row
      (row.unknownAt nowMs) row.reservationId (fun row => row.state = .held)
      (fun row =>
        { row with
          state := .reconcileRequired, dispatchTruth := .unknown
          updatedAtMs := nowMs }) (fun _ => rfl) hrow (decide_eq_true hheld) rfl
    have hok : ∃ after, markPrivateReservationUnknown reached.2
        row.reservationId nowMs = .ok (row.unknownAt nowMs, after) ∧
        Replaces reached.2 after row.reservationId (row.unknownAt nowMs) := by
      refine ⟨_, ?_, hreplaces⟩
      unfold markPrivateReservationUnknown reservationRequired
        getPrivateReservation
      rw [require_pos hnow, ok_bind, require_pos (by simp [hnamed]), ok_bind,
        hrow, orFault_some, ok_bind, if_neg (by rw [hheld]; exact nofun),
        if_neg (not_not_intro hheld)]
      exact orFault_bind_ok.mpr ⟨_, hreplaces.stored, rfl⟩
    obtain ⟨_, hok, hreplaces⟩ := hok
    rw [hok]
    exact hreplaces
  · rw [if_neg (by simpa using hheld), if_neg hheld]
    exact .refl hrow

theorem recoverConserve_past (hpast : nowMs < 0) :
    (recoverConserve nowMs reached reservationId).2 = reached.2 := by
  unfold recoverConserve
  split
  · have herror : markPrivateReservationUnknown reached.2 reservationId nowMs =
        .error .timeInvalid := by
      unfold markPrivateReservationUnknown
      rw [require_neg (Int.not_le.mpr hpast)]
      rfl
    rw [herror]
    rfl
  · rfl

variable {input : PrivateDispatchInput} {target : ReceiptTarget}

theorem PrivateDispatchInput.validate_ok :
    input.validate = .ok () ↔ 0 ≤ input.nowMs ∧
      blank input.reservationId = false ∧ blank input.invocationId = false ∧
        blank input.attemptId = false := by
  unfold PrivateDispatchInput.validate
  rw [require_bind_ok, require_bind_ok, require_bind_ok, require_ok]
  simp

/-- A dispatch is recorded for an open row that is bound to its attempt. -/
theorem recoverDispatch_replaces (hvalid : input.validate = .ok ())
    (hrow : reached.2.reservations.get? input.reservationId = some row)
    (hopen : row.state = .held ∧ row.dispatchTruth = .notStarted ∨
      row.state = .reconcileRequired ∧ row.dispatchTruth = .unknown)
    (hbound : row.isBoundTo input = true) (hsame : input.nowMs = nowMs) :
    Replaces reached.2 (recoverDispatch nowMs reached input target).2
      input.reservationId (row.dispatchedTo target nowMs) := by
  have hnot : ¬ (row.state = .committed ∧ row.isBoundTo input) := by
    rintro ⟨hcommitted, _⟩
    rcases hopen with ⟨hstate, _⟩ | ⟨hstate, _⟩ <;>
      rw [hstate] at hcommitted <;> cases hcommitted
  have hstate : row.state = .held ∨
      (row.state = .reconcileRequired ∧ row.dispatchTruth = .unknown) :=
    hopen.imp And.left id
  have htruth : row.dispatchTruth = .notStarted ∨
      row.dispatchTruth = .unknown :=
    hopen.imp And.right And.right
  have hcommits := @updateReservation_replaces reached.2 row
    (row.dispatchedTo .attempted nowMs) input.reservationId
    (fun row => (row.state = .held || row.state = .reconcileRequired) &&
      (row.dispatchTruth = .notStarted || row.dispatchTruth = .unknown) &&
      row.isBoundTo input)
    (fun row =>
      { row with
        state := .committed, dispatchTruth := .attempted
        updatedAtMs := input.nowMs }) (fun _ => rfl) hrow
    (by
      have hwas : row.state = .held ∨ row.state = .reconcileRequired :=
        hstate.imp id And.left
      simp [hwas, htruth, hbound])
    (by rw [hsame]; rfl)
  have hcommit : ∃ after, commitPrivateDispatch reached.2 input =
      .ok (row.dispatchedTo .attempted nowMs, after) ∧
      Replaces reached.2 after input.reservationId
        (row.dispatchedTo .attempted nowMs) := by
    refine ⟨_, ?_, hcommits⟩
    unfold commitPrivateDispatch reservationRequired getPrivateReservation
    rw [hvalid, ok_bind, hrow, orFault_some, ok_bind, if_neg hnot,
      require_pos hstate, require_pos hbound, require_pos htruth]
    exact orFault_bind_ok.mpr ⟨_, hcommits.stored, rfl⟩
  obtain ⟨committed, hcommit, hcommits⟩ := hcommit
  unfold recoverDispatch
  rw [hcommit]
  cases target with
  | attempted => exact hcommits
  | responded =>
    have hbound' : (row.dispatchedTo .attempted nowMs).isBoundTo input =
        true := hbound
    have hresponds := @updateReservation_replaces committed
      (row.dispatchedTo .attempted nowMs) (row.dispatchedTo .responded nowMs)
      input.reservationId
      (fun row => row.state = .committed && row.isBoundTo input)
      (fun row =>
        { row with dispatchTruth := .responded, updatedAtMs := input.nowMs })
      (fun _ => rfl) hcommits.stored
      (by rw [hbound', Bool.and_true]; exact decide_eq_true rfl)
      (by rw [hsame]; rfl)
    have hrespond : ∃ after, recordPrivateProviderResponse committed input =
        .ok (row.dispatchedTo .responded nowMs, after) ∧
        Replaces committed after input.reservationId
          (row.dispatchedTo .responded nowMs) := by
      refine ⟨_, ?_, hresponds⟩
      have hnew : ¬ ((row.dispatchedTo .attempted nowMs).state = .committed ∧
          (row.dispatchedTo .attempted nowMs).isBoundTo input ∧
          (row.dispatchedTo .attempted nowMs).dispatchTruth =
            .responded) := by
        rintro ⟨_, _, hresponded⟩
        cases hresponded
      unfold recordPrivateProviderResponse reservationRequired
        getPrivateReservation
      rw [require_pos (PrivateDispatchInput.validate_ok.mp hvalid).1, ok_bind,
        hcommits.stored,
        orFault_some, ok_bind, if_neg hnew, require_pos ⟨rfl, hbound'⟩]
      exact orFault_bind_ok.mpr ⟨_, hresponds.stored, rfl⟩
    obtain ⟨_, hrespond, hresponds⟩ := hrespond
    dsimp only
    rw [hrespond]
    exact hcommits.trans hresponds

/-- A dispatch that cannot be recorded ends conservatively. -/
theorem recoverDispatch_invalid (hinvalid : input.validate ≠ .ok ()) :
    recoverDispatch nowMs reached input target =
      recoverConserve nowMs reached input.reservationId := by
  have herror : ∃ fault, commitPrivateDispatch reached.2 input =
      .error fault := by
    unfold commitPrivateDispatch
    cases hvalid : input.validate with
    | error fault => exact ⟨fault, rfl⟩
    | ok => exact absurd hvalid hinvalid
  obtain ⟨_, herror⟩ := herror
  unfold recoverDispatch
  rw [herror]

/-- A held row that is not bound names no invocation. -/
def PrivateBudgetReservation.WellBound (row : PrivateBudgetReservation) :
    Prop :=
  row.Shaped ∧ (row.state = .held → row.dispatchTruth = .notBound →
    row.invocationId = none)

variable {db : Sidecar} {receipts : PrivateReceipts}
variable {law : BudgetLaw} {policies : Table BudgetPolicyRow}

/-- A receipt of a dispatch, for a stranded row with both its ids. -/
theorem recoverDispatched_replaces {invocationId attemptId : String}
    (hnow : 0 ≤ nowMs) (hnamed : blank row.reservationId = false)
    (hshaped : row.WellBound)
    (hrow : reached.2.reservations.get? row.reservationId = some row)
    (hstranded : row.isStranded = true)
    (hinvocation : row.invocationId = some invocationId)
    (hattempt : row.attemptId = some attemptId) :
    Replaces reached.2
      (recoverDispatch nowMs reached
        ⟨row.reservationId, invocationId, attemptId, nowMs⟩ target).2
      row.reservationId
      (if blank invocationId || blank attemptId then row.conserved nowMs
        else row.dispatchedTo target nowMs) := by
  have hbound : row.isBoundTo ⟨row.reservationId, invocationId, attemptId,
      nowMs⟩ = true := by
    unfold PrivateBudgetReservation.isBoundTo
    simp [hinvocation, hattempt]
  have hopen : row.state = .held ∧ row.dispatchTruth = .notStarted ∨
      row.state = .reconcileRequired ∧ row.dispatchTruth = .unknown := by
    rcases isStranded_iff.mp hstranded with hheld | hreconcile
    · rcases hshaped.1.1 hheld with hfree | hstarted
      · rw [hshaped.2 hheld hfree] at hinvocation
        cases hinvocation
      · exact .inl ⟨hheld, hstarted⟩
    · exact .inr ⟨hreconcile, hshaped.1.2 hreconcile⟩
  by_cases hblank : (blank invocationId || blank attemptId) = true
  · rw [if_pos hblank, recoverDispatch_invalid]
    · exact recoverConserve_replaces hnow hnamed hrow
    · intro hvalid
      obtain ⟨_, _, hfirst, hsecond⟩ :=
        PrivateDispatchInput.validate_ok.mp hvalid
      rw [hfirst, hsecond] at hblank
      cases hblank
  · rw [if_neg hblank]
    rw [Bool.or_eq_true, not_or, Bool.not_eq_true, Bool.not_eq_true] at hblank
    exact recoverDispatch_replaces (PrivateDispatchInput.validate_ok.mpr
      ⟨hnow, hnamed, hblank⟩) hrow hopen hbound rfl

theorem recoverFromReceipt_replaces (hnow : 0 ≤ nowMs)
    (hnamed : blank row.reservationId = false) (hshaped : row.WellBound)
    (hrow : reached.2.reservations.get? row.reservationId = some row)
    (hstranded : row.isStranded = true) :
    Replaces reached.2 (recoverFromReceipt receipts nowMs reached row).2
      row.reservationId (settledFromReceipt receipts nowMs row) := by
  unfold recoverFromReceipt settledFromReceipt
  generalize (receipts.ofParent row).filter (· ≠ .notStarted "") = receipt
  generalize hinvocation : row.invocationId.filter (· ≠ "") = invocation
  generalize hattempt : row.attemptId.filter (· ≠ "") = attempt
  have hconserves := @recoverConserve_replaces row reached nowMs hnow hnamed hrow
  cases receipt with
  | none => exact hconserves
  | some truth =>
    cases truth with
    | unknown => exact hconserves
    | notStarted proofRef =>
      dsimp only
      cases hblank : blank proofRef with
      | true =>
        rw [recoverRelease_refused (.inr hblank)]
        exact .refl hrow
      | false =>
        exact recoverRelease_replaces hnow hblank hrow hstranded
          (.inr rfl) (.inr rfl)
    | dispatched =>
      cases invocation with
      | none => exact hconserves
      | some =>
        cases attempt with
        | none => exact hconserves
        | some =>
          exact recoverDispatched_replaces hnow hnamed hshaped hrow
            hstranded (filter_eq_some_iff.mp hinvocation).1
            (filter_eq_some_iff.mp hattempt).1

theorem recoverFromReceipt_past (hpast : nowMs < 0) :
    (recoverFromReceipt receipts nowMs reached row).2 = reached.2 := by
  unfold recoverFromReceipt
  dsimp only
  split
  · exact recoverRelease_refused (.inl hpast)
  · rw [recoverDispatch_invalid]
    · exact recoverConserve_past hpast
    · intro hvalid
      exact absurd (PrivateDispatchInput.validate_ok.mp hvalid).1
        (Int.not_le.mpr hpast)
  · exact recoverConserve_past hpast

theorem requireReservationBudgetPolicy_ok [Host]
    (hrow : b.reservations.get? reservationId = some row) :
    requireReservationBudgetPolicy b reservationId = .ok () ↔
      hasBudgetPolicy b.policies row = true := by
  have hcurrent := @resolveBudgetPolicy_congr _ { policies := b.policies } b
    rfl row.policyId none
  have hbound := @reservationBudgetPolicy_congr _ { policies := b.policies } b
    rfl row
  unfold requireReservationBudgetPolicy hasBudgetPolicy reservationRequired
    getPrivateReservation
  rw [hrow, orFault_some, ok_bind, ← hcurrent, ← hbound]
  cases resolveBudgetPolicy b row.policyId with
  | error => simp [Except.isOk, Except.toBool]
  | ok =>
    cases reservationBudgetPolicy b row with
    | error => simp [Except.isOk, Except.toBool]
    | ok => simp [Except.isOk, Except.toBool, pure, Except.pure]

/-- A time before the epoch is refused everywhere. -/
theorem recoverReservation_past [Host] (hpast : nowMs < 0) :
    (recoverReservation db receipts nowMs reservationId reached).2 =
      reached.2 := by
  unfold recoverReservation
  split
  · rfl
  split
  · rfl
  split
  · rfl
  split
  · exact recoverRelease_refused (.inl hpast)
  split
  · split
    · rfl
    · exact recoverRelease_refused (.inl hpast)
    · rfl
  · exact recoverFromReceipt_past hpast

/-- Recovery of one reservation rewrites its row alone, to the settled one. -/
theorem recoverReservation_replaces [Host] (hnamed : blank row.reservationId = false)
    (hshaped : row.WellBound)
    (hrow : reached.2.reservations.get? row.reservationId = some row) :
    Replaces reached.2
      (recoverReservation db receipts nowMs row.reservationId reached).2
      row.reservationId
      (settledReservation reached.2.policies db receipts nowMs row) := by
  unfold settledReservation
  by_cases hnow : 0 ≤ nowMs
  case neg =>
    rw [if_neg fun hall => hnow hall.1,
      recoverReservation_past (Int.not_le.mp hnow)]
    exact .refl hrow
  have hne : row.reservationId ≠ "" := by
    intro hempty
    rw [hempty] at hnamed
    cases hnamed
  have hpolicy := requireReservationBudgetPolicy_ok hrow
  unfold recoverReservation
  rw [if_neg hne]
  cases hrequire : requireReservationBudgetPolicy reached.2
      row.reservationId with
  | error =>
    have hunread : ¬ hasBudgetPolicy reached.2.policies row = true := by
      intro hread
      rw [hpolicy.mpr hread] at hrequire
      cases hrequire
    rw [if_neg fun hall => hunread hall.2.2]
    exact .refl hrow
  | ok =>
    have hread := hpolicy.mp hrequire
    have hfilter : (some row).filter (fun row =>
        row.state = .held || row.state = .reconcileRequired) =
          if row.isStranded = true then some row else none :=
      filter_some
    unfold getPrivateReservation
    rw [hrow, hfilter]
    by_cases hstranded : row.isStranded = true
    case neg =>
      rw [if_neg hstranded, if_neg fun hall => hstranded hall.2.1]
      exact .refl hrow
    rw [if_pos hstranded, if_pos ⟨hnow, hstranded, hread⟩]
    unfold settledStranded
    dsimp only
    by_cases hunbound : row.IsUnbound
    · rw [if_pos hunbound, if_pos (And.intro hunbound.1 hunbound.2)]
      refine recoverRelease_replaces hnow ?_ hrow hstranded (.inl rfl)
        (.inl rfl)
      simp [blank, isTrimmed]
    rw [if_neg hunbound,
      if_neg fun hall => hunbound (And.intro hall.1 hall.2)]
    by_cases hproven : row.isProvenHeld = true
    · rw [if_pos hproven, if_pos hproven]
      cases resolveDurableContinuationOwner db row.wakeId
          row.conversationId with
      | validOwner | indeterminateIdentity => exact .refl hrow
      | provenNoOwner =>
        cases hblank : blank (row.releaseProofRef.getD "") with
        | true =>
          rw [recoverRelease_refused (.inr hblank)]
          exact .refl hrow
        | false =>
          exact recoverRelease_replaces hnow hblank hrow hstranded
            (.inr rfl) (.inr rfl)
    · rw [if_neg hproven, if_neg hproven]
      exact recoverFromReceipt_replaces hnow hnamed hshaped hrow hstranded

/-- Why recovery may release a reservation with a proof. -/
inductive ReleaseEvidence (db : Sidecar) (receipts : PrivateReceipts)
    (row : PrivateBudgetReservation) : String → Prop
  | unbound (hunbound : row.IsUnbound) :
      ReleaseEvidence db receipts row
        ("recovery:" ++ row.reservationId ++ ":w0-binding-not-crossed")
  | ownerless (hproven : row.isProvenHeld = true)
      (cycle : Cycle) (wake : Wake)
      (howner : resolveDurableContinuationOwner db row.wakeId
        row.conversationId = .provenNoOwner cycle wake)
      (proofRef : String) (hproof : row.releaseProofRef = some proofRef) :
      ReleaseEvidence db receipts row proofRef
  | receipted (proofRef : String)
      (hreceipt : receipts.ofParent row = some (.notStarted proofRef)) :
      ReleaseEvidence db receipts row proofRef

/-- What settling can make of a row. -/
inductive ReservationSettles (db : Sidecar) (receipts : PrivateReceipts)
    (nowMs : Int) (row : PrivateBudgetReservation) :
    PrivateBudgetReservation → Prop
  | kept : ReservationSettles db receipts nowMs row row
  | released (hstranded : row.isStranded = true) (proofRef : String)
      (hevidence : ReleaseEvidence db receipts row proofRef) :
      ReservationSettles db receipts nowMs row (row.releasedBy proofRef nowMs)
  | unknown (hstranded : row.isStranded = true) :
      ReservationSettles db receipts nowMs row (row.unknownAt nowMs)
  | dispatched (hstranded : row.isStranded = true) (target : ReceiptTarget) :
      ReservationSettles db receipts nowMs row (row.dispatchedTo target nowMs)

theorem conserved_settles (hstranded : row.isStranded = true) :
    ReservationSettles db receipts nowMs row (row.conserved nowMs) := by
  unfold PrivateBudgetReservation.conserved
  split
  · exact .unknown hstranded
  · exact .kept

theorem settledFromReceipt_settles (hstranded : row.isStranded = true) :
    ReservationSettles db receipts nowMs row
      (settledFromReceipt receipts nowMs row) := by
  unfold settledFromReceipt
  split
  · rename_i proofRef hreceipt
    split
    · exact .kept
    · exact .released hstranded proofRef
        (.receipted proofRef (filter_eq_some_iff.mp hreceipt).1)
  · split
    · exact conserved_settles hstranded
    · exact .dispatched hstranded _
  · exact conserved_settles hstranded

theorem settledReservation_settles [Host] {policies : Table BudgetPolicyRow} :
    ReservationSettles db receipts nowMs row
      (settledReservation policies db receipts nowMs row) := by
  unfold settledReservation
  split
  case isFalse => exact .kept
  rename_i hall
  have hstranded := hall.2.1
  unfold settledStranded
  split
  · rename_i hunbound
    exact .released hstranded _ (.unbound hunbound)
  split
  · rename_i hproven
    split
    · rename_i cycle wake howner
      split
      · exact .kept
      · cases hproof : row.releaseProofRef with
        | none => simp [PrivateBudgetReservation.isProvenHeld, hproof] at hproven
        | some proofRef =>
          exact .released hstranded _
            (.ownerless hproven cycle wake howner proofRef hproof)
    · exact .kept
  · exact settledFromReceipt_settles hstranded

/-- A settled row keeps its name and what it was admitted with, and consumes
only if it did. -/
theorem ReservationSettles.identity
    (hsettles : ReservationSettles db receipts nowMs row row') :
    row'.reservationId = row.reservationId ∧ row'.policyId = row.policyId ∧
      row'.policyTimeMs = row.policyTimeMs ∧
      row'.policyFingerprint = row.policyFingerprint ∧
      (row'.isConsuming = true → row.isConsuming = true) := by
  have hconsumes : row.isStranded = true → row.isConsuming = true := by
    intro hstranded
    rcases isStranded_iff.mp hstranded with hstate | hstate <;>
      simp [PrivateBudgetReservation.isConsuming, hstate]
  cases hsettles with
  | kept => exact ⟨rfl, rfl, rfl, rfl, id⟩
  | released hstranded | unknown hstranded | dispatched hstranded =>
    exact ⟨rfl, rfl, rfl, rfl, fun _ => hconsumes hstranded⟩

/-- What the reservations of a budget are after every operation. -/
structure ReservationsWellBound [Host] (b : PrivateBudget) : Prop where
  drawn : ReservationsDrawn b
  bound : ∀ row ∈ b.reservations.rows, row.WellBound

theorem ReservationsWellBound.named [Host] (hb : ReservationsWellBound b)
    (hrow : row ∈ b.reservations.rows) : blank row.reservationId = false := by
  obtain ⟨_, _, hid⟩ := hb.drawn row hrow
  rw [hid]
  simp [blank, isTrimmed]

theorem ReservationMove.wellBound [Host]
    (hmove : ReservationMove law b row row') (hbound : row.WellBound) :
    row'.WellBound := by
  refine ⟨hmove.shaped hbound.1, ?_⟩
  cases hmove with
  | kept | proven => exact hbound.2
  | bound | dispatched | responded | released | markedUnknown | expired
  | continued => exact nofun

theorem BudgetMove.wellBound [Host] (hmove : BudgetMove law b after)
    (hb : ReservationsWellBound b) : ReservationsWellBound after := by
  refine ⟨hmove.drawn hb.drawn, ?_⟩
  cases hmove with
  | clocks | bindings | repairBound => exact hb.bound
  | reservations _ hmoves =>
    intro _ hrow'
    obtain ⟨row, hrow, hstep⟩ := Table.exists_old hmoves hrow'
    exact hstep.wellBound (hb.bound row hrow)
  | reserved _ _ _ hadmits _ hinsert =>
    intro other hother
    rcases (mem_insert_iff hinsert).mp hother with hold | rfl
    · exact hb.bound other hold
    · refine ⟨⟨fun _ => .inl hadmits.dispatchTruth, fun hreconcile => ?_⟩,
        fun _ _ => hadmits.invocationId⟩
      rw [hadmits.state] at hreconcile
      cases hreconcile

theorem BudgetTrace.wellBound [Host] (htrace : BudgetTrace law b after)
    (hb : ReservationsWellBound b) :
    ReservationsWellBound after := by
  induction htrace with
  | refl => exact hb
  | tail _ hmove ih => exact hmove.wellBound ih

theorem budgetStep_wellBound [Host] (op : BudgetOp) (b : PrivateBudget)
    (hb : ReservationsWellBound b) : ReservationsWellBound (budgetStep op b) := by
  refine budgetStep_keeps (P := ReservationsWellBound)
    (fun policy configured hok => ?_) (fun _ _ hmove => hmove.wellBound) hb
  obtain ⟨policies, heq⟩ := configureBudgetPolicy_policies hok
  rw [heq]
  exact fun hb => ⟨hb.drawn, hb.bound⟩

theorem settledReservation_of_not_stranded [Host]
    (hnot : row.isStranded = false) :
    settledReservation policies db receipts nowMs row = row := by
  unfold settledReservation
  rw [if_neg]
  rintro ⟨_, hstranded, _⟩
  rw [hnot] at hstranded
  cases hstranded

/-- The reservations are rewritten by a function of the row. -/
structure SettlesReservations (b after : PrivateBudget)
    (f : PrivateBudgetReservation → PrivateBudgetReservation) : Prop where
  policies : after.policies = b.policies
  clocks : after.clocks = b.clocks
  bindings : after.bindings = b.bindings
  uuidsDrawn : after.uuidsDrawn = b.uuidsDrawn
  reservations : Table.MapsTo f b.reservations after.reservations

/-- One turn of the loop settles the row of its name. -/
theorem recoverReservation_settles [Host] (hb : ReservationsWellBound reached.2) :
    SettlesReservations reached.2
      (recoverReservation db receipts nowMs reservationId reached).2 fun row =>
        if row.reservationId = reservationId then
          settledReservation reached.2.policies db receipts nowMs row
        else row := by
  cases hrow : reached.2.reservations.get? reservationId with
  | none =>
    have hkept : (recoverReservation db receipts nowMs reservationId
        reached).2 = reached.2 := by
      unfold recoverReservation requireReservationBudgetPolicy
        reservationRequired getPrivateReservation
      rw [hrow]
      split
      · rfl
      · rfl
    rw [hkept]
    refine ⟨rfl, rfl, rfl, rfl, .of_id fun row hmem => if_neg ?_⟩
    rintro rfl
    cases hrow.symm.trans (get?_key hmem)
  | some row =>
    obtain rfl : row.reservationId = reservationId := key_of_get? hrow
    have hmem := mem_of_get? hrow
    have hreplaces := @recoverReservation_replaces row reached nowMs db
      receipts _ (hb.named hmem) (hb.bound row hmem) hrow
    refine ⟨hreplaces.policies, hreplaces.clocks, hreplaces.bindings,
      hreplaces.uuidsDrawn, hreplaces.keys, fun id => ?_⟩
    rw [hreplaces.lookup]
    by_cases hid : id = row.reservationId
    · rw [if_pos hid, hid, hrow, map_some, if_pos rfl]
    · rw [if_neg hid]
      cases hget : reached.2.reservations.get? id with
      | none => rfl
      | some other =>
        have hkeyed : other.reservationId = id := key_of_get? hget
        rw [map_some, hkeyed, if_neg hid]

theorem mem_strandedReservations {id : String} :
    id ∈ strandedReservations b ↔ ∃ row ∈ b.reservations.rows,
      row.isStranded = true ∧ row.reservationId = id := by
  unfold strandedReservations
  rw [List.mem_map]
  simp only [mem_insertionSort, mem_filter]
  constructor
  · rintro ⟨row, ⟨hrow, hstranded⟩, hid⟩
    exact ⟨row, hrow, hstranded, hid⟩
  · rintro ⟨row, hrow, hstranded, hid⟩
    exact ⟨row, ⟨hrow, hstranded⟩, hid⟩

/-- What the loop over the stranded reservations leaves as it is. -/
structure SameFrame (b after : PrivateBudget) : Prop where
  policies : after.policies = b.policies
  clocks : after.clocks = b.clocks
  bindings : after.bindings = b.bindings
  uuidsDrawn : after.uuidsDrawn = b.uuidsDrawn

/-- Recovery of the stranded reservations settles every row. -/
theorem recoverStranded_settles [Host] (hb : ReservationsWellBound reached.2) :
    SettlesReservations reached.2
      (run (recoverReservation db receipts nowMs) reached
        (strandedReservations reached.2)).2
      (settledReservation reached.2.policies db receipts nowMs) := by
  have hnodup : (strandedReservations reached.2).Nodup := by
    refine (((perm_insertionSort _ _).map _).nodup_iff).mpr ?_
    exact reached.2.reservations.keys_nodup.sublist (filter_sublist.map _)
  let Kept (s : PrivateRecoveryState) : Prop :=
    SameFrame reached.2 s.2 ∧ ReservationsWellBound s.2
  have hkeeps : ∀ id s, Kept s → Kept (recoverReservation db receipts nowMs id s) := by
    rintro id s ⟨hframe, hbound⟩
    have hsettles := @recoverReservation_settles id s nowMs db receipts _ hbound
    refine ⟨⟨hsettles.policies.trans hframe.policies,
      hsettles.clocks.trans hframe.clocks,
      hsettles.bindings.trans hframe.bindings,
      hsettles.uuidsDrawn.trans hframe.uuidsDrawn⟩, ?_⟩
    have htrace := @recoverReservation_trace _ anyWrite s nowMs db receipts id
    exact htrace.wellBound hbound
  have hstart : Kept reached := ⟨⟨rfl, rfl, rfl, rfl⟩, hb⟩
  have hframe := (run_preserves hkeeps hstart (strandedReservations reached.2)).1
  have hmaps := run_mapsTo
    (fun s : PrivateRecoveryState => s.2.reservations)
    PrivateBudgetReservation.reservationId
    (f := settledReservation reached.2.policies db receipts nowMs)
    (fun row => settledReservation_settles.identity.1) hkeeps (by
      rintro id s ⟨hframe, hbound⟩
      have hsettles := @recoverReservation_settles id s nowMs db receipts _ hbound
      rw [hframe.policies] at hsettles
      exact hsettles.reservations) hnodup hstart
  refine ⟨hframe.policies, hframe.clocks, hframe.bindings, hframe.uuidsDrawn,
    hmaps.congr fun row hrow => ?_⟩
  split
  · rfl
  · rename_i hnot
    have hsettled : row.isStranded = false := by
      rw [← Bool.not_eq_true]
      exact fun hstranded => hnot (mem_strandedReservations.mpr
        ⟨row, hrow, hstranded, rfl⟩)
    rw [settledReservation_of_not_stranded hsettled]

/-- The receipts are durable: they answer for an attempt, whatever the state of
its row. -/
structure PrivateReceipts.Durable (receipts : PrivateReceipts) : Prop where
  ofParent : ∀ row row' : PrivateBudgetReservation,
    row'.reservationId = row.reservationId →
    row'.invocationId = row.invocationId → row'.attemptId = row.attemptId →
    receipts.ofParent row' = receipts.ofParent row
  ofChild : ∀ row row' : PrivateBudgetAttemptBinding,
    row'.reservationId = row.reservationId →
    row'.invocationId = row.invocationId → row'.attemptId = row.attemptId →
    receipts.ofChild row' = receipts.ofChild row

theorem conserved_unknownAt :
    (row.unknownAt nowMs).conserved nowMs = row.unknownAt nowMs :=
  if_neg nofun

theorem conserved_cases :
    row.conserved nowMs = row ∨ row.conserved nowMs = row.unknownAt nowMs := by
  unfold PrivateBudgetReservation.conserved
  split
  · exact .inr rfl
  · exact .inl rfl

/-- What a receipt makes of a row is the row, no longer stranded, or unknown
with nothing more to be learned from the receipt. -/
theorem settledFromReceipt_cases (hdurable : receipts.Durable) :
    settledFromReceipt receipts nowMs row = row ∨
    (settledFromReceipt receipts nowMs row).isStranded = false ∨
    (settledFromReceipt receipts nowMs row = row.unknownAt nowMs ∧
      settledFromReceipt receipts nowMs (row.unknownAt nowMs) =
        row.unknownAt nowMs) := by
  have hsame : receipts.ofParent (row.unknownAt nowMs) =
      receipts.ofParent row :=
    hdurable.ofParent _ _ rfl rfl rfl
  have hconserves : row.conserved nowMs = row ∨
      (row.conserved nowMs).isStranded = false ∨
      (row.conserved nowMs = row.unknownAt nowMs ∧
        (row.unknownAt nowMs).conserved nowMs = row.unknownAt nowMs) := by
    rcases conserved_cases with hkept | hunknown
    · exact .inl hkept
    · exact .inr (.inr ⟨hunknown, conserved_unknownAt⟩)
  have hinvocation : (row.unknownAt nowMs).invocationId = row.invocationId := rfl
  have hattempt : (row.unknownAt nowMs).attemptId = row.attemptId := rfl
  unfold settledFromReceipt
  rw [hsame, hinvocation, hattempt]
  generalize (receipts.ofParent row).filter (· ≠ .notStarted "") = receipt
  generalize row.invocationId.filter (· ≠ "") = invocation
  generalize row.attemptId.filter (· ≠ "") = attempt
  cases receipt with
  | none => exact hconserves
  | some truth =>
    cases truth with
    | unknown => exact hconserves
    | notStarted =>
      dsimp only
      split
      · exact .inl rfl
      · exact .inr (.inl rfl)
    | dispatched =>
      cases invocation with
      | none => exact hconserves
      | some =>
        cases attempt with
        | none => exact hconserves
        | some =>
          dsimp only
          split
          · exact hconserves
          · exact .inr (.inl rfl)

theorem settledStranded_cases (hdurable : receipts.Durable) :
    settledStranded db receipts nowMs row = row ∨
    (settledStranded db receipts nowMs row).isStranded = false ∨
    (settledStranded db receipts nowMs row = row.unknownAt nowMs ∧
      settledStranded db receipts nowMs (row.unknownAt nowMs) =
        row.unknownAt nowMs) := by
  have hopen : ¬ (row.unknownAt nowMs).IsUnbound := by
    rintro ⟨_, htruth⟩
    cases htruth
  have hunproven : ¬ (row.unknownAt nowMs).isProvenHeld = true := nofun
  unfold settledStranded
  split
  · exact .inr (.inl rfl)
  split
  · split
    · split
      · exact .inl rfl
      · exact .inr (.inl rfl)
    · exact .inl rfl
  · exact settledFromReceipt_cases hdurable

/-- Settling a row twice is settling it once. -/
theorem settledReservation_idem [Host] (hdurable : receipts.Durable) :
    settledReservation policies db receipts nowMs
        (settledReservation policies db receipts nowMs row) =
      settledReservation policies db receipts nowMs row := by
  by_cases hsettles : 0 ≤ nowMs ∧ row.isStranded = true ∧
      hasBudgetPolicy policies row = true
  case neg =>
    have hkept : settledReservation policies db receipts nowMs row = row :=
      if_neg hsettles
    rw [hkept, hkept]
  have hsettled : settledReservation policies db receipts nowMs row =
      settledStranded db receipts nowMs row := if_pos hsettles
  rcases @settledStranded_cases row nowMs db receipts hdurable with
    hkept | hclosed | ⟨hunknown, hstays⟩
  · rw [hsettled, hkept, hsettled, hkept]
  · rw [hsettled, settledReservation_of_not_stranded hclosed]
  · rw [hsettled, hunknown]
    have hread : hasBudgetPolicy policies (row.unknownAt nowMs) = true :=
      hsettles.2.2
    unfold settledReservation
    rw [if_pos ⟨hsettles.1, rfl, hread⟩]
    exact hstays

end Reservations

end CognitiveSidecar
