/-
Recovery of the private budget converges: what it makes of a later attempt, and
the second recovery at one time as the repetition of the first.
-/
import CognitiveSidecar.PrivateExpiry
import CognitiveSidecar.PrivateSettlement

namespace CognitiveSidecar

open List Relational

section Bindings

variable [Host]

/-- A later attempt that was never dispatched, with the proof of it. -/
def PrivateBudgetAttemptBinding.provenIfOpen (row : PrivateBudgetAttemptBinding)
    (proofRef : String) (nowMs : Int) : PrivateBudgetAttemptBinding :=
  if blank proofRef = false ∧ row.dispatchTruth = .notStarted then
    { row with releaseProofRef := some proofRef, updatedAtMs := nowMs }
  else row

/-- A later attempt that has converged to its receipt. -/
def PrivateBudgetAttemptBinding.convergedTo (row : PrivateBudgetAttemptBinding)
    (target : ReceiptTarget) (providerRequestId : Option String)
    (nowMs : Int) : PrivateBudgetAttemptBinding :=
  match target with
  | .attempted =>
    if row.dispatchTruth = .notStarted ∨ row.dispatchTruth = .unknown then
      { row with dispatchTruth := .attempted, updatedAtMs := nowMs }
    else row
  | .responded =>
    if row.dispatchTruth = .responded then
      if (providerRequestId.filter (· ≠ "")).isSome ∧
          row.providerRequestId.filter (· ≠ "") = none then
        { row with providerRequestId, updatedAtMs := nowMs }
      else row
    else if row.dispatchTruth = .notBound then row
    else
      { row with
        dispatchTruth := .responded
        providerRequestId := row.providerRequestId.or providerRequestId
        updatedAtMs := nowMs }

/-- The later attempt that its receipt settles. -/
def convergedFromReceipt (receipts : PrivateReceipts) (nowMs : Int)
    (row : PrivateBudgetAttemptBinding) : PrivateBudgetAttemptBinding :=
  match (receipts.ofChild row).filter (· ≠ .notStarted "") with
  | some (.notStarted proofRef) => row.provenIfOpen proofRef nowMs
  | some (.dispatched target providerRequestId) =>
    row.convergedTo target providerRequestId nowMs
  | _ =>
    row.provenIfOpen ("recovery:" ++ row.reservationId ++ ":" ++
      row.invocationId ++ ":w0-binding-not-crossed") nowMs

/-- What recovery makes of a later attempt that it turns to. -/
def convergedBinding (b : PrivateBudget) (receipts : PrivateReceipts)
    (nowMs : Int) (row : PrivateBudgetAttemptBinding) :
    PrivateBudgetAttemptBinding :=
  if 0 ≤ nowMs ∧ blank row.reservationId = false ∧
      blank row.invocationId = false ∧
      (requireReservationBudgetPolicy b row.reservationId).isOk = true ∧
      row.releaseProofRef = none then
    convergedFromReceipt receipts nowMs row
  else row

/-- The later attempts are rewritten, and nothing else. -/
structure RewritesBindings (b after : PrivateBudget)
    (f : PrivateBudgetAttemptBinding → PrivateBudgetAttemptBinding) :
    Prop where
  policies : after.policies = b.policies
  clocks : after.clocks = b.clocks
  reservations : after.reservations = b.reservations
  uuidsDrawn : after.uuidsDrawn = b.uuidsDrawn
  bindings : Table.MapsTo f b.bindings after.bindings

variable {b after : PrivateBudget} {row row' : PrivateBudgetAttemptBinding}
  {reservationId invocationId : String} {nowMs : Int}
  {input : PrivateRepairRef} {receipts : PrivateReceipts}

/-- One later attempt is rewritten. -/
abbrev ReplacesBinding (b after : PrivateBudget)
    (row row' : PrivateBudgetAttemptBinding) : Prop :=
  RewritesBindings b after fun other => if other = row then row' else other

omit [Host] in
theorem ReplacesBinding.refl : ReplacesBinding b b row row where
  policies := rfl
  clocks := rfl
  reservations := rfl
  uuidsDrawn := rfl
  bindings := .of_id fun _ _ => by
    split
    · rename_i hsame
      exact hsame.symm
    · rfl

omit [Host] in
theorem updateBinding_replaces
    {guard : PrivateBudgetAttemptBinding → Bool}
    {f : PrivateBudgetAttemptBinding → PrivateBudgetAttemptBinding}
    {hkey : ∀ row, key (f row) = key row}
    (hrow : repairBindingRow b reservationId invocationId = some row)
    (hguard : guard row = true) (hf : f row = row')
    (hsame : row'.reservationId = reservationId) :
    (∃ updated, repairBindingRow
      (b.updateBinding reservationId invocationId guard f hkey) reservationId
      invocationId = some updated) ∧
    ReplacesBinding b (b.updateBinding reservationId invocationId guard f hkey)
      row row' := by
  obtain ⟨hstored, hparent, hid⟩ := repairBindingRow_stored hrow
  have hmaps : Table.MapsTo (fun other => if other = row then row' else other)
      b.bindings
      (b.updateBinding reservationId invocationId guard f hkey).bindings := by
    have hupdate := @Table.MapsTo.update _ _ _ _ f b.bindings
      (fun row => decide (row.reservationId = reservationId) &&
        decide (row.invocationId = invocationId) && guard row) hkey
    refine hupdate.congr fun other hother => ?_
    by_cases hsame : other = row
    · rw [if_pos hsame, if_pos (by simp [hsame, hparent, hid, hguard]), hsame,
        hf]
    · have hne : other.invocationId ≠ invocationId := fun hid =>
        hsame (repairBindingRow_unique hrow hother hid)
      rw [if_neg hsame, if_neg (by simp [hne])]
  refine ⟨?_, rfl, rfl, rfl, rfl, hmaps⟩
  have hmem : row' ∈ (b.updateBinding reservationId invocationId guard f
      hkey).bindings.rows :=
    hmaps.mem.mpr ⟨row, hstored, if_pos rfl⟩
  have hkeyed : row'.invocationId = invocationId := by
    rw [← hf]
    exact (hkey row).trans hid
  cases hfound : repairBindingRow (b.updateBinding reservationId invocationId
      guard f hkey) reservationId invocationId with
  | some updated => exact ⟨updated, rfl⟩
  | none =>
    have hnot := List.find?_eq_none.mp hfound row' hmem
    simp [hsame, hkeyed] at hnot

omit [Host] in
theorem releasePrivateRepairAttempt_replaces {proofRef : String}
    (hvalid : input.validate = .ok ())
    (hrow : repairBindingRow b input.reservationId input.invocationId =
      some row) (hfree : row.releaseProofRef = none) :
    (∃ updated after, releasePrivateRepairAttempt b input proofRef =
        .ok (updated, after) ∧
      ReplacesBinding b after row (row.provenIfOpen proofRef input.nowMs)) ∨
    (∃ fault, releasePrivateRepairAttempt b input proofRef = .error fault) ∧
      row.provenIfOpen proofRef input.nowMs = row := by
  unfold releasePrivateRepairAttempt PrivateBudgetAttemptBinding.provenIfOpen
  rw [hvalid, ok_bind]
  by_cases hproof : blank proofRef = false
  case neg =>
    refine .inr ⟨⟨.releaseProofMissing, ?_⟩, if_neg fun hall => hproof hall.1⟩
    rw [require_neg (by simpa using hproof)]
    rfl
  rw [require_pos (by simp [hproof]), ok_bind, hrow, orFault_some, ok_bind]
  by_cases htruth : row.dispatchTruth = .notStarted
  case neg =>
    refine .inr ⟨⟨.reservationStateConflict, ?_⟩,
      if_neg fun hall => htruth hall.2⟩
    rw [require_neg htruth]
    rfl
  rw [require_pos htruth, if_neg (not_not_intro hfree),
    if_pos ⟨hproof, htruth⟩]
  have hupdate := @updateBinding_replaces b row
    { row with releaseProofRef := some proofRef, updatedAtMs := input.nowMs }
    input.reservationId input.invocationId
    (fun row => row.dispatchTruth = .notStarted && row.releaseProofRef = none)
    (fun row =>
      { row with releaseProofRef := some proofRef, updatedAtMs := input.nowMs })
    (fun _ => rfl) hrow (by simp [htruth, hfree]) rfl
    (repairBindingRow_stored hrow).2.1
  obtain ⟨⟨updated, hupdated⟩, hreplaces⟩ := hupdate
  exact .inl ⟨updated, _, orFault_bind_ok.mpr ⟨updated, hupdated, rfl⟩,
    hreplaces⟩

omit [Host] in
theorem reconcilePrivateRepairAttempt_replaces {target : ReceiptTarget}
    {providerRequestId : Option String} (hvalid : input.validate = .ok ())
    (hrow : repairBindingRow b input.reservationId input.invocationId =
      some row) (hfree : row.releaseProofRef = none) :
    (∃ updated after,
      reconcilePrivateRepairAttempt b input target providerRequestId =
        .ok (updated, after) ∧
      ReplacesBinding b after row
        (row.convergedTo target providerRequestId input.nowMs)) ∨
    (∃ fault, reconcilePrivateRepairAttempt b input target providerRequestId =
        .error fault) ∧
      row.convergedTo target providerRequestId input.nowMs = row := by
  have hparent := (repairBindingRow_stored hrow).2.1
  unfold reconcilePrivateRepairAttempt PrivateBudgetAttemptBinding.convergedTo
  rw [hvalid, ok_bind, hrow, orFault_some, ok_bind, require_pos hfree]
  cases target with
  | attempted =>
    dsimp only
    by_cases hattempted : row.dispatchTruth = .attempted
    · rw [if_pos hattempted, if_neg (by rw [hattempted]; decide)]
      exact .inl ⟨row, b, rfl, .refl⟩
    rw [if_neg hattempted]
    by_cases hresponded : row.dispatchTruth = .responded
    · rw [require_neg (not_not_intro hresponded),
        if_neg (by rw [hresponded]; decide)]
      exact .inr ⟨⟨.contradictoryDispatchTruth, rfl⟩, rfl⟩
    rw [require_pos hresponded]
    by_cases hopen : row.dispatchTruth = .notStarted ∨
        row.dispatchTruth = .unknown
    case neg =>
      rw [require_neg hopen, if_neg hopen]
      exact .inr ⟨⟨.reservationStateConflict, rfl⟩, rfl⟩
    rw [require_pos hopen, if_pos hopen]
    obtain ⟨⟨updated, hupdated⟩, hreplaces⟩ := @updateBinding_replaces b row
      { row with dispatchTruth := .attempted, updatedAtMs := input.nowMs }
      input.reservationId input.invocationId
      (fun row => row.dispatchTruth = .notStarted ||
        row.dispatchTruth = .unknown)
      (fun row =>
        { row with dispatchTruth := .attempted, updatedAtMs := input.nowMs })
      (fun _ => rfl) hrow (by simpa using hopen) rfl hparent
    exact .inl ⟨updated, _, orFault_bind_ok.mpr ⟨updated, hupdated, rfl⟩,
      hreplaces⟩
  | responded =>
    dsimp only
    by_cases hresponded : row.dispatchTruth = .responded
    · rw [if_pos hresponded, if_pos hresponded]
      by_cases hnamed : (providerRequestId.filter (· ≠ "")).isSome = true ∧
          row.providerRequestId.filter (· ≠ "") = none
      case neg =>
        rw [if_neg hnamed, if_neg hnamed]
        exact .inl ⟨row, b, rfl, .refl⟩
      rw [if_pos hnamed, if_pos hnamed]
      obtain ⟨⟨updated, hupdated⟩, hreplaces⟩ := @updateBinding_replaces b row
        { row with providerRequestId, updatedAtMs := input.nowMs }
        input.reservationId input.invocationId (fun _ => true)
        (fun row =>
          { row with providerRequestId, updatedAtMs := input.nowMs })
        (fun _ => rfl) hrow rfl rfl hparent
      exact .inl ⟨updated, _, orFault_bind_ok.mpr ⟨updated, hupdated, rfl⟩,
        hreplaces⟩
    rw [if_neg hresponded, if_neg hresponded]
    by_cases hunbound : row.dispatchTruth = .notBound
    · rw [if_pos hunbound, require_neg (by rw [hunbound]; decide)]
      exact .inr ⟨⟨.reservationStateConflict, rfl⟩, rfl⟩
    have hopen : row.dispatchTruth = .notStarted ∨
        row.dispatchTruth = .attempted ∨ row.dispatchTruth = .unknown := by
      cases htruth : row.dispatchTruth with
      | notBound => exact absurd htruth hunbound
      | notStarted => exact .inl rfl
      | attempted => exact .inr (.inl rfl)
      | responded => exact absurd htruth hresponded
      | unknown => exact .inr (.inr rfl)
    rw [if_neg hunbound, require_pos hopen]
    obtain ⟨⟨updated, hupdated⟩, hreplaces⟩ := @updateBinding_replaces b row
      { row with
        dispatchTruth := .responded
        providerRequestId := row.providerRequestId.or providerRequestId
        updatedAtMs := input.nowMs }
      input.reservationId input.invocationId
      (fun row => row.dispatchTruth = .notStarted ||
        row.dispatchTruth = .attempted || row.dispatchTruth = .unknown)
      (fun row =>
        { row with
          dispatchTruth := .responded
          providerRequestId := row.providerRequestId.or providerRequestId
          updatedAtMs := input.nowMs })
      (fun _ => rfl) hrow (by simpa [or_assoc] using hopen) rfl hparent
    exact .inl ⟨updated, _, orFault_bind_ok.mpr ⟨updated, hupdated, rfl⟩,
      hreplaces⟩

variable {reached : PrivateRecoveryState}
variable {providerRequestId : Option String}

omit [Host] in
theorem PrivateRepairRef.validate_ok :
    input.validate = .ok () ↔ 0 ≤ input.nowMs ∧
      blank input.reservationId = false ∧ blank input.invocationId = false := by
  unfold PrivateRepairRef.validate
  rw [require_bind_ok, require_bind_ok, require_ok]
  simp

omit [Host] in
theorem ReplacesBinding.of_named {f : PrivateBudgetAttemptBinding →
      PrivateBudgetAttemptBinding}
    (hrow : repairBindingRow b reservationId invocationId = some row)
    (hreplaces : ReplacesBinding b after row (f row)) :
    RewritesBindings b after fun other =>
      if (other.reservationId, other.invocationId) =
        (reservationId, invocationId) then f other
      else other := by
  obtain ⟨_, hparent, hid⟩ := repairBindingRow_stored hrow
  refine ⟨hreplaces.policies, hreplaces.clocks, hreplaces.reservations,
    hreplaces.uuidsDrawn, hreplaces.bindings.congr fun other hother => ?_⟩
  by_cases hsame : other = row
  · rw [if_pos hsame, if_pos (by rw [hsame, hparent, hid]), hsame]
  · rw [if_neg hsame, if_neg fun hname => hsame
      (repairBindingRow_unique hrow hother (Prod.mk.inj hname).2)]

/-- A refused turn leaves every row, and so does its function. -/
theorem RewritesBindings.of_refused
    (hrows : ∀ row ∈ b.bindings.rows, row.reservationId = reservationId →
      row.invocationId = invocationId →
      convergedBinding b receipts nowMs row = row) :
    RewritesBindings b b fun row =>
      if (row.reservationId, row.invocationId) =
        (reservationId, invocationId) then
        convergedBinding b receipts nowMs row
      else row := by
  refine ⟨rfl, rfl, rfl, rfl, .of_id fun row hrow => ?_⟩
  split
  · rename_i hname
    obtain ⟨hparent, hid⟩ := Prod.mk.inj hname
    exact hrows row hrow hparent hid
  · rfl

omit [Host] in
/-- A release that nothing proves rests on the binding that no call crossed. -/
theorem releaseUnproven_replaces
    (hvalid : PrivateRepairRef.validate
      ⟨reservationId, invocationId, nowMs⟩ = .ok ())
    (hrow : repairBindingRow reached.2 reservationId invocationId = some row)
    (hfree : row.releaseProofRef = none) :
    ReplacesBinding reached.2
      (if row.dispatchTruth = .notStarted then
        match releasePrivateRepairAttempt reached.2
            ⟨reservationId, invocationId, nowMs⟩ ("recovery:" ++
              reservationId ++ ":" ++ invocationId ++
              ":w0-binding-not-crossed") with
        | .ok (_, b) =>
          ({ reached.1 with
              releasedRepairs := reached.1.releasedRepairs + 1 }, b)
        | .error _ => reached
      else reached : PrivateRecoveryState).2 row
      (row.provenIfOpen ("recovery:" ++ reservationId ++ ":" ++
        invocationId ++ ":w0-binding-not-crossed") nowMs) := by
  split
  · rcases @releasePrivateRepairAttempt_replaces reached.2 row
      ⟨reservationId, invocationId, nowMs⟩ ("recovery:" ++ reservationId ++
        ":" ++ invocationId ++ ":w0-binding-not-crossed") hvalid hrow hfree with
      ⟨_, _, hok, hreplaces⟩ | ⟨⟨_, hfault⟩, hsame⟩
    · rw [hok]
      exact hreplaces
    · rw [hfault, hsame]
      exact .refl
  · rename_i hdispatched
    unfold PrivateBudgetAttemptBinding.provenIfOpen
    rw [if_neg fun hall => hdispatched hall.2]
    exact .refl

/-- The turn of a later attempt whose name and parent are in order and that
carries no proof. -/
theorem recoverBinding_replaces (hnow : 0 ≤ nowMs)
    (hnamed : blank reservationId = false ∧ blank invocationId = false)
    (hpolicy :
      (requireReservationBudgetPolicy reached.2 reservationId).isOk = true)
    (hrow : repairBindingRow reached.2 reservationId invocationId = some row)
    (hfree : row.releaseProofRef = none) :
    ReplacesBinding reached.2
      (recoverBinding receipts nowMs (reservationId, invocationId) reached).2
      row (convergedFromReceipt receipts nowMs row) := by
  obtain ⟨_, hparent, hid⟩ := repairBindingRow_stored hrow
  have hvalid : PrivateRepairRef.validate
      ⟨reservationId, invocationId, nowMs⟩ = .ok () :=
    PrivateRepairRef.validate_ok.mpr ⟨hnow, hnamed⟩
  have hread : getPrivateRepairBinding reached.2 reservationId invocationId =
      .ok (some row) := by
    unfold getPrivateRepairBinding
    rw [require_pos (by simp [hnamed.1]), require_pos (by simp [hnamed.2]), hrow]
    rfl
  have hnonempty : ¬ (reservationId = "" ∨ invocationId = "") := by
    rintro (rfl | rfl)
    · cases hnamed.1
    · cases hnamed.2
  have hreleases := fun proofRef =>
    @releasePrivateRepairAttempt_replaces reached.2 row
      ⟨reservationId, invocationId, nowMs⟩ proofRef hvalid hrow hfree
  unfold recoverBinding convergedFromReceipt
  dsimp only
  rw [if_neg hnonempty, hread, hparent, hid]
  cases hrequire : requireReservationBudgetPolicy reached.2 reservationId with
  | error =>
    rw [hrequire] at hpolicy
    cases hpolicy
  | ok =>
    dsimp only
    rw [if_neg (not_not_intro hfree)]
    have hunproved := releaseUnproven_replaces hvalid hrow hfree
    cases (receipts.ofChild row).filter (· ≠ .notStarted "") with
    | none => exact hunproved
    | some truth =>
      cases truth with
      | unknown => exact hunproved
      | notStarted proofRef =>
        dsimp only
        rcases hreleases proofRef with ⟨_, _, hok, hreplaces⟩ |
          ⟨⟨fault, hfault⟩, hsame⟩
        · rw [hok]
          exact hreplaces
        · rw [hfault, hsame]
          exact .refl
      | dispatched target providerRequestId =>
        dsimp only
        rcases @reconcilePrivateRepairAttempt_replaces reached.2 row
          ⟨reservationId, invocationId, nowMs⟩ target providerRequestId
          hvalid hrow hfree with
          ⟨_, _, hok, hreplaces⟩ | ⟨⟨_, hfault⟩, hsame⟩
        · rw [hok]
          exact hreplaces
        · rw [hfault, hsame]
          exact .refl

/-- A turn whose name, time, parent or row is not in order is refused. -/
theorem recoverBinding_refused
    (hrefused : nowMs < 0 ∨ blank reservationId = true ∨
      blank invocationId = true ∨
      (requireReservationBudgetPolicy reached.2 reservationId).isOk = false ∨
      ∀ row, repairBindingRow reached.2 reservationId invocationId = some row →
        row.releaseProofRef ≠ none) :
    (recoverBinding receipts nowMs (reservationId, invocationId) reached).2 =
      reached.2 := by
  unfold recoverBinding
  dsimp only
  split
  · rfl
  split
  case h_2 => rfl
  rename_i binding hrequire hbinding
  obtain ⟨hparent, hbinding⟩ := of_require hbinding
  obtain ⟨hid, hbinding⟩ := of_require hbinding
  have hrow := of_pure hbinding
  split
  · rfl
  rename_i hfree
  have hpast : nowMs < 0 := by
    rcases hrefused with hpast | hblank | hblank | hpolicy | hproven
    · exact hpast
    · simp [hblank] at hparent
    · simp [hblank] at hid
    · rw [hrequire] at hpolicy
      cases hpolicy
    · exact absurd (hproven binding hrow) hfree
  have hinvalid : PrivateRepairRef.validate
      ⟨reservationId, invocationId, nowMs⟩ = .error .timeInvalid := by
    unfold PrivateRepairRef.validate
    rw [require_neg (Int.not_le.mpr hpast)]
    rfl
  have hrelease : ∀ proofRef, releasePrivateRepairAttempt reached.2
      ⟨reservationId, invocationId, nowMs⟩ proofRef = .error .timeInvalid := by
    intro _
    unfold releasePrivateRepairAttempt
    rw [hinvalid]
    rfl
  split
  · rw [hrelease]
  · rename_i target providerRequestId _
    have hreconcile : reconcilePrivateRepairAttempt reached.2
        ⟨reservationId, invocationId, nowMs⟩ target providerRequestId =
          .error .timeInvalid := by
      unfold reconcilePrivateRepairAttempt
      rw [hinvalid]
      rfl
    rw [hreconcile]
  · split
    · rw [hrelease]
    · rfl

/-- Recovery of one later attempt rewrites its row alone. -/
theorem recoverBinding_rewrites {attempt : String × String} :
    RewritesBindings reached.2
      (recoverBinding receipts nowMs attempt reached).2 fun row =>
        if (row.reservationId, row.invocationId) = attempt then
          convergedBinding reached.2 receipts nowMs row
        else row := by
  obtain ⟨reservationId, invocationId⟩ := attempt
  by_cases hvalid : 0 ≤ nowMs ∧ blank reservationId = false ∧
      blank invocationId = false ∧
      (requireReservationBudgetPolicy reached.2 reservationId).isOk = true
  case neg =>
    have hkept := @recoverBinding_refused _ reservationId invocationId nowMs
      receipts reached (by
        by_contra hall
        simp only [not_or, Bool.not_eq_true, Bool.not_eq_false] at hall
        exact hvalid ⟨Int.not_lt.mp hall.1, hall.2.1, hall.2.2.1, hall.2.2.2.1⟩)
    rw [hkept]
    refine .of_refused fun _ _ hparent hid => if_neg fun hall => hvalid ?_
    rw [hparent, hid] at hall
    exact ⟨hall.1, hall.2.1, hall.2.2.1, hall.2.2.2.1⟩
  obtain ⟨hnow, hparent, hid, hpolicy⟩ := hvalid
  by_cases hopen : ∃ row, repairBindingRow reached.2 reservationId
      invocationId = some row ∧ row.releaseProofRef = none
  case neg =>
    have hkept := @recoverBinding_refused _ reservationId invocationId nowMs
      receipts reached (.inr (.inr (.inr (.inr fun row hrow hfree =>
        hopen ⟨row, hrow, hfree⟩))))
    rw [hkept]
    refine .of_refused fun row hstored hparent' hid' => if_neg fun hall => ?_
    cases hrow : repairBindingRow reached.2 reservationId invocationId with
    | none =>
      have hnot := List.find?_eq_none.mp hrow row hstored
      simp [hparent', hid'] at hnot
    | some found =>
      rw [repairBindingRow_unique hrow hstored hid'] at hall
      exact hopen ⟨found, hrow, hall.2.2.2.2⟩
  obtain ⟨row, hrow, hfree⟩ := hopen
  obtain ⟨_, hparent', hid'⟩ := repairBindingRow_stored hrow
  have hconverged : convergedBinding reached.2 receipts nowMs row =
      convergedFromReceipt receipts nowMs row :=
    if_pos ⟨hnow, hparent'.symm ▸ hparent, hid'.symm ▸ hid,
      hparent'.symm ▸ hpolicy, hfree⟩
  refine ReplacesBinding.of_named hrow ?_
  rw [hconverged]
  exact recoverBinding_replaces hnow ⟨hparent, hid⟩ hpolicy hrow hfree

omit [Host] in
theorem provenIfOpen_names {proofRef : String} :
    (row.provenIfOpen proofRef nowMs).reservationId = row.reservationId ∧
      (row.provenIfOpen proofRef nowMs).invocationId = row.invocationId := by
  unfold PrivateBudgetAttemptBinding.provenIfOpen
  split
  · exact ⟨rfl, rfl⟩
  · exact ⟨rfl, rfl⟩

omit [Host] in
theorem convergedTo_names {target : ReceiptTarget} :
    (row.convergedTo target providerRequestId nowMs).reservationId =
        row.reservationId ∧
      (row.convergedTo target providerRequestId nowMs).invocationId =
        row.invocationId := by
  unfold PrivateBudgetAttemptBinding.convergedTo
  split
  · split
    · exact ⟨rfl, rfl⟩
    · exact ⟨rfl, rfl⟩
  · split
    · split
      · exact ⟨rfl, rfl⟩
      · exact ⟨rfl, rfl⟩
    · split
      · exact ⟨rfl, rfl⟩
      · exact ⟨rfl, rfl⟩

theorem convergedBinding_names :
    (convergedBinding b receipts nowMs row).reservationId = row.reservationId ∧
      (convergedBinding b receipts nowMs row).invocationId =
        row.invocationId := by
  unfold convergedBinding
  split
  · unfold convergedFromReceipt
    split
    · exact provenIfOpen_names
    · exact convergedTo_names
    · exact provenIfOpen_names
  · exact ⟨rfl, rfl⟩

theorem requireReservationBudgetPolicy_congr
    (hpolicies : after.policies = b.policies)
    (hreservations : after.reservations = b.reservations)
    (reservationId : String) :
    requireReservationBudgetPolicy after reservationId =
      requireReservationBudgetPolicy b reservationId := by
  unfold requireReservationBudgetPolicy reservationRequired
    getPrivateReservation
  rw [hreservations]
  simp only [resolveBudgetPolicy_congr hpolicies,
    reservationBudgetPolicy_congr hpolicies]

theorem convergedBinding_congr (hpolicies : after.policies = b.policies)
    (hreservations : after.reservations = b.reservations) :
    convergedBinding after receipts nowMs row =
      convergedBinding b receipts nowMs row := by
  unfold convergedBinding
  rw [requireReservationBudgetPolicy_congr hpolicies hreservations]

/-- What recovery makes of a later attempt. -/
def settledBinding (b : PrivateBudget) (receipts : PrivateReceipts)
    (nowMs : Int) (row : PrivateBudgetAttemptBinding) :
    PrivateBudgetAttemptBinding :=
  if row.isStranded then convergedBinding b receipts nowMs row else row

omit [Host] in
theorem mem_strandedBindings {name : String × String} :
    name ∈ strandedBindings b ↔ ∃ row ∈ b.bindings.rows,
      row.isStranded = true ∧ (row.reservationId, row.invocationId) = name := by
  unfold strandedBindings
  rw [mem_map]
  simp only [mem_insertionSort, mem_filter]
  constructor
  · rintro ⟨row, ⟨hrow, hstranded⟩, hname⟩
    exact ⟨row, hrow, hstranded, hname⟩
  · rintro ⟨row, hrow, hstranded, hname⟩
    exact ⟨row, ⟨hrow, hstranded⟩, hname⟩

omit [Host] in
theorem strandedBindings_nodup : (strandedBindings b).Nodup := by
  refine (((perm_insertionSort _ _).map _).nodup_iff).mpr ?_
  have hids := b.bindings.keys_nodup.sublist ((@filter_sublist _
    PrivateBudgetAttemptBinding.isStranded b.bindings.rows).map key)
  refine List.Nodup.of_map Prod.snd ?_
  rw [map_map]
  exact hids

/-- Recovery of the stranded later attempts settles every row. -/
theorem recoverBindings_settles :
    RewritesBindings reached.2
      (run (recoverBinding receipts nowMs) reached
        (strandedBindings reached.2)).2
      (settledBinding reached.2 receipts nowMs) := by
  let Kept (s : PrivateRecoveryState) : Prop :=
    s.2.policies = reached.2.policies ∧ s.2.clocks = reached.2.clocks ∧
      s.2.reservations = reached.2.reservations ∧
      s.2.uuidsDrawn = reached.2.uuidsDrawn
  have hkeeps : ∀ name s, Kept s → Kept (recoverBinding receipts nowMs name s) := by
    rintro name s ⟨hpolicies, hclocks, hreservations, hdrawn⟩
    have hrewrites := @recoverBinding_rewrites _ nowMs receipts s name
    exact ⟨hrewrites.policies.trans hpolicies, hrewrites.clocks.trans hclocks,
      hrewrites.reservations.trans hreservations,
      hrewrites.uuidsDrawn.trans hdrawn⟩
  have hstart : Kept reached := ⟨rfl, rfl, rfl, rfl⟩
  have hframe := run_preserves hkeeps hstart (strandedBindings reached.2)
  have hmaps := run_mapsTo (fun s : PrivateRecoveryState => s.2.bindings)
    (fun row => (row.reservationId, row.invocationId))
    (f := convergedBinding reached.2 receipts nowMs)
    (fun row => Prod.ext convergedBinding_names.1 convergedBinding_names.2)
    hkeeps (by
      rintro name s ⟨hpolicies, _, hreservations, _⟩
      refine recoverBinding_rewrites.bindings.congr fun row _ => ?_
      rw [convergedBinding_congr hpolicies hreservations])
    (@strandedBindings_nodup reached.2) hstart
  refine ⟨hframe.1, hframe.2.1, hframe.2.2.1, hframe.2.2.2,
    hmaps.congr fun row hrow => ?_⟩
  have hlisted : (row.reservationId, row.invocationId) ∈
      strandedBindings reached.2 ↔ row.isStranded = true := by
    rw [mem_strandedBindings]
    constructor
    · rintro ⟨other, hother, hstranded, hname⟩
      obtain rfl : other = row :=
        inj_on_of_nodup_map reached.2.bindings.keys_nodup hother hrow
          (Prod.mk.inj hname).2
      exact hstranded
    · exact fun hstranded => ⟨row, hrow, hstranded, rfl⟩
  unfold settledBinding
  by_cases hstranded : row.isStranded = true
  · rw [if_pos (hlisted.mpr hstranded), if_pos hstranded]
  · rw [if_neg (mt hlisted.mp hstranded), if_neg hstranded]

omit [Host] in
theorem convergedTo_attempted (htruth : row.dispatchTruth = .attempted) :
    row.convergedTo .attempted providerRequestId nowMs = row := by
  exact if_neg (by rw [htruth]; decide)

omit [Host] in
/-- What a receipt makes of a stranded later attempt is the attempt, or is no
longer stranded, or has nothing more to learn from the receipt. -/
theorem convergedFromReceipt_cases (hdurable : receipts.Durable)
    (hstranded : row.isStranded = true) :
    convergedFromReceipt receipts nowMs row = row ∨
    (convergedFromReceipt receipts nowMs row).isStranded = false ∨
    convergedFromReceipt receipts nowMs
        (convergedFromReceipt receipts nowMs row) =
      convergedFromReceipt receipts nowMs row := by
  have hproven : ∀ proofRef, row.provenIfOpen proofRef nowMs = row ∨
      (row.provenIfOpen proofRef nowMs).isStranded = false := by
    intro _
    unfold PrivateBudgetAttemptBinding.provenIfOpen
    split
    · simp [PrivateBudgetAttemptBinding.isStranded]
    · exact .inl rfl
  cases htold : (receipts.ofChild row).filter (· ≠ .notStarted "") with
  | none =>
    unfold convergedFromReceipt
    rw [htold]
    exact (hproven _).imp_right .inl
  | some truth =>
    cases truth with
    | unknown | notStarted =>
      unfold convergedFromReceipt
      rw [htold]
      exact (hproven _).imp_right .inl
    | dispatched target providerRequestId =>
      have hresult : convergedFromReceipt receipts nowMs row =
          row.convergedTo target providerRequestId nowMs := by
        unfold convergedFromReceipt
        rw [htold]
      rw [hresult]
      cases target with
      | attempted =>
        by_cases hopen : row.dispatchTruth = .notStarted ∨
            row.dispatchTruth = .unknown
        case neg => exact .inl (if_neg hopen)
        have hattempted : row.convergedTo .attempted providerRequestId
            nowMs =
          { row with dispatchTruth := .attempted, updatedAtMs := nowMs } :=
          if_pos hopen
        refine .inr (.inr ?_)
        have htold' : receipts.ofChild
            { row with dispatchTruth := .attempted, updatedAtMs := nowMs } =
            receipts.ofChild row :=
          hdurable.ofChild _ _ rfl rfl rfl
        rw [hattempted]
        unfold convergedFromReceipt
        rw [htold', htold]
        exact convergedTo_attempted rfl
      | responded =>
        unfold PrivateBudgetAttemptBinding.convergedTo
        have hopen : ¬ row.dispatchTruth = .responded ∧
            ¬ row.dispatchTruth = .notBound := by
          constructor
          · intro htruth
            simp [PrivateBudgetAttemptBinding.isStranded, htruth]
              at hstranded
          · intro htruth
            simp [PrivateBudgetAttemptBinding.isStranded, htruth]
              at hstranded
        rw [if_neg hopen.1, if_neg hopen.2]
        exact .inr (.inl rfl)

/-- Settling a later attempt twice is settling it once. -/
theorem settledBinding_idem (hdurable : receipts.Durable) :
    settledBinding b receipts nowMs (settledBinding b receipts nowMs row) =
      settledBinding b receipts nowMs row := by
  by_cases hstranded : row.isStranded = true
  case neg =>
    have hkept : settledBinding b receipts nowMs row = row := if_neg hstranded
    rw [hkept, hkept]
  have hsettled : settledBinding b receipts nowMs row =
      convergedBinding b receipts nowMs row := if_pos hstranded
  by_cases hopen : 0 ≤ nowMs ∧ blank row.reservationId = false ∧
      blank row.invocationId = false ∧
      (requireReservationBudgetPolicy b row.reservationId).isOk = true ∧
      row.releaseProofRef = none
  case neg =>
    have hkept : convergedBinding b receipts nowMs row = row := if_neg hopen
    rw [hsettled, hkept, hsettled, hkept]
  have hconverged : convergedBinding b receipts nowMs row =
      convergedFromReceipt receipts nowMs row := if_pos hopen
  rw [hsettled, hconverged]
  rcases @convergedFromReceipt_cases row nowMs receipts hdurable hstranded with
    hkept | hclosed | hstays
  · rw [hkept, hsettled, hconverged, hkept]
  · exact if_neg (by rw [hclosed]; exact Bool.false_ne_true)
  · unfold settledBinding
    split
    · unfold convergedBinding
      split
      · exact hstays
      · rfl
    · rfl

end Bindings

section Convergence

variable [Host]

def PolicyClock.withoutDiscrepancy (clock : PolicyClock) : PolicyClock :=
  { clock with discrepancyMs := 0 }

/-- The budget without the discrepancies that its clocks last observed. -/
def PrivateBudget.withoutDiscrepancies (b : PrivateBudget) : PrivateBudget :=
  { b with
    clocks := b.clocks.update (fun _ => true) PolicyClock.withoutDiscrepancy
      fun _ => rfl }

omit [Host] in
theorem withoutDiscrepancies_maps (b : PrivateBudget) :
    Table.MapsTo PolicyClock.withoutDiscrepancy b.clocks
      b.withoutDiscrepancies.clocks :=
  (@Table.MapsTo.update _ _ _ _ PolicyClock.withoutDiscrepancy b.clocks
    (fun _ => true) fun _ => rfl).congr fun _ _ => if_pos rfl

/-- A second observation at one time changes at most the discrepancy. -/
theorem observedClock_again {policies : Table BudgetPolicyRow}
    {clock : PolicyClock} :
    (observedClock policies nowMs (observedClock policies nowMs clock)
      ).withoutDiscrepancy =
      (observedClock policies nowMs clock).withoutDiscrepancy := by
  by_cases hobserves : observes policies nowMs clock.policyId = true
  case neg =>
    have hkept := observedClock_of_not (Bool.eq_false_iff.mpr hobserves)
    rw [hkept, hkept]
  obtain ⟨_, _, policy, hpolicy⟩ :=
    (@observes_iff _ { policies } nowMs clock.policyId).mp hobserves
  have hfirst := @observedClock_eq _ { policies } nowMs clock policy hobserves
    hpolicy
  have hsecond := fun time => @observedClock_eq _ { policies } nowMs
    (clock.observed time) policy hobserves hpolicy
  have htolerance : 0 ≤ policy.clockDiscontinuityMs := policy.valid.2.2.2.2.2
  have hlast : max (max clock.lastPolicyNowMs nowMs) nowMs =
      max clock.lastPolicyNowMs nowMs := by omega
  have hstate : policy.clockDiscontinuityMs <
        max clock.lastPolicyNowMs nowMs - nowMs ↔
      policy.clockDiscontinuityMs < clock.lastPolicyNowMs - nowMs := by
    omega
  rw [hfirst, hsecond]
  unfold PolicyClock.withoutDiscrepancy PolicyClock.observed computePolicyTime
  simp only [hlast, hstate]

/-- What the recovery of a budget makes of its tables. -/
structure BudgetRecovers (db : Sidecar) (receipts : PrivateReceipts) (nowMs : Int)
    (b after : PrivateBudget) : Prop where
  policies : after.policies = b.policies
  uuidsDrawn : after.uuidsDrawn = b.uuidsDrawn
  clocks : Table.MapsTo (fun clock =>
      if clock.policyId ∈ strandedPolicies b then
        observedClock b.policies nowMs clock
      else clock) b.clocks after.clocks
  reservations : Table.MapsTo (fun row =>
      settledReservation b.policies db receipts nowMs
        (expiredReservation b nowMs row)) b.reservations after.reservations
  bindings : Table.MapsTo (settledBinding after receipts nowMs) b.bindings
    after.bindings

variable {b : PrivateBudget} {db : Sidecar} {receipts : PrivateReceipts}
  {nowMs : Int}

variable {after : PrivateBudget} {row' : PrivateBudgetReservation}
variable {row : PrivateBudgetAttemptBinding}

/-- The budget after a recovery. -/
def recoveredBudget (db : Sidecar) (receipts : PrivateReceipts) (nowMs : Int)
    (b : PrivateBudget) : PrivateBudget :=
  (recoverPrivateBudget b db receipts nowMs).2

theorem recoverPrivateBudget_recovers (hb : Budgeted b)
    (hbound : ReservationsWellBound b) :
    BudgetRecovers db receipts nowMs b (recoveredBudget db receipts nowMs b) := by
  have hexpired := @recoverExpired_rewrites _ nowMs ({}, b) hb
  have hstill : ReservationsWellBound
      (run (recoverPolicy nowMs) ({}, b) (strandedPolicies b)).2 := by
    refine run_preserves
      (P := fun s : PrivateRecoveryState => ReservationsWellBound s.2) ?_ hbound _
    intro policyId s hs
    have htrace := @recoverPolicy_trace _ anyWrite s nowMs policyId
    exact htrace.wellBound hs
  have hparents := @recoverStranded_settles
    (run (recoverPolicy nowMs) ({}, b) (strandedPolicies b)) nowMs db receipts
    _ hstill
  have hchildren : RewritesBindings (recoverParents b db receipts nowMs).2
      (recoveredBudget db receipts nowMs b)
      (settledBinding (recoverParents b db receipts nowMs).2 receipts nowMs) :=
    recoverBindings_settles
  have hrows := hparents.reservations
  rw [hexpired.policies] at hrows
  have hclocked : (recoverParents b db receipts nowMs).2.clocks =
      (run (recoverPolicy nowMs) ({}, b) (strandedPolicies b)).2.clocks :=
    hparents.clocks
  have hparented : (recoverParents b db receipts nowMs).2.bindings =
      b.bindings := hparents.bindings.trans hexpired.bindings
  refine ⟨hchildren.policies.trans (hparents.policies.trans hexpired.policies),
    hchildren.uuidsDrawn.trans
      (hparents.uuidsDrawn.trans hexpired.uuidsDrawn), ?_, ?_, ?_⟩
  · rw [hchildren.clocks, hclocked]
    exact hexpired.clocks
  · rw [hchildren.reservations]
    exact hexpired.reservations.trans hrows
  · rw [← hparented]
    refine hchildren.bindings.congr fun _ _ => ?_
    unfold settledBinding
    rw [convergedBinding_congr hchildren.policies hchildren.reservations]

theorem BudgetRecovers.expiryTime_eq
    (hrecovers : BudgetRecovers db receipts nowMs b after) (policyId : String) :
    expiryTime after nowMs policyId = expiryTime b nowMs policyId := by
  refine expiryTime_congr hrecovers.policies hrecovers.clocks (fun _ => ?_)
    policyId
  split
  · exact observedClock_time
  · rfl

/-- A recovered row is neither out of its window nor open to be settled. -/
theorem BudgetRecovers.row_settled
    (hrecovers : BudgetRecovers db receipts nowMs b after)
    (hdurable : receipts.Durable) (hrow' : row' ∈ after.reservations.rows) :
    settledReservation after.policies db receipts nowMs
      (expiredReservation after nowMs row') = row' := by
  obtain ⟨row, _, rfl⟩ := hrecovers.reservations.mem.mp hrow'
  have hquiet : expiredReservation after nowMs
      (settledReservation b.policies db receipts nowMs
        (expiredReservation b nowMs row)) =
      settledReservation b.policies db receipts nowMs
        (expiredReservation b nowMs row) := by
    rw [expiredReservation_congr hrecovers.policies hrecovers.expiryTime_eq]
    have hidentity := (@settledReservation_settles
      (expiredReservation b nowMs row) nowMs db receipts _ b.policies).identity
    obtain ⟨_, hpolicyId, htime, hfingerprint, hconsuming⟩ := hidentity
    generalize settledReservation b.policies db receipts nowMs
      (expiredReservation b nowMs row) = settled at *
    rw [expiredReservation_policyId] at hpolicyId
    unfold expiredReservation at hconsuming htime hfingerprint ⊢
    rw [hpolicyId]
    cases hat : expiryTime b nowMs row.policyId with
    | none => rfl
    | some policyTimeMs =>
      rw [hat] at hconsuming htime hfingerprint
      dsimp only at hconsuming htime hfingerprint ⊢
      unfold expiredIfGone at hconsuming htime hfingerprint ⊢
      by_cases hgone : (row.isConsuming &&
          !inWindow b policyTimeMs row) = true
      · rw [if_pos hgone] at hconsuming
        rw [if_neg]
        intro hall
        rw [Bool.and_eq_true] at hall
        cases hconsuming hall.1
      · rw [if_neg hgone] at hconsuming htime hfingerprint
        rw [if_neg]
        intro hall
        rw [Bool.and_eq_true] at hall
        refine hgone ?_
        rw [Bool.and_eq_true, ← inWindow_congr rfl hpolicyId htime
          hfingerprint]
        exact ⟨hconsuming hall.1, hall.2⟩
  rw [hquiet, hrecovers.policies]
  exact settledReservation_idem hdurable

/-- A second recovery at the same time repeats the first: it observes the clocks
again, and changes nothing else. -/
theorem BudgetRecovers.again {once twice : PrivateBudget}
    (hdurable : receipts.Durable) (hfirst : BudgetRecovers db receipts nowMs b once)
    (hsecond : BudgetRecovers db receipts nowMs once twice) :
    twice.withoutDiscrepancies = once.withoutDiscrepancies := by
  have hreservations : twice.reservations = once.reservations :=
    hsecond.reservations.eq_self fun _ hrow =>
      hfirst.row_settled hdurable hrow
  have hbindings : twice.bindings = once.bindings := by
    refine hsecond.bindings.eq_self fun _ hrow' => ?_
    obtain ⟨row, _, rfl⟩ := hfirst.bindings.mem.mp hrow'
    have hsame : ∀ row, settledBinding twice receipts nowMs row =
        settledBinding once receipts nowMs row := by
      intro _
      unfold settledBinding
      rw [convergedBinding_congr hsecond.policies hreservations]
    rw [hsame]
    exact settledBinding_idem hdurable
  have hlisted : ∀ policyId, policyId ∈ strandedPolicies once ↔
      policyId ∈ strandedPolicies b := by
    intro _
    rw [mem_strandedPolicies, mem_strandedPolicies]
    have hnamed : ∀ row, (settledReservation b.policies db receipts nowMs
        (expiredReservation b nowMs row)).policyId = row.policyId := fun _ =>
      settledReservation_settles.identity.2.1.trans expiredReservation_policyId
    constructor
    · rintro ⟨_, hrow', rfl⟩
      obtain ⟨row, hrow, rfl⟩ := hfirst.reservations.mem.mp hrow'
      exact ⟨row, hrow, (hnamed row).symm⟩
    · rintro ⟨row, hrow, rfl⟩
      exact ⟨_, hfirst.reservations.mem.mpr ⟨row, hrow, rfl⟩, hnamed row⟩
  have hclocks : twice.withoutDiscrepancies.clocks =
      once.withoutDiscrepancies.clocks := by
    have htwice := withoutDiscrepancies_maps twice
    have honce := withoutDiscrepancies_maps once
    refine Table.ext_get? ?_ fun policyId => ?_
    · rw [htwice.keys, honce.keys, hsecond.clocks.keys]
    · rw [htwice.lookup, honce.lookup, hsecond.clocks.lookup,
        hfirst.clocks.lookup]
      cases b.clocks.get? policyId with
      | none => rfl
      | some clock =>
        simp only [Option.map_some, hfirst.policies, hlisted]
        by_cases hmem : clock.policyId ∈ strandedPolicies b
        · rw [if_pos hmem, observedClock_policyId, if_pos hmem,
            observedClock_again]
        · rw [if_neg hmem, if_neg hmem]
  have hpolicies := hsecond.policies
  have hdrawn := hsecond.uuidsDrawn
  rw [PrivateBudget.mk.injEq]
  exact ⟨hpolicies, hclocks, hreservations, hbindings, hdrawn⟩

/-- Why recovery may prove a later attempt not started: the dispatch of the
attempt was never committed, and no receipt says otherwise. -/
structure ChildEvidence (receipts : PrivateReceipts)
    (row : PrivateBudgetAttemptBinding) (proofRef : String) : Prop where
  notDispatched : row.dispatchTruth = .notStarted
  told : receipts.ofChild row = some (.notStarted proofRef) ∨
    (proofRef = "recovery:" ++ row.reservationId ++ ":" ++ row.invocationId ++
        ":w0-binding-not-crossed" ∧
      ∀ target providerRequestId,
        receipts.ofChild row ≠ some (.dispatched target providerRequestId))

omit [Host] in
theorem provenIfOpen_proof {row : PrivateBudgetAttemptBinding}
    {proofRef : String} :
    (row.provenIfOpen proofRef nowMs).releaseProofRef = row.releaseProofRef ∨
      ((row.provenIfOpen proofRef nowMs).releaseProofRef = some proofRef ∧
        row.dispatchTruth = .notStarted) := by
  unfold PrivateBudgetAttemptBinding.provenIfOpen
  split
  · rename_i hopen
    exact .inr ⟨rfl, hopen.2⟩
  · exact .inl rfl

omit [Host] in
theorem convergedTo_proof {target : ReceiptTarget}
    {providerRequestId : Option String} :
    (row.convergedTo target providerRequestId nowMs).releaseProofRef =
      row.releaseProofRef := by
  unfold PrivateBudgetAttemptBinding.convergedTo
  split
  · split
    · rfl
    · rfl
  · split
    · split
      · rfl
      · rfl
    · split
      · rfl
      · rfl

theorem settledBinding_proof :
    (settledBinding b receipts nowMs row).releaseProofRef =
        row.releaseProofRef ∨
      ∃ proofRef, (settledBinding b receipts nowMs row).releaseProofRef =
        some proofRef ∧ ChildEvidence receipts row proofRef := by
  unfold settledBinding
  split
  case isFalse => exact .inl rfl
  unfold convergedBinding
  split
  case isFalse => exact .inl rfl
  unfold convergedFromReceipt
  split
  · rename_i proofRef htold
    rcases @provenIfOpen_proof nowMs row proofRef with hkept | ⟨hproof, htruth⟩
    · exact .inl hkept
    · exact .inr ⟨proofRef, hproof, htruth,
        .inl (Option.filter_eq_some_iff.mp htold).1⟩
  · exact .inl convergedTo_proof
  · rename_i hdispatched
    rcases @provenIfOpen_proof nowMs row ("recovery:" ++ row.reservationId ++
      ":" ++ row.invocationId ++ ":w0-binding-not-crossed") with
      hkept | ⟨hproof, htruth⟩
    · exact .inl hkept
    · refine .inr ⟨_, hproof, htruth, .inr ⟨rfl, ?_⟩⟩
      intro target providerRequestId htold
      refine hdispatched target providerRequestId ?_
      rw [htold]
      rfl

/-- A reservation that a recovery releases was not dispatched, on evidence. -/
theorem BudgetRecovers.released
    (hrecovers : BudgetRecovers db receipts nowMs b after)
    (hrow' : row' ∈ after.reservations.rows)
    (hreleased : row'.state = .released) :
    ∃ row ∈ b.reservations.rows, row.reservationId = row'.reservationId ∧
      (row' = row ∨ ∃ proofRef, row'.releaseProofRef = some proofRef ∧
        ReleaseEvidence db receipts row proofRef) := by
  obtain ⟨row, hrow, hsettled⟩ := hrecovers.reservations.mem.mp hrow'
  refine ⟨row, hrow, ?_⟩
  have hsettles := @settledReservation_settles (expiredReservation b nowMs row)
    nowMs db receipts _ b.policies
  rw [hsettled] at hsettles
  have hexpired : expiredReservation b nowMs row = row ∨
      (expiredReservation b nowMs row).state = .expired := by
    unfold expiredReservation
    split
    · unfold expiredIfGone
      split
      · exact .inr rfl
      · exact .inl rfl
    · exact .inl rfl
  rcases hexpired with hkept | hgone
  · rw [hkept] at hsettles
    refine ⟨hsettles.identity.1.symm, ?_⟩
    cases hsettles with
    | kept => exact .inl rfl
    | released _ proofRef hevidence =>
      exact .inr ⟨proofRef, rfl, hevidence⟩
    | unknown | dispatched => cases hreleased
  · have hclosed : (expiredReservation b nowMs row).isStranded = false := by
      unfold PrivateBudgetReservation.isStranded
      rw [hgone]
      rfl
    rw [settledReservation_of_not_stranded hclosed] at hsettled
    rw [← hsettled, hgone] at hreleased
    cases hreleased

/-- Recovery at one time, with durable receipts, is repeated by a second one but
for the discrepancies that the clocks observe; and what it releases was not
dispatched, on evidence. -/
theorem recovery_converges (ops : List BudgetOp) (db : Sidecar)
    (receipts : PrivateReceipts) (nowMs : Int) :
    (receipts.Durable →
      (recoveredBudget db receipts nowMs (recoveredBudget db receipts nowMs
        (run budgetStep initialBudget ops))).withoutDiscrepancies =
      (recoveredBudget db receipts nowMs
        (run budgetStep initialBudget ops)).withoutDiscrepancies) ∧
    (∀ row' ∈ (recoveredBudget db receipts nowMs
        (run budgetStep initialBudget ops)).reservations.rows,
      row'.state = .released →
      ∃ row ∈ (run budgetStep initialBudget ops).reservations.rows,
        row.reservationId = row'.reservationId ∧
        (row' = row ∨ ∃ proofRef, row'.releaseProofRef = some proofRef ∧
          ReleaseEvidence db receipts row proofRef)) ∧
    ∀ row' ∈ (recoveredBudget db receipts nowMs
        (run budgetStep initialBudget ops)).bindings.rows,
      ∃ row ∈ (run budgetStep initialBudget ops).bindings.rows,
        row.invocationId = row'.invocationId ∧
        (row'.releaseProofRef = row.releaseProofRef ∨
          ∃ proofRef, row'.releaseProofRef = some proofRef ∧
            ChildEvidence receipts row proofRef) := by
  have hb : Budgeted (run budgetStep initialBudget ops) :=
    run_preserves (P := Budgeted) budgetStep_budgeted initialBudget_budgeted ops
  have hbound : ReservationsWellBound (run budgetStep initialBudget ops) :=
    run_preserves (P := ReservationsWellBound) budgetStep_wellBound
      ⟨fun row hrow => absurd hrow List.not_mem_nil,
        fun row hrow => absurd hrow List.not_mem_nil⟩ ops
  generalize run budgetStep initialBudget ops = b at hb hbound ⊢
  have hfirst := @recoverPrivateBudget_recovers _ b db receipts nowMs hb hbound
  have honce : Budgeted (recoveredBudget db receipts nowMs b) ∧
      ReservationsWellBound (recoveredBudget db receipts nowMs b) :=
    ⟨budgetStep_budgeted (.recover db receipts nowMs) b hb,
      budgetStep_wellBound (.recover db receipts nowMs) b hbound⟩
  refine ⟨fun hdurable => ?_, fun row' hrow' => hfirst.released hrow',
    fun row' hrow' => ?_⟩
  · have hsecond := @recoverPrivateBudget_recovers _
      (recoveredBudget db receipts nowMs b) db receipts nowMs honce.1 honce.2
    exact hfirst.again hdurable hsecond
  · obtain ⟨row, hrow, hsettled⟩ := hfirst.bindings.mem.mp hrow'
    refine ⟨row, hrow, ?_, ?_⟩
    · rw [← hsettled]
      exact (hfirst.bindings.key_eq hrow).symm
    · rw [← hsettled]
      exact settledBinding_proof

end Convergence

section Example

attribute [local instance] plainHost

/-- The second recovery at one time observes the clock where the first one has
left it. -/
theorem recovery_observes_again :
    recoveredBudget claimedWake {} 9000 (recoveredBudget claimedWake {} 9000
        (run budgetStep initialBudget reservedTwice)) ≠
      recoveredBudget claimedWake {} 9000
        (run budgetStep initialBudget reservedTwice) := by
  decide +kernel

/-- Without receipts the second recovery of two reservations repeats the
first. -/
theorem recovery_converges_reserved_twice :
    (recoveredBudget claimedWake {} 9000 (recoveredBudget claimedWake {} 9000
      (run budgetStep initialBudget reservedTwice))).withoutDiscrepancies =
    (recoveredBudget claimedWake {} 9000
      (run budgetStep initialBudget reservedTwice)).withoutDiscrepancies :=
  (recovery_converges reservedTwice claimedWake {} 9000).1
    ⟨fun _ _ _ _ _ => rfl, fun _ _ _ _ _ => rfl⟩

end Example

end CognitiveSidecar
