/-
The routes of the projector, of the sweeps and of the pump, write by write; and
with them every step of the deliveries.
-/
import CognitiveSidecar.DeliveryTraces

namespace CognitiveSidecar.Delivery

open List Relational Table Process

variable [Host] [DeliveryHost] {scope : Scope}
variable {start db after : DeliveryDb}
variable {input : ProjectInput}
variable {row current : ProjectableRow} {reservationId : Nat} {nowMs : Int}
variable {op : DeliveryOp} {binding : ExternalPublicationIntent}
variable {projectionKey : OutboxKey}
variable {status : OutboxSendStatus}

/-! Rows of the outboxes. -/

theorem insertOutboxPending_reaches (hreached : Reaches scope start db)
    {new : NewOutboxRow} (hok : insertOutboxPending new db = .ok (row, after)) :
    Reaches scope start after := by
  unfold insertOutboxPending at hok
  split at hok
  · cases hok
    exact hreached
  · obtain ⟨outbox, hinsert, hok⟩ := of_orFault hok
    cases of_pure hok
    refine hreached.tail (.entered _ outbox hinsert new.speechLane ?_)
    split
    · exact .inr rfl
    · exact .inl rfl

theorem notice_keeps (hreached : Reaches scope start db)
    {speech : ProjectableRow} {dispatchAmbiguous : Bool} :
    Keeps scope start db
      (ensureExhaustedDeliveryNotice speech dispatchAmbiguous) := by
  unfold ensureExhaustedDeliveryNotice
  dsimp only
  split
  · exact keeps_pure hreached
  · refine leaves_orElse ?_ fun _ hs => keeps_pure hs
    exact leaves_commit ⟨hreached, hreached⟩ fun _ _ hok =>
      leaves_pure (insertOutboxPending_reaches hreached hok)

/-! Reconciliation. -/

omit [Host] [DeliveryHost] in
/-- The reservation and the row of a projection belong together. -/
theorem projectedRow_spec (hrow : projectedRow db reservationId = some row) :
    ∃ destination, db.reservations.get? reservationId = some destination ∧
      destination.projectionKey = some row.projectionKey ∧
      db.outbox.get? row.projectionKey = some row := by
  obtain ⟨projectionKey, hown, hget⟩ := Option.bind_eq_some_iff.mp hrow
  obtain ⟨destination, hdestination, hkey⟩ := Option.bind_eq_some_iff.mp hown
  have hsame : row.projectionKey = projectionKey := key_of_get? hget
  rw [hsame]
  exact ⟨destination, hdestination, hkey, hget⟩

omit [Host] [DeliveryHost] in
theorem markTerminal_reservations (row : ProjectableRow)
    (destination : DeliveryReservation) (db : DeliveryDb) :
    (markTerminalFromDestination row destination db).reservations =
      db.reservations := by
  unfold markTerminalFromDestination updateStatus DeliveryDb.updateRow
  split_ifs <;> rfl

/-- Reconciling a decided reservation, or one whose row may be written. -/
theorem reconcile_keeps (hreached : Reaches scope start db)
    (hmay : ∀ row destination, projectedRow db reservationId = some row →
      db.reservations.get? reservationId = some destination →
      isTerminalDeliveryState destination.state = true ∨
        scope.wasOpen row.projectionKey) :
    Keeps scope start db (reconcileProjectedDelivery reservationId nowMs) := by
  refine leaves_read ?_
  split
  · rename_i row destination hrow hdestination
    obtain ⟨_, hstored, hkey, hget⟩ := projectedRow_spec hrow
    cases hstored.symm.trans hdestination
    have hfound := hreached.2.projectionReservation_of hstored hkey
    have hmarked : Reaches scope start
        (markTerminalFromDestination row destination db) := by
      refine markTerminal_reaches hreached hfound ?_
      intro hopen _ _ hcurrent
      cases hget.symm.trans hcurrent
      rcases hmay row destination hrow hdestination with hterminal | hfree
      · exact .inr (.inl (hopen hterminal))
      · exact .inl hfree
    refine leaves_write_bind hreached (leaves_commit hmarked ?_)
    intro _ after hok
    have hkept : getDeliveryReservation
        (markTerminalFromDestination row destination db) reservationId =
          some destination := by
      unfold getDeliveryReservation
      rw [markTerminal_reservations]
      exact hdestination
    exact keeps_pure (hmarked.tail
      (.evidenced reservationId row destination nowMs after hkept hkey hok))
  · exact keeps_pure hreached

/-- The decision of the pump, and its reconciliation. -/
theorem finalizeReservation_keeps (hreached : Reaches scope start db)
    {input : FinalizeDeliveryInput}
    (hdecides : ∀ row, db.reservations.get? input.reservationId = some row →
      scope.decides row) :
    Keeps scope start db (finalizeDeliveryReservation input) := by
  refine leaves_commit hreached fun _ _ hok => ?_
  obtain ⟨hafter, _, row, hrow, hterminal⟩ := finalize_reaches hreached
    (fun row hrow _ => .inr (.inr (hdecides row hrow))) hok
  refine leaves_bind (reconcile_keeps hafter ?_) fun _ _ hs => keeps_pure hs
  intro _ _ _ hdestination
  cases hrow.symm.trans hdestination
  exact .inl hterminal

omit [Host] [DeliveryHost] in
theorem isActive_open (hactive : isActive status) :
    isTerminal status = false := by
  cases status <;> first | rfl | cases hactive

/-- A sweep reconciles rows that it found open. -/
theorem reconcileSweep_keeps (hconsistent : Consistent start)
    {afterReservationId limit : Nat} :
    Keeps (op.scope start) start start
      (reconcileProjectedDeliverySweep afterReservationId limit nowMs) := by
  refine leaves_read (leaves_forEach (Reaches.refl hconsistent) ?_)
  intro _ hmem _ hreached
  have hmem := mem_of_mem_take hmem
  obtain ⟨swept, hswept, rfl⟩ := mem_map.mp hmem
  obtain ⟨hpage, hactive⟩ := mem_filter.mp hswept
  have hstored : start.reservations.get? swept.id = some swept :=
    get?_key (mem_filter.mp (mem_of_mem_take hpage)).1
  refine leaves_bind (reconcile_keeps hreached ?_) fun _ _ hs => keeps_pure hs
  intro _ _ hrow hdestination
  refine .inr fun _ hrow' => ?_
  obtain ⟨_, hstored', hkey, _⟩ := projectedRow_spec hrow
  cases hstored'.symm.trans hdestination
  obtain ⟨_, hlater, hsame⟩ := writes_projectionKey hreached.1 hstored
  cases hlater.symm.trans hdestination
  unfold sweptRow getOutboxRow at hactive
  rw [← hsame, hkey] at hactive
  dsimp only at hactive
  rw [hrow'] at hactive
  exact isActive_open hactive

/-! Suppression. -/

theorem suppress_keeps (hreached : Reaches scope start db)
    (hsuppresses : scope.suppresses = true) {criteria : SuppressCriteria}
    {reading : CancelReading} {registered : Bool} :
    Keeps scope start db
      (suppressUndeliveredOutbox criteria reading registered) := by
  have hsuppressed := hreached.tail (.suppressed criteria hsuppresses)
  refine leaves_write_bind hreached ?_
  split
  · exact leaves_forEach hsuppressed fun _ _ _ hs =>
      keeps_write hs (cancelOpen_reaches hs)
  · exact keeps_pure hsuppressed

/-! Projection. -/

omit [Host] [DeliveryHost] in
/-- A row that is open may have its reservation made. -/
theorem reservationFor_opens (hconsistent : Consistent db)
    (hcurrent : db.outbox.get? row.projectionKey = some current)
    (hintent : current.deliveryIntent = row.deliveryIntent)
    (hopen : isTerminal current.sendStatus = false)
    (hnone : projectionReservation db row.projectionKey = none)
    {bubbles : List DeliveryBubble}
    (hfresh : bubbles.all DeliveryBubble.isPlanned = true) :
    Opens db { reservationFor input row with
      id := nextReservationId db, bubbles } where
  marker := rfl
  planned := hfresh
  state := by
    unfold reservationFor
    dsimp only
    split
    · exact .inl rfl
    · exact .inr rfl
  lane := by
    intro hspeech
    unfold reservationFor
    rw [← hintent]
    exact hconsistent.sourceLane _ _ hcurrent (of_decide_eq_true hspeech)
  speech := by
    intro _ hid
    unfold reservationFor at hid ⊢
    split at hid
    · rename_i hkind
      cases hid
      rw [← hkind]
    · cases hid
  source := by
    intro _ hown
    cases hown
    exact ⟨hnone, current, hcurrent, hopen⟩

theorem reserve_keeps (hreached : Reaches scope start db)
    (hfree : scope.wasOpen row.projectionKey)
    (hcurrent : db.outbox.get? row.projectionKey = some current)
    (hintent : current.deliveryIntent = row.deliveryIntent)
    (hopen : isTerminal current.sendStatus = false) :
    Keeps scope start db (reserve input row) := by
  refine leaves_read ?_
  split
  · rename_i hexisting
    have hmarked := markTerminal_reaches hreached hexisting
      fun _ found _ hfound => .inl (by
        rw [show found.projectionKey = row.projectionKey from
          key_of_get? hfound]
        exact hfree)
    exact leaves_write_bind hreached (keeps_pure hmarked)
  · rename_i hnone
    exact leaves_transaction hreached fun _ _ hok =>
      insertReservation_reaches hreached
        (fun _ hfresh => reservationFor_opens hreached.2 hcurrent hintent hopen
          hnone hfresh) hok

theorem reserveExternal_reaches (hreached : Reaches scope start db)
    {row : DeliveryReservation}
    (hok : reserveExternalDeliveryInTransaction reservationId binding db =
      .ok (row, after)) : Reaches scope start after := by
  obtain ⟨_, _, hok⟩ := of_orFault hok
  split at hok
  · replace hok := passed hok
    cases of_pure hok
    exact hreached
  · obtain ⟨_, hok⟩ := of_require hok
    obtain ⟨_, _, hok⟩ := of_orFault hok
    obtain ⟨_, rfl⟩ := of_pure_pair hok
    exact hreached.updateReservation fun row _ hguard =>
      .bound row binding (of_decide_eq_true hguard)

theorem admitPublication_keeps (hreached : Reaches scope start db) :
    Keeps scope start db (admitPublication input reservationId binding) := by
  unfold admitPublication
  split
  · exact keeps_pure hreached
  · refine leaves_orElse ?_ fun _ hs => keeps_pure hs
    exact leaves_commit ⟨hreached, hreached⟩ fun _ _ hok =>
      leaves_pure (reserveExternal_reaches hreached hok)

/-- A status that is not settled is written on a row that was open. -/
theorem Reaches.updateFree (hreached : Reaches scope start db)
    {options : StatusOptions} (hfree : scope.wasOpen projectionKey)
    (hshadow : status ≠ .suppressedShadow)
    (hunsettled : isSettled status = false) :
    Reaches scope start
      (Delivery.updateStatus projectionKey status options db) := by
  refine hreached.updateStatus (fun row hrow => .inl ?_) hshadow ?_
  · rw [show row.projectionKey = projectionKey from key_of_get? hrow]
    exact hfree
  · intro hsettled
    rw [hunsettled] at hsettled
    cases hsettled

theorem blockPublication_keeps (hreached : Reaches scope start db)
    {reason : String} (hfree : scope.wasOpen row.projectionKey) :
    Keeps scope start db (blockPublication row reservationId reason nowMs) := by
  have haborted : Reaches scope start
      (db.updateReservation reservationId (·.state = .drafted) fun reservation =>
        { reservation with
          state := .aborted, errorCategory := some reason
          finalizationReason := some "send_failure"
          finalizedAtMs := some nowMs }) :=
    hreached.updateReservation fun row _ hguard =>
      .aborted row (some reason) (some "send_failure") nowMs
        (.inl (of_decide_eq_true hguard))
  exact leaves_write_bind hreached (keeps_write haborted
    (haborted.updateFree hfree (by decide) rfl))

theorem mirrorReservation_keeps (hreached : Reaches scope start db)
    (hfree : scope.wasOpen row.projectionKey) :
    Keeps scope start db (mirrorReservation row reservationId) := by
  refine leaves_read ?_
  split
  · rename_i hfound
    refine keeps_write hreached (markTerminal_reaches hreached hfound ?_)
    intro _ current _ hcurrent
    rw [← show current.projectionKey = row.projectionKey from
      key_of_get? hcurrent] at hfree
    exact .inl hfree
  · exact keeps_write hreached (hreached.updateFree hfree (by decide) rfl)

/-- An open row has nothing to cancel. -/
theorem cancelSuppressed_leaves (hreached : Reaches scope start db) :
    Leaves db (cancelSuppressedReservation input row)
      (fun _ after => Reaches scope start after ∧
        (isTerminal row.sendStatus = false → after = db))
      (Reaches scope start) := by
  unfold cancelSuppressedReservation
  split
  · rename_i hsuppressed
    have hterminal : isTerminal row.sendStatus ≠ false := by
      rcases hsuppressed with hstatus | hstatus <;> rw [hstatus] <;> decide
    refine leaves_read ?_
    split
    · exact leaves_pure ⟨hreached, fun hopen => absurd hopen hterminal⟩
    · exact leaves_write hreached ⟨cancelOpen_reaches hreached,
        fun hopen => absurd hopen hterminal⟩
  · exact leaves_pure ⟨hreached, fun _ => rfl⟩

omit [Host] [DeliveryHost] in
/-- Only an open row is projected, or suppressed for a reason. -/
theorem shouldProject_open (hdecision : shouldProject row input ≠ .no none) :
    isTerminal row.sendStatus = false := by
  unfold shouldProject at hdecision
  split at hdecision
  · exact absurd rfl hdecision
  · rename_i hopen
    exact Bool.eq_false_iff.mpr hopen

/-- What is reserved is admitted, and mirrored. -/
theorem projectOpen_keeps (hreached : Reaches scope start db)
    (hfree : scope.wasOpen row.projectionKey)
    (hrow : db.outbox.get? row.projectionKey = some row) :
    Keeps scope start db (do
      write (updateStatus row.projectionKey .projecting {})
      let reservationId ← reserve input row
      match row.deliveryIntent.externalPublication with
      | none => mirrorReservation row reservationId
      | some binding => do
        let refused ← admitPublication input reservationId binding
        match refused with
        | some reason => blockPublication row reservationId reason input.nowMs
        | none => mirrorReservation row reservationId) := by
  have hprojecting : (updateStatus row.projectionKey .projecting {}
      db).outbox.get? row.projectionKey = some (row.withStatus .projecting {}) := by
    unfold updateStatus DeliveryDb.updateRow
    rw [get?_update, hrow, Option.map_some, decide_eq_true rfl]
    rfl
  refine leaves_write_bind hreached (leaves_bind
    (reserve_keeps (hreached.updateFree hfree (by decide) rfl) hfree hprojecting
      rfl rfl) ?_)
  intro _ _ hreserved
  split
  · exact mirrorReservation_keeps hreserved hfree
  · refine leaves_bind (admitPublication_keeps hreserved) ?_
    intro _ _ hadmitted
    split
    · exact blockPublication_keeps hadmitted hfree
    · exact mirrorReservation_keeps hadmitted hfree

/-- A projection writes the row that it found open. -/
theorem projectRow_keeps (hconsistent : Consistent start)
    (hrow : start.outbox.get? row.projectionKey = some row) :
    Keeps (op.scope start) start start (projectRow input row) := by
  refine leaves_bind (cancelSuppressed_leaves (Reaches.refl hconsistent)) ?_
  intro _ _ ⟨hreached, hkept⟩
  have hfree : shouldProject row input ≠ .no none →
      (op.scope start).wasOpen row.projectionKey := by
    intro hdecision _ hcurrent
    cases hrow.symm.trans hcurrent
    exact shouldProject_open hdecision
  cases hdecision : shouldProject row input with
  | no suppressed =>
    rw [hdecision] at hfree
    cases suppressed with
    | none => exact keeps_pure hreached
    | some =>
      exact keeps_write hreached
        (hreached.updateFree (hfree (by simp)) (by decide) rfl)
  | ok =>
    have hopen := shouldProject_open (hdecision.trans_ne (by simp))
    rw [hdecision] at hfree
    cases hkept hopen
    exact projectOpen_keeps hreached (hfree (by simp)) hrow

theorem project_keeps (hconsistent : Consistent start) :
    Keeps (op.scope start) start start (Delivery.project projectionKey input) := by
  refine leaves_read (leaves_ofExcept (Reaches.refl hconsistent) ?_)
  intro row hok
  cases hrow : getOutboxRow start projectionKey with
  | none =>
    rw [hrow] at hok
    cases hok
  | some =>
    rw [hrow] at hok
    cases hok
    have hown : row.projectionKey = projectionKey := key_of_get? hrow
    exact projectRow_keeps hconsistent (hown ▸ hrow)

end CognitiveSidecar.Delivery
