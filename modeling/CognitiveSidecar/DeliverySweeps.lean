/-
The sweeps before a claim, and the claim, write by write; and with them every
step of the deliveries.
-/
import CognitiveSidecar.DeliveryRoutes

namespace CognitiveSidecar.Delivery

open Option Relational Table Process

variable [Host] [DeliveryHost] {scope : Scope}
variable {start db after : DeliveryDb}
variable {row : DeliveryReservation} {input : ClaimInput}
variable {speech : ProjectableRow} {reading : SweepReading}
variable {source : ProjectableRow}

/-- A sweep is its rounds, each on a reservation of its query. -/
theorem sweep_keeps (hreached : Reaches scope start db) {limit : Nat}
    {query : DeliveryReservation → Bool}
    {round : DeliveryReservation → Delivering Unit}
    (hround : ∀ row db, Reaches scope start db →
      db.reservations.get? row.id = some row → query row = true →
      Keeps scope start db (round row)) :
    Keeps scope start db (sweepReservations limit query round) := by
  refine leaves_read (leaves_forEach hreached ?_)
  intro reservationId _ db hreached
  refine leaves_read ?_
  split
  · rename_i row hrow
    have hown : row.id = reservationId := key_of_get? hrow
    split
    · rename_i hquery
      exact hround row db hreached (hown ▸ hrow) hquery
    · exact keeps_pure hreached
  · exact keeps_pure hreached

/-! The speech of a reservation. -/

omit [Host] [DeliveryHost] in
/-- The speech row that a reservation was made for. -/
theorem speechOf_spec (hconsistent : Consistent db)
    (hrow : db.reservations.get? row.id = some row)
    (hspeech : (speechIdOf row).bind (getSpeechOutbox db) = some speech) :
    row.projectionKey = some speech.projectionKey ∧
      speech.projectionKey.kind = .speech ∧
      db.outbox.get? speech.projectionKey = some speech := by
  obtain ⟨outboxId, hid, hget⟩ := bind_eq_some_iff.mp hspeech
  have hown : speech.projectionKey = ⟨.speech, outboxId⟩ :=
    key_of_get? hget
  have hkeyed : ∃ projectionKey, row.projectionKey = some projectionKey := by
    rcases or_eq_some_iff.mp hid with hcolumn | ⟨_, hlinked⟩
    · exact ⟨_, hconsistent.speech _ _ _ hrow
        (filter_eq_some_iff.mp hcolumn).1⟩
    · obtain ⟨found, hfound, _⟩ := map_eq_some_iff.mp hlinked
      exact ⟨found, (filter_eq_some_iff.mp hfound).1⟩
  obtain ⟨_, hkey⟩ := hkeyed
  have hsame := hconsistent.speechIdOf_eq hrow hid hkey
  rw [hown]
  exact ⟨hkey.trans (congrArg some hsame), rfl, hget⟩

omit [Host] [DeliveryHost] in
/-- The row of an open reservation is open or suppressed. -/
theorem Consistent.openRow (hconsistent : Consistent db)
    (hrow : db.reservations.get? row.id = some row)
    (hkey : row.projectionKey = some source.projectionKey)
    (hopen : isTerminalDeliveryState row.state = false)
    (hsource : db.outbox.get? source.projectionKey = some source) :
    isTerminal source.sendStatus = false ∨ source.sendStatus = .suppressed := by
  have hunsettled := hconsistent.unsettled _ _ _ _ hrow hkey hopen hsource
  obtain ⟨_, hbacking, hvisible⟩ := hconsistent.backed _ _ _ hrow hkey
  cases hsource.symm.trans hbacking
  cases hstatus : source.sendStatus <;> rw [hstatus] at hunsettled hvisible <;>
    first
    | exact .inl rfl
    | exact .inr rfl
    | exact absurd rfl hvisible
    | cases hunsettled

/-- An update of one row of an outbox is a write of the row that its guard lets
through. -/
theorem Reaches.updateRow (hreached : Reaches scope start db)
    {projectionKey : OutboxKey} {guard : ProjectableRow → Bool}
    {f : ProjectableRow → ProjectableRow} {hkey : ∀ row, key (f row) = key row}
    (hwrite : ∀ row outbox, db.outbox.get? projectionKey = some row →
      guard row = true → Replaced db.outbox outbox row (f row) →
      Write scope db { db with outbox }) :
    Reaches scope start (db.updateRow projectionKey guard f hkey) := by
  unfold DeliveryDb.updateRow
  rcases @update_key_cases _ _ _ _ db.outbox projectionKey
    (fun row => decide (row.projectionKey = projectionKey) && guard row) guard f
    hkey (fun _ => rfl) with hsame | ⟨row, hrow, hguard, hreplaced⟩
  · rw [hsame]
    exact hreached
  · exact hreached.tail (hwrite row _ hrow hguard hreplaced)

/-! The wrong principal. -/

theorem correctPrincipal_keeps (hreached : Reaches scope start db)
    (hrow : db.reservations.get? row.id = some row)
    (hquery : isLegacyWrongPrincipal row = true) :
    Keeps scope start db (correctPrincipal reading row) := by
  have hreserved : row.state = .reserved := by
    unfold isLegacyWrongPrincipal at hquery
    simp only [Bool.and_eq_true, decide_eq_true_eq] at hquery
    exact hquery.1.2
  refine leaves_read ?_
  split
  · exact keeps_pure hreached
  rename_i hclean
  simp only [not_or, Bool.not_eq_true] at hclean
  split
  · exact keeps_pure hreached
  rename_i speech hspeech
  obtain ⟨hkey, _, hget⟩ := speechOf_spec hreached.2 hrow hspeech
  split
  · exact keeps_pure hreached
  split
  · rename_i reason _
    have hopen := hreached.2.openRow hrow hkey (hreserved ▸ rfl) hget
    have hsuppressed : Reaches scope start
        (updateStatus speech.projectionKey .suppressed
          { finalizationReason := some reason
            nuclearReservationId := some row.id } db) := by
      refine hreached.updateStatus (fun current hcurrent => ?_) (by decide)
        (by intro hbad; cases hbad)
      cases hget.symm.trans hcurrent
      exact .inr (hopen.imp_right .inl)
    refine leaves_write_bind hreached (keeps_write hsuppressed
      (hsuppressed.updateReservation fun found hfound hguard => ?_))
    cases hrow.symm.trans hfound
    exact .aborted row row.errorCategory (some reason) reading.nowMs
      (.inr ⟨hreserved, hclean.2.2⟩)
  · rename_i owner _ _ _
    have haddressed : Reaches scope start
        (db.updateRow speech.projectionKey (fun _ => true) fun speech =>
          { speech with
            deliveryIntent :=
              { speech.deliveryIntent with ownerId := owner } }) :=
      hreached.updateRow fun row outbox _ _ hreplaced =>
        .addressed row owner outbox hreplaced
    exact leaves_write_bind hreached (keeps_write haddressed
      (haddressed.updateReservation fun found _ hguard =>
        .owned found owner (of_decide_eq_true hguard)))

/-! Failed speech. -/

omit [Host] [DeliveryHost] in
theorem isUnfulfilledFailed_spec [DeliveryHost]
    (hquery : isUnfulfilledFailed reading row = true) :
    row.state = .aborted ∧ row.firstSentAtMs = none := by
  unfold isUnfulfilledFailed at hquery
  simp only [Bool.and_eq_true, decide_eq_true_eq] at hquery
  exact ⟨hquery.1.1.1.2, hquery.1.2⟩

theorem suppressSuperseded_keeps (hreached : Reaches scope start db)
    (hrecovers : scope.recovers = true) {reason : String}
    (hget : db.outbox.get? speech.projectionKey = some speech)
    (hfailed : speech.sendStatus = .sendFailure ∨
      speech.sendStatus = .projected) :
    Keeps scope start db (suppressSuperseded row speech reason) := by
  have hsuppressed : ∀ db', Reaches scope start db' →
      db'.outbox = db.outbox →
      Reaches scope start (updateStatus speech.projectionKey .suppressed
        { finalizationReason := some reason
          nuclearReservationId := some row.id } db') := by
    intro _ hdb' hsame
    refine hdb'.updateRow fun _ outbox hfound _ hreplaced => ?_
    rw [hsame] at hfound
    cases hget.symm.trans hfound
    exact .superseded speech _ outbox hreplaced hfailed hrecovers
  have hnoted : Reaches scope start
      (db.updateReservation row.id (·.state = .aborted)
        fun row => { row with finalizationReason := some reason }) :=
    hreached.updateReservation fun found _ hguard =>
      .noted found (some reason) (of_decide_eq_true hguard)
  unfold suppressSuperseded
  split
  · exact keeps_write hreached (hsuppressed db hreached rfl)
  · exact leaves_write_bind hreached
      (keeps_write hnoted (hsuppressed _ hnoted rfl))

/-- The speech is projected before its reservation is reserved again. -/
theorem rearmFailed_keeps (hreached : Reaches scope start db)
    (hrecovers : scope.recovers = true)
    (hrow : db.reservations.get? row.id = some row)
    (haborted : row.state = .aborted) (hunsent : Unsent row)
    (hspeech : (speechIdOf row).bind (getSpeechOutbox db) = some speech)
    (hfailed : speech.sendStatus = .sendFailure ∨
      speech.sendStatus = .projected)
    (honce : speech.sendStatus = .sendFailure →
      speech.deliveryIntent.recoveryAttempts = 0) :
    Keeps scope start db (rearmFailed row speech) := by
  obtain ⟨_, _, hget⟩ := speechOf_spec hreached.2 hrow hspeech
  have hrearmed : ∀ db' speech', Reaches scope start db' →
      db'.reservations.get? row.id = some row →
      (speechIdOf row).bind (getSpeechOutbox db') = some speech' →
      speech'.sendStatus = .projected →
      Reaches scope start
        (db'.updateReservation row.id (·.state = .aborted) fun row =>
          { row with
            state := .reserved, errorCategory := none
            finalizationReason := none, finalizedAtMs := none
            deliveryLeaseExpiresAtMs := none }) := by
    intro db' speech' hdb' hrow' hspeech' hprojected
    have hreplaced := @replaced_update _ _ _ _ db'.reservations row row.id
      (fun found => decide (found.id = row.id) &&
        decide (found.state = .aborted))
      (fun found => decide (found.state = .aborted))
      DeliveryReservation.rearmed (fun _ => rfl) (fun _ => rfl) hrow'
      (decide_eq_true haborted)
    exact hdb'.tail (.rearmed row speech' _ hreplaced haborted hunsent hspeech'
      hprojected)
  unfold rearmFailed
  split
  · rename_i hsendFailure
    have hrecovered : Reaches scope start
        (db.updateRow speech.projectionKey (·.sendStatus = .sendFailure)
          fun speech =>
            { speech with
              sendStatus := .projected
              deliveryIntent :=
                { speech.deliveryIntent with
                  recoveryAttempts :=
                    speech.deliveryIntent.recoveryAttempts + 1 }
              nuclearFinalizationReason := none }) := by
      refine hreached.updateRow fun _ outbox hfound _ hreplaced => ?_
      cases hget.symm.trans hfound
      exact .recovered speech outbox hreplaced hsendFailure (honce hsendFailure)
        hrecovers
    refine leaves_write_bind hreached (keeps_write hrecovered
      (hrearmed _ { speech with
        sendStatus := .projected
        deliveryIntent :=
          { speech.deliveryIntent with
            recoveryAttempts := speech.deliveryIntent.recoveryAttempts + 1 }
        nuclearFinalizationReason := none } hrecovered hrow ?_ rfl))
    obtain ⟨_, hid, hfound⟩ := bind_eq_some_iff.mp hspeech
    rw [hid, bind_some]
    unfold getSpeechOutbox getOutboxRow at hfound ⊢
    unfold DeliveryDb.updateRow
    rw [get?_update, hfound]
    simp [hsendFailure]
  · rename_i hother
    exact keeps_write hreached (hrearmed db speech hreached hrow hspeech
      (hfailed.resolve_left hother))

/-- A failed speech is recovered once, and only when nothing of it was sent. -/
theorem recoverFailed_keeps (hreached : Reaches scope start db)
    (hrecovers : scope.recovers = true)
    (hrow : db.reservations.get? row.id = some row)
    (hquery : isUnfulfilledFailed reading row = true) :
    Keeps scope start db (recoverFailed reading row) := by
  obtain ⟨haborted, hfirst⟩ := isUnfulfilledFailed_spec hquery
  refine leaves_read ?_
  split
  · exact keeps_pure hreached
  rename_i hclean
  simp only [not_or, Bool.not_eq_true] at hclean
  split
  · exact keeps_pure hreached
  rename_i speech hspeech
  obtain ⟨_, _, hget⟩ := speechOf_spec hreached.2 hrow hspeech
  split
  · exact keeps_pure hreached
  rename_i hrecoverable
  have hfailed : speech.sendStatus = .sendFailure ∨
      speech.sendStatus = .projected := by
    unfold isRecoverableSpeech at hrecoverable
    simp only [Bool.not_eq_true', Bool.not_eq_false, Bool.and_eq_true,
      Bool.or_eq_true, decide_eq_true_eq] at hrecoverable
    exact hrecoverable.1.1.2
  split
  · exact notice_keeps hreached
  rename_i hagain
  split
  · exact suppressSuperseded_keeps hreached hrecovers hget hfailed
  split
  · exact notice_keeps hreached
  rename_i hunmarked
  refine rearmFailed_keeps hreached hrecovers hrow haborted
    ⟨not_isSome_iff_eq_none.mp hunmarked, hfirst, hclean.1⟩ hspeech hfailed
    fun hsendFailure => ?_
  by_contra hmore
  exact hagain ⟨Nat.one_le_iff_ne_zero.mpr hmore, by rw [hsendFailure]; decide⟩

/-! Leases that ran out. -/

/-- The expiry of a lease decides its reservation, or leaves everything. -/
theorem expireLease_leaves (hreached : Reaches scope start db) {nowMs : Int}
    {outcome : Nat → Option DeliveryFault}
    (hrow : db.reservations.get? row.id = some row)
    (hdecides : row.hasReceipt = false ∨ scope.decides row)
    {decided : Delivering Unit} {post : DeliveryDb → Prop} (hpost : post db)
    (hdecided : ∀ after, Reaches scope start after → Untouched db after →
      Leaves after decided (fun _ => post)
        fun s => Reaches scope start s ∧ post s) :
    Leaves db (expireLease nowMs outcome row decided) (fun _ => post)
      (Reaches scope start) := by
  refine leaves_orElse ?_ fun _ hs => leaves_pure hs
  refine leaves_commit ⟨hreached, hpost⟩ fun _ after hok => ?_
  obtain ⟨hafter, hkept, _⟩ := finalize_reaches hreached (fun _ hfound _ => by
    cases hrow.symm.trans hfound
    exact .inr hdecides) hok
  exact hdecided after hafter hkept

/-- A stranded delivery has no receipts when it is expired. -/
theorem expireOrphaned_keeps (hreached : Reaches scope start db)
    (hrow : db.reservations.get? row.id = some row) :
    Keeps scope start db (expireOrphaned reading row) := by
  refine leaves_read ?_
  split
  · exact keeps_pure hreached
  rename_i hclean
  simp only [not_or, Bool.not_eq_true] at hclean
  split
  · exact keeps_pure hreached
  split
  · exact keeps_pure hreached
  · exact expireLease_leaves hreached hrow (.inl hclean.2) hreached
      fun _ hafter _ => (notice_keeps hafter).mono (fun _ _ hs => hs)
        fun _ hs => ⟨hs, hs⟩

/-- The rounds find the reservations whose lease ran out as they were. -/
theorem reconcileExpired_keeps (hreached : Reaches scope start db)
    {ownerId : String} {lane : PendingLane}
    (hdecides : ∀ row, db.reservations.get? row.id = some row →
      (isPendingFor ownerId lane row && row.firstSentAtMs.isSome &&
        isLeaseExpired reading.nowMs row) = true → scope.decides row) :
    Keeps scope start db (reconcileExpiredSending ownerId lane reading) := by
  refine leaves_read (leaves_read (forEach_untouched hreached ?_))
  intro reservationId _ later hlater huntouched
  refine leaves_read ?_
  split
  · rename_i row hrow
    have hown : row.id = reservationId := key_of_get? hrow
    have hstored : later.reservations.get? row.id = some row := hown ▸ hrow
    split
    · rename_i hquery
      have hsending : row.state = .sending := by
        unfold isLeaseExpired at hquery
        simp only [Bool.and_eq_true, decide_eq_true_eq] at hquery
        exact hquery.2.1
      have hsame := huntouched row.id row hstored (hsending ▸ rfl)
      refine expireLease_leaves hlater hstored (.inr (hdecides row hsame hquery))
        ⟨hlater, huntouched⟩ ?_
      exact fun _ hafter hkept => leaves_pure ⟨hafter, huntouched.trans hkept⟩
    · exact leaves_pure ⟨hlater, huntouched⟩
  · exact leaves_pure ⟨hlater, huntouched⟩

/-! The claim. -/

omit [Host] [DeliveryHost] in
theorem projectionRow_speech (hconsistent : Consistent db)
    (hrow : db.reservations.get? row.id = some row)
    (hkey : row.projectionKey = some source.projectionKey)
    (hsource : db.outbox.get? source.projectionKey = some source)
    (hspeech : source.projectionKey.kind = .speech) :
    projectionRow db row .speech = some source := by
  unfold projectionRow getOutboxRow
  dsimp only
  have hbyKey : (row.projectionKey.filter
      fun projectionKey => decide (projectionKey.kind ∈
        [ProjectionKind.speech, .interim])).bind (db.outbox.get? ·) =
      some source := by
    rw [hkey, filter_some, if_pos (by rw [hspeech]; decide)]
    exact hsource
  rw [hbyKey]
  cases hcolumn : row.speechOutboxId.filter (0 < ·) with
  | none => rfl
  | some outboxId =>
    have hlinked := hconsistent.speech _ _ _ hrow
      (filter_eq_some_iff.mp hcolumn).1
    have hown : source.projectionKey = ⟨.speech, outboxId⟩ :=
      some.inj (hkey.symm.trans hlinked)
    rw [bind_some, ← hown, hsource]
    rfl

omit [Host] [DeliveryHost] in
/-- The claimed reservation, and why its row may be marked as sending. -/
theorem claimable_spec (hconsistent : Consistent db)
    (hclaimable : claimable input db = some row) :
    db.reservations.get? row.id = some row ∧ row.state = .reserved ∧
      ∀ source, row.projectionKey = some source.projectionKey →
        db.outbox.get? source.projectionKey = some source →
        source.projectionKey.kind = .speech →
        isTerminal source.sendStatus = false := by
  have hrow : db.reservations.get? row.id = some row :=
    get?_key (List.mem_of_find?_eq_some hclaimable)
  have hquery := List.find?_some hclaimable
  simp only [Bool.and_eq_true, decide_eq_true_eq] at hquery
  obtain ⟨⟨hpending, hreserved⟩, hclaim⟩ := hquery
  refine ⟨hrow, hreserved, ?_⟩
  intro _ hkey hsource hspeech
  rcases hconsistent.openRow hrow hkey (hreserved ▸ rfl) hsource with
    hopen | hsuppressed
  · exact hopen
  exfalso
  unfold isPendingFor at hpending
  simp only [Bool.and_eq_true, decide_eq_true_eq] at hpending
  cases hlane : input.lane with
  | socialNotify =>
    have hcovers := hpending.2
    rw [hlane] at hcovers
    exact hconsistent.lane _ _ hrow
      (by rw [hkey]; exact decide_eq_true hspeech)
      (of_decide_eq_true hcovers)
  | systemNotice =>
    rw [hlane] at hclaim
    unfold laneProjectionKind projectionClaimable projectionKind at hclaim
    simp [hkey, hspeech] at hclaim
  | cognitiveV021 =>
    rw [hlane] at hclaim
    unfold laneProjectionKind projectionClaimable projectionKind at hclaim
    simp [hkey, hspeech, hsuppressed,
      projectionRow_speech hconsistent hrow hkey hsource hspeech] at hclaim

/-- What a claim checks out has no terminal speech row. -/
def Claims (scope : Scope) (start : DeliveryDb)
    (claimed : Option Nat) (db : DeliveryDb) : Prop :=
  Reaches scope start db ∧
    ∀ reservationId row, claimed = some reservationId →
      projectedRow db reservationId = some row →
      row.projectionKey.kind = .speech → isTerminal row.sendStatus = false

theorem Claims.none (hreached : Reaches scope start db) :
    Claims scope start none db :=
  ⟨hreached, fun _ _ hclaimed => by cases hclaimed⟩

theorem checkOut_claims (hreached : Reaches scope start db)
    {claimed : Option Nat} (hok : checkOut input db = .ok (claimed, after)) :
    Claims scope start claimed after := by
  unfold checkOut at hok
  split at hok
  · cases hok
    exact .none hreached
  · rename_i hclaimable
    cases hok
    obtain ⟨hrow, _, hopen⟩ := claimable_spec hreached.2 hclaimable
    refine ⟨hreached.updateReservation fun found _ hguard =>
      .claimed found _ (of_decide_eq_true hguard), ?_⟩
    intro _ source hclaimed hprojected hspeech
    cases hclaimed
    obtain ⟨_, hstored, hkey, hsource⟩ := projectedRow_spec hprojected
    refine hopen source ?_ hsource hspeech
    unfold DeliveryDb.updateReservation at hstored
    rw [get?_update, hrow] at hstored
    cases hstored
    dsimp only at hkey
    split at hkey <;> exact hkey

theorem claimPending_leaves (hreached : Reaches scope start db)
    (hrecovers : scope.recovers = true)
    (hdecides : ∀ row, db.reservations.get? row.id = some row →
      (isPendingFor input.ownerId input.lane row && row.firstSentAtMs.isSome &&
        isLeaseExpired input.reading.nowMs row) = true → scope.decides row) :
    Leaves db (claimPendingByLane input) (Claims scope start)
      (Reaches scope start) := by
  refine leaves_bind (reconcileExpired_keeps hreached hdecides) fun _ db hexpired => ?_
  have hcheckOut : ∀ db, Reaches scope start db →
      Leaves db (commit (checkOut input)) (Claims scope start)
        (Reaches scope start) := fun _ hdb =>
    leaves_transaction hdb fun _ _ hok => checkOut_claims hdb hok
  split
  · exact leaves_pure (.none hexpired)
  split
  · refine leaves_bind (sweep_keeps hexpired fun _ _ hround hrow hquery =>
      correctPrincipal_keeps hround hrow hquery) fun _ db hcorrected => ?_
    refine leaves_bind (sweep_keeps hcorrected fun _ _ hround hrow hquery =>
      recoverFailed_keeps hround hrecovers hrow hquery) fun _ db hrecovered => ?_
    exact leaves_bind (sweep_keeps hrecovered fun _ _ hround hrow _ =>
      expireOrphaned_keeps hround hrow) fun _ db hswept => hcheckOut db hswept
  · exact hcheckOut db hexpired

theorem markSending_keeps (hreached : Reaches scope start db)
    {reservationId : Nat}
    (hopen : ∀ row, projectedRow db reservationId = some row →
      row.projectionKey.kind = .speech → isTerminal row.sendStatus = false) :
    Keeps scope start db (markProjectedDeliverySending reservationId) := by
  refine leaves_read ?_
  split
  · exact keeps_pure hreached
  · rename_i row hrow
    obtain ⟨_, _, _, hget⟩ := projectedRow_spec hrow
    refine leaves_write_bind hreached (keeps_pure
      (hreached.updateStatus (fun current hcurrent => ?_) (by decide)
        (by intro hbad; cases hbad)))
    cases hget.symm.trans hcurrent
    by_cases hspeech : row.projectionKey.kind = .speech
    · exact .inr (.inl (hopen row hrow hspeech))
    · exact .inr (.inr (.inr hspeech))

theorem claim_keeps (hreached : Reaches scope start db)
    (hrecovers : scope.recovers = true)
    (hdecides : ∀ row, db.reservations.get? row.id = some row →
      (isPendingFor input.ownerId input.lane row && row.firstSentAtMs.isSome &&
        isLeaseExpired input.reading.nowMs row) = true → scope.decides row) :
    Keeps scope start db (claimDelivery input) := by
  refine leaves_bind (claimPending_leaves hreached hrecovers hdecides) ?_
  intro _ _ ⟨hclaims, hopen⟩
  split
  · exact keeps_pure hclaims
  · rename_i reservationId
    exact leaves_bind
      (markSending_keeps hclaims fun row => hopen reservationId row rfl)
      fun _ _ hs => keeps_pure hs

/-! Every step. -/

/-- A step ends where its operation stops. -/
theorem deliveryStep_leaves {P : DeliveryDb → Prop} {op : DeliveryOp}
    (hleaves : Leaves db op.process (fun _ => P) P) (lives : Nat) :
    P (deliveryStep (op, lives) db) := by
  have hleft := hleaves lives
  unfold deliveryStep
  generalize op.process lives db = outcome at hleft ⊢
  obtain ⟨result, _⟩ := outcome
  cases result <;> exact hleft

/-- Every operation, wherever it dies, only makes the known writes; over a row
that was terminal it writes no other status, but for the recovery and the
suppression of speech. -/
theorem deliveryStep_reaches (hconsistent : Consistent db)
    (input : DeliveryOp × Nat) :
    Reaches (input.1.scope db) db (deliveryStep input db) := by
  obtain ⟨op, lives⟩ := input
  have hstart : Reaches (op.scope db) db db := .refl hconsistent
  have hkeeps : Keeps (op.scope db) db db op.process := by
    cases op with
    | openReactive =>
      exact keeps_only hstart fun _ _ hok => claimReactive_reaches hstart hok
    | openProactive | openOperational =>
      exact keeps_only hstart fun _ _ hok => claimWithDraft_reaches hstart hok
    | attach =>
      exact keeps_only hstart fun _ _ hok => attach_reaches hstart hok
    | enqueue =>
      exact keeps_only hstart fun _ _ hok =>
        insertOutboxPending_reaches hstart hok
    | project => exact project_keeps hconsistent
    | claim => exact claim_keeps hstart rfl fun _ hrow hquery => ⟨hrow, hquery⟩
    | dispatch =>
      exact keeps_write hstart (dispatch_reaches hstart)
    | receipt =>
      exact keeps_only hstart fun _ _ hok => receipt_reaches hstart rfl hok
    | finalize input =>
      refine finalizeReservation_keeps hstart fun row hrow => ?_
      have hown : row.id = input.reservationId := key_of_get? hrow
      exact ⟨hown ▸ hrow, hown⟩
    | cancel => exact keeps_write hstart (cancel_reaches hstart)
    | suppress => exact suppress_keeps hstart rfl
    | expireDrafted => exact expireDrafted_keeps hstart
    | reconcileSweep =>
      exact reconcileSweep_keeps hconsistent
    | wrongPrincipal =>
      exact sweep_keeps hstart fun _ _ hround hrow hquery =>
        correctPrincipal_keeps hround hrow hquery
    | failedSpeech =>
      exact sweep_keeps hstart fun _ _ hround hrow hquery =>
        recoverFailed_keeps hround rfl hrow hquery
    | orphaned =>
      exact sweep_keeps hstart fun _ _ hround hrow _ =>
        expireOrphaned_keeps hround hrow
  exact deliveryStep_leaves hkeeps lives

end CognitiveSidecar.Delivery
