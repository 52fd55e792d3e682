/-
The progress of the recovery of failed speech: a pass looks at a page of the
failed reservations before it asks what each of them proves, and those that
prove nothing stay in the page.
-/
import CognitiveSidecar.DeliveryDispatch

namespace CognitiveSidecar.Delivery

open Option List Relational Table Process

section Recovery

variable [DeliveryHost]

/-- The candidates that one pass fetches. -/
def failedSpeechPage (reading : SweepReading) (db : DeliveryDb) :
    List DeliveryReservation :=
  (db.reservations.rows.filter (isUnfulfilledFailed reading)).take reading.limit

/-- The speech may be projected again, or is superseded. -/
def isRearmable (reading : SweepReading) (row : DeliveryReservation)
    (speech : ProjectableRow) : Bool :=
  isRecoverableSpeech speech &&
    !(1 ≤ speech.deliveryIntent.recoveryAttempts &&
      speech.sendStatus ≠ .projected) &&
    ((reading.supersession speech).isSome || !row.dispatchStartedAtMs.isSome)

/-- A failed reservation that meets every proof of its recovery. -/
def meetsProofs (reading : SweepReading) (db : DeliveryDb)
    (row : DeliveryReservation) : Bool :=
  isUnfulfilledFailed reading row && !row.hasReceipt &&
    !row.draftText.all blank && row.destination ≠ some .invalid &&
    ((speechIdOf row).bind (getSpeechOutbox db)).any (isRearmable reading row)

/-- The reservation is armed again, or its speech is suppressed. -/
def Recovered (db : DeliveryDb) (row : DeliveryReservation) : Prop :=
  (db.reservations.get? row.id).any (·.state = .reserved) = true ∨
    ((speechIdOf row).bind (getSpeechOutbox db)).any
      (·.sendStatus = .suppressed) = true

instance (db : DeliveryDb) (row : DeliveryReservation) :
    Decidable (Recovered db row) := inferInstanceAs (Decidable (_ ∨ _))

/-- The reservations and the speech stay as they were. -/
structure Quiet (before after : DeliveryDb) : Prop where
  reservations : after.reservations = before.reservations
  speech : ∀ outboxId,
    getSpeechOutbox after outboxId = getSpeechOutbox before outboxId

variable {reading : SweepReading} {db before : DeliveryDb}
variable {row : DeliveryReservation} {speech : ProjectableRow}
variable {reservationId : Nat} {ids : List Nat}

omit [DeliveryHost] in
theorem Quiet.trans {mid after : DeliveryDb} (hfirst : Quiet before mid)
    (hsecond : Quiet mid after) : Quiet before after where
  reservations := hsecond.reservations.trans hfirst.reservations
  speech outboxId := (hsecond.speech outboxId).trans (hfirst.speech outboxId)

omit [DeliveryHost] in
theorem Quiet.speechOf (hquiet : Quiet before db) (row : DeliveryReservation) :
    (speechIdOf row).bind (getSpeechOutbox db) =
      (speechIdOf row).bind (getSpeechOutbox before) := by
  rw [funext hquiet.speech]

/-- What quiet rounds leave proves what it proved. -/
theorem Quiet.meetsProofs (hquiet : Quiet before db) :
    meetsProofs reading db row = meetsProofs reading before row := by
  unfold Delivery.meetsProofs
  rw [hquiet.speechOf]

omit [DeliveryHost] in
theorem Quiet.recovered (hquiet : Quiet before db)
    (hrecovered : Recovered before row) : Recovered db row := by
  unfold Recovered
  rw [hquiet.reservations, hquiet.speechOf]
  exact hrecovered

/-- A notice is a row of its own kind. -/
theorem notice_quiet (db : DeliveryDb) (speech : ProjectableRow)
    (dispatchAmbiguous : Bool) :
    Leaves db (ensureExhaustedDeliveryNotice speech dispatchAmbiguous)
      (fun _ => Quiet db) (fun _ => True) := by
  unfold ensureExhaustedDeliveryNotice
  dsimp only
  split
  · exact leaves_pure ⟨rfl, fun _ => rfl⟩
  refine leaves_orElse ?_ fun _ hs => leaves_pure hs
  refine leaves_commit ⟨trivial, rfl, fun _ => rfl⟩ fun _ _ hok =>
    leaves_pure ?_
  unfold insertOutboxPending at hok
  split at hok
  · cases of_pure hok
    exact ⟨rfl, fun _ => rfl⟩
  · obtain ⟨_, hinsert, hok⟩ := of_orFault hok
    cases of_pure hok
    refine ⟨rfl, fun _ => ?_⟩
    unfold getSpeechOutbox getOutboxRow
    rw [get?_insert hinsert, if_neg]
    rintro ⟨⟩

/-- A round on a reservation that fails a proof changes nothing but notices. -/
theorem recoverFailed_quiet (hquery : isUnfulfilledFailed reading row = true)
    (hunproven : meetsProofs reading db row = false) :
    Leaves db (recoverFailed reading row) (fun _ => Quiet db)
      (fun _ => True) := by
  have hsame : Quiet db db := ⟨rfl, fun _ => rfl⟩
  refine leaves_read ?_
  split
  · exact leaves_pure hsame
  rename_i hclean
  split
  · exact leaves_pure hsame
  rename_i speech hspeech
  unfold meetsProofs at hunproven
  simp only [hquery, hspeech, any_some, Bool.true_and, ne_eq,
    isRearmable] at hunproven
  split
  · exact leaves_pure hsame
  split
  · exact notice_quiet db speech false
  split
  · simp_all
  split
  · exact notice_quiet db speech true
  · simp_all

/-- A round on a reservation that meets the proofs recovers it. -/
theorem recoverFailed_recovers (hrow : db.reservations.get? row.id = some row)
    (hproven : meetsProofs reading db row = true) :
    Leaves db (recoverFailed reading row) (fun _ s => Recovered s row)
      (fun _ => True) := by
  unfold meetsProofs at hproven
  simp only [Bool.and_eq_true, Bool.not_eq_true', decide_eq_true_eq] at hproven
  obtain ⟨⟨⟨⟨hquery, hreceipt⟩, hdraft⟩, hdestination⟩, hspeech⟩ := hproven
  obtain ⟨speech, hspeech, hrearmable⟩ := (any_eq_true _ _).mp hspeech
  obtain ⟨outboxId, hid, hget⟩ := bind_eq_some_iff.mp hspeech
  have hkey : speech.projectionKey = ⟨.speech, outboxId⟩ :=
    key_of_get? hget
  have haborted := (isUnfulfilledFailed_spec hquery).1
  refine leaves_read ?_
  rw [if_neg (by simp [hreceipt, hdraft, hdestination]), hspeech]
  unfold isRearmable at hrearmable
  simp only [Bool.and_eq_true, Bool.or_eq_true] at hrearmable
  obtain ⟨⟨hrecoverable, honce⟩, hclear⟩ := hrearmable
  dsimp only
  have honce' : ¬ (1 ≤ speech.deliveryIntent.recoveryAttempts ∧
      speech.sendStatus ≠ .projected) := by
    rintro ⟨hspent, hother⟩
    simp [Nat.one_le_iff_ne_zero.mp hspent, hother] at honce
  rw [if_neg (by simp [hrecoverable]), if_neg honce']
  split
  · rename_i reason _
    have hsuppressed : ∀ s : DeliveryDb, s.outbox = db.outbox →
        Recovered (updateStatus speech.projectionKey .suppressed
          { finalizationReason := some reason
            nuclearReservationId := some row.id } s) row := by
      intro s hsame
      right
      rw [hid, bind_some]
      unfold getSpeechOutbox getOutboxRow at hget ⊢
      unfold updateStatus DeliveryDb.updateRow
      rw [get?_update, hsame, hget, map_some, if_pos (by simp [hkey])]
      rfl
    unfold suppressSuperseded
    split
    · exact leaves_write trivial (hsuppressed db rfl)
    · exact leaves_write_bind trivial
        (leaves_write trivial (hsuppressed _ rfl))
  rename_i hcurrent
  rw [if_neg (by simpa [hcurrent] using hclear)]
  have harmed : ∀ s : DeliveryDb, s.reservations = db.reservations →
      Recovered (s.updateReservation row.id (·.state = .aborted) fun row =>
        { row with
          state := .reserved, errorCategory := none
          finalizationReason := none, finalizedAtMs := none
          deliveryLeaseExpiresAtMs := none }) row := by
    intro s hsame
    left
    unfold DeliveryDb.updateReservation
    rw [get?_update, hsame, hrow, map_some,
      if_pos (by simp [haborted])]
    rfl
  unfold rearmFailed
  split
  · exact leaves_write_bind trivial (leaves_write trivial (harmed _ rfl))
  · exact leaves_write trivial (harmed db rfl)

omit [DeliveryHost] in
theorem Recovered.updateReservation (hrecovered : Recovered db row)
    {f : DeliveryReservation → DeliveryReservation}
    {hkey : ∀ row, key (f row) = key row} :
    Recovered (db.updateReservation reservationId (·.state = .aborted) f hkey)
      row := by
  rcases hrecovered with harmed | hspeech
  · obtain ⟨_, hget, hreserved⟩ := (any_eq_true _ _).mp harmed
    left
    unfold DeliveryDb.updateReservation
    rw [get?_update, hget, map_some, if_neg]
    · exact hreserved
    · simp_all
  · exact .inr hspeech

omit [DeliveryHost] in
theorem Recovered.updateRow (hrecovered : Recovered db row)
    {projectionKey : OutboxKey} {guard : ProjectableRow → Bool}
    {f : ProjectableRow → ProjectableRow} {hkey : ∀ row, key (f row) = key row}
    (hf : ∀ speech : ProjectableRow, speech.sendStatus = .suppressed →
      guard speech = true → (f speech).sendStatus = .suppressed) :
    Recovered (db.updateRow projectionKey guard f hkey) row := by
  rcases hrecovered with harmed | hspeech
  · exact .inl harmed
  · right
    obtain ⟨speech, hspeech, hsuppressed⟩ := (any_eq_true _ _).mp hspeech
    obtain ⟨_, hid, hget⟩ := bind_eq_some_iff.mp hspeech
    unfold getSpeechOutbox getOutboxRow at hget
    rw [hid, bind_some]
    unfold getSpeechOutbox getOutboxRow DeliveryDb.updateRow
    rw [get?_update, hget, map_some, any_some, decide_eq_true_eq]
    split
    · rename_i hguard
      simp only [Bool.and_eq_true] at hguard
      exact hf speech (of_decide_eq_true hsuppressed) hguard.2
    · exact of_decide_eq_true hsuppressed

/-- Later rounds do not take a recovery back. -/
theorem recoverFailed_steady {other : DeliveryReservation}
    (hrecovered : Recovered db row) :
    Leaves db (recoverFailed reading other) (fun _ s => Recovered s row)
      (fun _ => True) := by
  have hnotice : ∀ speech dispatchAmbiguous,
      Leaves db (ensureExhaustedDeliveryNotice speech dispatchAmbiguous)
        (fun _ s => Recovered s row) (fun _ => True) :=
    fun speech dispatchAmbiguous =>
      (notice_quiet db speech dispatchAmbiguous).mono
        (fun _ _ hquiet => hquiet.recovered hrecovered) fun _ _ => trivial
  refine leaves_read ?_
  split
  · exact leaves_pure hrecovered
  split
  · exact leaves_pure hrecovered
  split
  · exact leaves_pure hrecovered
  split
  · exact hnotice _ _
  split
  · unfold suppressSuperseded
    split
    · exact leaves_write trivial (hrecovered.updateRow fun _ _ _ => rfl)
    · exact leaves_write_bind trivial (leaves_write trivial
        (hrecovered.updateReservation.updateRow fun _ _ _ => rfl))
  split
  · exact hnotice _ _
  unfold rearmFailed
  split
  · refine leaves_write_bind trivial (leaves_write trivial
      (Recovered.updateReservation (hrecovered.updateRow ?_)))
    intro _ hsuppressed hfailed
    simp [hsuppressed] at hfailed
  · exact leaves_write trivial hrecovered.updateReservation

/-- The round of a pass on one of its candidates. -/
def failedSpeechRound (reading : SweepReading) (reservationId : Nat) :
    Delivering Unit := do
  let db ← Process.read
  match getDeliveryReservation db reservationId with
  | some row =>
    if isUnfulfilledFailed reading row then recoverFailed reading row
    else pure ()
  | none => pure ()

theorem failedSpeechRound_steady (hrecovered : Recovered db row) :
    Leaves db (failedSpeechRound reading reservationId)
      (fun _ s => Recovered s row) (fun _ => True) := by
  refine leaves_read ?_
  split
  · split
    · exact recoverFailed_steady hrecovered
    · exact leaves_pure hrecovered
  · exact leaves_pure hrecovered

/-- The round on a candidate that does not meet the proofs. -/
theorem failedSpeechRound_quiet (hquiet : Quiet before db)
    (hunproven : ∀ row, before.reservations.get? reservationId = some row →
      meetsProofs reading before row = false) :
    Leaves db (failedSpeechRound reading reservationId)
      (fun _ => Quiet before) (fun _ => True) := by
  refine leaves_read ?_
  split
  · rename_i row hrow
    split
    · rename_i hquery
      unfold getDeliveryReservation at hrow
      rw [hquiet.reservations] at hrow
      exact (recoverFailed_quiet hquery
        (hquiet.meetsProofs.trans (hunproven row hrow))).mono
        (fun _ _ hnext => hquiet.trans hnext) fun _ _ => trivial
    · exact leaves_pure hquiet
  · exact leaves_pure hquiet

/-- Rounds on candidates none of which meets the proofs. -/
theorem rounds_quiet (hquiet : Quiet before db)
    (hunproven : ∀ id ∈ ids, ∀ row, before.reservations.get? id = some row →
      meetsProofs reading before row = false) :
    Leaves db (forEach ids (failedSpeechRound reading))
      (fun _ => Quiet before) (fun _ => True) :=
  leaves_forEach hquiet fun id hid _ hs =>
    failedSpeechRound_quiet hs (hunproven id hid)

/-- Rounds on candidates one of which meets the proofs. -/
theorem rounds_recover (hquiet : Quiet before db)
    (hproven : ∃ id ∈ ids, ∃ row, before.reservations.get? id = some row ∧
      meetsProofs reading before row = true) :
    Leaves db (forEach ids (failedSpeechRound reading))
      (fun _ s => ∃ row ∈ before.reservations.rows,
        meetsProofs reading before row = true ∧ Recovered s row)
      (fun _ => True) := by
  induction ids generalizing db with
  | nil =>
    obtain ⟨_, hid, _⟩ := hproven
    cases hid
  | cons first rest ih =>
    by_cases hfirst : ∃ row, before.reservations.get? first = some row ∧
        meetsProofs reading before row = true
    · obtain ⟨row, hrow, hmeets⟩ := hfirst
      have hown : row.id = first := key_of_get? hrow
      have hround : Leaves db (failedSpeechRound reading first)
          (fun _ s => Recovered s row) (fun _ => True) := by
        have hstored : getDeliveryReservation db first = some row := by
          unfold getDeliveryReservation
          rw [hquiet.reservations]
          exact hrow
        have hmeets' : meetsProofs reading db row = true :=
          hquiet.meetsProofs.trans hmeets
        refine leaves_read ?_
        rw [hstored]
        dsimp only
        rw [if_pos (by simp_all [meetsProofs])]
        refine recoverFailed_recovers ?_ hmeets'
        rw [hquiet.reservations, hown]
        exact hrow
      refine leaves_bind hround fun _ s hs => ?_
      have hrest : Leaves s (forEach rest (failedSpeechRound reading))
          (fun _ s' => Recovered s' row) (fun _ => True) :=
        leaves_forEach hs fun _ _ _ hnext => failedSpeechRound_steady hnext
      exact hrest.mono
        (fun _ _ hend => ⟨row, mem_of_get? hrow, hmeets, hend⟩)
        fun _ _ => trivial
    · have hround : Leaves db (failedSpeechRound reading first)
          (fun _ => Quiet before) (fun _ => True) :=
        failedSpeechRound_quiet hquiet fun row hrow =>
          Bool.eq_false_iff.mpr fun hmeets => hfirst ⟨row, hrow, hmeets⟩
      refine leaves_bind hround fun _ s hs => ih hs ?_
      obtain ⟨id, hid, row, hrow, hmeets⟩ := hproven
      rcases mem_cons.mp hid with rfl | hrest
      · exact absurd ⟨row, hrow, hmeets⟩ hfirst
      · exact ⟨id, hrest, row, hrow, hmeets⟩

omit [DeliveryHost] in
/-- A row that is still to recover is not recovered. -/
theorem not_recovered [DeliveryHost] (hrow : row ∈ db.reservations.rows)
    (hmeets : meetsProofs reading db row = true) : ¬ Recovered db row := by
  unfold meetsProofs at hmeets
  simp only [Bool.and_eq_true] at hmeets
  obtain ⟨⟨⟨⟨hquery, _⟩, _⟩, _⟩, hspeech⟩ := hmeets
  have hstored : db.reservations.get? row.id = some row := get?_key hrow
  have haborted := (isUnfulfilledFailed_spec hquery).1
  rintro (harmed | hsuppressed)
  · simp [hstored, haborted] at harmed
  · obtain ⟨_, hfound, hrearmable⟩ := (any_eq_true _ _).mp hspeech
    rw [hfound, any_some, decide_eq_true_eq] at hsuppressed
    simp [isRearmable, isRecoverableSpeech, hsuppressed] at hrearmable

/-- A pass that comes to its end recovers some reservation that meets the proofs
exactly when one of them is on the page of its candidates. -/
theorem recovery_progresses_iff (reading : SweepReading) (db : DeliveryDb) :
    Leaves db (reconcileUnfulfilledFailedSpeechReservations reading)
      (fun _ after =>
        (∃ row ∈ db.reservations.rows, meetsProofs reading db row = true ∧
          Recovered after row) ↔
        ∃ row ∈ failedSpeechPage reading db, meetsProofs reading db row = true)
      (fun _ => True) := by
  have hquiet : Quiet db db := ⟨rfl, fun _ => rfl⟩
  have hpage : ∀ id,
      id ∈ ((db.reservations.rows.filter (isUnfulfilledFailed reading)).map
        (·.id)).take reading.limit ↔
      ∃ row ∈ failedSpeechPage reading db, row.id = id := by
    intro id
    rw [← List.map_take, List.mem_map]
    rfl
  have hstored : ∀ row ∈ failedSpeechPage reading db,
      db.reservations.get? row.id = some row := fun row hrow =>
    get?_key (List.mem_of_mem_filter (List.mem_of_mem_take hrow))
  by_cases hproven : ∃ row ∈ failedSpeechPage reading db,
      meetsProofs reading db row = true
  · refine (rounds_recover hquiet ?_).mono
      (fun _ _ hend => iff_of_true hend hproven) fun _ _ => trivial
    obtain ⟨row, hrow, hmeets⟩ := hproven
    exact ⟨row.id, (hpage _).mpr ⟨row, hrow, rfl⟩, row, hstored row hrow, hmeets⟩
  · refine (rounds_quiet hquiet ?_).mono
      (fun _ after hend => iff_of_false ?_ hproven) fun _ _ => trivial
    · intro id hid row hrow
      obtain ⟨found, hfound, rfl⟩ := (hpage id).mp hid
      rw [hstored found hfound] at hrow
      cases hrow
      exact Bool.eq_false_iff.mpr fun hmeets => hproven ⟨_, hfound, hmeets⟩
    · rintro ⟨row, hrow, hmeets, hrecovered⟩
      refine not_recovered hrow hmeets ?_
      unfold Recovered at hrecovered ⊢
      rwa [hend.reservations, hend.speechOf] at hrecovered

end Recovery

section Plain

attribute [local instance] plainHost plainDelivery

def secondReply : NewOutboxRow := { reply with settlementId := "s2" }

/-- The first reply fails after its dispatch began, the second one before. -/
def twoFailures : List (DeliveryOp × Nat) :=
  reserveReply ++ [claimReply 1, (.dispatch 1 2, 9), failReply 3,
    (.enqueue secondReply, 9),
    (.project ⟨.speech, 2⟩
      { nowMs := 4, planned := ["a"], cancel := { nowMs := 4 } }, 9),
    claimReply 5,
    (.finalize
      { reservationId := 2, ownerId := "owner", cause := .sendFailure
        nowMs := 6 }, 9)]

/-- A failed reply that can never be recovered keeps the page, and a later one
that meets the proofs is not reached. -/
theorem unrecoverable_failure_starves_recovery :
    ¬ ∀ (inputs : List (DeliveryOp × Nat)) (reading : SweepReading)
        (lives : Nat),
      (reconcileUnfulfilledFailedSpeechReservations reading lives
        (run deliveryStep {} inputs)).1.isOk = true →
      (∃ row ∈ (run deliveryStep {} inputs).reservations.rows,
        meetsProofs reading (run deliveryStep {} inputs) row = true) →
      ∃ row ∈ (run deliveryStep {} inputs).reservations.rows,
        meetsProofs reading (run deliveryStep {} inputs) row = true ∧
          Recovered (reconcileUnfulfilledFailedSpeechReservations reading lives
            (run deliveryStep {} inputs)).2 row := by
  intro hprogress
  have hrecovered := hprogress twoFailures { nowMs := 7, limit := 1 } 9
    (by decide +kernel) (by decide +kernel)
  revert hrecovered
  decide +kernel

end Plain

end CognitiveSidecar.Delivery
