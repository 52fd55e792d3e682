/-
Unknown outcomes over whole runs: an event whose dispatch may have happened
fences its wake against every lease, and goes back to work only on a proof that
nothing was dispatched or spent on its repair lineage.
-/
import CognitiveSidecar.AttemptLedger
import CognitiveSidecar.Lib.Walk
import CognitiveSidecar.SweepRetirement

namespace CognitiveSidecar

open Option List Relational

section Fence

variable [Host] {db after : Sidecar}
variable {nowMs : Int} {granted : DurableAttempt}
variable {scope : Option String} {id : String} {event : InboxEvent}

/-- A sweep leaves a reconciling event as it is. -/
theorem sweepDurableWork_reconciling (hsound : Sound db)
    (hevent : db.events.get? id = some event)
    (hreconciling : event.state = .reconciling)
    (hok : sweepDurableWork db nowMs scope = .ok after) :
    Sound after ∧ after.events.get? id = some event := by
  obtain ⟨hsweeps, hsound'⟩ := (sweepDurableWork_spec hsound).2 after hok
  refine ⟨hsound', ?_⟩
  rw [hsweeps.events, sweptEvents, get?_update, hevent, map_some,
    if_pos rfl, InboxEvent.swept_of_settled (.inl hreconciling)]

/-- A claim is granted only on a wake that is not fenced. -/
theorem claimCandidateInTransaction_open {current : InboxEvent}
    {workerId : String} {leaseMs : Int}
    (hok : claimCandidateInTransaction db current workerId nowMs leaseMs =
      .ok (granted, after)) :
    ∃ wakeId wake, granted.wakeId = some wakeId ∧
      db.wakes.get? wakeId = some wake ∧ ¬ wake.isFenced := by
  replace hok := passed hok
  replace hok := passed hok
  replace hok := passed hok
  obtain ⟨_, _, hok⟩ := of_bind hok
  obtain ⟨wakeId, _, hok⟩ := of_orFault hok
  obtain ⟨hcomposable, hok⟩ := of_require hok
  replace hok := passed hok
  replace hok := passed hok
  obtain ⟨⟨_, _⟩, _, hok⟩ := of_bind hok
  obtain ⟨⟨_, _⟩, _, hok⟩ := of_bind hok
  replace hok := passed hok
  obtain ⟨⟨_, _⟩, _, hok⟩ := of_bind hok
  obtain ⟨_, _, hok⟩ := of_bind hok
  obtain ⟨rfl, _⟩ := of_pure_pair hok
  obtain ⟨wake, hwake, hopen⟩ := (Option.any_eq_true _ _).mp hcomposable
  refine ⟨wakeId, wake, rfl, hwake, ?_⟩
  simp only [isComposableWake, Bool.and_eq_true, decide_eq_true_eq] at hopen
  rintro (hreconciling | hterminal)
  · exact hopen.1.2 hreconciling
  · exact hopen.1.1 hterminal

/-- The wake of a grant is open once the sweep of the claim has run. -/
def GrantedOnOpenWake (db : Sidecar) (nowMs : Int) (scope : Option String)
    (granted : DurableAttempt) : Prop :=
  ∃ swept wakeId wake, sweepDurableWork db nowMs scope = .ok swept ∧
    granted.wakeId = some wakeId ∧ swept.wakes.get? wakeId = some wake ∧
    ¬ wake.isFenced

theorem startDurableAttempt_open {input : StartDurableAttemptInput}
    (hok : startDurableAttempt db input = .ok (granted, after)) :
    GrantedOnOpenWake db input.nowMs (some input.eventId) granted := by
  obtain ⟨swept, hsweep, hok⟩ := of_bind hok
  obtain ⟨_, _, hok⟩ := of_bind hok
  replace hok := passed hok
  obtain ⟨wakeId, wake, howner, hwake, hopen⟩ :=
    claimCandidateInTransaction_open hok
  exact ⟨swept, wakeId, wake, hsweep, howner, hwake, hopen⟩

theorem claimNextDurableWork_open {input : ClaimDurableWorkInput}
    (hok : claimNextDurableWork db input = .ok (some granted, after)) :
    GrantedOnOpenWake db input.nowMs none granted := by
  obtain ⟨swept, hsweep, hok⟩ := of_bind hok
  split at hok
  · obtain ⟨hnone, _⟩ := of_pure_pair hok
    cases hnone
  · obtain ⟨_, _, hok⟩ := of_bind hok
    obtain ⟨⟨_, _⟩, hclaim, hok⟩ := of_bind hok
    obtain ⟨hsame, _⟩ := of_pure_pair hok
    cases hsame
    obtain ⟨wakeId, wake, howner, hwake, hopen⟩ :=
      claimCandidateInTransaction_open hclaim
    exact ⟨swept, wakeId, wake, hsweep, howner, hwake, hopen⟩

/-- No grant lies on the wake of a reconciling event. -/
theorem GrantedOnOpenWake.other_wake {wakeId : String}
    (hgranted : GrantedOnOpenWake db nowMs scope granted) (hsound : Sound db)
    (hevent : db.events.get? id = some event)
    (hreconciling : event.state = .reconciling)
    (howner : event.wakeId = some wakeId) : granted.wakeId ≠ some wakeId := by
  rintro hsame
  obtain ⟨_, _, wake, hsweep, hgrantOwner, hwake, hopen⟩ := hgranted
  cases hsame.symm.trans hgrantOwner
  obtain ⟨hsound', hkept⟩ :=
    sweepDurableWork_reconciling hsound hevent hreconciling hsweep
  exact hopen (hsound'.fenced.fenced id event hkept hreconciling wakeId wake
    howner hwake)

/-- In every reachable state the wake of a reconciling event is stored and is
itself reconciling or terminal, no event of that wake is leased, and none of the
claims grants a lease on the wake or on an event of it. -/
theorem unknown_outcome_fences_wake (hreached : Reached db) {id wakeId : String}
    {event : InboxEvent} (hevent : db.events.get? id = some event)
    (hreconciling : event.state = .reconciling)
    (howner : event.wakeId = some wakeId) :
    (∃ wake, db.wakes.get? wakeId = some wake ∧
      (wake.state = .reconciling ∨ wake.state = .terminal)) ∧
    (∀ other row, db.events.get? other = some row →
      row.wakeId = some wakeId → row.state ≠ .leased) ∧
    (∀ workerId nowMs leaseMs token after,
      claimWake db wakeId workerId nowMs leaseMs ≠ .ok (token, after)) ∧
    (∀ input granted after,
      startDurableAttempt db input = .ok (granted, after) →
      granted.wakeId ≠ some wakeId) ∧
    (∀ input granted after,
      claimNextDurableWork db input = .ok (some granted, after) →
      granted.wakeId ≠ some wakeId) := by
  have hsound := hreached.sound
  obtain ⟨_, _, wake, howner', hwake, _⟩ :=
      hsound.linked.eventWake id event hevent
  cases howner.symm.trans howner'
  have hfenced : wake.isFenced :=
    hsound.fenced.fenced id event hevent hreconciling wakeId wake howner hwake
  refine ⟨⟨wake, hwake, hfenced⟩, ?_, ?_, ?_, ?_⟩
  · intro other _ hrow hrowOwner hleased
    have hsame : other = id := noOtherBusy hsound.fenced hevent
      (busy_iff.mpr (Or.inr hreconciling)) howner hrow hrowOwner
      (busy_iff.mpr (Or.inl hleased))
    rw [hsame, hevent] at hrow
    cases hrow
    rw [hreconciling] at hleased
    cases hleased
  · intro _ _ _ _ _ hok
    replace hok := passed hok
    obtain ⟨_, hcurrent, hok⟩ := of_bind hok
    cases hwake.symm.trans (getWakeRequired_ok.mp hcurrent)
    obtain ⟨hopen, hok⟩ := of_require hok
    obtain ⟨hsettled, _⟩ := of_require hok
    exact hfenced.elim hsettled.1 hopen
  · intro _ _ _ hok
    exact (startDurableAttempt_open hok).other_wake hsound hevent hreconciling
      howner
  · intro _ _ _ hok
    exact (claimNextDurableWork_open hok).other_wake hsound hevent hreconciling
      howner

end Fence

section Lineage

variable {db : Sidecar} {id ancestor : String}
variable {fuel : Nat}

/-- The event was created as the repair of the other one; the empty text names
no event. -/
def RepairOf (db : Sidecar) (id predecessor : String) : Prop :=
  id ≠ "" ∧ predecessor ≠ "" ∧ ∃ repair, db.repairs.get? id = some repair ∧
    repair.predecessorEventId = predecessor

/-- One turn of the walk along the repairs. -/
def nextPredecessor (db : Sidecar) (id : String) : Option String :=
  if id = "" then none else predecessorOf db id

theorem follows_nextPredecessor {predecessor : String} :
    Relational.Follows (nextPredecessor db) id predecessor ↔
      RepairOf db id predecessor := by
  unfold Relational.Follows nextPredecessor RepairOf predecessorOf
  by_cases hid : id = ""
  · simp [hid]
  · simp only [if_neg hid, filter_eq_some_iff, map_eq_some_iff,
      decide_not, Bool.not_eq_true', decide_eq_false_iff_not]
    exact ⟨fun hfound => ⟨hid, hfound.2, hfound.1⟩,
      fun hfound => ⟨hfound.2.2, hfound.2.1⟩⟩

/-- Only the key of a repair row leads on. -/
theorem nextPredecessor_domain (item successor : String)
    (hnext : nextPredecessor db item = some successor) :
    item ∈ db.repairs.rows.map key := by
  obtain ⟨_, _, repair, hrepair, _⟩ := follows_nextPredecessor.mp hnext
  exact List.mem_map.mpr
    ⟨repair, mem_of_get? hrepair, key_of_get? hrepair⟩

theorem walkRepairLineage_eq_walk {seen : List String} (hid : id ≠ "") :
    walkRepairLineage db fuel seen id =
      walk (nextPredecessor db) fuel seen id := by
  induction fuel generalizing seen id with
  | zero => rfl
  | succ _ ih =>
    rw [walkRepairLineage, walk, nextPredecessor, if_neg hid]
    cases hnext : predecessorOf db id with
    | none => rfl
    | some predecessor =>
      have hnamed : predecessor ≠ "" := by
        simpa using (filter_eq_some_iff.mp hnext).2
      by_cases hseen : predecessor ∈ seen
      · simp only [if_pos hseen]
      · simp only [if_neg hseen]
        exact ih hnamed

/-- However the repair rows lead, the walk ends within one turn for each row,
and a longer walk finds nothing more. -/
theorem walkRepairLineage_ends (hid : id ≠ "")
    (hfuel : db.repairs.rows.length < fuel) :
    walkRepairLineage db fuel [id] id = repairLineage db id := by
  rw [repairLineage, if_neg hid, walkRepairLineage_eq_walk hid,
    walkRepairLineage_eq_walk hid]
  refine walk_of_le nextPredecessor_domain (.initial id) ?_ hfuel
  simp

/-- The lineage holds the event and all its predecessors, and nothing else. -/
theorem mem_repairLineage : ancestor ∈ repairLineage db id ↔
    Relation.ReflTransGen (RepairOf db) id ancestor := by
  have hrel : RepairOf db = Relational.Follows (nextPredecessor db) := by
    funext item predecessor
    exact propext follows_nextPredecessor.symm
  rw [hrel]
  by_cases hid : id = ""
  · have hwalk : repairLineage db id = walk (nextPredecessor db)
        (db.repairs.rows.length + 1) [id] id := by
      rw [repairLineage, if_pos hid, walk, nextPredecessor, if_pos hid]
    rw [hwalk]
    exact mem_walk nextPredecessor_domain (.initial id) (by simp)
  · rw [repairLineage, if_neg hid, walkRepairLineage_eq_walk hid]
    exact mem_walk nextPredecessor_domain (.initial id) (by simp)

theorem boundEffects_eq_nil : boundEffects db (repairLineage db id) = [] ↔
    ∀ ancestor, Relation.ReflTransGen (RepairOf db) id ancestor →
      ∀ effect ∈ db.effects.rows, effect.originEventId ≠ some ancestor := by
  simp only [boundEffects, filter_eq_nil_iff, Option.any_eq_true,
    decide_eq_true_eq, mem_repairLineage]
  constructor
  · rintro hnone ancestor hreached effect heffect horigin
    exact hnone effect heffect ⟨ancestor, horigin, hreached⟩
  · rintro hnone effect heffect ⟨ancestor, horigin, hreached⟩
    exact hnone ancestor hreached effect heffect horigin

end Lineage

section Spend

variable {db : Sidecar}
variable {reservation : PrivateReservation}

/-- The private reservation of an event: the one that its payload names, or
else one of its wake. -/
def ReservationOf (db : Sidecar) (eventId wakeId : String)
    (reservation : PrivateReservation) : Prop :=
  reservation.reservationId ≠ "" ∧ reservation ∈ db.reservations.rows ∧
    (explicitPrivateReservationId db eventId =
        some reservation.reservationId ∨
      (explicitPrivateReservationId db eventId = none ∧
        reservation.wakeId = wakeId))

/-- The reservation is held, and neither it nor a later attempt bound to it has
been dispatched. -/
def Undispatched (db : Sidecar) (reservation : PrivateReservation) : Prop :=
  reservation.state = .held ∧
    (reservation.dispatchTruth = .notBound ∨
      reservation.dispatchTruth = .notStarted) ∧
    ∀ binding ∈ db.bindings.rows,
      binding.reservationId = reservation.reservationId →
      binding.ordinal = 1 ∨ binding.dispatchTruth = .notStarted

theorem classifyReservation_undispatched
    (hunspent : classifyReservation db reservation = .ownerNoReservation ∨
      ∃ reservationId, classifyReservation db reservation =
        .privateNotSpent reservationId) : Undispatched db reservation := by
  unfold classifyReservation at hunspent
  simp only at hunspent
  split at hunspent
  · rcases hunspent with hclash | ⟨_, hclash⟩ <;> cases hclash
  split at hunspent
  · rename_i hheld
    obtain ⟨hstate, htruth, hhistory⟩ := hheld
    refine ⟨hstate, htruth, ?_⟩
    intro binding hbinding hof
    rw [List.all_eq_true] at hhistory
    have hrecord := hhistory ⟨binding.ordinal, binding.dispatchTruth⟩ <| by
      refine mem_append_right _ (List.mem_map.mpr ⟨binding, ?_, rfl⟩)
      exact mem_filter.mpr ⟨hbinding, decide_eq_true hof⟩
    simpa using hrecord
  · rcases hunspent with hclash | ⟨_, hclash⟩ <;> cases hclash

/-- Where the classification lets an event go back to work, none of its
reservations is spent or in doubt. -/
theorem SafeToRetry.undispatched {input : ReconcileOutcomeUnknownInput}
    {wakeId : String} (hsafe : SafeToRetry db input wakeId)
    (hnamed : wakeId ≠ "")
    (hof : ReservationOf db input.eventId wakeId reservation) :
    Undispatched db reservation := by
  obtain ⟨hid, hmem, hwhich⟩ := hof
  apply classifyReservation_undispatched
  have hunspent := hsafe.unspent
  have hfilter : (some wakeId).filter (· ≠ "") = some wakeId := by
    simp [hnamed]
  unfold classifyOutcomeUnknownSpend at hunspent
  simp only [hfilter] at hunspent
  rcases hwhich with hexplicit | ⟨hnone, howner⟩
  · have hfound : db.reservations.get? reservation.reservationId =
        some reservation := get?_key hmem
    simpa only [hexplicit, hfound, if_neg hid] using hunspent
  · have hin : reservation ∈ db.reservations.rows.filter (·.wakeId = wakeId) :=
      mem_filter.mpr ⟨hmem, decide_eq_true howner⟩
    simp only [hnone, getPrivateReservationForWake] at hunspent
    by_cases hblank : blank wakeId = true
    · simp only [hblank, if_true] at hunspent
      rcases hunspent with hclash | ⟨_, hclash⟩ <;> cases hclash
    simp only [if_neg hblank] at hunspent
    cases hrows : db.reservations.rows.filter (·.wakeId = wakeId) with
    | nil =>
      rw [hrows] at hin
      cases hin
    | cons _ rest =>
      cases rest with
      | nil =>
        rw [hrows, mem_singleton] at hin
        simpa only [hrows, ← hin, if_neg hid] using hunspent
      | cons =>
        simp only [hrows] at hunspent
        rcases hunspent with hclash | ⟨_, hclash⟩ <;> cases hclash

end Spend

section Runs

variable [Host] {db after : Sidecar}
variable {id wakeId : String} {event : InboxEvent}

/-- The evidence on which a reconciliation gives an event back to work. -/
structure ResumedOnProof (db : Sidecar)
    (input : ReconcileOutcomeUnknownInput) : Prop where
  proof : input.carriesProof = true
  unresolved : ∃ event wakeId, Unresolved db input.eventId wakeId event ∧
    ∀ reservation, ReservationOf db input.eventId wakeId reservation →
      Undispatched db reservation
  unbound : ∀ ancestor,
    Relation.ReflTransGen (RepairOf db) input.eventId ancestor →
    ∀ effect ∈ db.effects.rows, effect.originEventId ≠ some ancestor

/-- The only operation that resumes an event is a proven reconciliation. -/
theorem Op.resumes_on_proof {op : Op} (hsound : Sound db)
    (hresumes : op.Resumes db id) :
    ∃ input, op = .reconcileUnknown input ∧ input.eventId = id ∧
      ResumedOnProof db input := by
  cases op with
  | reconcileUnknown input =>
    obtain ⟨rfl, wakeId, event, hunresolved, hsafe⟩ := hresumes
    obtain ⟨_, _, wake, howner, hwake, _⟩ :=
        hsound.linked.eventWake _ event hunresolved.stored
    cases hunresolved.owner.symm.trans howner
    have hnamed : wakeId ≠ "" := (hsound.linked.wakeCycle wakeId wake hwake).1
    exact ⟨input, rfl, rfl, hsafe.proof, ⟨event, wakeId, hunresolved,
      fun _ => hsafe.undispatched hnamed⟩, boundEffects_eq_nil.mp hsafe.unbound⟩
  | _ => exact hresumes.elim

/-- A run that takes an event out of reconciliation without closing it does so
by a proven reconciliation. -/
theorem run_resumes_on_proof {event' : InboxEvent} {ops : List Op}
    (hsound : Sound db) (hevent : db.events.get? id = some event)
    (hreconciling : event.state = .reconciling)
    (hlater : (run step db ops).events.get? id = some event')
    (hresumed : event'.state ≠ .reconciling) (hopen : event'.isClosed = false) :
    ∃ before input rest, ops = before ++ .reconcileUnknown input :: rest ∧
      input.eventId = id ∧ ResumedOnProof (run step db before) input := by
  obtain ⟨before, op, rest, rfl, ⟨row, hrow, hheld⟩, hleaves⟩ :=
    @exists_leaving_step _ _ step
      (fun s => ∃ row, s.events.get? id = some row ∧
        (row.isClosed = true ∨ row.state = .reconciling)) db ops
      ⟨event, hevent, .inr hreconciling⟩ <| by
        rintro ⟨_, hrow, hheld⟩
        cases hlater.symm.trans hrow
        rcases hheld with hclosed | hstill
        · rw [hopen] at hclosed
          cases hclosed
        · exact hresumed hstill
  have hbefore : Sound (run step db before) := run_sound hsound before
  have htrace : Trace (op.permit (run step db before)) (run step db before)
      (step op (run step db before)) := step_trace hbefore
  obtain ⟨row', hrow', hdescends⟩ := htrace.event_forward hrow
  have hid : row.id = id := key_of_get? hrow
  rcases hdescends.unresolved hheld with hclosed | hstill | hresumes
  · exact absurd ⟨row', hrow', .inl hclosed⟩ hleaves
  · exact absurd ⟨row', hrow', .inr hstill⟩ hleaves
  · rw [hid] at hresumes
    obtain ⟨input, rfl, hinput, hproof⟩ := Op.resumes_on_proof hbefore hresumes
    exact ⟨before, input, rest, rfl, hinput, hproof⟩

/-- The evidence that the event's private budget has been spent. -/
structure ProvedSpent (db : Sidecar) (input : ReconcileOutcomeUnknownInput)
    (wakeId : String) : Prop where
  proof : input.carriesProof = true
  unbound : boundEffects db (repairLineage db input.eventId) = []
  spent : ∃ reservationId signal, classifyOutcomeUnknownSpend db input.eventId
    (some wakeId) = .privateSpent reservationId signal

/-- The reconciliation closes the event as a permanent failure. -/
def FailsPermanently (db : Sidecar) (input : ReconcileOutcomeUnknownInput) :
    Prop :=
  ∃ after row, reconcileOutcomeUnknown db input =
      .ok (.terminal "permanent_failure", after) ∧
    after.events.get? input.eventId = some row ∧ row.state = .terminal

omit [Host] in
theorem closeReconciled_ok_iff {eventId wakeId : String} {wake : Wake}
    {f : InboxEvent → InboxEvent} {hkey : ∀ row, key (f row) = key row}
    {reason : WakeTerminalReason} {nowMs : Int}
    (hwake : db.wakes.get? wakeId = some wake) :
    (∃ after, closeReconciled db eventId wakeId f hkey reason nowMs =
      .ok after) ↔
      (wake.state = .terminal → wake.acceptsEnding reason = true) := by
  have hstored : (db.updateEvent eventId (·.isReconciling) f hkey).wakes.get?
      wakeId = some wake := hwake
  refine Iff.trans ?_ (wakeToTerminal_ok_iff hstored reason nowMs)
  constructor
  · rintro ⟨_, hok⟩
    obtain ⟨closed, hclose, _⟩ := of_bind hok
    exact ⟨closed, hclose⟩
  · rintro ⟨closed, hclose⟩
    obtain ⟨after, hafter⟩ := retireOwnerlessCycleForTerminalEvent_total closed
      (some wakeId) nowMs
    exact ⟨after, bind_ok.mpr ⟨closed, hclose, hafter⟩⟩

omit [Host] in
theorem closeReconciled_events {eventId : String} {f : InboxEvent → InboxEvent}
    {hkey : ∀ row, key (f row) = key row} {reason : WakeTerminalReason}
    {nowMs : Int}
    (hok : closeReconciled db eventId wakeId f hkey reason nowMs = .ok after) :
    after.events =
      (db.updateEvent eventId (·.isReconciling) f hkey).events := by
  obtain ⟨_, hclose, hok⟩ := of_bind hok
  rw [retireOwnerlessCycleForTerminalEvent_frame hok,
    wakeToTerminal_frame hclose]

omit [Host] in
/-- A proven spend closes its event unless the wake has already ended otherwise
than in quarantine. -/
theorem ProvedSpent.fails_iff {input : ReconcileOutcomeUnknownInput}
    {wake : Wake} (hspent : ProvedSpent db input wakeId)
    (hunresolved : Unresolved db input.eventId wakeId event)
    (hnamed : wakeId ≠ "") (hwake : db.wakes.get? wakeId = some wake) :
    FailsPermanently db input ↔
      (wake.state = .terminal → wake.terminalReason = some .quarantined) := by
  obtain ⟨_, signal, hspend⟩ := hspent.spent
  have hfilter : event.wakeId.filter (· ≠ "") = some wakeId := by
    simp [hunresolved.owner, hnamed]
  have hcall : reconcileOutcomeUnknown db input = (do
      let db ← closeReconciled db input.eventId wakeId
        (fun row =>
          row.reconciledFailed ("private_spent_no_rethought:" ++ signal))
        (fun _ => rfl) .quarantined input.nowMs
      pure (.terminal "permanent_failure", db)) := by
    have hnotEnded : ¬ (event.state = .terminal ∨
        event.state = .quarantined) := by
      rw [hunresolved.reconciling]
      simp
    unfold reconcileOutcomeUnknown
    rw [eventRow, hunresolved.stored, orFault_some, ok_bind, if_neg hnotEnded,
      require_pos hunresolved.reconciling, ok_bind]
    simp only [hfilter, hspent.unbound, ne_eq, not_true_eq_false, if_false,
      hspent.proof, if_true, reconcileFromProof, hspend]
  have hkey : ∀ row : InboxEvent, key (row.reconciledFailed
      ("private_spent_no_rethought:" ++ signal)) = key row := fun _ => rfl
  rw [← acceptsEnding_quarantined]
  refine Iff.trans ?_ (@closeReconciled_ok_iff db input.eventId wakeId wake
    (fun row => row.reconciledFailed ("private_spent_no_rethought:" ++ signal))
    hkey .quarantined input.nowMs hwake)
  unfold FailsPermanently
  rw [hcall]
  constructor
  · rintro ⟨_, _, hok, _⟩
    obtain ⟨closed, hclose, _⟩ := of_bind hok
    exact ⟨closed, hclose⟩
  · rintro ⟨after, hclose⟩
    refine ⟨after, event.reconciledFailed
      ("private_spent_no_rethought:" ++ signal), ?_, ?_, rfl⟩
    · rw [hclose]
      rfl
    · rw [closeReconciled_events hclose, Sidecar.get?_updateEvent,
        hunresolved.stored, map_some,
        if_pos ⟨rfl, reconciling_iff.mpr hunresolved.reconciling⟩]

/-- A run of operations that close no wake under a busy event. -/
def OrderlyReached (db : Sidecar) : Prop :=
  ∃ ops : List Op, (∀ op ∈ ops, op.isOrderly = true) ∧ run step {} ops = db

/-- In such a run no wake is terminal under a busy event. -/
theorem OrderlyReached.noneInterrupted (hreached : OrderlyReached db) :
    NoneInterrupted db := by
  obtain ⟨ops, horderly, rfl⟩ := hreached
  have hkeep : ∀ (ops : List Op) (s : Sidecar),
      (∀ op ∈ ops, op.isOrderly = true) → Sound s → NoneInterrupted s →
      NoneInterrupted (run step s ops) := by
    intro ops
    induction ops with
    | nil => exact fun _ _ _ hnone => hnone
    | cons op _ ih =>
      intro s horderly hsound hnone
      have htrace : Trace (op.permit s) s (step op s) := step_trace hsound
      exact ih (step op s)
        (fun other hmem => horderly other (mem_cons_of_mem _ hmem))
        (step_sound hsound)
        (hnone.trace htrace (horderly op mem_cons_self) hsound)
  refine hkeep ops {} horderly sound_empty ?_
  intro _ _ hevent
  cases hevent

/-- In every run an event leaves reconciliation without being closed only by a
reconciliation that carries its proof, where no effect is bound on the repair
lineage and no private reservation of the event is spent or in doubt.  A proven
spend closes the event in every run of the durable-work ledger, and in any
other run unless its wake has already ended otherwise.  The walk along the
repair lineage ends, and finds exactly the event and its predecessors. -/
theorem unknown_outcome_resumes_on_proof (hreached : Reached db) :
    (∀ id event event' ops, db.events.get? id = some event →
      event.state = .reconciling →
      (run step db ops).events.get? id = some event' →
      event'.state ≠ .reconciling → event'.isClosed = false →
      ∃ before input rest, ops = before ++ .reconcileUnknown input :: rest ∧
        input.eventId = id ∧ ResumedOnProof (run step db before) input) ∧
    (∀ input wakeId event, Unresolved db input.eventId wakeId event →
      ProvedSpent db input wakeId →
      (OrderlyReached db → FailsPermanently db input) ∧
      (FailsPermanently db input ↔ ∀ wake, db.wakes.get? wakeId = some wake →
        wake.state = .terminal → wake.terminalReason = some .quarantined)) ∧
    (∀ id ancestor, ancestor ∈ repairLineage db id ↔
      Relation.ReflTransGen (RepairOf db) id ancestor) ∧
    (∀ id fuel, id ≠ "" → db.repairs.rows.length < fuel →
      walkRepairLineage db fuel [id] id = repairLineage db id) := by
  have hsound := hreached.sound
  refine ⟨?_, ?_, fun _ _ => mem_repairLineage,
    fun _ _ hid hfuel => walkRepairLineage_ends hid hfuel⟩
  · intro _ _ _ _ hevent hreconciling hlater hresumed hopen
    exact run_resumes_on_proof hsound hevent hreconciling hlater hresumed hopen
  · intro input wakeId event hunresolved hspent
    obtain ⟨_, _, wake, howner, hwake, _⟩ :=
        hsound.linked.eventWake _ event hunresolved.stored
    cases hunresolved.owner.symm.trans howner
    have hnamed : wakeId ≠ "" := (hsound.linked.wakeCycle wakeId wake hwake).1
    have hfails := hspent.fails_iff hunresolved hnamed hwake
    refine ⟨fun horderly => hfails.mpr fun hterminal => ?_,
      hfails.trans ⟨?_, fun hall => hall wake hwake⟩⟩
    · exact absurd hterminal (horderly.noneInterrupted input.eventId event
        hunresolved.stored (busy_iff.mpr (Or.inr hunresolved.reconciling))
        wakeId wake hunresolved.owner hwake)
    · intro hended _ hfound
      cases hwake.symm.trans hfound
      exact hended

end Runs

section Plain

attribute [local instance] plainHost

/-- An event is claimed, and its handler reports an unknown outcome. -/
def outcomeLost : List Op :=
  [.appendInboxEvent
      { conversationId := "c", kind := "owner_message", createdAtMs := 0 }
      (some "e"),
    .claimNext { workerId := "w", nowMs := 1 },
    .settle
      { attemptId := "attempt:uu", eventId := "e", claimToken := "wake-lease:u"
        result := .outcomeUnknown "op" "lost", nowMs := 2 }]

theorem outcomeLost_reconciling : ∃ event,
    (run step {} outcomeLost).events.get? "e" = some event ∧
      event.state = .reconciling := by
  have hstate : ((run step {} outcomeLost).events.get? "e").map
      InboxEvent.state = some .reconciling := by decide +kernel
  exact map_eq_some_iff.mp hstate

/-- The wake of that event refuses a claim. -/
theorem unknown_outcome_fences_wake_lost :
    ∃ wakeId, ∀ workerId nowMs leaseMs token after,
      claimWake (run step {} outcomeLost) wakeId workerId nowMs leaseMs ≠
        .ok (token, after) := by
  obtain ⟨event, hevent, hstate⟩ := outcomeLost_reconciling
  have howner : (((run step {} outcomeLost).events.get? "e").bind
      InboxEvent.wakeId).isSome = true := by decide +kernel
  rw [hevent] at howner
  obtain ⟨wakeId, howner⟩ := Option.isSome_iff_exists.mp howner
  exact ⟨wakeId, (unknown_outcome_fences_wake ⟨outcomeLost, rfl⟩ hevent
    hstate howner).2.2.1⟩

/-- A reconciliation without a proof, and one that carries it. -/
def reconciledTwice : List Op :=
  [.reconcileUnknown { eventId := "e", nowMs := 3 },
    .reconcileUnknown
      { eventId := "e", nowMs := 4, noExternalDispatchProof := true
        proofRef := some "p" }]

/-- The event goes back to work by the second of them. -/
theorem unknown_outcome_resumes_on_proof_lost :
    ∃ before input rest,
      reconciledTwice = before ++ .reconcileUnknown input :: rest ∧
        input.eventId = "e" ∧
        ResumedOnProof (run step (run step {} outcomeLost) before) input := by
  obtain ⟨event, hevent, hstate⟩ := outcomeLost_reconciling
  obtain ⟨event', hevent'⟩ : ∃ event',
      (run step (run step {} outcomeLost) reconciledTwice).events.get? "e" =
        some event' := Option.isSome_iff_exists.mp (by decide +kernel)
  have hpending : ((run step (run step {} outcomeLost)
      reconciledTwice).events.get? "e").map InboxEvent.state =
        some .pending := by decide +kernel
  rw [hevent'] at hpending
  have hpending : event'.state = .pending := Option.some.inj hpending
  exact (unknown_outcome_resumes_on_proof ⟨outcomeLost, rfl⟩).1 "e" event
    event' reconciledTwice hevent hstate hevent'
    (by rw [hpending]; decide) (by simp [InboxEvent.isClosed, hpending])

end Plain

end CognitiveSidecar
