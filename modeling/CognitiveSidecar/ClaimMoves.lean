/-
Recovery, the sweep and the claim of durable work as moves.
-/
import CognitiveSidecar.DurableClaim
import CognitiveSidecar.RetryMoves

namespace CognitiveSidecar

open List Relational

variable [Host] {permit : Permit} {db after : Sidecar}
variable {nowMs : Int}
variable {eventId : Option String} {id wakeId workerId : String}
variable {event current : InboxEvent} {p : InboxEvent → Bool} {leaseMs : Int}
variable {granted : DurableAttempt}
variable {attempt : Attempt}

instance : Std.Total Attempt.later :=
  ⟨fun left right => Nat.le_total right.ordinal left.ordinal⟩

instance : IsTrans Attempt Attempt.later :=
  ⟨fun _ _ _ hab hbc => Nat.le_trans hbc hab⟩

omit [Host] in
theorem latestAttempt_spec {eventId : String}
    (hlatest : latestAttempt db eventId = some attempt) :
    db.attempts.get? attempt.attemptId = some attempt ∧
      attempt.eventId = eventId ∧
      ∀ id other, db.attempts.get? id = some other →
        other.eventId = eventId → other.ordinal ≤ attempt.ordinal := by
  have hmem := mem_of_firstBy hlatest
  rw [mem_filter] at hmem
  refine ⟨get?_key hmem.1, of_decide_eq_true hmem.2, ?_⟩
  intro _ other hother howner
  have hin : other ∈ db.attempts.rows.filter (·.eventId = eventId) :=
    mem_filter.mpr ⟨mem_of_get? hother, decide_eq_true howner⟩
  rcases firstBy_le hlatest hin with heq | hle
  · rw [heq]
  · exact hle

omit [Host] in
/-- The latest attempt of a leased event is its open, untouched one. -/
theorem latestAttempt_of_leased (htallied : Tallied db)
    (hevent : db.events.get? id = some event) (hleased : event.state = .leased) :
    ∃ attempt, latestAttempt db id = some attempt ∧
      attempt.finishedAtMs = none ∧ attempt.dispatchTruth = .notStarted := by
  have hcount := htallied.held id event hevent hleased
  obtain ⟨attemptId, current, hcurrent, howner, _⟩ :=
      htallied.complete id event hevent event.attemptCount hcount (Nat.le_refl _)
  have hin : current ∈ db.attempts.rows.filter (·.eventId = id) :=
    mem_filter.mpr ⟨mem_of_get? hcurrent, decide_eq_true howner⟩
  obtain ⟨latest, hlatest⟩ : ∃ latest, latestAttempt db id = some latest :=
    exists_firstBy hin
  obtain ⟨hstored, hlatestOwner, hmax⟩ := latestAttempt_spec hlatest
  obtain ⟨_, hstoredEvent, _⟩ := htallied.counted _ latest hstored
  rw [hlatestOwner, hevent] at hstoredEvent
  cases hstoredEvent
  have hle := hmax attemptId current hcurrent howner
  have hopen := htallied.current id event hevent hleased _ latest hstored
    hlatestOwner (by omega)
  exact ⟨latest, hlatest, hopen, (htallied.untouched _ latest hstored hopen).1⟩

omit [Host] in
theorem ensureWakeLineage_of_linked (hlinked : Linked db)
    (hevent : db.events.get? id = some event) :
    ∃ wakeId wake, event.wakeId = some wakeId ∧
      event.wakeId.filter (· ≠ "") = some wakeId ∧
      db.wakes.get? wakeId = some wake ∧
      ensureWakeLineage db event = .ok wake.cycleId := by
  obtain ⟨_, wakeId, wake, howner, hwake, _⟩ :=
    hlinked.eventWake id event hevent
  have hne := (hlinked.wakeCycle wakeId wake hwake).1
  have hnamed : event.wakeId.filter (· ≠ "") = some wakeId := by
    simp [howner, hne]
  refine ⟨wakeId, wake, howner, hnamed, hwake, ?_⟩
  have hlineage := hasCycleLineage_of_linked hlinked hwake
  rw [ensureWakeLineage, hnamed, orFault_some, ok_bind, getWakeRequired, getWake,
    hwake, orFault_some, ok_bind, require_pos hlineage]
  rfl

/-- What recovery does to an expired lease of sound ledgers: it takes the
event back, or fences it when an effect may have been dispatched. -/
def expireLease (db : Sidecar) (nowMs : Int) (id wakeId : String) : Sidecar :=
  if hasAmbiguousEffect db wakeId then
    wakeToReconciling (db.updateEvent id (fun row => row.state = .leased)
      (fun row => row.fenced "recovered_after_possible_dispatch")
      (InboxEvent.fenced_key "recovered_after_possible_dispatch")) wakeId nowMs
  else
    wakeToPending (db.updateEvent id (fun row => row.state = .leased)
      (fun row => row.reclaimed) InboxEvent.reclaimed_key) wakeId nowMs

theorem recoverExpiredEvent_eq {nowMs : Int}
    {result : DurableWorkRecoveryResult} {id wakeId : String}
    {event : InboxEvent} (hsound : Sound db) (hid : id ≠ "")
    (hevent : db.events.get? id = some event)
    (hleased : event.state = .leased) (howner : event.wakeId = some wakeId) :
    ∃ result', recoverExpiredEvent nowMs (result, db) id =
      .ok (result', expireLease db nowMs id wakeId) := by
  obtain ⟨_, hlatest, _, huntouched⟩ :=
      latestAttempt_of_leased hsound.tallied hevent hleased
  obtain ⟨_, _, howner', hnamed, _, hlineage⟩ :=
      ensureWakeLineage_of_linked hsound.linked hevent
  cases howner.symm.trans howner'
  unfold recoverExpiredEvent expireLease
  simp only [if_neg hid, eventRow, hevent, orFault_some, ok_bind, hnamed,
    hlatest, hlineage, Except.toOption, huntouched, true_and]
  cases hasAmbiguousEffect db wakeId with
  | true | false => exact ⟨_, rfl⟩

omit [Host] in
/-- The events of other identifiers, and the wakes of other events, are left
alone when one lease expires. -/
theorem expireLease_frame {nowMs : Int} {id wakeId : String} :
    (∀ k, k ≠ id → (expireLease db nowMs id wakeId).events.get? k =
      db.events.get? k) ∧
    (∀ k, k ≠ wakeId → (expireLease db nowMs id wakeId).wakes.get? k =
      db.wakes.get? k) ∧
    (expireLease db nowMs id wakeId).effects = db.effects := by
  unfold expireLease
  refine ⟨?_, ?_, ?_⟩
  · intro k hk
    split
    · rw [wakeToReconciling_events, Sidecar.get?_updateEvent_of_ne hk]
    · rw [wakeToPending_events, Sidecar.get?_updateEvent_of_ne hk]
  · intro k hk
    split
    · rw [wakeToReconciling, Sidecar.get?_updateWake_of_ne hk]
      rfl
    · rw [wakeToPending, Sidecar.get?_updateWake_of_ne hk]
      rfl
  · split <;> rfl

omit [Host] in
/-- The busy event of a wake is alone on it. -/
theorem noOtherBusy (hfenced : Fenced db)
    (hevent : db.events.get? id = some event) (hbusy : event.isBusy = true)
    (howner : event.wakeId = some wakeId) {k : String} {row : InboxEvent}
    (hrow : db.events.get? k = some row) (hrowOwner : row.wakeId = some wakeId)
    (hrowBusy : row.isBusy = true) :
    k = id :=
  hfenced.solo k id row event hrow hevent (hrowOwner.trans howner.symm)
    hrowBusy hbusy

theorem expireLease_trace (hsound : Sound db)
    (hevent : db.events.get? id = some event) (hleased : event.state = .leased)
    (howner : event.wakeId = some wakeId)
    (htidy : permit.tidy → hasAmbiguousEffect db wakeId = false →
      WakeIs db (·.state ≠ .terminal) (some wakeId)) :
    Trace permit db (expireLease db nowMs id wakeId) := by
  have hbusy : event.isBusy = true := busy_iff.mpr (.inl hleased)
  unfold expireLease
  cases hambiguous : hasAmbiguousEffect db wakeId with
  | true =>
    -- The wake is fenced first, so that the event finds it fenced.
    have hswap : wakeToReconciling (db.updateEvent id
        (fun row => row.state = .leased)
        fun row => row.fenced "recovered_after_possible_dispatch") wakeId
          nowMs =
        (wakeToReconciling db wakeId nowMs).updateEvent id
          (fun row => row.state = .leased)
          fun row => row.fenced "recovered_after_possible_dispatch" := rfl
    rw [hswap]
    refine wakeToReconciling_moved.trace.step (.updateEvent ?_)
    intro _ hrow _
    cases hevent.symm.trans hrow
    refine .fence ⟨rfl, rfl, rfl, rfl, rfl, rfl⟩ rfl rfl rfl hleased ?_
    rw [howner]
    exact wakeToReconciling_fenced
  | false =>
    refine .step (Moved.trace (.updateEvent ?_)) (wakeToPending_moved ?_)
    · intro _ hrow _
      cases hevent.symm.trans hrow
      refine .giveBack ⟨rfl, rfl, rfl, rfl, rfl, rfl⟩ rfl rfl (.inl rfl)
        (.inl hleased) ?_
      intro hpromise _
      rw [howner]
      exact htidy hpromise hambiguous
    · intro k _ hrow hrowOwner
      obtain ⟨old, hold, hnew⟩ := Sidecar.of_get?_updateEvent hrow
      by_cases hk : k = id
      · rw [hk, hevent] at hold
        cases hold
        rw [if_pos ⟨hk, decide_eq_true hleased⟩] at hnew
        rw [hnew]
        rfl
      · rw [if_neg fun hboth => hk hboth.1] at hnew
        rw [hnew] at hrowOwner ⊢
        cases hrec : old.isReconciling with
        | false => rfl
        | true =>
          exact absurd (noOtherBusy hsound.fenced hevent hbusy howner hold
            hrowOwner (reconciling_busy old hrec)) hk

/-- Every expired lease in scope that recovery takes back lies on an open
wake. -/
def ExpiriesTidy (db : Sidecar) (nowMs : Int) (eventId : Option String) :
    Prop :=
  ∀ id event, db.events.get? id = some event → id ≠ "" →
    event.leaseRanOut nowMs = true → event.inScope eventId = true →
    ∀ wakeId, event.wakeId = some wakeId →
    hasAmbiguousEffect db wakeId = false →
    WakeIs db (·.state ≠ .terminal) (some wakeId)

/-- What the recovery loop keeps for the leases it has not visited yet. -/
structure StillExpired (permit : Permit) (db : Sidecar) (ids : List String) :
    Prop where
  sound : Sound db
  leased : ∀ id ∈ ids, ∃ event, db.events.get? id = some event ∧
    event.state = .leased
  tidy : permit.tidy → ∀ id ∈ ids, id ≠ "" → ∀ event,
    db.events.get? id = some event → ∀ wakeId, event.wakeId = some wakeId →
    hasAmbiguousEffect db wakeId = false →
    WakeIs db (·.state ≠ .terminal) (some wakeId)

theorem StillExpired.expire {rest : List String}
    (hstill : StillExpired permit db (id :: rest)) (hfresh : id ∉ rest)
    (hid : id ≠ "") (hevent : db.events.get? id = some event)
    (hleased : event.state = .leased) (howner : event.wakeId = some wakeId) :
    Trace permit db (expireLease db nowMs id wakeId) ∧
      StillExpired permit (expireLease db nowMs id wakeId) rest := by
  have htrace : Trace permit db (expireLease db nowMs id wakeId) :=
    expireLease_trace hstill.sound hevent hleased howner
      fun hpromise => hstill.tidy hpromise id mem_cons_self hid event
        hevent wakeId howner
  obtain ⟨hevents, hwakes, heffects⟩ :=
    @expireLease_frame db nowMs id wakeId
  have hbusy : event.isBusy = true := busy_iff.mpr (.inl hleased)
  refine ⟨htrace, hstill.sound.trace htrace, ?_, ?_⟩
  · intro k hk
    have hne : k ≠ id := fun heq => hfresh (heq ▸ hk)
    rw [hevents k hne]
    exact hstill.leased k (mem_cons_of_mem _ hk)
  · intro hpromise k hk hnamed row hrow owner hrowOwner hsafe
    have hne : k ≠ id := fun heq => hfresh (heq ▸ hk)
    rw [hevents k hne] at hrow
    have hambiguous : hasAmbiguousEffect (expireLease db nowMs id wakeId) owner =
        hasAmbiguousEffect db owner := by
      simp only [hasAmbiguousEffect, getUnresolvedInFlightForWake, heffects]
    rw [hambiguous] at hsafe
    -- The visited event is alone on its wake, so this one has another wake.
    have hother : owner ≠ wakeId := by
      intro hsame
      obtain ⟨_, hfound, hfoundLeased⟩ :=
          hstill.leased k (mem_cons_of_mem _ hk)
      cases hrow.symm.trans hfound
      rw [hsame] at hrowOwner
      exact hne (noOtherBusy hstill.sound.fenced hevent hbusy howner hrow
        hrowOwner (busy_iff.mpr (.inl hfoundLeased)))
    have hopen := hstill.tidy hpromise k (mem_cons_of_mem _ hk) hnamed row
      hrow owner hrowOwner hsafe
    intro _ wake heq hwake
    cases heq
    rw [hwakes owner hother] at hwake
    exact hopen owner wake rfl hwake

theorem eachOf_recoverExpired_trace {ids : List String}
    {acc acc' : DurableWorkRecoveryResult × Sidecar}
    (hstill : StillExpired permit acc.2 ids) (hnodup : ids.Nodup)
    (hok : eachOf (recoverExpiredEvent nowMs) acc ids = .ok acc') :
    Trace permit acc.2 acc'.2 := by
  induction ids generalizing acc with
  | nil =>
    cases hok
    exact .refl _
  | cons id _ ih =>
    obtain ⟨_, hhead, htail⟩ := of_bind hok
    obtain ⟨hfresh, hnodup⟩ := nodup_cons.mp hnodup
    obtain ⟨result, db⟩ := acc
    by_cases hid : id = ""
    · unfold recoverExpiredEvent at hhead
      simp only [if_pos hid] at hhead
      cases of_pure hhead
      exact ih ⟨hstill.sound,
        fun k hk => hstill.leased k (mem_cons_of_mem _ hk),
        fun hpromise k hk =>
          hstill.tidy hpromise k (mem_cons_of_mem _ hk)⟩ hnodup htail
    · obtain ⟨event, hevent, hleased⟩ :=
        hstill.leased id mem_cons_self
      obtain ⟨_, wakeId, _, howner, _, _⟩ :=
        hstill.sound.linked.eventWake id event hevent
      obtain ⟨_, heq⟩ := @recoverExpiredEvent_eq _ db nowMs result id
        wakeId event hstill.sound hid hevent hleased howner
      rw [heq] at hhead
      cases hhead
      obtain ⟨htrace, hrest⟩ :=
        hstill.expire hfresh hid hevent hleased howner
      exact htrace.trans (ih hrest hnodup htail)

omit [Host] in
theorem mem_eventIdsWhere :
    id ∈ eventIdsWhere db p ↔
      ∃ event, db.events.get? id = some event ∧ p event = true := by
  unfold eventIdsWhere
  simp only [mem_map, mem_insertionSort, mem_filter]
  constructor
  · rintro ⟨event, ⟨hmem, hp⟩, rfl⟩
    exact ⟨event, get?_key hmem, hp⟩
  · rintro ⟨event, hevent, hp⟩
    exact ⟨event, ⟨mem_of_get? hevent, hp⟩, key_of_get? hevent⟩

omit [Host] in
theorem nodup_eventIdsWhere :
    (eventIdsWhere db p).Nodup := by
  have hsub : ((db.events.rows.filter p).map InboxEvent.id).Nodup :=
    db.events.keys_nodup.sublist (filter_sublist.map _)
  exact ((perm_insertionSort _ _).map _).nodup_iff.mpr hsub

theorem recoverExpiredDurableWorkInTransaction_trace
    {result : DurableWorkRecoveryResult} (hsound : Sound db)
    (hok : recoverExpiredDurableWorkInTransaction db nowMs eventId =
      .ok (result, after)) (htidy : permit.tidy → ExpiriesTidy db nowMs eventId) :
    Trace permit db after := by
  refine eachOf_recoverExpired_trace ⟨hsound, ?_, ?_⟩ nodup_eventIdsWhere hok
  · intro _ hid
    obtain ⟨event, hevent, hexpired⟩ := mem_eventIdsWhere.mp hid
    simp only [InboxEvent.leaseRanOut, Bool.and_eq_true, decide_eq_true_eq]
      at hexpired
    exact ⟨event, hevent, hexpired.1.1⟩
  · intro hpromise id hid hnamed event hevent wakeId howner hsafe
    obtain ⟨_, hfound, hexpired⟩ := mem_eventIdsWhere.mp hid
    cases hevent.symm.trans hfound
    rw [Bool.and_eq_true] at hexpired
    exact htidy hpromise id event hevent hnamed hexpired.1 hexpired.2 wakeId
      howner hsafe

theorem normalizeEligibleRetryWait_moved :
    Moved permit db (normalizeEligibleRetryWait db nowMs eventId) := by
  refine .updateEvents ?_
  intro _ row _ hguard
  have hwaiting : row.state = .retryWait := by
    simp only [Bool.and_eq_true, decide_eq_true_eq] at hguard
    exact hguard.1.1
  refine .giveBack ⟨rfl, rfl, rfl, rfl, rfl, rfl⟩ rfl rfl (.inl rfl)
    (.inr hwaiting) ?_
  intro _ hleased
  rw [hwaiting] at hleased
  cases hleased

theorem normalizeBoundedRows_trace
    (hok : normalizeBoundedRows db nowMs eventId = .ok after) :
    Trace permit db after := by
  refine Trace.eachOf (P := fun _ => True) ?_ hok trivial
  intro s id _ hstep _
  refine ⟨?_, trivial⟩
  unfold quarantineBoundedEvent at hstep
  by_cases hid : id = ""
  · rw [if_pos hid] at hstep
    cases of_pure hstep
    exact .refl s
  · rw [if_neg hid] at hstep
    obtain ⟨_, _, hstep⟩ := of_bind hstep
    exact quarantineEvent_trace hstep

theorem sweepDurableWork_trace (hsound : Sound db)
    (hok : sweepDurableWork db nowMs eventId = .ok after)
    (htidy : permit.tidy → ExpiriesTidy db nowMs eventId) :
    Trace permit db after := by
  obtain ⟨⟨_, _⟩, hrecover, hok⟩ := of_bind hok
  exact ((recoverExpiredDurableWorkInTransaction_trace hsound hrecover
    htidy).step normalizeEligibleRetryWait_moved).trans
      (normalizeBoundedRows_trace hok)

/-- The lease of an event whose wake has just been authorized. -/
theorem recordAttempt_trace {claimToken : String} {wake : Wake}
    (hsound : Sound db) (hcurrent : db.events.get? current.id = some current)
    (hpending : current.state = .pending)
    (howner : current.wakeId = some wakeId)
    (hwake : db.wakes.get? wakeId = some wake) (hopen : ¬ wake.isFenced)
    (hbound : current.attemptCount + 1 ≤ maxAttempts)
    (hok : recordAttempt db current wakeId claimToken workerId nowMs leaseMs =
      .ok (attempt, after)) : Trace permit db after := by
  obtain ⟨hlane, hok⟩ := of_require hok
  replace hok := passed hok
  obtain ⟨_, hattempts, hok⟩ := of_orFault hok
  cases of_pure hok
  refine Moved.trace (.lease current
    (current.leasedTo claimToken workerId nowMs leaseMs
      (current.attemptCount + 1) (current.firstAttemptAtMs.getD nowMs)) _
    (Nat.le_succ _) ?_ ?_ hattempts ?_ rfl rfl (.same rfl))
  · refine ⟨hcurrent, hpending, ⟨rfl, rfl, rfl, rfl, rfl, rfl⟩, rfl, rfl,
      by omega, rfl, rfl, rfl, rfl, ⟨rfl, rfl, rfl⟩, ?_, ?_⟩
    · intro _ hcurrentOwner id row hrow hrowOwner
      cases howner.symm.trans hcurrentOwner
      have hsame : row.conversationId = current.conversationId ∧
          row.lane = current.lane := by
        obtain ⟨hrowLane, _, _, hrowWake, hstored, hrowConv⟩ :=
            hsound.linked.eventWake id row hrow
        obtain ⟨hlane', _, _, hcurWake, hstored', hconv⟩ :=
            hsound.linked.eventWake current.id current hcurrent
        cases hrowOwner.symm.trans hrowWake
        cases howner.symm.trans hcurWake
        cases hstored.symm.trans hstored'
        exact ⟨hrowConv.trans hconv.symm, hrowLane.trans hlane'.symm⟩
      cases hbusy : row.isBusy with
      | false => rfl
      | true =>
        rcases busy_iff.mp hbusy with hleased | hrec
        · by_cases hid : row.id = current.id
          · have hrowId : row.id = id := key_of_get? hrow
            rw [← hrowId, hid, hcurrent] at hrow
            cases hrow
            rw [hpending] at hleased
            cases hleased
          · exact absurd hsame
              (hlane row (mem_of_get? hrow) hleased hid)
        · exact absurd (hsound.fenced.fenced id row hrow hrec wakeId wake
            hrowOwner hwake) hopen
    · intro _ _ hid hrow
      cases howner.symm.trans hid
      cases hwake.symm.trans hrow
      exact hopen
  · intro k
    by_cases hk : k = current.id
    · rw [Sidecar.get?_updateEvent, hk]
      simp only [Sidecar.drew, hcurrent, Option.map_some, hpending,
        decide_true, and_self, if_true]
    · rw [Sidecar.get?_updateEvent_of_ne hk, if_neg hk]
      rfl
  · intro k hk heq
    rw [String.append_right_inj] at heq
    have hsame : db.uuidsDrawn = k := Host.randomUUID_injective heq
    have hlt : db.uuidsDrawn + 1 ≤ k := hk
    omega

theorem recordLaneServed_trace {lane conversationId : String}
    (hok : recordLaneServed db lane conversationId nowMs = .ok after) :
    Trace permit db after := by
  unfold recordLaneServed at hok
  simp only at hok
  split at hok
  · cases of_pure hok
    exact Moved.trace (.aside (Nat.le_refl _) rfl rfl rfl rfl)
  · obtain ⟨_, _, hok⟩ := of_orFault hok
    cases of_pure hok
    exact Moved.trace (.aside (Nat.le_refl _) rfl rfl rfl rfl)

/-- A claim is granted only on a stored pending event. -/
theorem claimCandidateInTransaction_trace (hsound : Sound db)
    (hcurrent : db.events.get? current.id = some current)
    (hok : claimCandidateInTransaction db current workerId nowMs leaseMs =
      .ok (granted, after)) : Trace permit db after := by
  replace hok := passed hok
  obtain ⟨hpending, hok⟩ := of_require hok
  replace hok := passed hok
  obtain ⟨_, _, hok⟩ := of_bind hok
  obtain ⟨wakeId, hnamed, hok⟩ := of_orFault hok
  have howner : current.wakeId = some wakeId :=
    (Option.filter_eq_some_iff.mp hnamed).1
  replace hok := passed hok
  obtain ⟨hbound, hok⟩ := of_require hok
  replace hok := passed hok
  obtain ⟨⟨_, claimed⟩, hclaim, hok⟩ := of_bind hok
  obtain ⟨⟨_, authorized⟩, hauthorize, hok⟩ := of_bind hok
  replace hok := passed hok
  obtain ⟨⟨_, _⟩, hrecord, hok⟩ := of_bind hok
  obtain ⟨_, hserved, hok⟩ := of_bind hok
  cases of_pure hok
  have hclaimed : Trace permit db claimed := claimWakeInTransaction_trace hclaim
  obtain ⟨hauthorized, hframe, hwake, hstate⟩ :=
    authorizeWakeInTransaction_cases hauthorize
  have htrace := hclaimed.trans hauthorized
  have hevents : authorized.events = db.events := by
    rw [hframe, ← claimWakeInTransaction_events hclaim]
  refine (htrace.trans (recordAttempt_trace (hsound.trace htrace)
    (by rw [hevents]; exact hcurrent) hpending howner hwake ?_ hbound
    hrecord)).trans (recordLaneServed_trace hserved)
  rintro (hrec | hterminal)
  · rw [hstate] at hrec
    cases hrec
  · rw [hstate] at hterminal
    cases hterminal

theorem startDurableAttempt_trace {input : StartDurableAttemptInput}
    (hsound : Sound db)
    (hok : startDurableAttempt db input = .ok (granted, after))
    (htidy : permit.tidy →
      ExpiriesTidy db input.nowMs (some input.eventId)) :
    Trace permit db after := by
  obtain ⟨_, hsweep, hok⟩ := of_bind hok
  obtain ⟨current, hcurrent, hok⟩ := of_bind hok
  replace hok := passed hok
  have htrace := sweepDurableWork_trace hsound hsweep htidy
  have hstored := orFault_ok.mp hcurrent
  have hid : current.id = input.eventId := key_of_get? hstored
  exact htrace.trans (claimCandidateInTransaction_trace (hsound.trace htrace)
    (by rw [hid]; exact hstored) hok)

theorem claimNextDurableWork_trace {input : ClaimDurableWorkInput}
    {granted : Option DurableAttempt} (hsound : Sound db)
    (hok : claimNextDurableWork db input = .ok (granted, after))
    (htidy : permit.tidy → ExpiriesTidy db input.nowMs none) :
    Trace permit db after := by
  obtain ⟨swept, hsweep, hok⟩ := of_bind hok
  have htrace := sweepDurableWork_trace hsound hsweep htidy
  cases hselected :
      selectFairEligibleHead (candidates swept input) input.nowMs with
  | none =>
    simp only [hselected] at hok
    cases of_pure hok
    exact htrace
  | some selected =>
    simp only [hselected] at hok
    obtain ⟨current, hcurrent, hok⟩ := of_bind hok
    obtain ⟨⟨_, _⟩, hclaim, hok⟩ := of_bind hok
    cases of_pure hok
    have hstored := orFault_ok.mp hcurrent
    have hid : current.id = selected.eventId := key_of_get? hstored
    exact htrace.trans (claimCandidateInTransaction_trace
      (hsound.trace htrace) (by rw [hid]; exact hstored) hclaim)

/-- A renewal extends the lease of the event it is for. -/
theorem renewDurableWorkClaimInTransaction_trace
    (input : RenewDurableWorkClaimInput) :
    Trace permit db (renewDurableWorkClaimInTransaction db input).2 := by
  unfold renewDurableWorkClaimInTransaction
  split
  · exact .refl db
  · refine Moved.trace (.updateEvent ?_)
    intro row _ _
    exact { EventChange.refl permit db row with
      same := ⟨rfl, rfl, rfl, rfl, rfl, rfl⟩ }

end CognitiveSidecar
