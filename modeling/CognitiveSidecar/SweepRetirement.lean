/-
The sweep before a claim in closed form: the retirement of events that are out
of attempts or of time, exactly when it faults, and the state it leaves.
-/
import CognitiveSidecar.SweepEffect

namespace CognitiveSidecar

open Option List Relational

section Retirement

variable {db after : Sidecar} {nowMs : Int} {eventId : Option String}
variable {wakeId : String} {event : InboxEvent}
variable {k reason : String} {current : InboxEvent} {rest : List String}

/-- Retiring these events takes the last continuation of a wake that has
already ended otherwise. -/
def RetirementConflict (db : Sidecar) (ids : List String) (wakeId : String) :
    Prop :=
  (∃ wake, db.wakes.get? wakeId = some wake ∧ wake.state = .terminal ∧
    wake.terminalReason ≠ some .quarantined) ∧
  (∃ id ∈ ids, ∃ event, db.events.get? id = some event ∧
    event.wakeId = some wakeId) ∧
  ∀ id event, db.events.get? id = some event → event.wakeId = some wakeId →
    event.isDurableContinuation = true → id ∈ ids

/-- What retiring the events of `ids` does. -/
structure Retires (db after : Sidecar) (ids : List String) : Prop where
  events : ∀ k, after.events.get? k = (db.events.get? k).map fun row =>
    if k ∈ ids then row.quarantinedFor (if maxAttempts ≤ row.attemptCount then
      "attempts_exhausted" else "age_exhausted") else row
  kept : ∀ wakeId id event, db.events.get? id = some event →
    event.wakeId = some wakeId → event.isDurableContinuation = true →
    id ∉ ids → after.wakes.get? wakeId = db.wakes.get? wakeId
  keys : after.events.rows.map key = db.events.rows.map key
  frame : after = { db with
    events := after.events, wakes := after.wakes, cycles := after.cycles }

theorem Retires.refl : Retires db db [] where
  events := fun k => by simp
  kept := fun _ _ _ _ _ _ _ => rfl
  keys := rfl
  frame := rfl

/-- The state between two retirements. -/
structure RetiredOne (db mid : Sidecar) (event : InboxEvent)
    (wakeId : String) : Prop where
  others : ∀ k, k ≠ event.id → mid.events.get? k = db.events.get? k
  self : mid.events.get? event.id = some (event.quarantinedFor
    (if maxAttempts ≤ event.attemptCount then "attempts_exhausted"
      else "age_exhausted"))
  wakes : ∀ k, k ≠ wakeId ∨
    hasOtherDurableContinuationForWake db wakeId event.id = true →
    mid.wakes.get? k = db.wakes.get? k
  keys : mid.events.rows.map key = db.events.rows.map key
  frame : mid = { db with
    events := mid.events, wakes := mid.wakes, cycles := mid.cycles }

theorem wakeToTerminal_wakes_of_ne {reason : WakeTerminalReason}
    (hk : k ≠ wakeId) (hok : wakeToTerminal db wakeId reason nowMs = .ok after) :
    after.wakes.get? k = db.wakes.get? k := by
  obtain ⟨_, _, hok⟩ := of_bind hok
  split at hok
  · replace hok := passed hok
    cases of_pure hok
    rfl
  · cases of_pure hok
    exact Sidecar.get?_updateWake_of_ne hk

theorem quarantineEvent_wakes (howner : current.wakeId = some wakeId)
    (hnamed : wakeId ≠ "")
    (hok : quarantineEvent db current reason nowMs = .ok after)
    (hk : k ≠ wakeId ∨
      hasOtherDurableContinuationForWake db wakeId current.id = true) :
    after.wakes.get? k = db.wakes.get? k := by
  have hfilter : current.wakeId.filter (· ≠ "") = some wakeId := by
    simp [howner, hnamed]
  unfold quarantineEvent at hok
  simp only [hfilter, hasOtherDurableContinuationForWake_updateEvent] at hok
  split at hok
  · rename_i hlast
    obtain ⟨closed, hterminal, hok⟩ := of_bind hok
    have hwakes : after.wakes = closed.wakes := by
      rw [retireOwnerlessCycleForTerminalEvent_frame hok]
    rcases hk with hk | hother
    · rw [hwakes, wakeToTerminal_wakes_of_ne hk hterminal]
      rfl
    · exact absurd hother hlast.2
  · obtain ⟨_, hsame, hok⟩ := of_bind hok
    cases of_pure hsame
    rw [retireOwnerlessCycleForTerminalEvent_frame hok]
    rfl

theorem quarantineEvent_events
    (hok : quarantineEvent db current reason nowMs = .ok after) :
    after.events = (db.updateEvent current.id (fun _ => true)
      fun row => row.quarantinedFor reason).events := by
  rw [quarantineEvent_frame hok]

theorem quarantineBoundedEvent_retiredOne (hid : event.id ≠ "")
    (hnamed : wakeId ≠ "") (hevent : db.events.get? event.id = some event)
    (howner : event.wakeId = some wakeId)
    (hok : quarantineBoundedEvent nowMs db event.id = .ok after) :
    RetiredOne db after event wakeId := by
  unfold quarantineBoundedEvent at hok
  rw [if_neg hid, eventRow, hevent] at hok
  have hevents := quarantineEvent_events hok
  refine ⟨?_, ?_, fun k => quarantineEvent_wakes howner hnamed hok, ?_, ?_⟩
  · intro k hk
    rw [hevents, Sidecar.get?_updateEvent_of_ne hk]
  · rw [hevents, Sidecar.get?_updateEvent, hevent]
    simp
  · rw [hevents, Sidecar.keys_updateEvent]
  · rw [quarantineEvent_frame hok]
    rfl

/-- Retiring one event and then the rest retires them all. -/
theorem Retires.retire {mid : Sidecar} (hone : RetiredOne db mid event wakeId)
    (hevent : db.events.get? event.id = some event) (hfresh : event.id ∉ rest)
    (hrest : Retires mid after rest) : Retires db after (event.id :: rest) := by
  refine ⟨?_, ?_, hrest.keys.trans hone.keys, ?_⟩
  · intro k
    rw [hrest.events]
    by_cases hk : k = event.id
    · rw [hk, hone.self, hevent]
      simp [hfresh]
    · rw [hone.others k hk]
      simp [hk]
  · intro owner id row hrow howner hdurable hout
    obtain ⟨hne, hout⟩ := not_or.mp fun hor => hout (mem_cons.mpr hor)
    rw [hrest.kept owner id row (by rw [hone.others id hne]; exact hrow) howner
      hdurable hout]
    refine hone.wakes owner ?_
    by_cases hsame : owner = wakeId
    · rw [hsame] at howner
      exact .inr (hasOtherDurableContinuationForWake_iff.mpr
        ⟨id, row, hrow, howner, hne, hdurable⟩)
    · exact .inl hsame
  · rw [hrest.frame]
    rw [hone.frame]

/-- Retirement of one event neither makes nor resolves a conflict of the rest,
once it has not met one itself. -/
theorem RetiredOne.conflict_iff {wake : Wake} {mid : Sidecar}
    (hone : RetiredOne db mid event wakeId)
    (hevent : db.events.get? event.id = some event)
    (howner : event.wakeId = some wakeId)
    (hwake : db.wakes.get? wakeId = some wake)
    (hquiet : hasOtherDurableContinuationForWake db wakeId event.id = false →
      wake.state = .terminal → wake.terminalReason = some .quarantined)
    (hfresh : event.id ∉ rest)
    (hrest : ∀ k ∈ rest, ∃ row, db.events.get? k = some row ∧
      row.isDurableContinuation = true) (w : String) :
    RetirementConflict mid rest w ↔
      RetirementConflict db (event.id :: rest) w := by
  have hother : ∀ k ∈ rest, k ≠ event.id := fun k hk heq => hfresh (heq ▸ hk)
  constructor
  · rintro ⟨hended, ⟨k, hk, row, hrow, hrowOwner⟩, hall⟩
    rw [hone.others k (hother k hk)] at hrow
    have hstays : mid.wakes.get? w = db.wakes.get? w := by
      refine hone.wakes w ?_
      by_cases hw : w = wakeId
      · obtain ⟨_, hfound, hdurable⟩ := hrest k hk
        cases hrow.symm.trans hfound
        rw [hw] at hrowOwner
        exact .inr (hasOtherDurableContinuationForWake_iff.mpr
          ⟨k, row, hrow, hrowOwner, hother k hk, hdurable⟩)
      · exact .inl hw
    rw [hstays] at hended
    refine ⟨hended, ⟨k, mem_cons_of_mem _ hk, row, hrow, hrowOwner⟩, ?_⟩
    intro id found hfound hfoundOwner hdurable
    by_cases hid : id = event.id
    · rw [hid]
      exact mem_cons_self
    · exact mem_cons_of_mem _ (hall id found
        (by rw [hone.others id hid]; exact hfound) hfoundOwner hdurable)
  · rintro ⟨⟨ended, hended, hterminal, hreason⟩, ⟨k, hk, row, hrow, hrowOwner⟩,
      hall⟩
    have hleft : ∀ id found, mid.events.get? id = some found →
        found.wakeId = some w → found.isDurableContinuation = true →
        id ∈ rest := by
      intro id found hfound hfoundOwner hdurable
      by_cases hid : id = event.id
      · rw [hid, hone.self] at hfound
        cases hfound
        cases hdurable
      · rw [hone.others id hid] at hfound
        rcases mem_cons.mp (hall id found hfound hfoundOwner hdurable) with
          hsame | hmem
        · exact absurd hsame hid
        · exact hmem
    by_cases hw : w = wakeId
    · -- An ended wake is let be for another continuation, which is in `rest`.
      subst hw
      cases hwake.symm.trans hended
      cases hcontinued : hasOtherDurableContinuationForWake db w event.id with
      | false => exact absurd (hquiet hcontinued hterminal) hreason
      | true =>
        obtain ⟨id, found, hfound, hfoundOwner, hne, hdurable⟩ :=
          hasOtherDurableContinuationForWake_iff.mp hcontinued
        have hmem : id ∈ rest := hleft id found
          (by rw [hone.others id hne]; exact hfound) hfoundOwner hdurable
        refine ⟨⟨wake, ?_, hterminal, hreason⟩, ⟨id, hmem, found, ?_,
          hfoundOwner⟩, hleft⟩
        · rw [hone.wakes w (.inr hcontinued)]
          exact hwake
        · rw [hone.others id hne]
          exact hfound
    · have hne : k ≠ event.id := by
        rintro rfl
        cases hevent.symm.trans hrow
        exact hw (some.inj (hrowOwner.symm.trans howner))
      rcases mem_cons.mp hk with hsame | hmem
      · exact absurd hsame hne
      refine ⟨⟨ended, ?_, hterminal, hreason⟩, ⟨k, hmem, row, ?_, hrowOwner⟩,
        hleft⟩
      · rw [hone.wakes w (.inl hw)]
        exact hended
      · rw [hone.others k hne]
        exact hrow

/-- The retiring loop ends unless it meets a conflict, and retires its events. -/
theorem eachOf_quarantineBounded_retires [Host] {ids : List String}
    (hlinked : Linked db) (hnodup : ids.Nodup)
    (hids : ∀ k ∈ ids, k ≠ "" ∧ ∃ row, db.events.get? k = some row ∧
      row.isDurableContinuation = true) :
    ((∃ after, eachOf (quarantineBoundedEvent nowMs) db ids = .ok after) ↔
      ∀ w, ¬ RetirementConflict db ids w) ∧
    ∀ after, eachOf (quarantineBoundedEvent nowMs) db ids = .ok after →
      Retires db after ids := by
  induction ids generalizing db with
  | nil =>
    refine ⟨⟨?_, fun _ => ⟨db, rfl⟩⟩, ?_⟩
    · rintro _ w ⟨_, ⟨_, hmem, _⟩, _⟩
      cases hmem
    · intro after hok
      cases hok
      exact .refl
  | cons id rest ih =>
    obtain ⟨hfresh, hdistinct⟩ := nodup_cons.mp hnodup
    obtain ⟨hid, event, hevent, _⟩ := hids id mem_cons_self
    obtain rfl : event.id = id := key_of_get? hevent
    obtain ⟨_, wakeId, wake, howner, hwake, _⟩ :=
      hlinked.eventWake event.id event hevent
    have hnamed : wakeId ≠ "" := (hlinked.wakeCycle wakeId wake hwake).1
    have hstored : ∀ k ∈ rest, ∃ row, db.events.get? k = some row ∧
        row.isDurableContinuation = true := fun k hk =>
      (hids k (mem_cons_of_mem _ hk)).2
    have hhead : ∀ mid, quarantineBoundedEvent nowMs db event.id = .ok mid →
        RetiredOne db mid event wakeId ∧ Linked mid ∧
        ∀ k ∈ rest, k ≠ "" ∧ ∃ row, mid.events.get? k = some row ∧
          row.isDurableContinuation = true := by
      intro mid hmid
      have hone : RetiredOne db mid event wakeId :=
        quarantineBoundedEvent_retiredOne hid hnamed hevent howner hmid
      refine ⟨hone, ?_, ?_⟩
      · unfold quarantineBoundedEvent at hmid
        rw [if_neg hid, eventRow, hevent] at hmid
        have htrace : Trace .lenient db mid := quarantineEvent_trace hmid
        exact hlinked.trace htrace
      · intro k hk
        obtain ⟨hne, row, hrow, hdurable⟩ :=
          hids k (mem_cons_of_mem _ hk)
        refine ⟨hne, row, ?_, hdurable⟩
        rw [hone.others k fun heq => hfresh (heq ▸ hk)]
        exact hrow
    have hquiet : (∃ mid, quarantineBoundedEvent nowMs db event.id =
        .ok mid) ↔ (hasOtherDurableContinuationForWake db wakeId event.id =
          false → wake.state = .terminal →
          wake.terminalReason = some .quarantined) := by
      unfold quarantineBoundedEvent
      rw [if_neg hid, eventRow, hevent]
      exact quarantineEvent_ok_iff howner hnamed hwake
    refine ⟨⟨?_, ?_⟩, ?_⟩
    · rintro ⟨after, hok⟩ w hconflict
      obtain ⟨mid, hmid, htail⟩ := of_bind hok
      obtain ⟨hone, hlinked', hids'⟩ := hhead mid hmid
      exact (ih hlinked' hdistinct hids').1.mp ⟨after, htail⟩ w
        ((hone.conflict_iff hevent howner hwake (hquiet.mp ⟨mid, hmid⟩) hfresh
          hstored w).mpr hconflict)
    · intro hnone
      have hallowed : hasOtherDurableContinuationForWake db wakeId event.id =
          false → wake.state = .terminal →
          wake.terminalReason = some .quarantined := by
        intro hsole hterminal
        by_contra hreason
        refine hnone wakeId ⟨⟨wake, hwake, hterminal, hreason⟩,
          ⟨event.id, mem_cons_self, event, hevent, howner⟩, ?_⟩
        intro k row hrow hrowOwner hdurable
        by_cases hk : k = event.id
        · rw [hk]
          exact mem_cons_self
        · have hother := hasOtherDurableContinuationForWake_iff.mpr
            ⟨k, row, hrow, hrowOwner, hk, hdurable⟩
          rw [hsole] at hother
          cases hother
      obtain ⟨mid, hmid⟩ := hquiet.mpr hallowed
      obtain ⟨hone, hlinked', hids'⟩ := hhead mid hmid
      obtain ⟨after, htail⟩ := (ih hlinked' hdistinct hids').1.mpr
        fun w hconflict => hnone w ((hone.conflict_iff hevent howner hwake
          hallowed hfresh hstored w).mp hconflict)
      exact ⟨after, bind_ok.mpr ⟨mid, hmid, htail⟩⟩
    · intro after hok
      obtain ⟨mid, hmid, htail⟩ := of_bind hok
      obtain ⟨hone, hlinked', hids'⟩ := hhead mid hmid
      exact .retire hone hevent hfresh
        ((ih hlinked' hdistinct hids').2 after htail)

end Retirement

section Sweep

variable [Host] {db after mid : Sidecar} {nowMs : Int}
  {eventId : Option String}

/-- The wake is open and recovery takes an expired lease on it away. -/
def Wake.isReleased (wake : Wake) (db : Sidecar) (nowMs : Int)
    (eventId : Option String) : Bool :=
  wake.state ≠ .terminal && db.events.rows.any fun row =>
    row.expires nowMs eventId && row.wakeId = some wake.wakeId

/-- The row of a wake after recovery. -/
def Wake.recovered (wake : Wake) (db : Sidecar) (nowMs : Int)
    (eventId : Option String) : Wake :=
  if wake.isReleased db nowMs eventId then
    wake.unleased (if hasAmbiguousEffect db wake.wakeId then .reconciling
      else .pending) nowMs
  else wake

omit [Host] in
theorem Wake.isReleased_iff {wake : Wake} :
    wake.isReleased db nowMs eventId = true ↔ wake.state ≠ .terminal ∧
      ∃ id ∈ expiringIds db nowMs eventId, ∃ event,
        db.events.get? id = some event ∧ event.wakeId = some wake.wakeId := by
  simp only [Wake.isReleased, Bool.and_eq_true, decide_eq_true_eq,
    List.any_eq_true, mem_expiringIds]
  constructor
  · rintro ⟨hopen, row, hrow, hexpires, howner⟩
    have hstored : db.events.get? row.id = some row := get?_key hrow
    exact ⟨hopen, row.id, ⟨row, hstored, hexpires⟩, row, hstored, howner⟩
  · rintro ⟨hopen, _, ⟨row, hrow, hexpires⟩, _, hevent, howner⟩
    cases hrow.symm.trans hevent
    exact ⟨hopen, row, mem_of_get? hrow, hexpires, howner⟩

omit [Host] in
theorem Recovers.wake
    (hrecovers : Recovers db mid (expiringIds db nowMs eventId) nowMs)
    (k : String) : mid.wakes.get? k =
      (db.wakes.get? k).map fun wake => wake.recovered db nowMs eventId := by
  cases hwake : db.wakes.get? k with
  | none =>
    rw [hrecovers.kept k, hwake]
    · rfl
    · intro _ hsome
      rw [hwake] at hsome
      cases hsome
  | some wake =>
    have hid : wake.wakeId = k := key_of_get? hwake
    rw [map_some, Wake.recovered]
    cases hreleased : wake.isReleased db nowMs eventId with
    | true =>
      obtain ⟨hopen, id, hmem, event, hevent, howner⟩ :=
        Wake.isReleased_iff.mp hreleased
      rw [hid] at howner
      rw [hrecovers.released k wake hwake hopen id hmem event hevent howner,
        if_pos rfl, hid]
    | false =>
      rw [if_neg Bool.false_ne_true, hrecovers.kept k, hwake]
      intro _ hfound hopen id hmem event hevent howner
      cases hwake.symm.trans hfound
      rw [← hid] at howner
      have hclash := Wake.isReleased_iff.mpr
        ⟨hopen, id, hmem, event, hevent, howner⟩
      rw [hreleased] at hclash
      cases hclash

omit [Host] in
/-- Recovery ends no wake. -/
theorem Wake.recovered_terminal {wake : Wake} :
    (wake.recovered db nowMs eventId).state = .terminal ↔
      wake.state = .terminal := by
  unfold Wake.recovered
  split
  · rename_i hreleased
    constructor
    · intro hterminal
      split at hterminal <;> cases hterminal
    · exact fun hterminal =>
        absurd hterminal (Wake.isReleased_iff.mp hreleased).1
  · exact Iff.rfl

omit [Host] in
theorem Wake.recovered_of_terminal {wake : Wake}
    (hterminal : wake.state = .terminal) :
    wake.recovered db nowMs eventId = wake := by
  simp [Wake.recovered, Wake.isReleased, hterminal]

omit [Host] in
/-- Waking and recovering an event leave it a continuation if it was one. -/
theorem InboxEvent.awakened_durable {row : InboxEvent} :
    (row.awakened db nowMs eventId).isDurableContinuation =
      row.isDurableContinuation := by
  unfold awakened woken recovered
  by_cases hexpires : row.expires nowMs eventId = true
  · have hleased : row.state = .leased := by
      simp only [expires, leaseRanOut, Bool.and_eq_true, decide_eq_true_eq]
        at hexpires
      exact hexpires.1.1.1
    rw [if_pos hexpires, expired]
    split <;> split <;> simp [isDurableContinuation, hleased]
  · rw [if_neg hexpires]
    split
    · rename_i hwaiting
      simp only [Bool.and_eq_true, decide_eq_true_eq] at hwaiting
      simp [isDurableContinuation, hwaiting.1.1]
    · rfl

/-- The sweep would retire the last continuation of a wake that has already
ended otherwise. -/
def SweepConflict (db : Sidecar) (nowMs : Int) (eventId : Option String)
    (wakeId : String) : Prop :=
  (∃ wake, db.wakes.get? wakeId = some wake ∧ wake.state = .terminal ∧
    wake.terminalReason ≠ some .quarantined) ∧
  (∃ id event, db.events.get? id = some event ∧
    event.wakeId = some wakeId ∧
    (event.awakened db nowMs eventId).retires nowMs eventId = true) ∧
  ∀ id event, db.events.get? id = some event → event.wakeId = some wakeId →
    event.isDurableContinuation = true →
    (event.awakened db nowMs eventId).retires nowMs eventId = true

/-- What the sweep does: every event takes its swept row, and the wake of an
event that still continues is recovered. -/
structure Sweeps (db after : Sidecar) (nowMs : Int)
    (eventId : Option String) : Prop where
  events : after.events = sweptEvents db nowMs eventId
  wakes : ∀ id event wakeId, after.events.get? id = some event →
    event.isDurableContinuation = true → event.wakeId = some wakeId →
    after.wakes.get? wakeId =
      (db.wakes.get? wakeId).map fun wake => wake.recovered db nowMs eventId
  frame : after = { db with
    events := after.events, wakes := after.wakes, cycles := after.cycles }

/-- The events that the retiring loop visits. -/
def retiringIds (db : Sidecar) (nowMs : Int) (eventId : Option String) :
    List String :=
  (eventIdsWhere db fun row =>
    row.isBounded nowMs && row.inScope eventId).filter (· ≠ "")

omit [Host] in
theorem mem_retiringIds {id : String} : id ∈ retiringIds db nowMs eventId ↔
    ∃ event, db.events.get? id = some event ∧
      event.retires nowMs eventId = true :=
  mem_namedIds

omit [Host] in
theorem normalizeBoundedRows_eq :
    normalizeBoundedRows db nowMs eventId =
      eachOf (quarantineBoundedEvent nowMs) db
        (retiringIds db nowMs eventId) := by
  refine (eachOf_filter ?_ _ _).symm
  intro s id hskip
  have hempty : id = "" := by simpa using hskip
  rw [quarantineBoundedEvent, if_pos hempty]
  rfl

/-- The state between recovery and retirement. -/
structure Awakens (db awake : Sidecar) (nowMs : Int)
    (eventId : Option String) : Prop where
  sound : Sound awake
  events : ∀ k, awake.events.get? k =
    (db.events.get? k).map fun row => row.awakened db nowMs eventId
  wakes : ∀ k, awake.wakes.get? k =
    (db.wakes.get? k).map fun wake => wake.recovered db nowMs eventId
  keys : awake.events.rows.map key = db.events.rows.map key
  frame : awake = { db with events := awake.events, wakes := awake.wakes }

/-- Recovery always succeeds, and what is left of the sweep is retirement. -/
theorem sweepDurableWork_eq (hsound : Sound db) :
    ∃ awake, Awakens db awake nowMs eventId ∧
      sweepDurableWork db nowMs eventId =
        eachOf (quarantineBoundedEvent nowMs) awake
          (retiringIds awake nowMs eventId) := by
  obtain ⟨_, mid, hrecover, hrecovers, hmid⟩ :=
      @recoverExpiredDurableWorkInTransaction_recovers db nowMs eventId _ hsound
  refine ⟨normalizeEligibleRetryWait mid nowMs eventId, ⟨?_, ?_, ?_, ?_, ?_⟩,
    ?_⟩
  · have hmoved : Moved .lenient mid
        (normalizeEligibleRetryWait mid nowMs eventId) :=
      normalizeEligibleRetryWait_moved
    exact hmid.trace hmoved.trace
  · intro k
    rw [normalizeEligibleRetryWait, get?_update, hrecovers.row,
      Option.map_map]
    rfl
  · exact hrecovers.wake
  · rw [normalizeEligibleRetryWait, Table.keys_update, hrecovers.keys]
  · rw [normalizeEligibleRetryWait]
    rw [hrecovers.frame]
  · rw [sweepDurableWork, hrecover]
    exact normalizeBoundedRows_eq

theorem Awakens.conflict_iff {awake : Sidecar}
    (hawakens : Awakens db awake nowMs eventId) (w : String) :
    RetirementConflict awake (retiringIds awake nowMs eventId) w ↔
      SweepConflict db nowMs eventId w := by
  have hretiring : ∀ id event, db.events.get? id = some event →
      (id ∈ retiringIds awake nowMs eventId ↔
        (event.awakened db nowMs eventId).retires nowMs eventId = true) := by
    intro id event hevent
    rw [mem_retiringIds, hawakens.events, hevent]
    simp only [map_some, some.injEq, exists_eq_left']
  have hended : (∃ wake, awake.wakes.get? w = some wake ∧
      wake.state = .terminal ∧ wake.terminalReason ≠ some .quarantined) ↔
      ∃ wake, db.wakes.get? w = some wake ∧ wake.state = .terminal ∧
        wake.terminalReason ≠ some .quarantined := by
    rw [hawakens.wakes]
    constructor
    · rintro ⟨wake, hwake, hterminal, hreason⟩
      obtain ⟨old, hold, rfl⟩ := map_eq_some_iff.mp hwake
      have hclosed := Wake.recovered_terminal.mp hterminal
      rw [Wake.recovered_of_terminal hclosed] at hreason
      exact ⟨old, hold, hclosed, hreason⟩
    · rintro ⟨wake, hwake, hterminal, hreason⟩
      refine ⟨wake, ?_, hterminal, hreason⟩
      rw [hwake, map_some, Wake.recovered_of_terminal hterminal]
  have hkept : ∀ event : InboxEvent,
      (event.awakened db nowMs eventId).wakeId = event.wakeId := fun event =>
    (event.awakened_same db nowMs eventId).2.wakeId
  unfold RetirementConflict SweepConflict
  rw [hended]
  refine and_congr_right fun _ => and_congr ?_ ?_
  · constructor
    · rintro ⟨id, hmem, row, hrow, howner⟩
      rw [hawakens.events] at hrow
      obtain ⟨event, hevent, rfl⟩ := map_eq_some_iff.mp hrow
      exact ⟨id, event, hevent, (hkept event).symm.trans howner,
        (hretiring id event hevent).mp hmem⟩
    · rintro ⟨id, event, hevent, howner, hretires⟩
      refine ⟨id, (hretiring id event hevent).mpr hretires,
        event.awakened db nowMs eventId, ?_, (hkept event).trans howner⟩
      rw [hawakens.events, hevent, map_some]
  · constructor
    · intro hall id event hevent howner hdurable
      refine (hretiring id event hevent).mp (hall id
        (event.awakened db nowMs eventId) ?_ ((hkept event).trans howner) ?_)
      · rw [hawakens.events, hevent, map_some]
      · rw [InboxEvent.awakened_durable]
        exact hdurable
    · intro hall id row hrow howner hdurable
      rw [hawakens.events] at hrow
      obtain ⟨event, hevent, rfl⟩ := map_eq_some_iff.mp hrow
      rw [InboxEvent.awakened_durable] at hdurable
      exact (hretiring id event hevent).mpr
        (hall id event hevent ((hkept event).symm.trans howner) hdurable)

theorem Awakens.sweeps {awake : Sidecar}
    (hawakens : Awakens db awake nowMs eventId)
    (hretires : Retires awake after (retiringIds awake nowMs eventId)) :
    Sweeps db after nowMs eventId := by
  have hrow : ∀ k, after.events.get? k =
      (db.events.get? k).map fun row => row.swept db nowMs eventId := by
    intro k
    rw [hretires.events, hawakens.events]
    cases hevent : db.events.get? k with
    | none => rfl
    | some =>
      simp only [map_some, some.injEq, mem_retiringIds,
        hawakens.events, hevent, exists_eq_left', InboxEvent.swept,
        InboxEvent.retired]
  refine ⟨?_, ?_, ?_⟩
  · refine Table.ext_get? ?_ ?_
    · rw [hretires.keys, hawakens.keys, sweptEvents, Table.keys_update]
    · intro k
      rw [hrow, sweptEvents, get?_update]
      simp only [if_true]
  · intro id event wakeId hevent hdurable howner
    have hstored := hevent
    rw [hretires.events] at hstored
    obtain ⟨_, hawake, hstored⟩ := map_eq_some_iff.mp hstored
    by_cases hmem : id ∈ retiringIds awake nowMs eventId
    · rw [if_pos hmem] at hstored
      rw [← hstored] at hdurable
      cases hdurable
    · rw [if_neg hmem] at hstored
      rw [hstored] at hawake
      rw [hretires.kept wakeId id event hawake howner hdurable hmem,
        hawakens.wakes]
  · rw [hretires.frame]
    rw [hawakens.frame]

/-- The sweep faults exactly on a conflict, and otherwise gives every event its
swept row. -/
theorem sweepDurableWork_spec (hsound : Sound db) :
    ((∃ after, sweepDurableWork db nowMs eventId = .ok after) ↔
      ∀ w, ¬ SweepConflict db nowMs eventId w) ∧
    ∀ after, sweepDurableWork db nowMs eventId = .ok after →
      Sweeps db after nowMs eventId ∧ Sound after := by
  obtain ⟨awake, hawakens, heq⟩ :=
    @sweepDurableWork_eq _ db nowMs eventId hsound
  have hids : ∀ k ∈ retiringIds awake nowMs eventId, k ≠ "" ∧
      ∃ row, awake.events.get? k = some row ∧
        row.isDurableContinuation = true := by
    intro k hk
    obtain ⟨row, hrow, hretires⟩ := mem_retiringIds.mp hk
    have hid : row.id = k := key_of_get? hrow
    simp only [InboxEvent.retires, InboxEvent.isBounded, Bool.and_eq_true,
      decide_eq_true_eq] at hretires
    rw [hid] at hretires
    exact ⟨hretires.2, row, hrow, claimable_durable row hretires.1.1.1.2⟩
  obtain ⟨hok, hretires⟩ := @eachOf_quarantineBounded_retires awake nowMs _
    _ hawakens.sound.linked (nodup_eventIdsWhere.filter _) hids
  refine ⟨?_, ?_⟩
  · rw [heq]
    exact hok.trans (forall_congr' fun w =>
      not_congr (hawakens.conflict_iff w))
  · intro after hafter
    refine ⟨hawakens.sweeps (hretires after (heq ▸ hafter)), ?_⟩
    have htrace : Trace .lenient db after :=
      sweepDurableWork_trace hsound hafter fun hpromise => hpromise.elim
    exact hsound.trace htrace

end Sweep

end CognitiveSidecar
