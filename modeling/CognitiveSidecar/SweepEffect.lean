/-
The sweep before a claim, row by row: what it makes of every event, and what
the recovery of expired leases makes of the wakes.
-/
import CognitiveSidecar.ClaimMoves

namespace CognitiveSidecar

open Option List Relational

/-- Recovery takes the expired lease of this event away. -/
def InboxEvent.expires (row : InboxEvent) (nowMs : Int)
    (eventId : Option String) : Bool :=
  row.leaseRanOut nowMs && row.inScope eventId && row.id ≠ ""

/-- The row of an event whose expired lease is taken away. -/
def InboxEvent.expired (row : InboxEvent) (db : Sidecar) : InboxEvent :=
  if row.wakeId.any (hasAmbiguousEffect db) then
    row.fenced "recovered_after_possible_dispatch"
  else row.reclaimed

def InboxEvent.recovered (row : InboxEvent) (db : Sidecar) (nowMs : Int)
    (eventId : Option String) : InboxEvent :=
  if row.expires nowMs eventId then row.expired db else row

def InboxEvent.woken (row : InboxEvent) (nowMs : Int)
    (eventId : Option String) : InboxEvent :=
  if row.state = .retryWait && row.nextEligibleAtMs.any (· ≤ nowMs) &&
      row.inScope eventId then
    { row with state := .pending, status := .pending }
  else row

/-- The row of an event once recovery has run and waiting rows are awake. -/
def InboxEvent.awakened (row : InboxEvent) (db : Sidecar) (nowMs : Int)
    (eventId : Option String) : InboxEvent :=
  (row.recovered db nowMs eventId).woken nowMs eventId

/-- The sweep retires this event. -/
def InboxEvent.retires (row : InboxEvent) (nowMs : Int)
    (eventId : Option String) : Bool :=
  row.isBounded nowMs && row.inScope eventId && row.id ≠ ""

def InboxEvent.retired (row : InboxEvent) (nowMs : Int)
    (eventId : Option String) : InboxEvent :=
  if row.retires nowMs eventId then
    row.quarantinedFor (if maxAttempts ≤ row.attemptCount then
      "attempts_exhausted" else "age_exhausted")
  else row

/-- The row of an event after the sweep. -/
def InboxEvent.swept (row : InboxEvent) (db : Sidecar) (nowMs : Int)
    (eventId : Option String) : InboxEvent :=
  (row.awakened db nowMs eventId).retired nowMs eventId

/-- The sweep keeps the columns that no operation rewrites. -/
theorem InboxEvent.awakened_same (row : InboxEvent) (db : Sidecar)
    (nowMs : Int) (eventId : Option String) :
    (row.awakened db nowMs eventId).id = row.id ∧
      SameEvent row (row.awakened db nowMs eventId) := by
  unfold awakened woken recovered expired
  refine ⟨?_, ?_⟩
  · split <;> split <;> try split
    all_goals rfl
  · refine ⟨?_, ?_, ?_, ?_, ?_, ?_⟩ <;> split <;> split <;> try split
    all_goals rfl

theorem InboxEvent.swept_same (row : InboxEvent) (db : Sidecar)
    (nowMs : Int) (eventId : Option String) :
    (row.swept db nowMs eventId).id = row.id ∧
      SameEvent row (row.swept db nowMs eventId) := by
  obtain ⟨hid, hsame⟩ := row.awakened_same db nowMs eventId
  unfold swept retired
  split
  · exact ⟨hid, hsame.conversationId, hsame.kind, hsame.payload,
      hsame.createdAtMs, hsame.lane, hsame.wakeId⟩
  · exact ⟨hid, hsame⟩

/-- The inbox after the sweep. -/
def sweptEvents (db : Sidecar) (nowMs : Int) (eventId : Option String) :
    Table InboxEvent :=
  db.events.update (fun _ => true) (fun row => row.swept db nowMs eventId)
    fun row => (row.swept_same db nowMs eventId).1

section Rows

variable {row : InboxEvent} {db : Sidecar} {nowMs : Int}
  {eventId : Option String}

/-- A fenced or closed event is passed over. -/
theorem InboxEvent.swept_of_settled
    (hstate : row.state = .reconciling ∨ row.isClosed = true) :
    row.swept db nowMs eventId = row := by
  have hnot : row.state ≠ .leased ∧ row.state ≠ .retryWait ∧
      row.state ≠ .pending := by
    rcases hstate with hstate | hstate
    · simp [hstate]
    · rcases closed_iff.mp hstate with hstate | hstate <;> simp [hstate]
  simp [swept, retired, retires, isBounded, isClaimableContinuation, awakened,
    woken, recovered, expires, leaseRanOut, hnot]

/-- A pending event within its bounds is passed over. -/
theorem InboxEvent.swept_of_pending (hpending : row.state = .pending)
    (hbound : row.isBounded nowMs = false) :
    row.swept db nowMs eventId = row := by
  simp [swept, retired, retires, hbound, awakened, woken, recovered, expires,
    leaseRanOut, hpending]

/-- The sweep grants no lease. -/
theorem InboxEvent.leased_of_swept
    (hleased : (row.swept db nowMs eventId).state = .leased) :
    row.state = .leased := by
  unfold swept retired at hleased
  split at hleased
  · cases hleased
  · unfold awakened woken at hleased
    split at hleased
    · cases hleased
    · unfold recovered expired at hleased
      split at hleased
      · split at hleased <;> cases hleased
      · exact hleased

end Rows

section Recovery

variable {db after : Sidecar} {nowMs : Int} {eventId : Option String}
variable {id wakeId : String} {event : InboxEvent}

/-- What expiring the leases of `ids` does: their events take their expired
rows, and the open wakes they hold are released or fenced. -/
structure Recovers (db after : Sidecar) (ids : List String) (nowMs : Int) :
    Prop where
  events : ∀ k, after.events.get? k = (db.events.get? k).map fun row =>
    if k ∈ ids then row.expired db else row
  released : ∀ k wake, db.wakes.get? k = some wake → wake.state ≠ .terminal →
    ∀ id ∈ ids, ∀ event, db.events.get? id = some event →
    event.wakeId = some k → after.wakes.get? k = some (wake.unleased
      (if hasAmbiguousEffect db k then .reconciling else .pending) nowMs)
  kept : ∀ k, (∀ wake, db.wakes.get? k = some wake → wake.state ≠ .terminal →
    ∀ id ∈ ids, ∀ event, db.events.get? id = some event →
    event.wakeId ≠ some k) → after.wakes.get? k = db.wakes.get? k
  keys : after.events.rows.map key = db.events.rows.map key
  frame : after = { db with events := after.events, wakes := after.wakes }

theorem expireLease_self (hevent : db.events.get? id = some event)
    (hleased : event.state = .leased) (howner : event.wakeId = some wakeId) :
    (expireLease db nowMs id wakeId).events.get? id =
      some (event.expired db) := by
  unfold expireLease InboxEvent.expired
  rw [howner, any_some]
  split <;>
    simp [wakeToReconciling_events, wakeToPending_events,
      Sidecar.get?_updateEvent, hevent, hleased]

theorem expireLease_wake :
    (expireLease db nowMs id wakeId).wakes.get? wakeId =
      (db.wakes.get? wakeId).map fun wake =>
        if wake.state = .terminal then wake else wake.unleased
          (if hasAmbiguousEffect db wakeId then .reconciling else .pending)
          nowMs := by
  have hstored : ∀ f hkey, (db.updateEvent id (fun row => row.state = .leased)
      f hkey).wakes = db.wakes := fun _ _ => rfl
  unfold expireLease
  cases hambiguous : hasAmbiguousEffect db wakeId <;>
    simp [wakeToReconciling, wakeToPending, Sidecar.get?_updateWake, hstored,
      ite_not]

theorem expireLease_rest {id wakeId : String} :
    (expireLease db nowMs id wakeId).events.rows.map key =
        db.events.rows.map key ∧
      expireLease db nowMs id wakeId =
        { db with
          events := (expireLease db nowMs id wakeId).events
          wakes := (expireLease db nowMs id wakeId).wakes } := by
  unfold expireLease
  refine ⟨?_, ?_⟩
  · split
    · rw [wakeToReconciling_events, Sidecar.keys_updateEvent]
    · rw [wakeToPending_events, Sidecar.keys_updateEvent]
  · split <;> rfl

theorem Recovers.expire {rest : List String} (hfenced : Fenced db)
    (hids : ∀ k ∈ id :: rest, ∃ row, db.events.get? k = some row ∧
      row.state = .leased) (hfresh : id ∉ rest)
    (hevent : db.events.get? id = some event) (hleased : event.state = .leased)
    (howner : event.wakeId = some wakeId)
    (hrest : Recovers (expireLease db nowMs id wakeId) after rest nowMs) :
    Recovers db after (id :: rest) nowMs := by
  obtain ⟨hevents, hwakes, heffects⟩ := @expireLease_frame db nowMs id wakeId
  obtain ⟨hkeys, hframe⟩ := @expireLease_rest db nowMs id wakeId
  have hambiguous : ∀ k, hasAmbiguousEffect (expireLease db nowMs id wakeId) k =
      hasAmbiguousEffect db k := by
    intro k
    simp only [hasAmbiguousEffect, getUnresolvedInFlightForWake, heffects]
  have hexpired : ∀ row : InboxEvent,
      row.expired (expireLease db nowMs id wakeId) = row.expired db := by
    intro _
    simp only [InboxEvent.expired, funext hambiguous]
  -- The expired event is alone on its wake.
  have hsole : ∀ k ∈ rest, ∀ row, db.events.get? k = some row →
      row.wakeId ≠ some wakeId := by
    intro k hk _ hrow hrowOwner
    obtain ⟨_, hfound, hfoundLeased⟩ := hids k (mem_cons_of_mem _ hk)
    cases hrow.symm.trans hfound
    have hsame := noOtherBusy hfenced hevent
      (busy_iff.mpr (.inl hleased)) howner hrow hrowOwner
      (busy_iff.mpr (.inl hfoundLeased))
    exact hfresh (hsame ▸ hk)
  have hother : ∀ k ∈ rest, k ≠ id := fun k hk heq => hfresh (heq ▸ hk)
  have hstays : after.wakes.get? wakeId =
      (expireLease db nowMs id wakeId).wakes.get? wakeId := by
    refine hrest.kept wakeId ?_
    intro _ _ _ k hk row hrow
    rw [hevents k (hother k hk)] at hrow
    exact hsole k hk row hrow
  refine ⟨?_, ?_, ?_, hrest.keys.trans hkeys, ?_⟩
  · intro k
    rw [hrest.events]
    by_cases hk : k = id
    · subst hk
      rw [expireLease_self hevent hleased howner, hevent]
      simp [hfresh]
    · rw [hevents k hk]
      simp [hk, hexpired]
  · intro k wake hwake hopen k' hk' row hrow hrowOwner
    by_cases hk : k = wakeId
    · subst hk
      rw [hstays, expireLease_wake, hwake, map_some, if_neg hopen]
    · have hk'rest : k' ∈ rest := by
        rcases mem_cons.mp hk' with rfl | hmem
        · cases hevent.symm.trans hrow
          exact absurd (some.inj (hrowOwner.symm.trans howner)) hk
        · exact hmem
      have hmid := hrest.released k wake (by rw [hwakes k hk]; exact hwake)
        hopen k' hk'rest row (by rw [hevents k' (hother k' hk'rest)]; exact hrow)
        hrowOwner
      rw [hmid, hambiguous]
  · intro k hnone
    by_cases hk : k = wakeId
    · subst hk
      rw [hstays, expireLease_wake]
      cases hwake : db.wakes.get? k with
      | none => rfl
      | some wake =>
        rw [map_some]
        by_cases hterminal : wake.state = .terminal
        · rw [if_pos hterminal]
        · exact absurd howner (hnone wake hwake hterminal id
            mem_cons_self event hevent)
    · rw [hrest.kept k ?_, hwakes k hk]
      intro wake hwake hopen k' hk' row hrow
      rw [hwakes k hk] at hwake
      rw [hevents k' (hother k' hk')] at hrow
      exact hnone wake hwake hopen k' (mem_cons_of_mem _ hk') row hrow
  · rw [hrest.frame]
    rw [hframe]

theorem Recovers.refl : Recovers db db [] nowMs where
  events := fun k => by simp
  released := fun _ _ _ _ _ hid => by cases hid
  kept := fun _ _ => rfl
  keys := rfl
  frame := rfl

/-- The recovery loop never faults. -/
theorem eachOf_recoverExpired_recovers [Host] {ids : List String}
    {acc : DurableWorkRecoveryResult × Sidecar} (hsound : Sound acc.2)
    (hids : ∀ k ∈ ids, ∃ row, acc.2.events.get? k = some row ∧
      row.state = .leased)
    (hnamed : ∀ k ∈ ids, k ≠ "") (hnodup : ids.Nodup) :
    ∃ acc', eachOf (recoverExpiredEvent nowMs) acc ids = .ok acc' ∧
      Recovers acc.2 acc'.2 ids nowMs := by
  induction ids generalizing acc with
  | nil => exact ⟨acc, rfl, .refl⟩
  | cons id rest ih =>
    obtain ⟨hfresh, hnodup⟩ := nodup_cons.mp hnodup
    obtain ⟨result, db⟩ := acc
    obtain ⟨event, hevent, hleased⟩ := hids id mem_cons_self
    obtain ⟨_, wakeId, _, howner, _, _⟩ :=
      hsound.linked.eventWake id event hevent
    obtain ⟨result', heq⟩ := @recoverExpiredEvent_eq _ db nowMs result id
      wakeId event hsound (hnamed id mem_cons_self) hevent hleased howner
    have htrace : Trace .lenient db (expireLease db nowMs id wakeId) :=
      expireLease_trace hsound hevent hleased howner fun hpromise =>
        hpromise.elim
    have hrest : ∀ k ∈ rest, ∃ row,
        (expireLease db nowMs id wakeId).events.get? k = some row ∧
          row.state = .leased := by
      intro k hk
      obtain ⟨hevents, _, _⟩ := @expireLease_frame db nowMs id wakeId
      have hne : k ≠ id := fun hsame => hfresh (hsame ▸ hk)
      rw [hevents k hne]
      exact hids k (mem_cons_of_mem _ hk)
    obtain ⟨acc', hrun, hrecovers⟩ :=
      @ih (result', expireLease db nowMs id wakeId) (hsound.trace htrace)
        hrest (fun k hk => hnamed k (mem_cons_of_mem _ hk)) hnodup
    refine ⟨acc', ?_, .expire hsound.fenced hids hfresh hevent hleased howner
      hrecovers⟩
    rw [eachOf, heq, ok_bind, hrun]

/-- The identifiers of the expired leases in scope. -/
def expiringIds (db : Sidecar) (nowMs : Int) (eventId : Option String) :
    List String :=
  (eventIdsWhere db fun row =>
    row.leaseRanOut nowMs && row.inScope eventId).filter (· ≠ "")

theorem mem_namedIds {p : InboxEvent → Bool} :
    id ∈ (eventIdsWhere db p).filter (· ≠ "") ↔
      ∃ event, db.events.get? id = some event ∧
        (p event && event.id ≠ "") = true := by
  simp only [mem_filter, mem_eventIdsWhere, decide_not,
    Bool.not_eq_true', decide_eq_false_iff_not, Bool.and_eq_true]
  constructor
  · rintro ⟨⟨event, hevent, hp⟩, hne⟩
    have hid : event.id = id := key_of_get? hevent
    exact ⟨event, hevent, hp, by rw [hid]; exact hne⟩
  · rintro ⟨event, hevent, hp, hne⟩
    have hid : event.id = id := key_of_get? hevent
    exact ⟨⟨event, hevent, hp⟩, by rw [← hid]; exact hne⟩

theorem mem_expiringIds : id ∈ expiringIds db nowMs eventId ↔
    ∃ event, db.events.get? id = some event ∧
      event.expires nowMs eventId = true :=
  mem_namedIds

/-- Recovery always succeeds. -/
theorem recoverExpiredDurableWorkInTransaction_recovers [Host] (hsound : Sound db) :
    ∃ result mid,
      recoverExpiredDurableWorkInTransaction db nowMs eventId =
        .ok (result, mid) ∧
      Recovers db mid (expiringIds db nowMs eventId) nowMs ∧ Sound mid := by
  have hleased : ∀ k ∈ expiringIds db nowMs eventId, ∃ row,
      db.events.get? k = some row ∧ row.state = .leased := by
    intro k hk
    obtain ⟨event, hevent, hexpires⟩ := mem_expiringIds.mp hk
    simp only [InboxEvent.expires, InboxEvent.leaseRanOut, Bool.and_eq_true,
      decide_eq_true_eq] at hexpires
    exact ⟨event, hevent, hexpires.1.1.1⟩
  have hnamed : ∀ k ∈ expiringIds db nowMs eventId, k ≠ "" := by
    intro k hk
    simpa using (mem_filter.mp hk).2
  obtain ⟨⟨result, mid⟩, hrun, hrecovers⟩ :=
    @eachOf_recoverExpired_recovers nowMs _ _ ({}, db) hsound hleased hnamed
      (nodup_eventIdsWhere.filter _)
  have hok : recoverExpiredDurableWorkInTransaction db nowMs eventId =
      .ok (result, mid) := by
    rw [← hrun]
    refine (eachOf_filter ?_ _ _).symm
    intro _ id hskip
    have hempty : id = "" := by simpa using hskip
    simp only [recoverExpiredEvent, if_pos hempty]
    rfl
  have htrace : Trace .lenient db mid :=
    recoverExpiredDurableWorkInTransaction_trace hsound hok
      fun hpromise => hpromise.elim
  exact ⟨result, mid, hok, hrecovers, hsound.trace htrace⟩

theorem Recovers.row {mid : Sidecar}
    (hrecovers : Recovers db mid (expiringIds db nowMs eventId) nowMs)
    (k : String) : mid.events.get? k =
      (db.events.get? k).map fun row => row.recovered db nowMs eventId := by
  rw [hrecovers.events]
  cases hrow : db.events.get? k with
  | none => rfl
  | some =>
    simp only [map_some, some.injEq, InboxEvent.recovered,
      mem_expiringIds, hrow, exists_eq_left']

end Recovery

end CognitiveSidecar
