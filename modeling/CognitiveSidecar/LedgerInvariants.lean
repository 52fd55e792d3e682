/-
The invariants of the ledgers, each kept by every move: rows name each other
consistently, an unknown outcome fences its wake, the attempts of an event are
numbered without gaps, and identifiers come only from draws already made.
-/
import CognitiveSidecar.LedgerMoves

namespace CognitiveSidecar

variable {row : InboxEvent}

open Relational

/-- Wakes, cycles and events name each other consistently. -/
structure Linked (db : Sidecar) : Prop where
  wakeCycle : ∀ id wake, db.wakes.get? id = some wake →
    id ≠ "" ∧ ∃ cycle, db.cycles.get? wake.cycleId = some cycle ∧
      cycle.wakeId = some id ∧ cycle.conversationId = wake.conversationId
  cycleWake : ∀ id cycle, db.cycles.get? id = some cycle →
    ∃ wakeId wake, cycle.wakeId = some wakeId ∧
      db.wakes.get? wakeId = some wake ∧ wake.cycleId = id
  eventWake : ∀ id event, db.events.get? id = some event →
    event.lane = "interactive" ∧ ∃ wakeId wake, event.wakeId = some wakeId ∧
      db.wakes.get? wakeId = some wake ∧
      event.conversationId = wake.conversationId
  wellEnded : ∀ id wake, db.wakes.get? id = some wake → wake.WellEnded

/-- An unknown outcome fences its wake, and a wake has one busy event. -/
structure Fenced (db : Sidecar) : Prop where
  fenced : ∀ id event, db.events.get? id = some event →
    event.state = .reconciling → WakeIs db Wake.isFenced event.wakeId
  solo : ∀ id id' event event', db.events.get? id = some event →
    db.events.get? id' = some event' → event.wakeId = event'.wakeId →
    event.isBusy = true → event'.isBusy = true → id = id'

/-- Attempts are numbered `1..attemptCount`, and an open one is untouched. -/
structure Tallied (db : Sidecar) : Prop where
  counted : ∀ id attempt, db.attempts.get? id = some attempt →
    ∃ event, db.events.get? attempt.eventId = some event ∧
      1 ≤ attempt.ordinal ∧ attempt.ordinal ≤ event.attemptCount
  complete : ∀ id event, db.events.get? id = some event →
    ∀ ordinal, 1 ≤ ordinal → ordinal ≤ event.attemptCount →
      ∃ attemptId attempt, db.attempts.get? attemptId = some attempt ∧
        attempt.eventId = id ∧ attempt.ordinal = ordinal
  distinct : ∀ id id' attempt attempt', db.attempts.get? id = some attempt →
    db.attempts.get? id' = some attempt' →
    attempt.eventId = attempt'.eventId → attempt.ordinal = attempt'.ordinal →
    id = id'
  bounded : ∀ id event, db.events.get? id = some event →
    event.attemptCount ≤ maxAttempts
  started : ∀ id event, db.events.get? id = some event →
    (event.firstAttemptAtMs.isSome = true ↔ 0 < event.attemptCount)
  untouched : ∀ id attempt, db.attempts.get? id = some attempt →
    attempt.finishedAtMs = none → attempt.dispatchTruth = .notStarted ∧
      attempt.failureClass = none ∧ attempt.errorCode = none
  current : ∀ id event, db.events.get? id = some event →
    event.state = .leased → ∀ attemptId attempt,
      db.attempts.get? attemptId = some attempt → attempt.eventId = id →
      attempt.ordinal = event.attemptCount → attempt.finishedAtMs = none
  held : ∀ id event, db.events.get? id = some event →
    event.state = .leased → 0 < event.attemptCount

/-- Lease tokens and attempt identifiers come from draws already made. -/
structure Drawn [Host] (db : Sidecar) : Prop where
  token : ∀ id wake k, db.wakes.get? id = some wake → db.uuidsDrawn ≤ k →
    wake.leaseToken ≠ some ("wake-lease:" ++ Host.randomUUID k)
  attempt : ∀ id attempt k, db.attempts.get? id = some attempt →
    db.uuidsDrawn ≤ k → attempt.attemptId ≠ "attempt:" ++ Host.randomUUID k

/-- The invariant of every reachable state. -/
structure Sound [Host] (db : Sidecar) : Prop where
  linked : Linked db
  fenced : Fenced db
  tallied : Tallied db
  drawn : Drawn db

/-- No wake is terminal under an event that waits to be claimed. -/
def NoneStranded (db : Sidecar) : Prop :=
  ∀ id event, db.events.get? id = some event →
    event.isClaimableContinuation = true →
    WakeIs db (·.state ≠ .terminal) event.wakeId

/-- No wake is terminal under a busy event. -/
def NoneInterrupted (db : Sidecar) : Prop :=
  ∀ id event, db.events.get? id = some event → event.isBusy = true →
    WakeIs db (·.state ≠ .terminal) event.wakeId

theorem busy_iff :
    row.isBusy = true ↔ row.state = .leased ∨ row.state = .reconciling := by
  simp [InboxEvent.isBusy]

theorem claimable_iff :
    row.isClaimableContinuation = true ↔
      row.state = .pending ∨ row.state = .retryWait := by
  simp [InboxEvent.isClaimableContinuation]

theorem closed_iff :
    row.isClosed = true ↔ row.state = .terminal ∨ row.state = .quarantined := by
  simp [InboxEvent.isClosed]

theorem reconciling_iff :
    row.isReconciling = true ↔ row.state = .reconciling := by
  simp [InboxEvent.isReconciling]

theorem EventChange.busy {permit : Permit} {after : Sidecar}
    {old new : InboxEvent} (hchange : EventChange permit after old new)
    (hbusy : new.isBusy = true) : old.isBusy = true := by
  rw [busy_iff] at hbusy ⊢
  rcases hbusy with hleased | hreconciling
  · exact .inl (hchange.leased hleased)
  · rcases hchange.fenced hreconciling with hold | ⟨hold, _⟩
    · exact .inr hold
    · exact .inl hold

section Moves

variable [Host] {permit : Permit} {before after : Sidecar}

omit [Host] in
/-- A wake that an event names was there before another one was admitted. -/
theorem Linked.wake_kept {id wakeId : String} {event : InboxEvent}
    {wake row : Wake} (hlinked : Linked before)
    (hevent : before.events.get? id = some event)
    (howner : event.wakeId = some wakeId)
    (hwakes : before.wakes.insert? wake = some after.wakes)
    (hrow : after.wakes.get? wakeId = some row) :
    before.wakes.get? wakeId = some row := by
  obtain ⟨_, _, _, howner', hstored, _⟩ := hlinked.eventWake id event hevent
  cases howner'.symm.trans howner
  rw [get?_insert_of_some hwakes hstored] at hrow
  cases hrow
  exact hstored

omit [Host] in
/-- The rows behind a replacement: the new one, and the others. -/
theorem of_replaced {old new : InboxEvent} {id : String}
    (hevents : ∀ k, after.events.get? k =
      if k = old.id then some new else before.events.get? k)
    (hrow : after.events.get? id = some row) :
    (id = old.id ∧ row = new) ∨
      (id ≠ old.id ∧ before.events.get? id = some row) := by
  rw [hevents] at hrow
  split at hrow
  · rename_i hid
    cases hrow
    exact .inl ⟨hid, rfl⟩
  · rename_i hid
    exact .inr ⟨hid, hrow⟩

theorem Linked.moved (hmoved : Moved permit before after)
    (hlinked : Linked before) : Linked after := by
  cases hmoved with
  | shift hdrawn hwakes hevents hattempts hcycles =>
    refine ⟨?_, ?_, ?_, ?_⟩
    · intro id wake' hwake'
      obtain ⟨wake, hwake, hchange⟩ := hwakes.backward hwake'
      obtain ⟨hid, cycle, hcycle, howner, hconv⟩ :=
        hlinked.wakeCycle id wake hwake
      obtain ⟨cycle', hcycle', hkeep⟩ := hcycles.forward hcycle
      refine ⟨hid, cycle', ?_, ?_, ?_⟩
      · rw [hchange.cycleId]
        exact hcycle'
      · rw [hkeep.wakeId, howner]
      · rw [hkeep.conversationId, hconv, hchange.conversationId]
    · intro id cycle' hcycle'
      obtain ⟨cycle, hcycle, hkeep⟩ := hcycles.backward hcycle'
      obtain ⟨wakeId, wake, howner, hwake, hid⟩ :=
        hlinked.cycleWake id cycle hcycle
      obtain ⟨wake', hwake', hchange⟩ := hwakes.forward hwake
      refine ⟨wakeId, wake', ?_, hwake', ?_⟩
      · rw [hkeep.wakeId, howner]
      · rw [hchange.cycleId, hid]
    · intro id event' hevent'
      obtain ⟨event, hevent, hkeep⟩ := hevents.backward hevent'
      obtain ⟨hlane, wakeId, wake, howner, hwake, hconv⟩ :=
        hlinked.eventWake id event hevent
      obtain ⟨wake', hwake', hchange⟩ := hwakes.forward hwake
      refine ⟨hkeep.same.lane.trans hlane, wakeId, wake', ?_, hwake', ?_⟩
      · rw [hkeep.same.wakeId, howner]
      · rw [hkeep.same.conversationId, hconv, hchange.conversationId]
    · intro id wake' hwake'
      obtain ⟨wake, hwake, hchange⟩ := hwakes.backward hwake'
      exact hchange.ended (hlinked.wellEnded id wake hwake)
  | admission wake cycle hdrawn hadmits hpermitted hwakes hcycles hevents hattempts =>
    have hwakeAt : after.wakes.get? wake.wakeId = some wake := by
      rw [get?_insert hwakes]
      exact if_pos rfl
    have hcycleAt : after.cycles.get? wake.cycleId = some cycle := by
      rw [get?_insert hcycles]
      exact if_pos hadmits.cycleId.symm
    have holdWake : ∀ id row, before.wakes.get? id = some row →
        after.wakes.get? id = some row := fun id row hrow =>
      get?_insert_of_some hwakes hrow
    have holdCycle : ∀ id row, before.cycles.get? id = some row →
        after.cycles.get? id = some row := fun id row hrow =>
      get?_insert_of_some hcycles hrow
    refine ⟨?_, ?_, ?_, ?_⟩
    · intro id row hrow
      rcases of_get?_insert hwakes hrow with ⟨rfl, rfl⟩ | ⟨_, hrow⟩
      · exact ⟨hadmits.named, cycle, hcycleAt, hadmits.wakeId,
          hadmits.conversationId⟩
      · obtain ⟨hne, found, hfound, howner, hconv⟩ :=
          hlinked.wakeCycle id row hrow
        exact ⟨hne, found, holdCycle _ _ hfound, howner, hconv⟩
    · intro id row hrow
      rcases of_get?_insert hcycles hrow with ⟨rfl, rfl⟩ | ⟨_, hrow⟩
      · exact ⟨wake.wakeId, wake, hadmits.wakeId, hwakeAt,
          hadmits.cycleId.symm⟩
      · obtain ⟨wakeId, found, howner, hfound, hback⟩ :=
          hlinked.cycleWake id row hrow
        exact ⟨wakeId, found, howner, holdWake _ _ hfound, hback⟩
    · intro id event hevent
      rw [hevents] at hevent
      obtain ⟨hlane, wakeId, found, howner, hfound, hconv⟩ :=
        hlinked.eventWake id event hevent
      exact ⟨hlane, wakeId, found, howner, holdWake _ _ hfound, hconv⟩
    · intro id row hrow
      rcases of_get?_insert hwakes hrow with ⟨_, rfl⟩ | ⟨_, hrow⟩
      · simp [Wake.WellEnded, hadmits.pending, hadmits.unended]
      · exact hlinked.wellEnded id row hrow
  | append event wake hdrawn happends hevents hwakes hattempts hcycles =>
    refine ⟨?_, ?_, ?_, ?_⟩
    · rw [hwakes, hcycles]
      exact hlinked.wakeCycle
    · rw [hwakes, hcycles]
      exact hlinked.cycleWake
    · intro id row hrow
      rw [hwakes]
      rcases of_get?_insert hevents hrow with ⟨_, rfl⟩ | ⟨_, hrow⟩
      · exact ⟨happends.lane, wake.wakeId, wake, happends.wakeId,
          happends.stored, happends.conversationId⟩
      · exact hlinked.eventWake id row hrow
    · rw [hwakes]
      exact hlinked.wellEnded
  | lease old new attempt hdrawn hleases hevents hattempts hfresh hwakes
      hcycles =>
    refine ⟨?_, ?_, ?_, ?_⟩
    · rw [hwakes, hcycles]
      exact hlinked.wakeCycle
    · rw [hwakes, hcycles]
      exact hlinked.cycleWake
    · intro id row hrow
      rw [hwakes]
      rcases of_replaced hevents hrow with ⟨_, rfl⟩ | ⟨_, hrow⟩
      · obtain ⟨hlane, wakeId, wake, howner, hwake, hconv⟩ :=
          hlinked.eventWake old.id old hleases.stored
        refine ⟨hleases.same.lane.trans hlane, wakeId, wake, ?_, hwake, ?_⟩
        · rw [hleases.same.wakeId, howner]
        · rw [hleases.same.conversationId, hconv]
      · exact hlinked.eventWake id row hrow
    · rw [hwakes]
      exact hlinked.wellEnded

theorem Fenced.moved (hmoved : Moved permit before after)
    (hlinked : Linked before) (hfenced : Fenced before) : Fenced after := by
  cases hmoved with
  | shift _ hwakes hevents =>
    refine ⟨?_, ?_⟩
    · intro id event' hevent' hstate wakeId wake' howner hwake'
      obtain ⟨event, hevent, hkeep⟩ := hevents.backward hevent'
      obtain ⟨wake, hwake, hchange⟩ := hwakes.backward hwake'
      have hold : event.wakeId = some wakeId := by
        rw [← hkeep.same.wakeId, howner]
      rcases hkeep.fenced hstate with hsame | ⟨_, hnow⟩
      · rcases hfenced.fenced id event hevent hsame wakeId wake hold hwake with
          hrec | hterm
        · rcases hchange.reopened hrec with hstill | hnone
          · exact hstill
          · have hid : wake.wakeId = wakeId := key_of_get? hwake
            have hclash := hnone id event' hevent' (by rw [howner, hid])
            rw [reconciling_iff.mpr hstate] at hclash
            cases hclash
        · rw [hchange.terminal hterm]
          exact .inr hterm
      · exact hnow wakeId wake' hold hwake'
    · intro id id' _ _ hfirst hsecond hsame hbusy hbusy'
      obtain ⟨event, hevent, hkeep⟩ := hevents.backward hfirst
      obtain ⟨event', hevent', hkeep'⟩ := hevents.backward hsecond
      apply hfenced.solo id id' event event' hevent hevent' _
        (hkeep.busy hbusy) (hkeep'.busy hbusy')
      rw [← hkeep.same.wakeId, ← hkeep'.same.wakeId, hsame]
  | admission _ _ _ _ _ hwakes _ hevents =>
    refine ⟨?_, ?_⟩
    · intro id event hevent hstate wakeId row howner hrow
      rw [hevents] at hevent
      exact hfenced.fenced id event hevent hstate wakeId row howner
        (hlinked.wake_kept hevent howner hwakes hrow)
    · rw [hevents]
      exact hfenced.solo
  | append event _ _ happends hevents hwakes =>
    have hidle : event.isBusy = false := by
      rcases happends.state with hstate | hstate <;>
        simp [InboxEvent.isBusy, hstate]
    have hback : ∀ id row, after.events.get? id = some row →
        row.isBusy = true → before.events.get? id = some row := by
      intro _ _ hrow hbusy
      rcases of_get?_insert hevents hrow with ⟨_, rfl⟩ | ⟨_, hrow⟩
      · rw [hidle] at hbusy
        cases hbusy
      · exact hrow
    refine ⟨?_, ?_⟩
    · intro id row hrow hstate
      have hold := hback id row hrow (busy_iff.mpr (.inr hstate))
      unfold WakeIs
      rw [hwakes]
      exact hfenced.fenced id row hold hstate
    · intro id id' row row' hrow hrow' hsame hbusy hbusy'
      exact hfenced.solo id id' row row' (hback id row hrow hbusy)
        (hback id' row' hrow' hbusy') hsame hbusy hbusy'
  | lease old new _ _ hleases hevents _ _ hwakes =>
    refine ⟨?_, ?_⟩
    · intro id row hrow hstate
      unfold WakeIs
      rw [hwakes]
      rcases of_replaced hevents hrow with ⟨_, rfl⟩ | ⟨_, hrow⟩
      · rw [hleases.leased] at hstate
        cases hstate
      · exact hfenced.fenced id row hrow hstate
    · have hsole : ∀ id row, before.events.get? id = some row →
          row.wakeId = new.wakeId → row.isBusy = true → False := by
        intro id row hrow hsame hbusy
        obtain ⟨_, wakeId, _, howner, _, _⟩ :=
          hlinked.eventWake old.id old hleases.stored
        have hclash := hleases.solo wakeId howner id row hrow
          (by rw [hsame, hleases.same.wakeId, howner])
        rw [hbusy] at hclash
        cases hclash
      intro id id' row row' hrow hrow' hsame hbusy hbusy'
      rcases of_replaced hevents hrow with ⟨hid, rfl⟩ | ⟨_, hrow⟩ <;>
        rcases of_replaced hevents hrow' with ⟨hid', rfl⟩ | ⟨_, hrow'⟩
      · rw [hid, hid']
      · exact (hsole id' row' hrow' hsame.symm hbusy').elim
      · exact (hsole id row hrow hsame hbusy).elim
      · exact hfenced.solo id id' row row' hrow hrow' hsame hbusy hbusy'

theorem Tallied.moved (hmoved : Moved permit before after)
    (htallied : Tallied before) : Tallied after := by
  cases hmoved with
  | shift _ _ hevents hattempts =>
    refine ⟨?_, ?_, ?_, ?_, ?_, ?_, ?_, ?_⟩
    · intro id _ hattempt'
      obtain ⟨attempt, hattempt, hkeep⟩ := hattempts.backward hattempt'
      obtain ⟨_, hevent, hlow, hhigh⟩ := htallied.counted id attempt hattempt
      obtain ⟨event', hevent', hchange⟩ := hevents.forward hevent
      refine ⟨event', ?_, ?_, ?_⟩
      · rw [hkeep.eventId]
        exact hevent'
      · rw [hkeep.ordinal]
        exact hlow
      · rw [hkeep.ordinal, hchange.attemptCount]
        exact hhigh
    · intro id _ hevent' ordinal hlow hhigh
      obtain ⟨event, hevent, hchange⟩ := hevents.backward hevent'
      rw [hchange.attemptCount] at hhigh
      obtain ⟨attemptId, _, hattempt, howner, hordinal⟩ :=
          htallied.complete id event hevent ordinal hlow hhigh
      obtain ⟨attempt', hattempt', hkeep⟩ := hattempts.forward hattempt
      exact ⟨attemptId, attempt', hattempt', hkeep.eventId.trans howner,
        hkeep.ordinal.trans hordinal⟩
    · intro id id' _ _ hfirst hsecond hevent hordinal
      obtain ⟨attempt, hattempt, hkeep⟩ := hattempts.backward hfirst
      obtain ⟨attempt', hattempt', hkeep'⟩ := hattempts.backward hsecond
      apply htallied.distinct id id' attempt attempt' hattempt hattempt'
      · rw [← hkeep.eventId, ← hkeep'.eventId, hevent]
      · rw [← hkeep.ordinal, ← hkeep'.ordinal, hordinal]
    · intro id _ hevent'
      obtain ⟨event, hevent, hchange⟩ := hevents.backward hevent'
      rw [hchange.attemptCount]
      exact htallied.bounded id event hevent
    · intro id _ hevent'
      obtain ⟨event, hevent, hchange⟩ := hevents.backward hevent'
      rw [hchange.attemptCount, hchange.firstAttemptAtMs]
      exact htallied.started id event hevent
    · intro id _ hattempt' hopen
      obtain ⟨attempt, hattempt, hkeep⟩ := hattempts.backward hattempt'
      have hold : attempt.finishedAtMs = none := by
        cases hfinished : attempt.finishedAtMs with
        | none => rfl
        | some =>
          have hstays := (hkeep.stays (by rw [hfinished]; rfl)).1
          rw [hopen, hfinished] at hstays
          cases hstays
      rcases hkeep.settled hold with hsame | ⟨hdone, _⟩
      · rw [hsame]
        exact htallied.untouched id attempt hattempt hold
      · rw [hopen] at hdone
        cases hdone
    · intro id event' hevent' hleased attemptId _ hattempt' howner
        hordinal
      obtain ⟨event, hevent, hchange⟩ := hevents.backward hevent'
      obtain ⟨attempt, hattempt, hkeep⟩ := hattempts.backward hattempt'
      have hold := htallied.current id event hevent (hchange.leased hleased)
        attemptId attempt hattempt (hkeep.eventId.symm.trans howner)
        (by rw [← hkeep.ordinal, hordinal, hchange.attemptCount])
      rcases hkeep.settled hold with hsame | ⟨_, hnot⟩
      · rw [hsame]
        exact hold
      · have hid : attempt.eventId = id := hkeep.eventId.symm.trans howner
        exact absurd hleased (hnot event' (by rw [hid]; exact hevent'))
    · intro id _ hevent' hleased
      obtain ⟨event, hevent, hchange⟩ := hevents.backward hevent'
      rw [hchange.attemptCount]
      exact htallied.held id event hevent (hchange.leased hleased)
  | admission _ _ _ _ _ _ _ hevents hattempts =>
    refine ⟨?_, ?_, ?_, ?_, ?_, ?_, ?_, ?_⟩ <;>
      simp only [hevents, hattempts]
    · exact htallied.counted
    · exact htallied.complete
    · exact htallied.distinct
    · exact htallied.bounded
    · exact htallied.started
    · exact htallied.untouched
    · exact htallied.current
    · exact htallied.held
  | append event _ _ happends hevents _ hattempts =>
    have hcases : ∀ id row, after.events.get? id = some row →
        row = event ∨ before.events.get? id = some row := by
      intro _ _ hrow
      rcases of_get?_insert hevents hrow with ⟨_, rfl⟩ | ⟨_, hrow⟩
      · exact .inl rfl
      · exact .inr hrow
    have hnotLeased : event.state ≠ .leased := by
      intro hleased
      rcases happends.state with hstate | hstate <;>
        rw [hleased] at hstate <;> cases hstate
    refine ⟨?_, ?_, ?_, ?_, ?_, ?_, ?_, ?_⟩
    · intro id attempt hattempt
      rw [hattempts] at hattempt
      obtain ⟨row, hrow, hlow, hhigh⟩ := htallied.counted id attempt hattempt
      exact ⟨row, get?_insert_of_some hevents hrow, hlow, hhigh⟩
    · intro id row hrow ordinal hlow hhigh
      rw [hattempts]
      rcases hcases id row hrow with rfl | hold
      · have hzero := happends.attemptCount
        omega
      · exact htallied.complete id row hold ordinal hlow hhigh
    · rw [hattempts]
      exact htallied.distinct
    · intro id row hrow
      rcases hcases id row hrow with rfl | hold
      · rw [happends.attemptCount]
        exact Nat.zero_le _
      · exact htallied.bounded id row hold
    · intro id row hrow
      rcases hcases id row hrow with rfl | hold
      · simp [happends.attemptCount, happends.firstAttemptAtMs]
      · exact htallied.started id row hold
    · rw [hattempts]
      exact htallied.untouched
    · intro id row hrow hleased
      rw [hattempts]
      rcases hcases id row hrow with rfl | hold
      · exact absurd hleased hnotLeased
      · exact htallied.current id row hold hleased
    · intro id row hrow hleased
      rcases hcases id row hrow with rfl | hold
      · exact absurd hleased hnotLeased
      · exact htallied.held id row hold hleased
  | lease old new attempt _ hleases hevents hattempts =>
    have hnew : after.events.get? old.id = some new := by
      rw [hevents, if_pos rfl]
    have hother : ∀ id row, after.events.get? id = some row →
        (id = old.id ∧ row = new) ∨ (id ≠ old.id ∧
          before.events.get? id = some row) :=
      fun _ _ hrow => of_replaced hevents hrow
    have hrows : ∀ id row, after.attempts.get? id = some row →
        row = attempt ∧ id = key attempt ∨
          before.attempts.get? id = some row := by
      intro _ _ hrow
      rcases of_get?_insert hattempts hrow with ⟨hid, rfl⟩ | ⟨_, hrow⟩
      · exact .inl ⟨rfl, hid⟩
      · exact .inr hrow
    have hattemptAt : after.attempts.get? (key attempt) = some attempt := by
      rw [get?_insert hattempts, if_pos rfl]
    -- The attempts recorded before end below the new ordinal.
    have hbelow : ∀ id row, before.attempts.get? id = some row →
        row.eventId = old.id → row.ordinal ≤ old.attemptCount := by
      intro id row hrow howner
      obtain ⟨_, hevent, _, hhigh⟩ := htallied.counted id row hrow
      rw [howner, hleases.stored] at hevent
      cases hevent
      exact hhigh
    have hcount := hleases.attemptCount
    have hordinal := hleases.ordinal
    refine ⟨?_, ?_, ?_, ?_, ?_, ?_, ?_, ?_⟩
    · intro id row hrow
      rcases hrows id row hrow with ⟨rfl, _⟩ | hold
      · rw [hleases.eventId]
        exact ⟨new, hnew, by omega, by omega⟩
      · obtain ⟨event, hevent, hlow, hhigh⟩ := htallied.counted id row hold
        by_cases hid : row.eventId = old.id
        · have hle := hbelow id row hold hid
          exact ⟨new, by rw [hid]; exact hnew, hlow, by omega⟩
        · exact ⟨event, by rw [hevents, if_neg hid]; exact hevent, hlow,
            hhigh⟩
    · intro id row hrow ordinal hlow hhigh
      rcases hother id row hrow with ⟨rfl, rfl⟩ | ⟨_, hold⟩
      · by_cases hlast : ordinal = old.attemptCount + 1
        · exact ⟨key attempt, attempt, hattemptAt, hleases.eventId, by omega⟩
        · obtain ⟨attemptId, found, hfound, howner, hnumber⟩ :=
            htallied.complete old.id old hleases.stored ordinal hlow
              (by omega)
          exact ⟨attemptId, found,
            get?_insert_of_some hattempts hfound, howner, hnumber⟩
      · obtain ⟨attemptId, found, hfound, howner, hnumber⟩ :=
          htallied.complete id row hold ordinal hlow hhigh
        exact ⟨attemptId, found,
          get?_insert_of_some hattempts hfound, howner, hnumber⟩
    · intro id id' row row' hrow hrow' hevent hnumber
      rcases hrows id row hrow with ⟨rfl, hid⟩ | hold
      · rcases hrows id' row' hrow' with ⟨rfl, hid'⟩ | hold'
        · rw [hid, hid']
        · have hle := hbelow id' row' hold'
            (hevent.symm.trans hleases.eventId)
          omega
      · rcases hrows id' row' hrow' with ⟨rfl, _⟩ | hold'
        · have hle := hbelow id row hold (hevent.trans hleases.eventId)
          omega
        · exact htallied.distinct id id' row row' hold hold' hevent hnumber
    · intro id row hrow
      rcases hother id row hrow with ⟨rfl, rfl⟩ | ⟨_, hold⟩
      · have hbound := hleases.bounded
        omega
      · exact htallied.bounded id row hold
    · intro id row hrow
      rcases hother id row hrow with ⟨rfl, rfl⟩ | ⟨_, hold⟩
      · rw [hleases.firstAttemptAtMs, hcount]
        simp
      · exact htallied.started id row hold
    · intro id row hrow hopen
      rcases hrows id row hrow with ⟨rfl, _⟩ | hold
      · exact hleases.untouched
      · exact htallied.untouched id row hold hopen
    · intro id row hrow hleased attemptId found hfound howner hnumber
      rcases hrows attemptId found hfound with ⟨rfl, _⟩ | hbefore
      · exact hleases.opened
      · rcases hother id row hrow with ⟨rfl, rfl⟩ | ⟨_, hold⟩
        · have hle := hbelow attemptId found hbefore howner
          omega
        · exact htallied.current id row hold hleased attemptId found hbefore
            howner hnumber
    · intro id row hrow hleased
      rcases hother id row hrow with ⟨rfl, rfl⟩ | ⟨_, hold⟩
      · omega
      · exact htallied.held id row hold hleased

theorem Drawn.moved (hmoved : Moved permit before after)
    (hdrawnBefore : Drawn before) : Drawn after := by
  cases hmoved with
  | shift hdrawn hwakes _ hattempts =>
    refine ⟨?_, ?_⟩
    · intro id _ k hwake' hk htoken
      obtain ⟨wake, hwake, hchange⟩ := hwakes.backward hwake'
      have hold := hchange.token k hk htoken
      exact hdrawnBefore.token id wake k hwake (le_trans hdrawn hk)
        (hold.trans htoken)
    · intro id attempt' k hattempt' hk
      obtain ⟨attempt, hattempt, _⟩ := hattempts.backward hattempt'
      have hsame : attempt'.attemptId = attempt.attemptId :=
        (key_of_get? hattempt').trans (key_of_get? hattempt).symm
      rw [hsame]
      exact hdrawnBefore.attempt id attempt k hattempt (le_trans hdrawn hk)
  | admission _ _ hdrawn hadmits _ hwakes _ _ hattempts =>
    refine ⟨?_, ?_⟩
    · intro id row k hrow hk
      rcases of_get?_insert hwakes hrow with ⟨_, rfl⟩ | ⟨_, hrow⟩
      · simp [hadmits.unleased]
      · exact hdrawnBefore.token id row k hrow (le_trans hdrawn hk)
    · intro id attempt k hattempt hk
      rw [hattempts] at hattempt
      exact hdrawnBefore.attempt id attempt k hattempt (le_trans hdrawn hk)
  | append _ _ hdrawn _ _ hwakes hattempts =>
    refine ⟨?_, ?_⟩
    · intro id row k hrow hk
      rw [hwakes] at hrow
      exact hdrawnBefore.token id row k hrow (le_trans hdrawn hk)
    · intro id attempt k hattempt hk
      rw [hattempts] at hattempt
      exact hdrawnBefore.attempt id attempt k hattempt (le_trans hdrawn hk)
  | lease _ _ _ hdrawn _ _ hattempts hfresh hwakes =>
    refine ⟨?_, ?_⟩
    · intro id row k hrow hk
      rw [hwakes] at hrow
      exact hdrawnBefore.token id row k hrow (le_trans hdrawn hk)
    · intro id row k hrow hk
      rcases of_get?_insert hattempts hrow with ⟨_, rfl⟩ | ⟨_, hrow⟩
      · exact hfresh k hk
      · exact hdrawnBefore.attempt id row k hrow (le_trans hdrawn hk)

theorem NoneStranded.moved (hmoved : Moved permit before after)
    (htidy : permit.tidy) (hlinked : Linked before)
    (hnone : NoneStranded before) : NoneStranded after := by
  cases hmoved with
  | shift _ hwakes hevents =>
    intro id event' hevent' hclaimable wakeId wake' howner hwake'
    obtain ⟨event, hevent, hkeep⟩ := hevents.backward hevent'
    obtain ⟨wake, hwake, hchange⟩ := hwakes.backward hwake'
    have hold : event.wakeId = some wakeId := by
      rw [← hkeep.same.wakeId, howner]
    rcases hkeep.tidy htidy hclaimable with hbefore | hnow
    · intro hterminal
      rcases hchange.tidy htidy hterminal with hended | hnoevent
      · exact hnone id event hevent hbefore wakeId wake hold hwake hended
      · have hid : wake.wakeId = wakeId := key_of_get? hwake
        have hclash := hnoevent id event' hevent' (by rw [howner, hid])
        rw [hclaimable] at hclash
        cases hclash
    · exact hnow wakeId wake' hold hwake'
  | admission _ _ _ _ _ hwakes _ hevents =>
    intro id event hevent hclaimable wakeId row howner hrow
    rw [hevents] at hevent
    exact hnone id event hevent hclaimable wakeId row howner
      (hlinked.wake_kept hevent howner hwakes hrow)
  | append _ _ _ happends hevents hwakes =>
    intro id row hrow hclaimable wakeId stored howner hstored
    rw [hwakes] at hstored
    rcases of_get?_insert hevents hrow with ⟨_, rfl⟩ | ⟨_, hrow⟩
    · have hpending : row.state = .pending := by
        rcases happends.state with hstate | hstate
        · exact hstate
        · rw [claimable_iff, hstate] at hclaimable
          simp at hclaimable
      rw [happends.wakeId] at howner
      cases howner
      rw [happends.stored] at hstored
      cases hstored
      exact happends.tidy htidy hpending
    · exact hnone id row hrow hclaimable wakeId stored howner hstored
  | lease _ _ _ _ hleases hevents _ _ hwakes =>
    intro id row hrow hclaimable wakeId stored howner hstored
    rw [hwakes] at hstored
    rcases of_replaced hevents hrow with ⟨_, rfl⟩ | ⟨_, hrow⟩
    · rw [claimable_iff, hleases.leased] at hclaimable
      simp at hclaimable
    · exact hnone id row hrow hclaimable wakeId stored howner hstored

theorem NoneInterrupted.moved (hmoved : Moved permit before after)
    (horderly : permit.orderly) (hlinked : Linked before)
    (hnone : NoneInterrupted before) : NoneInterrupted after := by
  cases hmoved with
  | shift _ hwakes hevents =>
    intro id event' hevent' hbusy wakeId _ howner hwake' hterminal
    obtain ⟨event, hevent, hkeep⟩ := hevents.backward hevent'
    obtain ⟨wake, hwake, hchange⟩ := hwakes.backward hwake'
    have hold : event.wakeId = some wakeId := by
      rw [← hkeep.same.wakeId, howner]
    rcases hchange.orderly horderly hterminal with hended | hnoevent
    · exact hnone id event hevent (hkeep.busy hbusy) wakeId wake hold hwake
        hended
    · have hid : wake.wakeId = wakeId := key_of_get? hwake
      have hclash := hnoevent id event' hevent' (by rw [howner, hid])
      rw [hbusy] at hclash
      cases hclash
  | admission _ _ _ _ _ hwakes _ hevents =>
    intro id event hevent hbusy wakeId row howner hrow
    rw [hevents] at hevent
    exact hnone id event hevent hbusy wakeId row howner
      (hlinked.wake_kept hevent howner hwakes hrow)
  | append _ _ _ happends hevents hwakes =>
    intro id row hrow hbusy wakeId stored howner hstored
    rw [hwakes] at hstored
    rcases of_get?_insert hevents hrow with ⟨_, rfl⟩ | ⟨_, hrow⟩
    · rw [busy_iff] at hbusy
      rcases happends.state with hstate | hstate <;>
        simp [hstate] at hbusy
    · exact hnone id row hrow hbusy wakeId stored howner hstored
  | lease _ _ _ _ hleases hevents _ _ hwakes =>
    intro id row hrow hbusy wakeId stored howner hstored
    rw [hwakes] at hstored
    rcases of_replaced hevents hrow with ⟨_, rfl⟩ | ⟨_, hrow⟩
    · intro hterminal
      exact hleases.awake wakeId stored (by rw [← hleases.same.wakeId, howner])
        hstored (.inr hterminal)
    · exact hnone id row hrow hbusy wakeId stored howner hstored

theorem Sound.moved (hmoved : Moved permit before after)
    (hsound : Sound before) : Sound after where
  linked := hsound.linked.moved hmoved
  fenced := Fenced.moved hmoved hsound.linked hsound.fenced
  tallied := hsound.tallied.moved hmoved
  drawn := hsound.drawn.moved hmoved

theorem Linked.trace (htrace : Trace permit before after)
    (hlinked : Linked before) : Linked after := by
  induction htrace with
  | refl => exact hlinked
  | tail _ hmoved ih => exact ih.moved hmoved

/-- The invariant is kept along a trace. -/
theorem Sound.trace (htrace : Trace permit before after)
    (hsound : Sound before) : Sound after := by
  induction htrace with
  | refl => exact hsound
  | tail _ hmoved ih => exact ih.moved hmoved

theorem NoneStranded.trace (htrace : Trace permit before after)
    (htidy : permit.tidy) (hsound : Sound before)
    (hnone : NoneStranded before) : NoneStranded after := by
  induction htrace with
  | refl => exact hnone
  | tail hbefore hmoved ih =>
    exact ih.moved hmoved htidy (hsound.trace hbefore).linked

theorem NoneInterrupted.trace (htrace : Trace permit before after)
    (horderly : permit.orderly) (hsound : Sound before)
    (hnone : NoneInterrupted before) : NoneInterrupted after := by
  induction htrace with
  | refl => exact hnone
  | tail hbefore hmoved ih =>
    exact ih.moved hmoved horderly (hsound.trace hbefore).linked

end Moves

end CognitiveSidecar
