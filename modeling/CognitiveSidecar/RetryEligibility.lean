/-
A scheduled retry at its time: the sweep wakes the waiting event, and the claim
grants it unless the schedule was cut off at the age deadline.
-/
import CognitiveSidecar.ClaimProgress

namespace CognitiveSidecar

open Relational

/-- A retry is scheduled between now and the age deadline. -/
theorem nextRetryAt_cases {ordinal : Nat} {firstAttemptAtMs nowMs dueAtMs : Int}
    {failureClass : DurableFailureClass} {retryAfterMs : Option Int}
    (hdecides : nextRetryAt ordinal firstAttemptAtMs nowMs failureClass
      retryAfterMs = .retryWait dueAtMs) :
    ordinal < maxAttempts ∧ nowMs < firstAttemptAtMs + maxRetryAgeMs ∧
      dueAtMs = min (nowMs + retryBackoffMs ordinal retryAfterMs)
        (firstAttemptAtMs + maxRetryAgeMs) := by
  unfold nextRetryAt at hdecides
  dsimp only at hdecides
  split at hdecides
  · cases hdecides
  split at hdecides
  · cases hdecides
  split at hdecides
  · cases hdecides
  cases hdecides
  exact ⟨by omega, by omega, rfl⟩

/-- The event waits for its retry in a free lane, on a wake that is pending. -/
structure RetryWaits (db : Sidecar) (event : InboxEvent) (ordinal : Nat)
    (firstAttemptAtMs dueAtMs : Int) : Prop where
  stored : db.events.get? event.id = some event
  waiting : event.state = .retryWait
  count : event.attemptCount = ordinal
  first : event.firstAttemptAtMs = some firstAttemptAtMs
  due : event.nextEligibleAtMs = some dueAtMs
  wake : ∃ wakeId wake, event.wakeId = some wakeId ∧
    db.wakes.get? wakeId = some wake ∧ wake.state = .pending
  free : LaneFree db event

section Sweep

variable {db : Sidecar} {event : InboxEvent} {ordinal : Nat}
  {firstAttemptAtMs dueAtMs : Int}

/-- The row of an event whose waiting time is over. -/
def InboxEvent.resumed (row : InboxEvent) : InboxEvent :=
  { row with state := .pending, status := .pending }

theorem RetryWaits.awakened
    (hwaits : RetryWaits db event ordinal firstAttemptAtMs dueAtMs) :
    event.awakened db dueAtMs (some event.id) = event.resumed := by
  have hnotLeased : event.expires dueAtMs (some event.id) = false := by
    simp [InboxEvent.expires, InboxEvent.leaseRanOut, hwaits.waiting]
  have hready : (event.state = .retryWait &&
      event.nextEligibleAtMs.any (· ≤ dueAtMs) &&
      event.inScope (some event.id)) = true := by
    simp [hwaits.waiting, hwaits.due, InboxEvent.inScope]
  unfold InboxEvent.awakened InboxEvent.recovered InboxEvent.woken
  rw [hnotLeased, if_neg Bool.false_ne_true, if_pos hready]
  rfl

/-- Awake, the event is within its bounds before the age deadline. -/
theorem RetryWaits.bounded_iff
    (hwaits : RetryWaits db event ordinal firstAttemptAtMs dueAtMs)
    (hcount : ordinal < maxAttempts) :
    event.resumed.isBounded dueAtMs = false ↔
      dueAtMs < firstAttemptAtMs + maxRetryAgeMs := by
  obtain ⟨wakeId, _, howner, _⟩ := hwaits.wake
  have howned : event.resumed.wakeId = some wakeId := howner
  rw [InboxEvent.isBounded_of_pending rfl howned]
  show event.attemptCount + 1 ≤ maxAttempts ∧
    dueAtMs < event.firstAttemptAtMs.getD dueAtMs + maxRetryAgeMs ↔ _
  rw [hwaits.count, hwaits.first]
  exact ⟨fun hboth => hboth.2, fun hage => ⟨by omega, hage⟩⟩

/-- Within its bounds the event is left pending by the sweep. -/
theorem RetryWaits.swept
    (hwaits : RetryWaits db event ordinal firstAttemptAtMs dueAtMs)
    (hbounded : event.resumed.isBounded dueAtMs = false) :
    event.swept db dueAtMs (some event.id) = event.resumed := by
  unfold InboxEvent.swept InboxEvent.retired InboxEvent.retires
  rw [hwaits.awakened, hbounded]
  rfl

end Sweep

section Claims

variable [Host] {db : Sidecar} {event : InboxEvent} {ordinal : Nat}
  {firstAttemptAtMs dueAtMs leaseMs : Int} {workerId : String}

/-- What the sweep for this event leaves of it is claimed, or nothing is. -/
theorem startDurableAttempt_ok_iff {input : StartDurableAttemptInput} :
    (∃ granted after, startDurableAttempt db input = .ok (granted, after)) ↔
      ∃ swept row, sweepDurableWork db input.nowMs (some input.eventId) =
          .ok swept ∧ swept.events.get? input.eventId = some row ∧
        row.state = .pending ∧
        ∃ granted after, claimCandidateInTransaction swept row input.workerId
          input.nowMs (boundedLeaseMs input.leaseMs) = .ok (granted, after) := by
  constructor
  · rintro ⟨granted, after, hok⟩
    obtain ⟨swept, hswept, hok⟩ := of_bind hok
    obtain ⟨row, hrow, hok⟩ := of_bind hok
    obtain ⟨hpending, hok⟩ := of_require hok
    exact ⟨swept, row, hswept, orFault_ok.mp hrow, hpending, granted, after, hok⟩
  · rintro ⟨swept, row, hswept, hrow, hpending, granted, after, hok⟩
    refine ⟨granted, after, bind_ok.mpr ⟨swept, hswept, ?_⟩⟩
    refine bind_ok.mpr ⟨row, orFault_ok.mpr hrow, ?_⟩
    exact require_bind_ok.mpr ⟨hpending, hok⟩

/-- In every reachable state a retry scheduled at a time is due no earlier than
now, and at that time the claim of the event is granted exactly when the delay
ends before the age deadline. -/
theorem scheduled_retry_claimable_iff (hreached : Reached db)
    {nowMs : Int} {failureClass : DurableFailureClass}
    {retryAfterMs : Option Int}
    (hdecides : nextRetryAt ordinal firstAttemptAtMs nowMs failureClass
      retryAfterMs = .retryWait dueAtMs)
    (hwaits : RetryWaits db event ordinal firstAttemptAtMs dueAtMs)
    (hworker : blank workerId = false) :
    nowMs ≤ dueAtMs ∧
      ((∃ granted after, startDurableAttempt db
          { eventId := event.id, workerId, nowMs := dueAtMs, leaseMs } =
            .ok (granted, after)) ↔
        nowMs + retryBackoffMs ordinal retryAfterMs <
          firstAttemptAtMs + maxRetryAgeMs) := by
  obtain ⟨hcount, _⟩ := nextRetryAt_cases hdecides
  have hdelay : 0 ≤ retryBackoffMs ordinal retryAfterMs := by
    unfold retryBackoffMs
    omega
  have hsound := hreached.sound
  obtain ⟨wakeId, wake, howner, hwake, hpendingWake⟩ := hwaits.wake
  have howned : event.resumed.wakeId = some wakeId := howner
  obtain ⟨hsweepOk, hsweepSpec⟩ :=
    @sweepDurableWork_spec _ db dueAtMs (some event.id) hsound
  have hswept : ∀ swept, sweepDurableWork db dueAtMs (some event.id) =
      .ok swept → swept.events.get? event.id =
        some (event.swept db dueAtMs (some event.id)) := by
    intro swept hok
    rw [(hsweepSpec swept hok).1.events, sweptEvents, get?_update,
      hwaits.stored, Option.map_some, if_pos rfl]
  have hdeadline : dueAtMs < firstAttemptAtMs + maxRetryAgeMs ↔
      nowMs + retryBackoffMs ordinal retryAfterMs <
        firstAttemptAtMs + maxRetryAgeMs := by
    omega
  refine ⟨by omega, ?_⟩
  rw [startDurableAttempt_ok_iff, ← hdeadline, ← hwaits.bounded_iff hcount]
  constructor
  · rintro ⟨swept, _, hok, hrow, hpending, _, _, hclaimed⟩
    rw [hswept swept hok] at hrow
    cases hrow
    by_contra hbounded
    rw [Bool.not_eq_false] at hbounded
    -- Past the deadline the claim refuses what the sweep did not retire.
    unfold InboxEvent.swept InboxEvent.retired at hpending hclaimed
    rw [hwaits.awakened] at hpending hclaimed
    split at hpending
    · cases hpending
    · rename_i hkept
      rw [if_neg hkept] at hclaimed
      replace hclaimed := passed hclaimed
      replace hclaimed := passed hclaimed
      replace hclaimed := passed hclaimed
      obtain ⟨_, _, hclaimed⟩ := of_bind hclaimed
      obtain ⟨_, _, hclaimed⟩ := of_orFault hclaimed
      replace hclaimed := passed hclaimed
      obtain ⟨hattempts, hclaimed⟩ := of_require hclaimed
      obtain ⟨hyoung, _⟩ := of_require hclaimed
      have hfree := (InboxEvent.isBounded_of_pending rfl howned).mpr
        ⟨hattempts, hyoung⟩
      rw [hbounded] at hfree
      cases hfree
  · intro hbounded
    have hrow := hwaits.swept hbounded
    have hquiet : ∀ w, ¬ SweepConflict db dueAtMs (some event.id) w := by
      rintro w ⟨_, ⟨id, other, hother, _, hretires⟩, _⟩
      have hid : other.id = id := key_of_get? hother
      unfold InboxEvent.retires at hretires
      simp only [Bool.and_eq_true] at hretires
      have hscope := hretires.1.2
      unfold InboxEvent.inScope at hscope
      rw [Option.all_some, decide_eq_true_eq,
        (other.awakened_same db dueAtMs (some event.id)).1, hid] at hscope
      rw [hscope, hwaits.stored] at hother
      cases hother
      rw [hwaits.awakened, hbounded] at hretires
      cases hretires.1.1
    obtain ⟨swept, hok⟩ := hsweepOk.mpr hquiet
    obtain ⟨hsweeps, hsweptSound⟩ := hsweepSpec swept hok
    have hstored := hswept swept hok
    rw [hrow] at hstored
    refine ⟨swept, event.resumed, hok, hstored, rfl, ?_⟩
    have hreleased : swept.wakes.get? wakeId =
        some (wake.recovered db dueAtMs (some event.id)) := by
      rw [hsweeps.wakes _ _ wakeId hstored rfl howner, hwake, Option.map_some]
    have hnotReleased : wake.isReleased db dueAtMs (some event.id) = false := by
      rw [Bool.eq_false_iff]
      intro hreleases
      obtain ⟨_, id, hexpiring, _⟩ := Wake.isReleased_iff.mp hreleases
      obtain ⟨other, hother, hexpires⟩ := mem_expiringIds.mp hexpiring
      have hid : other.id = id := key_of_get? hother
      unfold InboxEvent.expires at hexpires
      simp only [Bool.and_eq_true] at hexpires
      have hscope := hexpires.1.2
      unfold InboxEvent.inScope at hscope
      rw [Option.all_some, decide_eq_true_eq, hid] at hscope
      rw [hscope, hwaits.stored] at hother
      cases hother
      have hran := hexpires.1.1
      unfold InboxEvent.leaseRanOut at hran
      rw [hwaits.waiting] at hran
      cases hran
    have hkept : wake.recovered db dueAtMs (some event.id) = wake := by
      unfold Wake.recovered
      rw [hnotReleased]
      rfl
    rw [hkept] at hreleased
    refine (claimCandidateInTransaction_ok_iff hsweptSound hstored rfl ?_ ?_ ?_
      howned hreleased).mpr ⟨hworker, hbounded, ?_⟩
    · show event.nextEligibleAtMs.all (· ≤ dueAtMs) = true
      rw [hwaits.due]
      exact decide_eq_true (Int.le_refl _)
    · intro _ hother hleased hsame
      rw [hsweeps.events, sweptEvents, Table.mem_update_iff] at hother
      obtain ⟨old, hold, heq⟩ := hother
      rw [if_pos rfl] at heq
      rw [← heq] at hleased hsame
      have hkeeps := (old.swept_same db dueAtMs (some event.id)).2
      rw [hkeeps.conversationId, hkeeps.lane] at hsame
      exact hwaits.free old hold (InboxEvent.leased_of_swept hleased) hsame
    · unfold boundedLeaseMs
      omega
    · unfold Wake.isGrantable
      rw [hpendingWake]

end Claims

section Plain

attribute [local instance] plainHost

/-- An event's first attempt fails, with a hint when to try again. -/
def failedWithHint (retryAfterMs : Option Int) : List Op :=
  [.appendInboxEvent
      { conversationId := "d", kind := "owner_message", createdAtMs := 1 }
      (some "e"),
    .startAttempt { eventId := "e", workerId := "w", nowMs := 1 },
    .settle
      { eventId := "e", attemptId := "attempt:uu", claimToken := "wake-lease:u"
        result := .failed ⟨.rateLimitedRetryable, by decide⟩ "429" none
          retryAfterMs
        nowMs := 2 }]

/-- An event that passes these tests waits for its retry. -/
theorem retryWaits_of_tests {db : Sidecar} {id : String} {ordinal : Nat}
    {firstAttemptAtMs dueAtMs : Int}
    (hevent : (db.events.get? id).any (fun event =>
      event.state = .retryWait && event.attemptCount = ordinal &&
        event.firstAttemptAtMs = some firstAttemptAtMs &&
        event.nextEligibleAtMs = some dueAtMs &&
        event.wakeId.any fun wakeId =>
          (db.wakes.get? wakeId).any (·.state = .pending)) = true)
    (hidle : db.events.rows.all (·.state ≠ .leased) = true) :
    ∃ event, event.id = id ∧
      RetryWaits db event ordinal firstAttemptAtMs dueAtMs := by
  obtain ⟨event, hstored, htests⟩ := (Option.any_eq_true _ _).mp hevent
  simp only [Bool.and_eq_true, decide_eq_true_eq, Option.any_eq_true] at htests
  obtain ⟨⟨⟨⟨hwaiting, hcount⟩, hfirst⟩, hdue⟩, wakeId, howner, wake, hwake,
    hpending⟩ := htests
  have hid : event.id = id := key_of_get? hstored
  refine ⟨event, hid, by rw [hid]; exact hstored, hwaiting, hcount, hfirst, hdue,
    ⟨wakeId, wake, howner, hwake, hpending⟩, ?_⟩
  intro row hrow hleased
  have hnot := List.all_eq_true.mp hidle row hrow
  simp [hleased] at hnot

/-- Without a hint the event is claimed a second later. -/
theorem scheduled_retry_claimable_plain :
    ∃ granted after, startDurableAttempt (run step {} (failedWithHint none))
      { eventId := "e", workerId := "w", nowMs := 1002 } =
        .ok (granted, after) := by
  obtain ⟨event, hid, hwaits⟩ := @retryWaits_of_tests
    (run step {} (failedWithHint none)) "e" 1 1 1002 (by decide +kernel)
    (by decide +kernel)
  have hdecides : nextRetryAt 1 1 2 .rateLimitedRetryable none =
      .retryWait 1002 := by decide
  have hclaims := (@scheduled_retry_claimable_iff _ _ event 1 1 1002
    durableWorkCoordinationLeaseMs "w" ⟨failedWithHint none, rfl⟩ 2 _ _
    hdecides hwaits (by decide +kernel)).2.mpr (by decide)
  rw [hid] at hclaims
  exact hclaims

/-- A hint of a quarter of an hour is cut off at the age deadline, where the
sweep retires the event as too old. -/
theorem hinted_retry_unclaimable :
    nextRetryAt 1 1 2 .rateLimitedRetryable (some 900000) = .retryWait 900001 ∧
      ∃ event, event.id = "e" ∧
        RetryWaits (run step {} (failedWithHint (some 900000))) event 1 1
          900001 ∧
        ∀ granted after, startDurableAttempt
          (run step {} (failedWithHint (some 900000)))
          { eventId := event.id, workerId := "w", nowMs := 900001 } ≠
            .ok (granted, after) := by
  refine ⟨by decide, ?_⟩
  obtain ⟨event, hid, hwaits⟩ := @retryWaits_of_tests
    (run step {} (failedWithHint (some 900000))) "e" 1 1 900001
    (by decide +kernel) (by decide +kernel)
  refine ⟨event, hid, hwaits, ?_⟩
  intro _ _ hok
  have hfault : (startDurableAttempt
      (run step {} (failedWithHint (some 900000)))
      { eventId := "e", workerId := "w", nowMs := 900001 }).toOption.isSome =
        false := by
    decide +kernel
  rw [hid] at hok
  rw [hok] at hfault
  cases hfault

end Plain

end CognitiveSidecar
