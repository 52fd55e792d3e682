/-
The shape of the attempt ledger in every reachable state: numbering without
gaps, the bound, what an open attempt may record, and what never changes.
-/
import CognitiveSidecar.LedgerHistory
import CognitiveSidecar.System

namespace CognitiveSidecar

open Relational

section Runs

variable [Host] {db : Sidecar}
variable {granted : DurableAttempt} {after : Sidecar}
variable {id : String} {event : InboxEvent}

/-- Along a run an event is kept as it was written, and no step gives its first
attempt or its ending up. -/
theorem run_event_forward (hsound : Sound db)
    (hevent : db.events.get? id = some event) (ops : List Op) :
    ∃ event', (run step db ops).events.get? id = some event' ∧
      event.attemptCount ≤ event'.attemptCount ∧
      (∀ startedAtMs, event.firstAttemptAtMs = some startedAtMs →
        event'.firstAttemptAtMs = some startedAtMs) ∧
      (event.isClosed = true → event'.isClosed = true) ∧
      SameEvent event event' := by
  induction ops generalizing db event with
  | nil => exact ⟨event, hevent, Nat.le_refl _, fun _ hfirst => hfirst,
      fun hclosed => hclosed, .refl event⟩
  | cons op _ ih =>
    have htrace : Trace (op.permit db) db (step op db) := step_trace hsound
    obtain ⟨_, hmid, hfirst⟩ := htrace.event_forward hevent
    obtain ⟨event', hevent', hcount, hstart, hclosed, hsame⟩ :=
      ih (step_sound hsound) hmid
    exact ⟨event', hevent', hfirst.attemptCount.trans hcount,
      fun startedAtMs hsome =>
        hstart startedAtMs (hfirst.firstAttemptAtMs startedAtMs hsome),
      fun hended => hclosed (hfirst.closed hended), hfirst.same.trans hsame⟩

/-- Along a run a settled attempt keeps its record. -/
theorem run_attempt_forward {attempt : Attempt} (hsound : Sound db)
    (hattempt : db.attempts.get? id = some attempt) (ops : List Op) :
    ∃ attempt', (run step db ops).attempts.get? id = some attempt' ∧
      AttemptDescends attempt attempt' := by
  induction ops generalizing db attempt with
  | nil => exact ⟨attempt, hattempt, .refl attempt⟩
  | cons op _ ih =>
    have htrace : Trace (op.permit db) db (step op db) := step_trace hsound
    obtain ⟨_, hmid, hfirst⟩ := htrace.attempt_forward hattempt
    obtain ⟨attempt', hattempt', hlast⟩ := ih (step_sound hsound) hmid
    exact ⟨attempt', hattempt', hfirst.trans hlast⟩

/-- The attempts recorded for one event. -/
structure AttemptShape (db : Sidecar) (id : String) (event : InboxEvent) :
    Prop where
  ordinals : ∀ ordinal, 1 ≤ ordinal ∧ ordinal ≤ event.attemptCount ↔
    ∃ attemptId attempt, db.attempts.get? attemptId = some attempt ∧
      attempt.eventId = id ∧ attempt.ordinal = ordinal
  distinct : ∀ attemptId attemptId' attempt attempt',
    db.attempts.get? attemptId = some attempt →
    db.attempts.get? attemptId' = some attempt' →
    attempt.eventId = id → attempt'.eventId = id →
    attempt.ordinal = attempt'.ordinal → attemptId = attemptId'
  bounded : event.attemptCount ≤ 5
  untouched : ∀ attemptId attempt, db.attempts.get? attemptId = some attempt →
    attempt.eventId = id → attempt.finishedAtMs = none →
    attempt.dispatchTruth = .notStarted ∧ attempt.failureClass = none ∧
      attempt.errorCode = none
  current : event.state = .leased → ∃ attemptId attempt,
    db.attempts.get? attemptId = some attempt ∧ attempt.eventId = id ∧
      attempt.ordinal = event.attemptCount ∧ attempt.finishedAtMs = none

omit [Host] in
theorem Tallied.shape (htallied : Tallied db)
    (hevent : db.events.get? id = some event) : AttemptShape db id event where
  ordinals := by
    intro ordinal
    constructor
    · rintro ⟨hlow, hhigh⟩
      exact htallied.complete id event hevent ordinal hlow hhigh
    · rintro ⟨attemptId, attempt, hattempt, howner, rfl⟩
      obtain ⟨_, hstored, hlow, hhigh⟩ :=
          htallied.counted attemptId attempt hattempt
      rw [howner, hevent] at hstored
      cases hstored
      exact ⟨hlow, hhigh⟩
  distinct := fun attemptId attemptId' attempt attempt' hattempt hattempt'
    howner howner' hordinal => htallied.distinct attemptId attemptId' attempt
      attempt' hattempt hattempt' (howner.trans howner'.symm) hordinal
  bounded := htallied.bounded id event hevent
  untouched := fun attemptId attempt hattempt _ hopen =>
    htallied.untouched attemptId attempt hattempt hopen
  current := by
    intro hleased
    obtain ⟨attemptId, attempt, hattempt, howner, hordinal⟩ :=
      htallied.complete id event hevent event.attemptCount
        (htallied.held id event hevent hleased) (Nat.le_refl _)
    exact ⟨attemptId, attempt, hattempt, howner, hordinal,
      htallied.current id event hevent hleased attemptId attempt hattempt howner
        hordinal⟩

/-- A claim is granted only on the row of a pending event. -/
theorem claimCandidateInTransaction_pending {current : InboxEvent}
    {workerId : String} {nowMs leaseMs : Int}
    (hok : claimCandidateInTransaction db current workerId nowMs leaseMs =
      .ok (granted, after)) :
    current.state = .pending ∧ granted.eventId = current.id := by
  replace hok := passed hok
  obtain ⟨hpending, hok⟩ := of_require hok
  replace hok := passed hok
  obtain ⟨_, _, hok⟩ := of_bind hok
  obtain ⟨_, _, hok⟩ := of_orFault hok
  replace hok := passed hok
  replace hok := passed hok
  replace hok := passed hok
  obtain ⟨⟨_, _⟩, _, hok⟩ := of_bind hok
  obtain ⟨⟨_, _⟩, _, hok⟩ := of_bind hok
  replace hok := passed hok
  obtain ⟨⟨_, _⟩, _, hok⟩ := of_bind hok
  obtain ⟨_, _, hok⟩ := of_bind hok
  obtain ⟨rfl, _⟩ := of_pure_pair hok
  exact ⟨hpending, rfl⟩

/-- The event of a grant is pending once the sweep of the claim has run. -/
structure GrantedFromPending (db : Sidecar) (nowMs : Int)
    (scope : Option String) (granted : DurableAttempt) : Prop where
  pending : ∃ swept row, sweepDurableWork db nowMs scope = .ok swept ∧
    swept.events.get? granted.eventId = some row ∧ row.state = .pending

theorem startDurableAttempt_pending {input : StartDurableAttemptInput}
    (hok : startDurableAttempt db input = .ok (granted, after)) :
    GrantedFromPending db input.nowMs (some input.eventId) granted := by
  obtain ⟨swept, hsweep, hok⟩ := of_bind hok
  obtain ⟨current, hcurrent, hok⟩ := of_bind hok
  obtain ⟨hpending, hok⟩ := of_require hok
  obtain ⟨_, hid⟩ := claimCandidateInTransaction_pending hok
  have hstored := orFault_ok.mp hcurrent
  have hkey : current.id = input.eventId := key_of_get? hstored
  rw [← hkey] at hstored
  exact ⟨swept, current, hsweep, by rw [hid]; exact hstored, hpending⟩

theorem claimNextDurableWork_pending {input : ClaimDurableWorkInput}
    (hok : claimNextDurableWork db input = .ok (some granted, after)) :
    GrantedFromPending db input.nowMs none granted := by
  obtain ⟨swept, hsweep, hok⟩ := of_bind hok
  split at hok
  · obtain ⟨hnone, _⟩ := of_pure_pair hok
    cases hnone
  · rename_i selected _
    obtain ⟨current, hcurrent, hok⟩ := of_bind hok
    obtain ⟨⟨_, _⟩, hclaim, hok⟩ := of_bind hok
    obtain ⟨hsame, _⟩ := of_pure_pair hok
    cases hsame
    obtain ⟨hpending, hid⟩ := claimCandidateInTransaction_pending hclaim
    have hstored := orFault_ok.mp hcurrent
    have hkey : current.id = selected.eventId := key_of_get? hstored
    rw [← hkey] at hstored
    exact ⟨swept, current, hsweep, by rw [hid]; exact hstored, hpending⟩

/-- In every reachable state the attempts of each event are numbered
`1..attemptCount` with at most five of them, an open attempt records no
dispatch, a leased event's latest attempt is open, a settled attempt and the
first attempt's time stay as they are in every later state, and a claim is
granted only on a pending event. -/
theorem attempt_ledger_shape (hreached : Reached db) :
    (∀ id event, db.events.get? id = some event → AttemptShape db id event) ∧
    (∀ id event startedAtMs ops, db.events.get? id = some event →
      event.firstAttemptAtMs = some startedAtMs →
      ∃ event', (run step db ops).events.get? id = some event' ∧
        event'.firstAttemptAtMs = some startedAtMs) ∧
    (∀ id attempt ops, db.attempts.get? id = some attempt →
      attempt.finishedAtMs.isSome = true →
      ∃ attempt', (run step db ops).attempts.get? id = some attempt' ∧
        attempt'.finishedAtMs = attempt.finishedAtMs) ∧
    (∀ input granted after,
      startDurableAttempt db input = .ok (granted, after) →
      GrantedFromPending db input.nowMs (some input.eventId) granted) ∧
    (∀ input granted after,
      claimNextDurableWork db input = .ok (some granted, after) →
      GrantedFromPending db input.nowMs none granted) := by
  have hsound := hreached.sound
  refine ⟨fun _ _ => hsound.tallied.shape, ?_, ?_, ?_, ?_⟩
  · intro _ _ startedAtMs ops hevent hfirst
    obtain ⟨event', hevent', _, hstart, _⟩ :=
      run_event_forward hsound hevent ops
    exact ⟨event', hevent', hstart startedAtMs hfirst⟩
  · intro _ _ ops hattempt hfinished
    obtain ⟨attempt', hattempt', hdescends⟩ :=
      run_attempt_forward hsound hattempt ops
    exact ⟨attempt', hattempt', (hdescends.stays hfinished).1⟩
  · exact fun _ _ _ => startDurableAttempt_pending
  · exact fun _ _ _ => claimNextDurableWork_pending

end Runs

section Plain

attribute [local instance] plainHost

/-- An event is claimed, its lease runs out, and recovery gives it back. -/
def claimedAndRecovered : List Op :=
  [.appendInboxEvent
      { conversationId := "c", kind := "owner_message", createdAtMs := 0 }
      (some "e"),
    .claimNext { workerId := "w", nowMs := 1 },
    .recoverDurable 1000000]

theorem attempt_ledger_shape_recovered :
    ∃ event, (run step {} claimedAndRecovered).events.get? "e" = some event ∧
      AttemptShape (run step {} claimedAndRecovered) "e" event := by
  obtain ⟨event, hevent⟩ : ∃ event,
      (run step {} claimedAndRecovered).events.get? "e" = some event :=
    Option.isSome_iff_exists.mp (by decide +kernel)
  exact ⟨event, hevent,
    (attempt_ledger_shape ⟨claimedAndRecovered, rfl⟩).1 "e" event hevent⟩

/-- Recovery leaves the attempt of the lease that ran out open. -/
theorem recovered_event_keeps_open_attempt :
    ((run step {} claimedAndRecovered).events.get? "e").any
        (·.state = .pending) = true ∧
      (run step {} claimedAndRecovered).attempts.rows.any (fun attempt =>
        attempt.eventId = "e" && attempt.finishedAtMs = none) = true := by
  decide +kernel

end Plain

end CognitiveSidecar
