/-
Settlement as moves: the attempt is settled together with its event, and what
follows on the wake, the siblings, the cycle and the frontier.
-/
import CognitiveSidecar.ClaimMoves
import CognitiveSidecar.DurableSettlement

namespace CognitiveSidecar

open Option Relational

variable [Host] {permit : Permit} {db after : Sidecar}
variable {input : SettleDurableAttemptInput} {current : InboxEvent}
variable {outcome : DurableSettlementOutcome} {value : Attempt}
variable {nowMs nextEligibleAtMs : Int} {row : InboxEvent}
variable {frontierId errorCode : String}
variable {attemptId eventId : String} {f : InboxEvent → InboxEvent}
variable {ids covered : List String} {result : SupersessionResult}
variable {hkey : ∀ row, key (f row) = key row}

/-- An attempt is settled once its event is no longer leased. -/
theorem finishAttempt_moved {record : SettlementRecord}
    (hnot : ∀ event, db.events.get? eventId = some event →
      event.state ≠ .leased) :
    Moved permit db (finishAttempt db attemptId eventId nowMs record) := by
  refine .shift (Nat.le_refl _) (Table.Rewrites.refl (WakeChange.refl _ _) _)
    (Table.Rewrites.refl (EventChange.refl _ _) _) ?_
    (Table.Rewrites.refl CycleChange.refl _) (.same rfl)
  refine Table.rewrites_update (by intro _; rfl) ?_ (AttemptChange.refl _)
  intro _ _ _ hguard
  simp only [Bool.and_eq_true, decide_eq_true_eq] at hguard
  refine ⟨rfl, rfl, ?_, ?_⟩
  · intro hfinished
    rw [hguard.2] at hfinished
    cases hfinished
  · intro _
    refine .inr ⟨rfl, ?_⟩
    intro event hevent
    rw [hguard.1.2] at hevent
    exact hnot event hevent

/-- A contradiction is marked on a settled attempt only. -/
theorem markContradictory_moved
    (hsettled : ∀ attempt, db.attempts.get? attemptId = some attempt →
      attempt.finishedAtMs.isSome = true) :
    Moved permit db (markContradictory db attemptId) := by
  refine .shift (Nat.le_refl _) (Table.Rewrites.refl (WakeChange.refl _ _) _)
    (Table.Rewrites.refl (EventChange.refl _ _) _) ?_
    (Table.Rewrites.refl CycleChange.refl _) (.same rfl)
  refine Table.rewrites_update (by intro _; rfl) ?_ (AttemptChange.refl _)
  intro id row hrow hguard
  have hid : id = attemptId :=
    (key_of_get? hrow).symm.trans (of_decide_eq_true hguard)
  subst hid
  have hfinished := hsettled row hrow
  refine ⟨rfl, rfl, ?_, ?_⟩
  · intro _
    refine ⟨rfl, rfl, rfl, ?_⟩
    intro hcode
    obtain ⟨_, hcode⟩ := isSome_iff_exists.mp hcode
    rw [hcode]
    rfl
  · intro hopen
    rw [hopen] at hfinished
    cases hfinished

/-- The event that an open settlement works on. -/
structure Held (db : Sidecar) (input : SettleDurableAttemptInput)
    (current : InboxEvent) : Prop where
  stored : db.events.get? input.eventId = some current
  held : current.isHeldBy input.claimToken = true

omit [Host] in
theorem Held.leased (hheld : Held db input current) :
    current.state = .leased := by
  have h := hheld.held
  simp only [InboxEvent.isHeldBy, Bool.and_eq_true, decide_eq_true_eq] at h
  exact h.1

omit [Host] in
theorem Held.busy (hheld : Held db input current) : current.isBusy = true :=
  busy_iff.mpr (.inl hheld.leased)

omit [Host] in
theorem Held.id (hheld : Held db input current) : current.id = input.eventId :=
  key_of_get? hheld.stored

/-- The attempt settled and its event rewritten. -/
def settledWith (db : Sidecar) (input : SettleDurableAttemptInput)
    (f : InboxEvent → InboxEvent)
    (hkey : ∀ row, key (f row) = key row) : Sidecar :=
  (finishAttempt db input.attemptId input.eventId input.nowMs
    (failureFor input.result)).updateEvent input.eventId
      (·.isHeldBy input.claimToken) f hkey

theorem settledWith_trace (hheld : Held db input current)
    (hchange : EventChange permit db current (f current))
    (hnot : (f current).state ≠ .leased) :
    Trace permit db (settledWith db input f hkey) := by
  have hswap : settledWith db input f hkey =
      finishAttempt (db.updateEvent input.eventId
        (·.isHeldBy input.claimToken) f hkey) input.attemptId input.eventId
        input.nowMs (failureFor input.result) := rfl
  rw [hswap]
  refine .step (Moved.trace (.updateEvent ?_)) (finishAttempt_moved ?_)
  · intro _ hrow _
    cases hheld.stored.symm.trans hrow
    exact hchange
  · intro _ hrow
    obtain ⟨_, hold, hnew⟩ := Sidecar.of_get?_updateEvent hrow
    cases hheld.stored.symm.trans hold
    rw [hnew, if_pos ⟨rfl, hheld.held⟩]
    exact hnot

omit [Host] in
/-- After the rewrite, only the event itself may still be busy on its wake. -/
theorem settledWith_idle {input : SettleDurableAttemptInput}
    {current : InboxEvent} {f : InboxEvent → InboxEvent}
    {hkey : ∀ row, key (f row) = key row} (hfenced : Fenced db)
    (hheld : Held db input current) (hidle : (f current).isBusy = false) :
    ∀ wakeId, current.wakeId = some wakeId →
      NoEventOn (settledWith db input f hkey) InboxEvent.isBusy wakeId := by
  intro _ howner id _ hrow hrowOwner
  obtain ⟨old, hold, hnew⟩ := Sidecar.of_get?_updateEvent hrow
  by_cases hid : id = input.eventId
  · rw [hid] at hold
    cases hheld.stored.symm.trans hold
    rw [hnew, if_pos ⟨hid, hheld.held⟩]
    exact hidle
  · rw [if_neg fun hboth => hid hboth.1] at hnew
    rw [hnew] at hrowOwner ⊢
    cases hbusy : old.isBusy with
    | false => rfl
    | true =>
      exact absurd (noOtherBusy hfenced hheld.stored hheld.busy howner hold
        hrowOwner hbusy) hid

omit [Host] in
/-- The rewritten event under its identifier. -/
theorem settledWith_self (hheld : Held db input current)
    (hrow : (settledWith db input f hkey).events.get? current.id = some row) :
    row = f current := by
  obtain ⟨_, hold, hnew⟩ := Sidecar.of_get?_updateEvent hrow
  rw [hheld.id] at hold
  cases hheld.stored.symm.trans hold
  rw [hnew, if_pos ⟨hheld.id, hheld.held⟩]

theorem convergeCoveredSiblingEvents_trace :
    Trace permit db (convergeCoveredSiblingEvents db current ids nowMs) := by
  unfold convergeCoveredSiblingEvents
  split
  · exact .refl db
  · refine Moved.trace (.updateEvents ?_)
    intro _ _ _ _
    exact .close ⟨rfl, rfl, rfl, rfl, rfl, rfl⟩ rfl rfl rfl

omit [Host] in
/-- Convergence only closes events. -/
theorem convergeCoveredSiblingEvents_backward {id : String}
    (hrow : (convergeCoveredSiblingEvents db current ids nowMs).events.get? id =
      some row) :
    row.isDurableContinuation = false ∨ db.events.get? id = some row := by
  unfold convergeCoveredSiblingEvents at hrow
  split at hrow
  · exact .inr hrow
  · simp only [get?_update, map_eq_some_iff] at hrow
    obtain ⟨_, hold, hnew⟩ := hrow
    split at hnew
    · rw [← hnew]
      exact .inl rfl
    · rw [← hnew]
      exact .inr hold

theorem settleCompleted_trace (hfenced : Fenced db)
    (hheld : Held db input current)
    (hok : settleCompleted (finishAttempt db input.attemptId input.eventId
      input.nowMs (failureFor input.result)) current input = .ok after) :
    Trace permit db after := by
  refine ((settledWith_trace hheld (.close ⟨rfl, rfl, rfl, rfl, rfl, rfl⟩ rfl
    rfl rfl) (by simp)).trans convergeCoveredSiblingEvents_trace).trans
    (finishWakeForEvent_trace hok ?_ ?_ ?_)
  · intro _ hrow
    rcases convergeCoveredSiblingEvents_backward hrow with hended | hrow
    · exact hended
    · rw [settledWith_self hheld hrow]
      rfl
  · intro wakeId howner id row hrow hrowOwner
    rcases convergeCoveredSiblingEvents_backward hrow with hended | hrow
    · cases hbusy : row.isBusy with
      | false => rfl
      | true =>
        rw [busy_durable row hbusy] at hended
        cases hended
    · exact settledWith_idle hfenced hheld rfl wakeId howner id row hrow
        hrowOwner
  · intro _ hreason
    exact absurd rfl hreason

theorem validateSupersession_covers
    (hok : validateSupersession db current result = .ok covered) :
    covered = result.coveredOwnerEventIds ∧ current.id ∈ covered := by
  obtain ⟨_, _, hok⟩ := of_orFault hok
  replace hok := passed hok
  obtain ⟨hprimary, hok⟩ := of_require hok
  replace hok := passed hok
  replace hok := passed hok
  replace hok := passed hok
  replace hok := passed hok
  replace hok := passed hok
  replace hok := passed hok
  replace hok := passed hok
  cases of_pure hok
  exact ⟨rfl, hprimary⟩

/-- The covered events closed as superseded, and the attempt settled. -/
def supersededWith (db : Sidecar) (input : SettleDurableAttemptInput)
    (current : InboxEvent) (covered : List String) : Sidecar :=
  { finishAttempt db input.attemptId input.eventId input.nowMs
      (failureFor input.result) with
    events := db.events.update
      (fun row => decide (row.id ∈ covered) && row.wakeId = current.wakeId)
      fun row => row.supersededAt input.nowMs }

omit [Host] in
theorem supersededWith_backward {id : String}
    (hrow : (supersededWith db input current covered).events.get? id =
      some row) :
    ∃ old, db.events.get? id = some old ∧
      row = if id ∈ covered ∧ old.wakeId = current.wakeId then
        old.supersededAt input.nowMs else old := by
  simp only [supersededWith, get?_update, map_eq_some_iff] at hrow
  obtain ⟨old, hold, hnew⟩ := hrow
  have hid : old.id = id := key_of_get? hold
  refine ⟨old, hold, ?_⟩
  rw [← hnew, hid]
  simp

theorem settleSuperseded_trace (hfenced : Fenced db)
    (hheld : Held db input current)
    (hok : supersedeDurableAttemptInTransaction (finishAttempt db
      input.attemptId input.eventId input.nowMs (failureFor input.result))
      current result input.nowMs = .ok after) : Trace permit db after := by
  obtain ⟨covered, hvalid, hok⟩ := of_bind hok
  obtain ⟨_, hfinish, hok⟩ := of_bind hok
  obtain ⟨_, hcovers⟩ := validateSupersession_covers hvalid
  have hclosed : ∀ row, (supersededWith db input current covered).events.get?
      input.eventId = some row → row = current.supersededAt input.nowMs := by
    intro _ hrow
    obtain ⟨_, hold, hnew⟩ := supersededWith_backward hrow
    cases hheld.stored.symm.trans hold
    rw [hnew, if_pos ⟨hheld.id ▸ hcovers, rfl⟩]
  have hsettled : Trace permit db (supersededWith db input current covered) := by
    have hswap : supersededWith db input current covered =
        finishAttempt { db with
          events := db.events.update
            (fun row => decide (row.id ∈ covered) &&
              row.wakeId = current.wakeId)
            fun row => row.supersededAt input.nowMs }
          input.attemptId input.eventId input.nowMs
          (failureFor input.result) := rfl
    rw [hswap]
    refine .step (Moved.trace (.updateEvents ?_)) (finishAttempt_moved ?_)
    · intro _ _ _ _
      exact .close ⟨rfl, rfl, rfl, rfl, rfl, rfl⟩ rfl rfl rfl
    · intro row hrow
      rw [hclosed row hrow]
      simp
  refine (hsettled.trans (finishWakeForEvent_trace hfinish ?_ ?_ ?_)).trans
    (retireOwnerlessCycleForTerminalEvent_trace hok)
  · intro row hrow
    rw [hheld.id] at hrow
    rw [hclosed row hrow]
    rfl
  · intro _ howner _ _ hrow hrowOwner
    obtain ⟨old, hold, hnew⟩ := supersededWith_backward hrow
    split at hnew
    · rw [hnew]
      rfl
    · rename_i hout
      rw [hnew] at hrowOwner ⊢
      cases hbusy : old.isBusy with
      | false => rfl
      | true =>
        have hid := noOtherBusy hfenced hheld.stored hheld.busy howner hold
          hrowOwner hbusy
        refine absurd ⟨?_, hrowOwner.trans howner.symm⟩ hout
        rw [hid, ← hheld.id]
        exact hcovers
  · intro _ _ _ hreason
    exact absurd rfl hreason

theorem insertDeferredFrontierRecord_trace
    {input : CreateDeferredFrontierInput} {frontier : Frontier}
    (hok : insertDeferredFrontierRecord db input = .ok (frontier, after)) :
    Trace permit db after := by
  replace hok := passed hok
  replace hok := passed hok
  obtain ⟨_, _, hok⟩ := of_orFault hok
  cases of_pure hok
  exact Moved.trace (.aside (Nat.le_succ _) rfl rfl rfl rfl)

theorem updateFrontier_moved {guard : Frontier → Bool} {f : Frontier → Frontier}
    {hkey : ∀ row, key (f row) = key row} :
    Moved permit db (db.updateFrontier frontierId guard f hkey) :=
  .aside (Nat.le_refl _) rfl rfl rfl rfl

theorem rescheduleDeferredFrontier_trace {outcome : RescheduleOutcome}
    (hok : rescheduleDeferredFrontier db frontierId nextEligibleAtMs nowMs =
      .ok (outcome, after)) : Trace permit db after := by
  obtain ⟨_, _, hok⟩ := of_orFault hok
  replace hok := passed hok
  split at hok
  · cases of_pure hok
    exact updateFrontier_moved.trace
  split at hok
  · cases of_pure hok
    exact updateFrontier_moved.trace
  · cases of_pure hok
    exact updateFrontier_moved.trace

theorem scheduleFrontier_trace {input : CreateDeferredFrontierInput}
    (hok : scheduleFrontier db input = .ok after) : Trace permit db after := by
  unfold scheduleFrontier at hok
  split at hok
  · obtain ⟨⟨_, _⟩, hreschedule, hok⟩ := of_bind hok
    cases of_pure hok
    exact rescheduleDeferredFrontier_trace hreschedule
  · obtain ⟨⟨_, _⟩, hinsert, hok⟩ := of_bind hok
    cases of_pure hok
    exact insertDeferredFrontierRecord_trace hinsert

/-- The wake goes back to pending; the frontier carries the obligation on. -/
theorem settleDeferred_trace {conversationId cycleId : String}
    {generation : Int} {latestEvidenceRowId : String} (hlinked : Linked db)
    (hfenced : Fenced db) (hheld : Held db input current)
    (hok : settleDeferred (finishAttempt db input.attemptId input.eventId
      input.nowMs (failureFor input.result)) current input conversationId
      cycleId generation nextEligibleAtMs latestEvidenceRowId = .ok after) :
    Trace permit db after := by
  have hconsumed : Trace permit db (settledWith db input
      (fun row => row.consumedFor "deferred_to_frontier" input.nowMs)
      fun _ => rfl) :=
    settledWith_trace hheld (.close ⟨rfl, rfl, rfl, rfl, rfl, rfl⟩ rfl rfl rfl)
      (by simp)
  obtain ⟨wakeId, _, howner, hnamed, _, _⟩ :=
    ensureWakeLineage_of_linked hlinked hheld.stored
  have hidle := @settledWith_idle db input current
    (fun row => row.consumedFor "deferred_to_frontier" input.nowMs)
    (fun _ => rfl) hfenced hheld rfl wakeId howner
  unfold settleDeferred at hok
  simp only [hnamed] at hok
  have hreleased : Trace permit db ((settledWith db input
      (fun row => row.consumedFor "deferred_to_frontier" input.nowMs)
      fun _ => rfl).updateWake wakeId (fun row => row.state ≠ .terminal)
        fun row => row.released .pending input.nowMs) := by
    refine hconsumed.step (.updateWake ?_)
    intro row hrow hguard
    have hid : row.wakeId = wakeId := key_of_get? hrow
    exact .stayOpen rfl rfl rfl (of_decide_eq_true hguard)
      (by simp) (.inr rfl)
      (fun _ => .inr (by rw [hid]; exact hidle.mono reconciling_busy))
      (.inl rfl) (fun _ => by simp [Wake.LeaseNamed])
  by_cases hcycle : cycleId = ""
  · rw [if_pos hcycle] at hok
    obtain ⟨_, hsame, hok⟩ := of_bind hok
    cases of_pure hsame
    exact hreleased.trans (scheduleFrontier_trace hok)
  · rw [if_neg hcycle] at hok
    obtain ⟨_, hwaiting, hok⟩ := of_bind hok
    exact (hreleased.trans (updateCycleState_trace hwaiting)).trans
      (scheduleFrontier_trace hok)

theorem settleOutcomeUnknown_trace (hheld : Held db input current)
    (hok : settleOutcomeUnknown (finishAttempt db input.attemptId input.eventId
      input.nowMs (failureFor input.result)) current input errorCode =
        .ok after) : Trace permit db after := by
  obtain ⟨wakeId, hnamed, hok⟩ := of_orFault hok
  have howner : current.wakeId = some wakeId :=
    (filter_eq_some_iff.mp hnamed).1
  cases of_pure hok
  change Trace permit db (settledWith (wakeToReconciling db wakeId input.nowMs)
    input (fun row => row.fenced errorCode) fun _ => rfl)
  have hfence : Trace permit db (wakeToReconciling db wakeId input.nowMs) :=
    wakeToReconciling_moved.trace
  have hstill : Held (wakeToReconciling db wakeId input.nowMs) input current :=
    ⟨hheld.stored, hheld.held⟩
  refine hfence.trans (settledWith_trace hstill ?_ (by simp))
  refine .fence ⟨rfl, rfl, rfl, rfl, rfl, rfl⟩ rfl rfl rfl hheld.leased ?_
  rw [howner]
  exact wakeToReconciling_fenced

/-- What a failed settlement must find to strand nothing: an open wake to
retry on, or no sibling that still waits under an ending that looks at none. -/
def FailureTidy (db : Sidecar) (input : SettleDurableAttemptInput)
    (current : InboxEvent) (value : Attempt)
    (failureClass : DurableFailureClass) (errorCode : String)
    (retryAfterMs : Option Int) : Prop :=
  match nextRetryAt value.ordinal
      (current.firstAttemptAtMs.getD value.startedAtMs) input.nowMs
      failureClass retryAfterMs with
  | .retryWait _ => WakeIs db (·.state ≠ .terminal) current.wakeId
  | .terminal reason =>
    (terminalFailure failureClass errorCode reason).wakeReason ≠
      .quarantined → ∀ wakeId, current.wakeId = some wakeId →
    WakeIs db (·.state ≠ .terminal) (some wakeId) →
    ∀ id row, db.events.get? id = some row → row.wakeId = some wakeId →
      id ≠ input.eventId → row.isClaimableContinuation = false

omit [Host] in
theorem terminalFailure_closed (failureClass : DurableFailureClass)
    (errorCode : String) (reason : RetryTerminalReason) :
    (terminalFailure failureClass errorCode reason).state = .terminal ∨
      (terminalFailure failureClass errorCode reason).state =
        .quarantined := by
  unfold terminalFailure
  split
  · exact .inl rfl
  · split <;> exact .inl rfl
  · exact .inr rfl

theorem settleFailed_trace {failureClass : DurableFailureClass}
    {retryAfterMs : Option Int} (hfenced : Fenced db)
    (hheld : Held db input current)
    (htidy : permit.tidy →
      FailureTidy db input current value failureClass errorCode retryAfterMs)
    (hok : settleFailed (finishAttempt db input.attemptId input.eventId
      input.nowMs (failureFor input.result)) current value input failureClass
      errorCode retryAfterMs = .ok (outcome, after)) :
    Trace permit db after := by
  unfold settleFailed at hok
  unfold FailureTidy at htidy
  cases hdecision : nextRetryAt value.ordinal
      (current.firstAttemptAtMs.getD value.startedAtMs) input.nowMs
      failureClass retryAfterMs with
  | retryWait =>
    simp only [hdecision] at hok htidy
    obtain ⟨wakeId, hnamed, hok⟩ := of_orFault hok
    have howner : current.wakeId = some wakeId :=
      (filter_eq_some_iff.mp hnamed).1
    cases of_pure hok
    refine (settledWith_trace hheld ?_ (by simp)).step
      (wakeToPending_moved ?_)
    · exact .giveBack ⟨rfl, rfl, rfl, rfl, rfl, rfl⟩ rfl rfl (.inr rfl)
        (.inl hheld.leased) fun hpromise _ => htidy hpromise
    · exact (settledWith_idle hfenced hheld rfl wakeId howner).mono
        reconciling_busy
  | terminal reason =>
    simp only [hdecision] at hok htidy
    obtain ⟨_, hfinish, hok⟩ := of_bind hok
    obtain ⟨_, hretire, hok⟩ := of_bind hok
    cases of_pure hok
    have hstate := terminalFailure_closed failureClass errorCode reason
    generalize terminalFailure failureClass errorCode reason = failure
      at hfinish hstate htidy
    have hended : (current.failedFor failure failureClass
        errorCode).isDurableContinuation = false := by
      rcases hstate with hstate | hstate <;>
        simp [InboxEvent.isDurableContinuation, hstate]
    have hidle : (current.failedFor failure failureClass
        errorCode).isBusy = false := by
      rcases hstate with hstate | hstate <;>
        simp [InboxEvent.isBusy, hstate]
    refine ((settledWith_trace hheld ?_ ?_).trans
      (finishWakeForEvent_trace hfinish ?_ (settledWith_idle hfenced hheld
        hidle) ?_)).trans (retireOwnerlessCycleForTerminalEvent_trace hretire)
    · refine .close ⟨rfl, rfl, rfl, rfl, rfl, rfl⟩ rfl rfl ?_
      rcases hstate with hstate | hstate <;>
        simp [InboxEvent.isClosed, hstate]
    · rcases hstate with hstate | hstate <;> simp [hstate]
    · intro _ hrow
      rw [settledWith_self hheld hrow]
      exact hended
    · intro hpromise _ hreason _ wakeId howner hopen id _ hrow hrowOwner
      have hfree := htidy hpromise hreason wakeId howner hopen
      obtain ⟨old, hold, hnew⟩ := Sidecar.of_get?_updateEvent hrow
      by_cases hid : id = input.eventId
      · rw [hid] at hold
        cases hheld.stored.symm.trans hold
        rw [hnew, if_pos ⟨hid, hheld.held⟩]
        rcases hstate with hstate | hstate <;>
          simp [InboxEvent.isClaimableContinuation, hstate]
      · rw [if_neg fun hboth => hid hboth.1] at hnew
        rw [hnew] at hrowOwner ⊢
        exact hfree id old hold hrowOwner hid

omit [Host] in
theorem attemptOfEvent_eq_some_iff {attempt : Attempt} :
    attemptOfEvent db attemptId eventId = some attempt ↔
      db.attempts.get? attemptId = some attempt ∧
        attempt.eventId = eventId := by
  simp [attemptOfEvent, filter_eq_some_iff]

theorem settleContradictory_trace
    (hvalue : db.attempts.get? input.attemptId = some value)
    (hsettled : value.finishedAtMs.isSome = true)
    (hok : settleContradictory db current input = .ok after) :
    Trace permit db after := by
  obtain ⟨_, hquarantine, hok⟩ := of_bind hok
  cases of_pure hok
  refine (quarantineEvent_trace hquarantine).step (markContradictory_moved ?_)
  intro _ hattempt
  rw [quarantineEvent_frame hquarantine] at hattempt
  cases hvalue.symm.trans hattempt
  exact hsettled

/-- What a settlement must find to strand nothing. -/
def SettlementTidy (db : Sidecar) (input : SettleDurableAttemptInput) :
    Prop :=
  match input.result with
  | .failed failureClass errorCode _ retryAfterMs =>
    ∀ current value, db.events.get? input.eventId = some current →
      current.isHeldBy input.claimToken = true →
      attemptOfEvent db input.attemptId input.eventId = some value →
      value.finishedAtMs = none →
      FailureTidy db input current value failureClass errorCode retryAfterMs
  | _ => True

theorem settleOpenAttempt_trace (hlinked : Linked db) (hfenced : Fenced db)
    (hcurrent : db.events.get? input.eventId = some current)
    (hvalue : attemptOfEvent db input.attemptId input.eventId = some value)
    (hopen : value.finishedAtMs = none)
    (htidy : permit.tidy → SettlementTidy db input)
    (hok : settleOpenAttempt db current value input = .ok (outcome, after)) :
    Trace permit db after := by
  obtain ⟨hheldBy, hok⟩ := of_require hok
  have hheld : Held db input current := ⟨hcurrent, hheldBy⟩
  unfold SettlementTidy at htidy
  cases hresult : input.result with
  | superseded =>
    simp only [hresult] at hok
    rw [← hresult] at hok
    obtain ⟨_, hsettle, hok⟩ := of_bind hok
    cases of_pure hok
    exact settleSuperseded_trace hfenced hheld hsettle
  | completed =>
    simp only [hresult] at hok
    rw [← hresult] at hok
    obtain ⟨_, hsettle, hok⟩ := of_bind hok
    cases of_pure hok
    exact settleCompleted_trace hfenced hheld hsettle
  | deferredToFrontier =>
    simp only [hresult] at hok
    rw [← hresult] at hok
    obtain ⟨_, hsettle, hok⟩ := of_bind hok
    cases of_pure hok
    exact settleDeferred_trace hlinked hfenced hheld hsettle
  | outcomeUnknown =>
    simp only [hresult] at hok
    rw [← hresult] at hok
    obtain ⟨_, hsettle, hok⟩ := of_bind hok
    cases of_pure hok
    exact settleOutcomeUnknown_trace hheld hsettle
  | failed =>
    simp only [hresult] at hok htidy
    rw [← hresult] at hok
    exact settleFailed_trace hfenced hheld
      (fun hpromise => htidy hpromise current value hcurrent hheldBy hvalue
        hopen) hok

theorem settleDurableAttempt_trace (hlinked : Linked db) (hfenced : Fenced db)
    (htidy : permit.tidy → SettlementTidy db input)
    (hok : settleDurableAttempt db input = .ok (outcome, after)) :
    Trace permit db after := by
  obtain ⟨_, hcurrent, hok⟩ := of_bind hok
  obtain ⟨value, hvalue, hok⟩ := of_orFault hok
  have hstored := orFault_ok.mp hcurrent
  by_cases hfinished : value.finishedAtMs.isSome = true
  · rw [if_pos hfinished] at hok
    split at hok
    · obtain ⟨_, _, hok⟩ := of_bind hok
      cases of_pure hok
      exact .refl db
    · obtain ⟨_, hsettle, hok⟩ := of_bind hok
      cases of_pure hok
      exact settleContradictory_trace
        (attemptOfEvent_eq_some_iff.mp hvalue).1 hfinished hsettle
  · rw [if_neg hfinished] at hok
    have hopen : value.finishedAtMs = none := by
      simpa using hfinished
    exact settleOpenAttempt_trace hlinked hfenced hstored hvalue hopen htidy hok

end CognitiveSidecar
