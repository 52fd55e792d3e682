/-
Repeating a settlement: a result that an attempt already records changes
nothing and is answered from the event as it stands, and an event that has
ended is changed only by a result that contradicts the recorded one.
-/
import CognitiveSidecar.AttemptLedger
import CognitiveSidecar.Supersession

namespace CognitiveSidecar

open Option Relational

/-- What a repeat reports of an event that nothing has moved since. -/
def HandlerResult.repeated (result : HandlerResult)
    (outcome : DurableSettlementOutcome) : DurableSettlementOutcome :=
  match outcome, result with
  | .completed, .deferredToFrontier .. => .terminal "deferred_to_frontier"
  | .completed, _ => .terminal "completed"
  | outcome, _ => outcome

/-- Neither the inbox nor the attempts were written. -/
structure SameLedger (db after : Sidecar) : Prop where
  events : after.events = db.events
  attempts : after.attempts = db.attempts

/-- What settling an open attempt leaves in the inbox and among the attempts. -/
structure SettledOpen (db after : Sidecar) (input : SettleDurableAttemptInput)
    (outcome : DurableSettlementOutcome) : Prop where
  attempts : after.attempts = (finishAttempt db input.attemptId input.eventId
    input.nowMs (failureFor input.result)).attempts
  absorbed : ∀ id event, db.events.get? id = some event →
    event.isClosed = true → after.events.get? id = some event
  reported : ∃ event, after.events.get? input.eventId = some event ∧
    outcomeForSettledEvent event = .ok (input.result.repeated outcome)

section Frames

variable {db after mid : Sidecar}
variable {nowMs : Int}
variable {input : CreateDeferredFrontierInput}

theorem SameLedger.trans (hfirst : SameLedger db mid)
    (hsecond : SameLedger mid after) : SameLedger db after where
  events := hsecond.events.trans hfirst.events
  attempts := hsecond.attempts.trans hfirst.attempts

theorem FenceFrame.sameLedger (hframe : FenceFrame db after) :
    SameLedger db after where
  events := by
    rw [hframe]
  attempts := by
    rw [hframe]

theorem finishWakeForEvent_sameLedger {current : InboxEvent}
    {reason : WakeTerminalReason}
    (hok : finishWakeForEvent db current reason nowMs = .ok after) :
    SameLedger db after := by
  obtain ⟨_, _, hok⟩ := of_orFault hok
  obtain ⟨_, _, hok⟩ := of_bind hok
  split at hok
  · cases of_pure hok
    exact ⟨rfl, rfl⟩
  split at hok
  · replace hok := passed hok
    cases of_pure hok
    exact ⟨rfl, rfl⟩
  split at hok
  · rw [wakeToTerminal_frame hok]
    exact ⟨rfl, rfl⟩
  · exact (finishWakeInTransaction_frame hok).sameLedger

theorem retireOwnerlessCycleForTerminalEvent_sameLedger {wakeId : Option String}
    (hok : retireOwnerlessCycleForTerminalEvent db wakeId nowMs = .ok after) :
    SameLedger db after := by
  rw [retireOwnerlessCycleForTerminalEvent_frame hok]
  exact ⟨rfl, rfl⟩

theorem updateCycleState_sameLedger {cycleId : String} {state : CycleState}
    (hok : updateCycleState db cycleId state nowMs = .ok after) :
    SameLedger db after := by
  obtain ⟨_, _, hok⟩ := of_orFault hok
  cases of_pure hok
  exact ⟨rfl, rfl⟩

theorem rescheduleDeferredFrontier_sameLedger {frontierId : String}
    {nextEligibleAtMs : Int} {outcome : RescheduleOutcome}
    (hok : rescheduleDeferredFrontier db frontierId nextEligibleAtMs nowMs =
      .ok (outcome, after)) : SameLedger db after := by
  obtain ⟨_, _, hok⟩ := of_orFault hok
  replace hok := passed hok
  split at hok
  · cases of_pure hok
    exact ⟨rfl, rfl⟩
  split at hok
  · cases of_pure hok
    exact ⟨rfl, rfl⟩
  · cases of_pure hok
    exact ⟨rfl, rfl⟩

theorem insertDeferredFrontierRecord_sameLedger [Host] {frontier : Frontier}
    (hok : insertDeferredFrontierRecord db input = .ok (frontier, after)) :
    SameLedger db after := by
  replace hok := passed hok
  replace hok := passed hok
  obtain ⟨_, _, hok⟩ := of_orFault hok
  cases of_pure hok
  exact ⟨rfl, rfl⟩

theorem scheduleFrontier_sameLedger [Host]
    (hok : scheduleFrontier db input = .ok after) : SameLedger db after := by
  unfold scheduleFrontier at hok
  split at hok
  · obtain ⟨⟨_, _⟩, hreschedule, hok⟩ := of_bind hok
    cases of_pure hok
    exact rescheduleDeferredFrontier_sameLedger hreschedule
  · obtain ⟨⟨_, _⟩, hinsert, hok⟩ := of_bind hok
    cases of_pure hok
    exact insertDeferredFrontierRecord_sameLedger hinsert

end Frames

section Settlements

variable [Host] {db after : Sidecar} {current : InboxEvent}
  {input : SettleDurableAttemptInput} {outcome : DurableSettlementOutcome}

variable {event : InboxEvent} {errorCode : String} {value : Attempt}
variable {result : HandlerResult}
variable {nowMs : Int} {id : String}

omit [Host] in
theorem closed_not_durable {row : InboxEvent} (hclosed : row.isClosed = true) :
    row.isDurableContinuation = false := by
  unfold InboxEvent.isClosed at hclosed
  unfold InboxEvent.isDurableContinuation
  cases hstate : row.state <;> simp_all

omit [Host] in
/-- A settlement that rewrites its own event, and then moves no event that has
ended, absorbs the endings. -/
theorem SettledOpen.of_rewrite (f : InboxEvent → InboxEvent)
    (hkey : ∀ row, key (f row) = key row) (hheld : Held db input current)
    (hattempts : after.attempts = (settledWith db input f hkey).attempts)
    (hkeeps : ∀ id event,
      (settledWith db input f hkey).events.get? id = some event →
        (event.isClosed = true ∨ id = input.eventId) →
          after.events.get? id = some event)
    (hreport : outcomeForSettledEvent (f current) =
      .ok (input.result.repeated outcome)) :
    SettledOpen db after input outcome where
  attempts := hattempts
  absorbed := by
    intro id event hevent hclosed
    refine hkeeps id event ?_ (.inl hclosed)
    unfold settledWith
    rw [Sidecar.get?_updateEvent]
    change (db.events.get? id).map _ = _
    rw [hevent, map_some, if_neg]
    rintro ⟨rfl, _⟩
    cases hheld.stored.symm.trans hevent
    have hdurable := closed_not_durable hclosed
    rw [busy_durable current hheld.busy] at hdurable
    cases hdurable
  reported := by
    refine ⟨f current, hkeeps _ _ ?_ (.inr rfl), hreport⟩
    unfold settledWith
    rw [Sidecar.get?_updateEvent]
    change (db.events.get? input.eventId).map _ = _
    rw [hheld.stored, map_some, if_pos ⟨rfl, hheld.held⟩]

omit [Host] in
theorem SettledOpen.of_sameLedger (f : InboxEvent → InboxEvent)
    (hkey : ∀ row, key (f row) = key row) (hheld : Held db input current)
    (hsame : SameLedger (settledWith db input f hkey) after)
    (hreport : outcomeForSettledEvent (f current) =
      .ok (input.result.repeated outcome)) :
    SettledOpen db after input outcome := by
  refine .of_rewrite f hkey hheld hsame.attempts ?_ hreport
  intro id event hevent _
  rw [hsame.events]
  exact hevent

omit [Host] in
/-- Convergence moves neither the settled event nor one that has ended. -/
theorem convergeCoveredSiblingEvents_keeps {ids : List String}
    (hevent : db.events.get? id = some event)
    (hkept : event.isClosed = true ∨ id = current.id) :
    (convergeCoveredSiblingEvents db current ids nowMs).events.get? id =
      some event := by
  unfold convergeCoveredSiblingEvents
  split
  · exact hevent
  · have hid : event.id = id := key_of_get? hevent
    simp only [get?_update, hevent, map_some]
    rw [if_neg]
    intro hguard
    simp only [Bool.and_eq_true, Bool.or_eq_true, decide_eq_true_eq]
      at hguard
    rcases hkept with hclosed | hself
    · unfold InboxEvent.isClosed at hclosed
      rcases hguard.2 with (hstate | hstate) | hstate <;>
        simp [hstate] at hclosed
    · exact hguard.1.1.2 (hid.trans hself)

omit [Host] in
theorem settleCompleted_settled (hheld : Held db input current)
    (hresult : input.result = .completed)
    (hok : settleCompleted (finishAttempt db input.attemptId input.eventId
      input.nowMs (failureFor input.result)) current input = .ok after) :
    SettledOpen db after input .completed := by
  have hsame := finishWakeForEvent_sameLedger hok
  refine .of_rewrite (fun row => row.consumedFor "completed" input.nowMs)
    (fun _ => rfl) hheld ?_ ?_ ?_
  · rw [hsame.attempts]
    unfold convergeCoveredSiblingEvents
    split <;> rfl
  · intro id event hevent hkept
    rw [hsame.events]
    refine convergeCoveredSiblingEvents_keeps hevent ?_
    rw [hheld.id]
    exact hkept
  · rw [hresult]
    rfl

theorem settleDeferred_settled {conversationId cycleId : String}
    {generation nextEligibleAtMs : Int} {latestEvidenceRowId : String}
    (hheld : Held db input current)
    (hresult : input.result = .deferredToFrontier conversationId cycleId
      generation nextEligibleAtMs latestEvidenceRowId)
    (hok : settleDeferred (finishAttempt db input.attemptId input.eventId
      input.nowMs (failureFor input.result)) current input conversationId
      cycleId generation nextEligibleAtMs latestEvidenceRowId = .ok after) :
    SettledOpen db after input .completed := by
  have hscheduled : ∃ waiting input', SameLedger (settledWith db input
      (fun row => row.consumedFor "deferred_to_frontier" input.nowMs)
      fun _ => rfl) waiting ∧ scheduleFrontier waiting input' = .ok after := by
    unfold settleDeferred at hok
    cases howner : current.wakeId.filter (· ≠ "") with
    | none | some =>
      simp only [howner] at hok
      split at hok
      · obtain ⟨_, hsame, hok⟩ := of_bind hok
        cases of_pure hsame
        refine ⟨_, _, ?_, hok⟩
        exact ⟨rfl, rfl⟩
      · obtain ⟨waiting, hwaiting, hok⟩ := of_bind hok
        have hsame := updateCycleState_sameLedger hwaiting
        exact ⟨waiting, _, ⟨hsame.events, hsame.attempts⟩, hok⟩
  obtain ⟨_, _, hwaiting, hschedule⟩ := hscheduled
  refine .of_sameLedger
    (fun row => row.consumedFor "deferred_to_frontier" input.nowMs)
    (fun _ => rfl) hheld ?_ (by rw [hresult]; rfl)
  exact hwaiting.trans (scheduleFrontier_sameLedger hschedule)

omit [Host] in
theorem settleOutcomeUnknown_settled {effectId : String}
    (hheld : Held db input current)
    (_ : input.result = .outcomeUnknown effectId errorCode)
    (hok : settleOutcomeUnknown (finishAttempt db input.attemptId input.eventId
      input.nowMs (failureFor input.result)) current input errorCode =
        .ok after) :
    SettledOpen db after input .reconciling := by
  obtain ⟨_, _, hok⟩ := of_orFault hok
  cases of_pure hok
  exact .of_sameLedger (fun row => row.fenced errorCode)
    (fun _ => rfl) hheld ⟨rfl, rfl⟩ (by rfl)

omit [Host] in
theorem settleFailed_settled {failureClass : DurableFailureClass}
    {retryAfterMs : Option Int} (hheld : Held db input current)
    (hok : settleFailed (finishAttempt db input.attemptId input.eventId
      input.nowMs (failureFor input.result)) current value input failureClass
      errorCode retryAfterMs = .ok (outcome, after)) :
    SettledOpen db after input outcome := by
  unfold settleFailed at hok
  split at hok
  · rename_i nextEligibleAtMs _
    obtain ⟨_, _, hok⟩ := of_orFault hok
    obtain ⟨rfl, rfl⟩ := of_pure_pair hok
    exact .of_sameLedger
      (fun row =>
        row.waitingUntil nextEligibleAtMs (some failureClass) errorCode)
      (fun _ => rfl) hheld ⟨rfl, rfl⟩ rfl
  · rename_i reason _
    obtain ⟨_, hended, hok⟩ := of_bind hok
    obtain ⟨_, hretired, hok⟩ := of_bind hok
    obtain ⟨rfl, rfl⟩ := of_pure_pair hok
    refine .of_sameLedger
      (fun row => row.failedFor
        (terminalFailure failureClass errorCode reason) failureClass errorCode)
      (fun _ => rfl) hheld ?_ ?_
    · exact (finishWakeForEvent_sameLedger hended).trans
        (retireOwnerlessCycleForTerminalEvent_sameLedger hretired)
    · unfold terminalFailure
      split
      · rfl
      · split <;> rfl
      · rfl

theorem settleSuperseded_settled {result : SupersessionResult}
    (hsound : Sound db) (hheld : Held db input current)
    (hok : supersedeDurableAttemptInTransaction (finishAttempt db
      input.attemptId input.eventId input.nowMs (failureFor input.result))
      current result input.nowMs = .ok after) :
    SettledOpen db after input (.terminal "superseded") := by
  obtain ⟨hexact, honly⟩ := settleSuperseded_exact hsound hheld hok
  refine ⟨?_, ?_, ?_⟩
  · obtain ⟨_, _, hok⟩ := of_bind hok
    obtain ⟨_, hfinish, hretire⟩ := of_bind hok
    rw [(retireOwnerlessCycleForTerminalEvent_sameLedger hretire).attempts,
      (finishWakeForEvent_sameLedger hfinish).attempts]
  · intro id event hevent hclosed
    rw [honly.kept id ?_]
    · exact hevent
    intro hcovered
    obtain ⟨_, hrow, _, _, hdurable⟩ :=
        hexact.owned id (List.mem_append_left _ hcovered)
    cases hevent.symm.trans hrow
    rw [closed_not_durable hclosed] at hdurable
    cases hdurable
  · obtain ⟨_, _, hrow⟩ := honly.covered current.id hexact.primary
    rw [hheld.id] at hrow
    exact ⟨_, hrow, rfl⟩

/-- Whatever its result, settling an open attempt records it, leaves every
ended event as it was, and reports what the event then says. -/
theorem settleOpenAttempt_settled (hsound : Sound db)
    (hstored : db.events.get? input.eventId = some current)
    (hok : settleOpenAttempt db current value input = .ok (outcome, after)) :
    SettledOpen db after input outcome := by
  obtain ⟨hheldBy, hok⟩ := of_require hok
  have hheld : Held db input current := ⟨hstored, hheldBy⟩
  cases hresult : input.result with
  | superseded =>
    simp only [hresult] at hok
    rw [← hresult] at hok
    obtain ⟨_, hsettle, hok⟩ := of_bind hok
    obtain ⟨rfl, rfl⟩ := of_pure_pair hok
    exact settleSuperseded_settled hsound hheld hsettle
  | completed =>
    simp only [hresult] at hok
    rw [← hresult] at hok
    obtain ⟨_, hsettle, hok⟩ := of_bind hok
    obtain ⟨rfl, rfl⟩ := of_pure_pair hok
    exact settleCompleted_settled hheld hresult hsettle
  | deferredToFrontier =>
    simp only [hresult] at hok
    rw [← hresult] at hok
    obtain ⟨_, hsettle, hok⟩ := of_bind hok
    obtain ⟨rfl, rfl⟩ := of_pure_pair hok
    exact settleDeferred_settled hheld hresult hsettle
  | outcomeUnknown =>
    simp only [hresult] at hok
    rw [← hresult] at hok
    obtain ⟨_, hsettle, hok⟩ := of_bind hok
    obtain ⟨rfl, rfl⟩ := of_pure_pair hok
    exact settleOutcomeUnknown_settled hheld hresult hsettle
  | failed =>
    simp only [hresult] at hok
    rw [← hresult] at hok
    exact settleFailed_settled hheld hok

omit [Host] in
/-- The attempt that a settlement finishes records its result. -/
theorem finishAttempt_records {attemptId eventId : String}
    (hvalue : attemptOfEvent db attemptId eventId = some value)
    (hopen : value.finishedAtMs = none) :
    ∃ recorded, (finishAttempt db attemptId eventId nowMs
        (failureFor result)).attempts.get? attemptId = some recorded ∧
      recorded.eventId = eventId ∧ recorded.finishedAtMs.isSome = true ∧
      sameSettlement recorded result = true := by
  obtain ⟨hstored, howner⟩ := attemptOfEvent_eq_some_iff.mp hvalue
  have hid : value.attemptId = attemptId := key_of_get? hstored
  have hread : (finishAttempt db attemptId eventId nowMs
      (failureFor result)).attempts.get? attemptId = some
        { value with
          finishedAtMs := some nowMs
          dispatchTruth := (failureFor result).dispatchTruth
          failureClass := (failureFor result).failureClass
          errorCode := (failureFor result).errorCode } := by
    unfold finishAttempt
    simp only [get?_update, hstored, map_some]
    rw [if_pos (by simp [hid, howner, hopen])]
  exact ⟨_, hread, howner, rfl, by simp [sameSettlement]⟩

omit [Host] in
/-- No event reports a completion as its first settlement did. -/
theorem repeated_of_reported
    (hreport : outcomeForSettledEvent event = .ok outcome) :
    result.repeated outcome = outcome := by
  unfold outcomeForSettledEvent at hreport
  split at hreport <;> cases hreport <;> rfl

/-- A settlement that committed, and did not contradict the record, left the
result recorded and an event that reports it. -/
theorem settleDurableAttempt_records (hsound : Sound db)
    (hfirst : ∀ value, attemptOfEvent db input.attemptId input.eventId =
      some value → value.finishedAtMs = none ∨
        sameSettlement value input.result = true)
    (hok : settleDurableAttempt db input = .ok (outcome, after)) :
    (∃ recorded, after.attempts.get? input.attemptId = some recorded ∧
      recorded.eventId = input.eventId ∧
      recorded.finishedAtMs.isSome = true ∧
      sameSettlement recorded input.result = true) ∧
    ∃ event, after.events.get? input.eventId = some event ∧
      outcomeForSettledEvent event = .ok (input.result.repeated outcome) := by
  obtain ⟨current, hcurrent, hok⟩ := of_bind hok
  obtain ⟨value, hvalue, hok⟩ := of_orFault hok
  have hstored := orFault_ok.mp hcurrent
  obtain ⟨hattempt, howner⟩ := attemptOfEvent_eq_some_iff.mp hvalue
  split at hok
  · rename_i hfinished
    have hsame : sameSettlement value input.result = true := by
      refine (hfirst value hvalue).resolve_left ?_
      intro hopen
      rw [hopen] at hfinished
      cases hfinished
    rw [if_pos hsame] at hok
    obtain ⟨_, hreport, hok⟩ := of_bind hok
    obtain ⟨rfl, rfl⟩ := of_pure_pair hok
    refine ⟨⟨value, hattempt, howner, hfinished, hsame⟩, current, hstored, ?_⟩
    rw [repeated_of_reported hreport]
    exact hreport
  · rename_i hopen
    have hsettled := settleOpenAttempt_settled hsound hstored hok
    refine ⟨?_, hsettled.reported⟩
    rw [hsettled.attempts]
    exact finishAttempt_records hvalue (by simpa using hopen)

/-- How a later repeat of a settlement is answered. While the attempt records
the error code of the result, the repeat writes nothing and reports what the
event says then; that is the first outcome as long as nothing moved the event.
Only a result without an error code can lose its record, to a contradiction. -/
structure RepeatsAs (mid later : Sidecar) (input : SettleDurableAttemptInput)
    (outcome : DurableSettlementOutcome) : Prop where
  answered : ∃ event value,
    later.events.get? input.eventId = some event ∧
    attemptOfEvent later input.attemptId input.eventId = some value ∧
    (value.errorCode = (failureFor input.result).errorCode →
      settleDurableAttempt later input =
        (fun reported => (reported, later)) <$> outcomeForSettledEvent event)
  recorded : ∀ value,
    attemptOfEvent later input.attemptId input.eventId = some value →
    (failureFor input.result).errorCode.isSome = true →
      value.errorCode = (failureFor input.result).errorCode
  unmoved : ∀ event, mid.events.get? input.eventId = some event →
    later.events.get? input.eventId = some event →
      outcomeForSettledEvent event = .ok (input.result.repeated outcome)

/-- A result that contradicts the record of a finished attempt. -/
def Contradicts (db : Sidecar) (input : SettleDurableAttemptInput) : Prop :=
  ∃ value, attemptOfEvent db input.attemptId input.eventId = some value ∧
    value.finishedAtMs.isSome = true ∧
    sameSettlement value input.result = false

theorem settleDurableAttempt_absorbs (hsound : Sound db)
    (hok : settleDurableAttempt db input = .ok (outcome, after))
    (hevent : db.events.get? id = some event) (hclosed : event.isClosed = true) :
    after.events.get? id = some event ∨
      (id = input.eventId ∧ Contradicts db input ∧ after.events.get? id =
        some (event.quarantinedFor "contradictory_result")) := by
  obtain ⟨current, hcurrent, hok⟩ := of_bind hok
  obtain ⟨value, hvalue, hok⟩ := of_orFault hok
  have hstored := orFault_ok.mp hcurrent
  have hid : current.id = input.eventId := key_of_get? hstored
  split at hok
  · rename_i hfinished
    split at hok
    · obtain ⟨_, _, hok⟩ := of_bind hok
      obtain ⟨_, rfl⟩ := of_pure_pair hok
      exact .inl hevent
    · rename_i hother
      obtain ⟨_, hcontra, hok⟩ := of_bind hok
      obtain ⟨_, rfl⟩ := of_pure_pair hok
      obtain ⟨quarantined, hquarantine, hmark⟩ := of_bind hcontra
      cases of_pure hmark
      have hevents := quarantineEvent_events hquarantine
      change quarantined.events.get? id = some event ∨ (_ ∧ _ ∧
        quarantined.events.get? id = _)
      rw [hevents, Sidecar.get?_updateEvent, hevent, map_some, hid]
      by_cases hself : id = input.eventId
      · refine .inr ⟨hself, ⟨value, hvalue, hfinished, ?_⟩, ?_⟩
        · exact Bool.eq_false_iff.mpr hother
        · rw [if_pos ⟨hself, rfl⟩]
      · refine .inl ?_
        rw [if_neg fun hboth => hself hboth.1]
  · exact .inl ((settleOpenAttempt_settled hsound hstored hok).absorbed id
      event hevent hclosed)

/-- A repeat of a result that the attempt records is answered from the event. -/
theorem settleDurableAttempt_same
    (hstored : db.events.get? input.eventId = some current)
    (hvalue : attemptOfEvent db input.attemptId input.eventId = some value)
    (hfinished : value.finishedAtMs.isSome = true)
    (hsame : sameSettlement value input.result = true) :
    settleDurableAttempt db input =
      (fun reported => (reported, db)) <$> outcomeForSettledEvent current := by
  unfold settleDurableAttempt eventRow
  rw [hstored, hvalue]
  simp only [orFault_some, ok_bind]
  rw [if_pos hfinished, if_pos hsame]
  cases outcomeForSettledEvent current <;> rfl

theorem repeatsAs_of_records {mid : Sidecar}
    {repeated : SettleDurableAttemptInput} {recorded : Attempt}
    (hsound : Sound mid)
    (hrecorded : mid.attempts.get? input.attemptId = some recorded)
    (howner : recorded.eventId = input.eventId)
    (hfinished : recorded.finishedAtMs.isSome = true)
    (hsame : sameSettlement recorded input.result = true)
    (hevent : mid.events.get? input.eventId = some current)
    (hreport : outcomeForSettledEvent current =
      .ok (input.result.repeated outcome))
    (hids : repeated.eventId = input.eventId ∧
      repeated.attemptId = input.attemptId ∧ repeated.result = input.result)
    (ops : List Op) :
    RepeatsAs mid (run step mid ops) repeated outcome := by
  obtain ⟨value, hvalue, hdescends⟩ := run_attempt_forward hsound hrecorded ops
  obtain ⟨event, hlater, _⟩ := run_event_forward hsound hevent ops
  obtain ⟨hfinish, htruth, hclass, hcode⟩ := hdescends.stays hfinished
  simp only [sameSettlement, Bool.and_eq_true, decide_eq_true_eq] at hsame
  have hof : attemptOfEvent (run step mid ops) repeated.attemptId
      repeated.eventId = some value := by
    rw [hids.1, hids.2.1]
    exact attemptOfEvent_eq_some_iff.mpr
      ⟨hvalue, hdescends.eventId.trans howner⟩
  refine ⟨⟨event, value, ?_, hof, ?_⟩, ?_, ?_⟩
  · rw [hids.1]
    exact hlater
  · intro hkept
    refine settleDurableAttempt_same (by rw [hids.1]; exact hlater) hof ?_ ?_
    · rw [hfinish]
      exact hfinished
    · rw [hids.2.2] at hkept ⊢
      simp [sameSettlement, htruth, hclass, hsame.1.1, hsame.1.2, hkept]
  · intro value' hvalue' hcoded
    cases hof.symm.trans hvalue'
    rw [hids.2.2] at hcoded ⊢
    rw [hcode (by rw [hsame.2]; exact hcoded), hsame.2]
  · intro event' hbefore hafter
    rw [hids.1] at hbefore
    cases hevent.symm.trans hbefore
    rw [hids.2.2]
    exact hreport

/-- A settlement that committed without contradicting its attempt's record can
be repeated at any later time, after any operations, without writing anything;
and no settlement changes an event that has ended, unless its result contradicts
the record of its finished attempt, which quarantines that attempt's event. -/
theorem settlement_replay (hreached : Reached db) :
    (∀ input outcome mid,
      (∀ value, attemptOfEvent db input.attemptId input.eventId = some value →
        value.finishedAtMs = none ∨
          sameSettlement value input.result = true) →
      settleDurableAttempt db input = .ok (outcome, mid) →
      ∀ ops repeated, repeated.eventId = input.eventId →
        repeated.attemptId = input.attemptId →
        repeated.result = input.result →
          RepeatsAs mid (run step mid ops) repeated outcome) ∧
    (∀ input outcome after,
      settleDurableAttempt db input = .ok (outcome, after) →
      ∀ id event, db.events.get? id = some event → event.isClosed = true →
        after.events.get? id = some event ∨
          (id = input.eventId ∧ Contradicts db input ∧
            after.events.get? id =
              some (event.quarantinedFor "contradictory_result"))) := by
  have hsound := hreached.sound
  refine ⟨?_, ?_⟩
  · intro input outcome mid hfirst hok ops repeated hid hattempt hresult
    have hmid : step (.settle input) db = mid := by
      show commit db (Prod.snd <$> settleDurableAttempt db input) = mid
      rw [hok]
      rfl
    have hsound' : Sound mid := by
      rw [← hmid]
      exact step_sound hsound
    obtain ⟨⟨_, hrecorded, howner, hfinished, hsame⟩, _, hevent, hreport⟩ :=
      settleDurableAttempt_records hsound hfirst hok
    exact repeatsAs_of_records hsound' hrecorded howner hfinished hsame hevent
      hreport ⟨hid, hattempt, hresult⟩ ops
  · intro input outcome after hok id event hevent hclosed
    exact settleDurableAttempt_absorbs hsound hok hevent hclosed

end Settlements

section Plain

attribute [local instance] plainHost

/-- The first message is done with, under some result. -/
def firstSettled (result : HandlerResult) : SettleDurableAttemptInput :=
  { eventId := "e", attemptId := "attempt:uu", claimToken := "wake-lease:u"
    result, nowMs := 3 }

/-- A failed first message is settled again after the second message was
claimed. -/
theorem settlement_replay_failed :
    ∃ outcome mid, settleDurableAttempt (run step {} twoMessages)
        (firstSettled timedOut) = .ok (outcome, mid) ∧
      RepeatsAs mid (run step mid [.claimNext { workerId := "v", nowMs := 4 }])
        (firstSettled timedOut) outcome := by
  have hcommits : (settleDurableAttempt (run step {} twoMessages)
      (firstSettled timedOut)).toOption.isSome = true := by
    decide +kernel
  have hopen : ((attemptOfEvent (run step {} twoMessages) "attempt:uu"
      "e").all (·.finishedAtMs = none)) = true := by
    decide +kernel
  cases hsettle : settleDurableAttempt (run step {} twoMessages)
      (firstSettled timedOut) with
  | error =>
    rw [hsettle] at hcommits
    cases hcommits
  | ok settled =>
    refine ⟨settled.1, settled.2, rfl, ?_⟩
    refine (settlement_replay ⟨twoMessages, rfl⟩).1 (firstSettled timedOut)
      settled.1 settled.2 ?_ hsettle _ _ rfl rfl rfl
    intro value hvalue
    exact Or.inl (of_decide_eq_true
      ((Option.all_eq_true _ _).mp hopen value hvalue))

/-- Two messages on one wake, the first of which is worked on. -/
def siblingMessages : List Op :=
  [.appendInboxEvent
      { conversationId := "d", kind := "owner_message", createdAtMs := 1 }
      (some "e"),
    .appendInboxEvent
      { conversationId := "d", kind := "owner_message", createdAtMs := 1
        wakeId := some "wake:wake-occurrence:inboxed" }
      (some "f"),
    .startAttempt { eventId := "e", workerId := "w", nowMs := 2 }]

/-- A completed settlement reports otherwise when it is repeated, and a failure
reported for the same attempt quarantines the completed event. -/
theorem completed_settlement_replays_otherwise :
    (settleDurableAttempt (run step {} siblingMessages)
        (firstSettled .completed)).toOption.map Prod.fst = some .completed ∧
      (settleDurableAttempt (run step {}
          (siblingMessages ++ [.settle (firstSettled .completed)]))
        (firstSettled .completed)).toOption.map Prod.fst =
          some (.terminal "completed") ∧
      ((run step {} (siblingMessages ++
          [.settle (firstSettled .completed)])).events.get? "e").map
        (fun event => (event.state, event.terminalReason)) =
          some (.terminal, some "completed") ∧
      ((run step {} (siblingMessages ++ [.settle (firstSettled .completed),
          .settle (firstSettled timedOut)])).events.get? "e").map
        InboxEvent.state = some .quarantined := by
  decide +kernel

end Plain

end CognitiveSidecar
