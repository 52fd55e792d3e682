/-
Supersession: a settlement that hands the Owner events of a wake over to a
successor commits only under a coverage that accounts for each of them once,
and then closes what is covered and nothing else.
-/
import CognitiveSidecar.ClaimProgress

namespace CognitiveSidecar

open Option Relational

/-- The coverage of a supersession is exact: it lists every live Owner event of
the wake once, as covered or as uncovered, and nothing else; its hash binds the
lists; and its successor is a live Owner event of another wake. -/
structure ExactCoverage [Host] (db : Sidecar) (current : InboxEvent)
    (result : SupersessionResult) : Prop where
  primary : current.id ∈ result.coveredOwnerEventIds
  covered : result.coveredOwnerEventIds.Nodup
  uncovered : result.uncoveredOwnerEventIds.Nodup
  disjoint : ∀ id ∈ result.coveredOwnerEventIds,
    id ∉ result.uncoveredOwnerEventIds
  complete : ∀ id event, db.events.get? id = some event →
    event.wakeId = current.wakeId →
    isOwnerObligationEventKind event.kind = true →
    event.isDurableContinuation = true →
    id ∈ result.coveredOwnerEventIds ++ result.uncoveredOwnerEventIds
  owned : ∀ id ∈ result.coveredOwnerEventIds ++ result.uncoveredOwnerEventIds,
    ∃ event, db.events.get? id = some event ∧ event.wakeId = current.wakeId ∧
      isOwnerObligationEventKind event.kind = true ∧
      event.isDurableContinuation = true
  hash : result.coverageHash = ownerCoverageHash current.id
    result.coveredOwnerEventIds result.uncoveredOwnerEventIds
  successor : isValidSuccessor db current result = true ∧
    current.wakeId ≠ some result.successorWakeId

/-- What a supersession leaves: the covered events closed, every other event as
it was, and a wake that can be claimed exactly while an event of it is live. -/
structure SupersededOnly (db after : Sidecar) (current : InboxEvent)
    (result : SupersessionResult) (nowMs : Int) : Prop where
  covered : ∀ id ∈ result.coveredOwnerEventIds, ∃ event,
    db.events.get? id = some event ∧
      after.events.get? id = some (event.supersededAt nowMs)
  kept : ∀ id, id ∉ result.coveredOwnerEventIds →
    after.events.get? id = db.events.get? id
  wake : ∃ wakeId wake, current.wakeId = some wakeId ∧
    after.wakes.get? wakeId = some wake ∧
    ∀ nowMs, wake.isGrantable after nowMs = true ↔
      ∃ id event, after.events.get? id = some event ∧
        event.wakeId = some wakeId ∧ event.isDurableContinuation = true

section Settlements

variable [Host] {db after : Sidecar} {current : InboxEvent}
  {result : SupersessionResult} {input : SettleDurableAttemptInput}

theorem validateSupersession_exact {finished : Sidecar} {covered : List String}
    (hfenced : Fenced db) (hheld : Held db input current)
    (hevents : finished.events = db.events) (hwakes : finished.wakes = db.wakes)
    (hok : validateSupersession finished current result = .ok covered) :
    ExactCoverage db current result ∧ covered = result.coveredOwnerEventIds ∧
      ∃ wakeId wake, current.wakeId = some wakeId ∧
        db.wakes.get? wakeId = some wake ∧ wake.state ≠ .terminal := by
  obtain ⟨wakeId, hwakeId, hok⟩ := of_orFault hok
  obtain ⟨hhash, hok⟩ := of_require hok
  obtain ⟨hprimary, hok⟩ := of_require hok
  obtain ⟨⟨hcovered, huncovered⟩, hok⟩ := of_require hok
  obtain ⟨hdisjoint, hok⟩ := of_require hok
  obtain ⟨hopen, hok⟩ := of_require hok
  obtain ⟨hother, hok⟩ := of_require hok
  obtain ⟨hsuccessor, hok⟩ := of_require hok
  obtain ⟨howned, hok⟩ := of_require hok
  obtain ⟨hcomplete, hok⟩ := of_require hok
  cases of_pure hok
  have howner : current.wakeId = some wakeId :=
    (filter_eq_some_iff.mp hwakeId).1
  have hstored : db.events.get? current.id = some current := by
    rw [hheld.id]
    exact hheld.stored
  obtain ⟨wake, hwake, hopen⟩ := (any_eq_true _ _).mp hopen
  unfold getWake at hwake
  rw [hwakes] at hwake
  refine ⟨⟨hprimary, hcovered, huncovered, hdisjoint, ?_, ?_, hhash, ?_, ?_⟩,
    rfl, wakeId, wake, howner, hwake, of_decide_eq_true hopen⟩
  · intro id event hevent hsame hkind hdurable
    have hid : event.id = id := key_of_get? hevent
    have hmem : event ∈ finished.events.rows := by
      rw [hevents]
      exact mem_of_get? hevent
    rw [← hid]
    refine hcomplete event hmem ?_
    unfold InboxEvent.isExpectedBy
    by_cases hcurrent : event.id = current.id
    · simp [hsame, hkind, hcurrent]
    -- Another busy event of the wake would be the one that is settled.
    have hidle : event.isBusy = false := by
      rw [Bool.eq_false_iff]
      intro hbusy
      refine hcurrent ?_
      rw [hid, hheld.id]
      exact noOtherBusy hfenced hheld.stored hheld.busy howner hevent
        (hsame.trans howner) hbusy
    have hclaimable : event.isClaimableContinuation = true := by
      unfold InboxEvent.isBusy at hidle
      unfold InboxEvent.isDurableContinuation at hdurable
      unfold InboxEvent.isClaimableContinuation
      cases hstate : event.state <;> simp_all
    simp [hsame, hkind, hclaimable]
  · intro id hid
    have hcoverable := howned id hid
    unfold isCoverableOwnerEvent at hcoverable
    split at hcoverable
    · rename_i hcurrent
      refine ⟨current, by rw [hcurrent]; exact hstored, rfl, hcoverable, ?_⟩
      simp [InboxEvent.isDurableContinuation, hheld.leased]
    · obtain ⟨event, hevent, htests⟩ := (any_eq_true _ _).mp hcoverable
      simp only [Bool.and_eq_true, decide_eq_true_eq] at htests
      rw [hevents] at hevent
      exact ⟨event, hevent, htests.1.1, htests.1.2,
        claimable_durable event htests.2⟩
  · unfold isValidSuccessor getWake at hsuccessor ⊢
    rw [hevents, hwakes] at hsuccessor
    exact hsuccessor
  · rw [howner]
    exact fun hsame => hother (some.inj hsame).symm

omit [Host] in
/-- Ending an event as superseded leaves its wake pending while another event
continues it, and closes it otherwise. -/
theorem finishWakeForEvent_superseded {wakeId : String} {wake : Wake}
    {nowMs : Int} (howner : current.wakeId = some wakeId)
    (hwake : db.wakes.get? wakeId = some wake) (hopen : wake.state ≠ .terminal)
    (hok : finishWakeForEvent db current .superseded nowMs = .ok after) :
    after.events = db.events ∧ ∃ ended, after.wakes.get? wakeId = some ended ∧
      ended.state =
        if hasOtherDurableContinuationForWake db wakeId current.id then .pending
        else .terminal := by
  obtain ⟨_, htarget, hok⟩ := of_orFault hok
  cases howner.symm.trans (filter_eq_some_iff.mp htarget).1
  obtain ⟨_, hstored, hok⟩ := of_bind hok
  cases hwake.symm.trans (getWakeRequired_ok.mp hstored)
  have hkeeps : keepsWakeOpen db wakeId current.id .superseded =
      hasOtherDurableContinuationForWake db wakeId current.id := by
    simp [keepsWakeOpen]
  rw [hkeeps] at hok
  by_cases hother : hasOtherDurableContinuationForWake db wakeId current.id = true
  · rw [if_pos hother] at hok
    cases of_pure hok
    refine ⟨wakeToPending_events, wake.unleased .pending nowMs, ?_, ?_⟩
    · unfold wakeToPending
      rw [Sidecar.get?_updateWake, hwake, map_some,
        if_pos ⟨rfl, decide_eq_true hopen⟩]
    · rw [if_pos hother]
  · rw [if_neg hother, if_neg hopen] at hok
    rw [if_neg hother]
    split at hok
    · obtain ⟨_, hstored, hok⟩ := of_bind hok
      cases hwake.symm.trans (getWakeRequired_ok.mp hstored)
      rw [if_neg hopen] at hok
      cases of_pure hok
      refine ⟨rfl, wake.closed .superseded nowMs, ?_, rfl⟩
      rw [Sidecar.get?_updateWake, hwake, map_some,
        if_pos ⟨rfl, decide_eq_true hopen⟩]
    · obtain ⟨_, hstored, hok⟩ := of_bind hok
      cases hwake.symm.trans (getWakeRequired_ok.mp hstored)
      rw [if_neg hopen] at hok
      replace hok := passed hok
      replace hok := passed hok
      replace hok := passed hok
      obtain ⟨hfinishable, hok⟩ := of_require hok
      cases of_pure hok
      refine ⟨rfl, wake.closed .superseded nowMs, ?_, rfl⟩
      rw [Sidecar.get?_updateWake, hwake, map_some,
        if_pos ⟨rfl, hfinishable⟩]

/-- An open settlement that commits as superseded had an exact coverage, and
closes what is covered only. -/
theorem settleSuperseded_exact (hsound : Sound db)
    (hheld : Held db input current)
    (hok : supersedeDurableAttemptInTransaction (finishAttempt db
      input.attemptId input.eventId input.nowMs (failureFor input.result))
      current result input.nowMs = .ok after) :
    ExactCoverage db current result ∧
      SupersededOnly db after current result input.nowMs := by
  obtain ⟨_, hvalid, hclose⟩ := of_bind hok
  obtain ⟨_, hfinish, hretire⟩ := of_bind hclose
  obtain ⟨hexact, rfl, wakeId, wake, howner, hwake, hopen⟩ :=
    validateSupersession_exact hsound.fenced hheld rfl rfl hvalid
  have hstored : (supersededWith db input current
      result.coveredOwnerEventIds).wakes.get? wakeId = some wake := hwake
  obtain ⟨hevents, ended, hended, hstate⟩ :=
    finishWakeForEvent_superseded howner hstored hopen hfinish
  have hframe := retireOwnerlessCycleForTerminalEvent_frame hretire
  have hafter : after.events = (supersededWith db input current
      result.coveredOwnerEventIds).events := by
    rw [hframe, hevents]
  have hread : ∀ id, after.events.get? id = (db.events.get? id).map fun row =>
      if id ∈ result.coveredOwnerEventIds ∧ row.wakeId = current.wakeId then
        row.supersededAt input.nowMs else row := by
    intro id
    rw [hafter]
    simp only [supersededWith, get?_update]
    exact map_get?_congr fun row (hid : row.id = id) => by simp [hid]
  have hlive : hasOtherDurableContinuationForWake (supersededWith db input
      current result.coveredOwnerEventIds) wakeId current.id = true ↔
      ∃ id event, after.events.get? id = some event ∧
        event.wakeId = some wakeId ∧ event.isDurableContinuation = true := by
    rw [hasOtherDurableContinuationForWake_iff, ← hafter]
    constructor
    · rintro ⟨id, row, hrow, hrowOwner, _, hdurable⟩
      exact ⟨id, row, hrow, hrowOwner, hdurable⟩
    · rintro ⟨id, row, hrow, hrowOwner, hdurable⟩
      refine ⟨id, row, hrow, hrowOwner, ?_, hdurable⟩
      rintro rfl
      rw [hread, hheld.id, hheld.stored, map_some,
        if_pos ⟨hheld.id ▸ hexact.primary, rfl⟩] at hrow
      cases hrow
      cases hdurable
  refine ⟨hexact, ?_, ?_, wakeId, ended, howner, ?_, ?_⟩
  · intro id hid
    obtain ⟨event, hevent, hsame, _⟩ :=
      hexact.owned id (List.mem_append_left _ hid)
    refine ⟨event, hevent, ?_⟩
    rw [hread, hevent, map_some, if_pos ⟨hid, hsame⟩]
  · intro id hid
    rw [hread]
    cases hrow : db.events.get? id with
    | none => rfl
    | some => rw [map_some, if_neg fun hboth => hid hboth.1]
  · rw [hframe]
    exact hended
  · intro _
    rw [← hlive]
    unfold Wake.isGrantable
    cases hother : hasOtherDurableContinuationForWake (supersededWith db input
        current result.coveredOwnerEventIds) wakeId current.id with
    | true =>
      rw [hother, if_pos rfl] at hstate
      rw [hstate]
    | false =>
      rw [hother, if_neg Bool.false_ne_true] at hstate
      rw [hstate]

omit [Host] in
theorem not_finished {value : Attempt} (hopen : value.finishedAtMs = none) :
    ¬ value.finishedAtMs.isSome = true := by
  rw [hopen]
  exact Bool.false_ne_true

/-- In every reachable state a superseded settlement of an attempt that is open
commits only under an exact coverage and then closes exactly the covered events;
under any other it faults and changes nothing. -/
theorem supersession_exact (hreached : Reached db)
    (hresult : input.result = .superseded result)
    (hopen : ∀ value, attemptOfEvent db input.attemptId input.eventId =
      some value → value.finishedAtMs = none) :
    (∀ outcome after, settleDurableAttempt db input = .ok (outcome, after) →
      outcome = .terminal "superseded" ∧ ∃ current,
        db.events.get? input.eventId = some current ∧
        ExactCoverage db current result ∧
        SupersededOnly db after current result input.nowMs) ∧
    ((∀ current, db.events.get? input.eventId = some current →
        ¬ ExactCoverage db current result) →
      ∃ fault, settleDurableAttempt db input = .error fault ∧
        step (.settle input) db = db) := by
  have hcommits : ∀ outcome after,
      settleDurableAttempt db input = .ok (outcome, after) →
      outcome = .terminal "superseded" ∧ ∃ current,
        db.events.get? input.eventId = some current ∧
        ExactCoverage db current result ∧
        SupersededOnly db after current result input.nowMs := by
    intro _ _ hok
    obtain ⟨current, hcurrent, hok⟩ := of_bind hok
    obtain ⟨value, hvalue, hok⟩ := of_orFault hok
    have hstored := orFault_ok.mp hcurrent
    rw [if_neg (not_finished (hopen value hvalue))] at hok
    obtain ⟨hheldBy, hok⟩ := of_require hok
    simp only [hresult] at hok
    rw [← hresult] at hok
    obtain ⟨_, hsettle, hok⟩ := of_bind hok
    cases of_pure hok
    obtain ⟨hexact, honly⟩ := settleSuperseded_exact hreached.sound
      ⟨hstored, hheldBy⟩ hsettle
    exact ⟨rfl, current, hstored, hexact, honly⟩
  refine ⟨hcommits, ?_⟩
  intro hinexact
  cases hsettle : settleDurableAttempt db input with
  | ok settled =>
    obtain ⟨_, current, hcurrent, hexact, _⟩ :=
      hcommits settled.1 settled.2 hsettle
    exact absurd hexact (hinexact current hcurrent)
  | error fault =>
    refine ⟨fault, rfl, ?_⟩
    show commit db (Prod.snd <$> settleDurableAttempt db input) = db
    rw [hsettle]
    rfl

end Settlements

section Plain

attribute [local instance] plainHost

/-- Two messages of the Owner, the first of which is worked on. -/
def twoMessages : List Op :=
  [.appendInboxEvent
      { conversationId := "d", kind := "owner_message", createdAtMs := 1 }
      (some "e"),
    .startAttempt { eventId := "e", workerId := "w", nowMs := 1 },
    .appendInboxEvent
      { conversationId := "d", kind := "owner_message", createdAtMs := 2 }
      (some "f")]

/-- The second message takes over what is covered of the first. -/
def takenOver (covered : List String) (coverageHash : String) :
    SupersessionResult :=
  { successorWakeId := "wake:wake-occurrence:inboxfd", successorEventId := "f"
    coveredOwnerEventIds := covered, uncoveredOwnerEventIds := []
    coverageHash }

/-- The first message is handed over to the second, under some coverage. -/
def handedOver (covered : List String) (coverageHash : String) :
    SettleDurableAttemptInput :=
  { eventId := "e", attemptId := "attempt:uu", claimToken := "wake-lease:u"
    result := .superseded (takenOver covered coverageHash), nowMs := 3 }

/-- The coverage of the first message alone. -/
def exactHash : String := ownerCoverageHash "e" ["e"] []

/-- A failure that is tried again. -/
def timedOut : HandlerResult :=
  .failed ⟨.transientRetryable, by decide⟩ "timeout" none none

/-- The attempt of the first message failed, and will be retried. -/
def failedFirst : List Op :=
  twoMessages ++ [.settle
    { eventId := "e", attemptId := "attempt:uu", claimToken := "wake-lease:u"
      result := timedOut, nowMs := 3 }]

/-- Under the right hash the first message is closed, and nothing else. -/
theorem supersession_exact_handed :
    ∃ outcome after current, settleDurableAttempt (run step {} twoMessages)
        (handedOver ["e"] exactHash) = .ok (outcome, after) ∧
      outcome = .terminal "superseded" ∧
      ExactCoverage (run step {} twoMessages) current
        (takenOver ["e"] exactHash) ∧
      SupersededOnly (run step {} twoMessages) after current
        (takenOver ["e"] exactHash) 3 := by
  have hcommits : (settleDurableAttempt (run step {} twoMessages)
      (handedOver ["e"] exactHash)).toOption.isSome = true := by
    decide +kernel
  have hopen : ((attemptOfEvent (run step {} twoMessages) "attempt:uu"
      "e").all (·.finishedAtMs = none)) = true := by
    decide +kernel
  have hexact := @supersession_exact _ (run step {} twoMessages)
    (takenOver ["e"] exactHash) (handedOver ["e"] exactHash)
    ⟨twoMessages, rfl⟩ rfl fun value hvalue =>
      of_decide_eq_true ((Option.all_eq_true _ _).mp hopen value hvalue)
  cases hsettle : settleDurableAttempt (run step {} twoMessages)
      (handedOver ["e"] exactHash) with
  | error =>
    rw [hsettle] at hcommits
    cases hcommits
  | ok settled =>
    obtain ⟨houtcome, current, _, hcoverage, honly⟩ :=
      hexact.1 settled.1 settled.2 hsettle
    exact ⟨settled.1, settled.2, current, rfl, houtcome, hcoverage, honly⟩

/-- A supersession that covers nothing, of an attempt that has failed already,
does not fault: the event is quarantined as contradictory. -/
theorem finished_attempt_ignores_coverage :
    (∀ current, ¬ ExactCoverage (run step {} failedFirst) current
        (takenOver [] "")) ∧
      (settleDurableAttempt (run step {} failedFirst)
        (handedOver [] "")).toOption.map Prod.fst =
          some (.terminal "contradictory_result") ∧
      ((run step {} failedFirst).events.get? "e").map InboxEvent.state =
        some .retryWait ∧
      ((step (.settle (handedOver [] "")) (run step {} failedFirst)).events.get?
        "e").map InboxEvent.state = some .quarantined := by
  refine ⟨?_, by decide +kernel, by decide +kernel, by decide +kernel⟩
  intro _ hexact
  exact absurd hexact.primary List.not_mem_nil

end Plain

end CognitiveSidecar
