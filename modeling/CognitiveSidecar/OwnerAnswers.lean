/-
How often an Owner message is answered: one settlement at most on the wake of
each inbox event, further ones only for repairs, and a fresh one only while the
answering pass holds its claim.
-/
import CognitiveSidecar.PublicationOnce

namespace CognitiveSidecar

open Relational

/-- The settlement is published on the wake of the event. -/
def SettlementRow.Answers (row : SettlementRow) (event : InboxEvent) : Prop :=
  row.wakeId = event.wakeId

/-- The Owner may see the speech: it belongs to a settlement on the wake of the
event, and is not suppressed. -/
def SpeaksTo (db : PublicationDb) (speech : OutboxRow) (event : InboxEvent) :
    Prop :=
  speech.suppressed = false ∧ ∃ row ∈ db.settlements.rows,
    row.settlementId = speech.settlementId ∧ row.Answers event

/-- The event repairs the other, or a repair of it. -/
def InLineage (db : Sidecar) : String → String → Prop :=
  Relation.ReflTransGen fun predecessor repair =>
    ∃ row ∈ db.repairs.rows, row.predecessorEventId = predecessor ∧
      row.repairEventId = repair

/-- The identifier is that of a repair. -/
def IsRepair (db : Sidecar) (eventId : String) : Prop :=
  ∃ row ∈ db.repairs.rows, row.repairEventId = eventId

theorem InLineage.isRepair {db : Sidecar} {first last : String}
    (hlineage : InLineage db first last) (hne : last ≠ first) :
    IsRepair db last := by
  cases hlineage with
  | refl => exact absurd rfl hne
  | tail _ hrepair =>
    obtain ⟨row, hrow, _, hid⟩ := hrepair
    exact ⟨row, hrow, hid⟩

/-- The pass answers Owner events, under a durable claim. -/
def AnsweringEvent.IsFenced (event : AnsweringEvent) : Prop :=
  (event.claimToken.any (· ≠ "") = true ∨
    event.durableAttemptId.any (· ≠ "") = true) ∧ event.ownerEventIds ≠ []

section Answers

variable [Host] {db : PublicationDb}

omit [Host] in
/-- An open attempt is that of a leased event. -/
theorem getOpenDurableAttempt_leased {db : Sidecar} {eventId : String}
    {attempt : DurableAttempt}
    (hok : getOpenDurableAttempt db eventId = .ok (some attempt)) :
    ∃ row, db.events.get? eventId = some row ∧ row.state = .leased := by
  obtain ⟨current, hcurrent, hok⟩ := of_bind hok
  refine ⟨current, orFault_ok.mp hcurrent, ?_⟩
  split at hok
  · split at hok
    · cases of_pure hok
    · rename_i hopen
      by_contra hleased
      exact hopen (.inr (.inl hleased))
  · cases of_pure hok

omit [Host] in
/-- A pass that passes the fence holds its attempt, and none of the Owner
events that it answers has been answered. -/
theorem assessOwnerAnswerHold_held {db : Sidecar} {event : AnsweringEvent}
    (hfenced : event.IsFenced)
    (hok : assessOwnerAnswerHold db event = .ok none) :
    attemptStillHeld db event = .ok true ∧
      ∀ id ∈ event.ownerEventIds, ∀ row, db.events.get? id = some row →
        row.isAnswered = false := by
  unfold assessOwnerAnswerHold at hok
  obtain ⟨hclaimed, hids⟩ := hfenced
  have hdurable : ¬ (event.claimToken.all (· = "") ∧
      event.durableAttemptId.all (· = "")) := by
    rcases hclaimed with _ | _
    · cases hcase : event.claimToken <;> simp_all
    · cases hcase : event.durableAttemptId <;> simp_all
  rw [if_neg hdurable, if_neg hids] at hok
  obtain ⟨held, hheld, hok⟩ := of_bind hok
  split at hok
  · cases of_pure hok
  rename_i hnone
  cases held with
  | false => cases of_pure hok
  | true =>
    refine ⟨hheld, ?_⟩
    intro id hid _ hrow
    rw [List.find?_eq_none] at hnone
    have hother := hnone id hid
    rw [hrow] at hother
    by_cases hself : id = event.id
    · -- The event of the pass itself is leased under the held attempt.
      obtain ⟨attempt, hattempt, hheld⟩ := of_bind hheld
      cases attempt with
      | none => cases of_pure hheld
      | some =>
        obtain ⟨_, hstored, hleased⟩ := getOpenDurableAttempt_leased hattempt
        rw [hself] at hrow
        cases hrow.symm.trans hstored
        simp [InboxEvent.isAnswered, hleased]
    · simpa [hself] using hother

/-- One wake, one settlement: its cycle has one generation. -/
theorem Published.answers_eq (hpublished : Published db)
    {row row' : SettlementRow} (hrow : row ∈ db.settlements.rows)
    (hrow' : row' ∈ db.settlements.rows) (hwake : row.wakeId = row'.wakeId) :
    row = row' := by
  obtain ⟨_, wakeId, _, hcycle, hgeneration, howner, hstored, hid⟩ :=
      hpublished.settled _ row (get?_key hrow)
  obtain ⟨_, wakeId', _, hcycle', hgeneration', howner', hstored', hid'⟩ :=
    hpublished.settled _ row' (get?_key hrow')
  have hsameWake : wakeId = wakeId' := by
    rw [howner, howner'] at hwake
    exact Option.some.inj hwake
  subst hsameWake
  cases hstored.symm.trans hstored'
  have hsameCycle : row.cycleId = row'.cycleId := hid.symm.trans hid'
  rw [← hsameCycle] at hcycle'
  cases hcycle.symm.trans hcycle'
  exact hpublished.single.settlements row hrow row' hrow' hsameCycle
    (hgeneration.symm.trans hgeneration')

theorem Published.speech_eq (hpublished : Published db)
    {speech speech' : OutboxRow} (hspeech : speech ∈ db.sidecar.outbox.rows)
    (hspeech' : speech' ∈ db.sidecar.outbox.rows)
    (hsettlement : speech.settlementId = speech'.settlementId) :
    speech = speech' := by
  have hnumber := hpublished.aloud _ _ speech speech' (get?_key hspeech)
    (get?_key hspeech') hsettlement
  have hstored := get?_key hspeech
  rw [hnumber, get?_key hspeech'] at hstored
  exact (Option.some.inj hstored).symm

/-- In every reachable state an inbox event has one settlement and one visible
speech at most; two settlements of one lineage are on the wakes of different
events, one of them a repair; and a pass under a durable claim publishes afresh
only while it holds the claim and nothing that it answers is answered. -/
theorem owner_answered_once (hreached : ReachedPublication db) :
    (∀ event ∈ db.sidecar.events.rows, ∀ row ∈ db.settlements.rows,
      ∀ row' ∈ db.settlements.rows, row.Answers event → row'.Answers event →
        row = row') ∧
    (∀ event ∈ db.sidecar.events.rows, ∀ speech ∈ db.sidecar.outbox.rows,
      ∀ speech' ∈ db.sidecar.outbox.rows, SpeaksTo db speech event →
        SpeaksTo db speech' event → speech = speech') ∧
    (∀ event ∈ db.sidecar.events.rows, ∀ first ∈ db.sidecar.events.rows,
      ∀ second ∈ db.sidecar.events.rows,
      InLineage db.sidecar event.id first.id →
      InLineage db.sidecar event.id second.id →
      ∀ row ∈ db.settlements.rows, ∀ row' ∈ db.settlements.rows,
        row.Answers first → row'.Answers second → row ≠ row' →
        first.wakeId ≠ second.wakeId ∧
          (IsRepair db.sidecar first.id ∨ IsRepair db.sidecar second.id)) ∧
    (∀ (reads : MindReads) (settlement : PublishedSettlement)
      (options : PublicationOptions) (event : AnsweringEvent)
      (result : PublicationResult), options.ownerAnswerEvent = some event →
      event.IsFenced →
      (publishSemanticTransaction reads db settlement options).result? =
        some result → result.published = true → result.replayed = false →
      attemptStillHeld db.sidecar event = .ok true ∧
        ∀ id ∈ event.ownerEventIds, ∀ row,
          db.sidecar.events.get? id = some row → row.isAnswered = false) := by
  have hpublished := hreached.published
  refine ⟨?_, ?_, ?_, ?_⟩
  · intro _ _ _ hrow _ hrow' hanswers hanswers'
    exact hpublished.answers_eq hrow hrow' (hanswers.trans hanswers'.symm)
  · rintro _ _ _ hspeech _ hspeech' ⟨_, _, hrow, hid, hanswers⟩ ⟨_, _, hrow',
      hid', hanswers'⟩
    cases hpublished.answers_eq hrow hrow' (hanswers.trans hanswers'.symm)
    exact hpublished.speech_eq hspeech hspeech' (hid.symm.trans hid')
  · intro event _ first hfirst second hsecond hlineage hlineage' _ hrow _
      hrow' hanswers hanswers' hne
    have hwakes : first.wakeId ≠ second.wakeId := by
      intro hsame
      exact hne (hpublished.answers_eq hrow hrow'
        (hanswers.trans (hsame.trans hanswers'.symm)))
    refine ⟨hwakes, ?_⟩
    by_cases hself : first.id = event.id
    · refine Or.inr (hlineage'.isRepair ?_)
      intro hother
      have hstored := get?_key hfirst
      have hsame : key first = key second := hself.trans hother.symm
      rw [hsame, get?_key hsecond] at hstored
      cases hstored
      exact hwakes rfl
    · exact Or.inl (hlineage.isRepair hself)
  · intro reads settlement options _ _ hevent hfenced hresult hanswer
      hfresh
    have hcase := publishSemanticTransaction_case reads db settlement options
    generalize publishSemanticTransaction reads db settlement options = exit
      at hcase hresult
    cases hcase with
    | undone hundone =>
      cases hundone with
      | refused =>
        cases hresult
        cases hanswer
      | thrown => cases hresult
    | replayed =>
      cases hresult
      cases hfresh
    | stale =>
      cases hresult
      cases hanswer
    | accepted _ _ _ hold =>
      unfold requireOwnerAnswerHold at hold
      rw [hevent] at hold
      obtain ⟨_, hloss, hold⟩ := of_bind hold
      rw [require_ok] at hold
      rw [hold] at hloss
      exact assessOwnerAnswerHold_held hfenced
        (ofKernel_ok.mp (orThrow_ok.mp hloss))

end Answers

section Plain

attribute [local instance] plainHost

/-- A visible answer on a cycle. -/
def answerOn (settlementId cycleId : String) (generation : Int) :
    PublishedSettlement :=
  { reply with settlementId, cycleId, generation }

/-- Delivery gives up on what it has to send. -/
def giveUpDelivery : SpeechRewrite where
  rewrite := fun row => { row with sendStatus := .sendFailure }
  keeps := fun _ => ⟨rfl, rfl, rfl, rfl, rfl⟩

/-- An Owner message arrives and is claimed. -/
def claimedMessage : List PublicationOp :=
  [.kernel (.appendInboxEvent
      { conversationId := "c", kind := "owner_message", createdAtMs := 0 }
      (some "e")),
    .kernel (.claimNext { workerId := "w", nowMs := 1 })]

/-- The pass that claimed the message. -/
def answeringPass : AnsweringEvent where
  id := "e"
  kind := "owner_message"
  wakeId := some "wake:wake-occurrence:inboxec"
  claimToken := some "wake-lease:u"
  durableAttemptId := some "attempt:uu"

/-- The message has its answer. -/
def answeredMessage : PublicationDb :=
  run stepPublication {} (claimedMessage ++
    [.publish quietReads
      (answerOn "first" "cycle:wake:wake-occurrence:inboxec" 1)
      { clockMs := 2 }])

theorem owner_answered_once_claimed :
    attemptStillHeld (run stepPublication {} claimedMessage).sidecar
        answeringPass = .ok true ∧
      ∀ event ∈ answeredMessage.sidecar.events.rows,
        ∀ speech ∈ answeredMessage.sidecar.outbox.rows,
        ∀ speech' ∈ answeredMessage.sidecar.outbox.rows,
        SpeaksTo answeredMessage speech event →
        SpeaksTo answeredMessage speech' event → speech = speech' := by
  refine ⟨?_, (owner_answered_once ⟨_, rfl⟩).2.1⟩
  refine ((owner_answered_once ⟨claimedMessage, rfl⟩).2.2.2 quietReads
    (answerOn "first" "cycle:wake:wake-occurrence:inboxec" 1)
    { clockMs := 2, ownerAnswerEvent := some answeringPass } answeringPass
    ⟨true, false, none, some "first", some 1⟩ rfl ?_ ?_ rfl rfl).1
  · exact ⟨Or.inl rfl, by decide⟩
  · decide +kernel

/-- The message fails for good; a repair answers it, delivery gives up on that
answer, and a second repair answers again. -/
def repairedTwice : PublicationDb :=
  run stepPublication {} (claimedMessage ++
    [.kernel (.settle
        { eventId := "e", attemptId := "attempt:uu"
          claimToken := "wake-lease:u", nowMs := 2
          result := .failed ⟨.permanentTerminal, by decide⟩ "broken" none
            none }),
      .kernel (.createRepair
        { predecessorEventId := "e", nowMs := 3, eventId := some "r1"
          authorizationRef := "unanswered_owner_recovery:v1" }),
      .kernel (.claimNext { workerId := "w", nowMs := 4 }),
      .publish quietReads
        (answerOn "first" "cycle:wake:wake-occurrence:inboxr1c" 2)
        { clockMs := 5, wakeLeaseToken := some "wake-lease:uuu" },
      .kernel (.settle
        { eventId := "r1", attemptId := "attempt:uuuu"
          claimToken := "wake-lease:uuu", nowMs := 6, result := .completed }),
      .deliver giveUpDelivery,
      .kernel (.createRepair
        { predecessorEventId := "e", nowMs := 7, eventId := some "r2"
          authorizationRef := "unanswered_owner_recovery:v1:retry2" }),
      .kernel (.claimNext { workerId := "w", nowMs := 8 }),
      .publish quietReads
        (answerOn "second" "cycle:wake:wake-occurrence:inboxr2c" 3)
        { clockMs := 9, wakeLeaseToken := some "wake-lease:uuuuuuu" }])

set_option synthInstance.maxSize 512 in
set_option synthInstance.maxHeartbeats 200000 in
/-- Two visible answers to one Owner message, through two repairs of it. -/
theorem second_repair_answers_again :
    ∃ event ∈ repairedTwice.sidecar.events.rows,
      ∃ first ∈ repairedTwice.sidecar.events.rows,
      ∃ second ∈ repairedTwice.sidecar.events.rows,
      ∃ speech ∈ repairedTwice.sidecar.outbox.rows,
      ∃ speech' ∈ repairedTwice.sidecar.outbox.rows,
        isOwnerObligationEventKind event.kind = true ∧
        InLineage repairedTwice.sidecar event.id first.id ∧
        InLineage repairedTwice.sidecar event.id second.id ∧
        SpeaksTo repairedTwice speech first ∧
        SpeaksTo repairedTwice speech' second ∧ speech ≠ speech' := by
  have hrun : ∃ event ∈ repairedTwice.sidecar.events.rows,
      ∃ first ∈ repairedTwice.sidecar.events.rows,
      ∃ second ∈ repairedTwice.sidecar.events.rows,
      ∃ speech ∈ repairedTwice.sidecar.outbox.rows,
      ∃ speech' ∈ repairedTwice.sidecar.outbox.rows,
        isOwnerObligationEventKind event.kind = true ∧
        (∃ row ∈ repairedTwice.sidecar.repairs.rows,
          row.predecessorEventId = event.id ∧ row.repairEventId = first.id) ∧
        (∃ row ∈ repairedTwice.sidecar.repairs.rows,
          row.predecessorEventId = event.id ∧ row.repairEventId = second.id) ∧
        (speech.suppressed = false ∧ ∃ row ∈ repairedTwice.settlements.rows,
          row.settlementId = speech.settlementId ∧
            row.wakeId = first.wakeId) ∧
        (speech'.suppressed = false ∧ ∃ row ∈ repairedTwice.settlements.rows,
          row.settlementId = speech'.settlementId ∧
            row.wakeId = second.wakeId) ∧ speech ≠ speech' := by
    decide +kernel
  obtain ⟨event, hevent, first, hfirst, second, hsecond, speech, hspeech,
    speech', hspeech', howner, hrepair, hrepair', hspeaks, hspeaks', hne⟩ := hrun
  exact ⟨event, hevent, first, hfirst, second, hsecond, speech, hspeech,
    speech', hspeech', howner, .single hrepair, .single hrepair', hspeaks,
    hspeaks', hne⟩

end Plain

end CognitiveSidecar
