/-
Owner ingress as moves, and what an admitted message leaves in the tables.
-/
import CognitiveSidecar.EvidenceMoves
import CognitiveSidecar.FenceMoves
import CognitiveSidecar.Ingress

namespace CognitiveSidecar

open Option Relational

variable [Host] {permit : Permit} {db after : Sidecar}
variable {input : CognitiveIngressInput} {evidence : Evidence}
variable {result : CognitiveIngressResult}
variable {id : String} {row : Cycle}

/-- The stored rows mention no identifier that is still to be drawn. -/
structure Receptive (db : Sidecar) : Prop where
  event : ∀ id event k, db.events.get? id = some event → db.uuidsDrawn ≤ k →
    id ≠ Host.randomUUID k ∧
      event.payload.evidenceRowId ≠ some (Host.randomUUID k)
  wake : ∀ id wake, db.wakes.get? id = some wake → wake.cycleId ≠ "" ∧
    ∀ k, db.uuidsDrawn ≤ k → wake.triggerRef ≠ Host.randomUUID k

theorem Receptive.cycleId {cycle : Cycle} (hlinked : Linked db)
    (hreceptive : Receptive db) (hcycle : db.cycles.get? id = some cycle) :
    id ≠ "" := by
  obtain ⟨wakeId, wake, _, hwake, hid⟩ := hlinked.cycleWake id cycle hcycle
  rw [← hid]
  exact (hreceptive.wake wakeId wake hwake).1

theorem Receptive.freeEvent (hreceptive : Receptive db) :
    db.events.get? (Host.randomUUID db.uuidsDrawn) = none := by
  cases hevent : db.events.get? (Host.randomUUID db.uuidsDrawn) with
  | none => rfl
  | some event =>
    exact absurd rfl (hreceptive.event _ event _ hevent (Nat.le_refl _)).1

/-- Receptive tables stay so while events are untouched and wakes are admitted
only for identifiers already drawn. -/
theorem Receptive.trace (hreceptive : Receptive db)
    (htrace : Trace permit db after) (hevents : after.events = db.events)
    (hadmits : ∀ wake, permit.admits wake → wake.cycleId ≠ "" ∧
      ∀ k, after.uuidsDrawn ≤ k → wake.triggerRef ≠ Host.randomUUID k) :
    Receptive after := by
  have hle := htrace.drawn_le
  refine ⟨?_, ?_⟩
  · intro id event k hevent _
    rw [hevents] at hevent
    exact hreceptive.event id event k hevent (by omega)
  · intro id _ hwake
    obtain ⟨old, hold | hnew, href, hcycle⟩ := htrace.wake_backward hwake
    · rw [href, hcycle]
      refine ⟨(hreceptive.wake id old hold).1, ?_⟩
      intro k _
      exact (hreceptive.wake id old hold).2 k (by omega)
    · rw [href, hcycle]
      exact hadmits old hnew

/-- What an admitted message leaves behind: its event, on the cycle that
carries its evidence. -/
structure Delivered (db after : Sidecar) (input : CognitiveIngressInput)
    (evidence : Evidence) (frontierId : Option String)
    (result : CognitiveIngressResult) (event : InboxEvent) : Prop where
  inserted : db.events.insert? event = some after.events
  drawn : ∃ k, db.uuidsDrawn ≤ k ∧ k < after.uuidsDrawn ∧
    event.id = Host.randomUUID k
  payload : event.payload.evidenceRowId = some evidence.rowId ∧
    event.payload.cycleId = some result.cycleId ∧
    event.payload.subsumedByFrontierId = frontierId
  conversationId : event.conversationId = input.conversationId
  owned : event.wakeId.any (· ≠ "") = true
  state : event.state = if frontierId.isSome then .terminal else .pending
  cycle : result.cycleId ≠ "" ∧ ∃ row, getCycle after result.cycleId = some row ∧
    evidence.rowId ∈ row.composeLogIds
  answer : result.evidenceRowId = evidence.rowId ∧
    result.inboxEventId = event.id ∧ result.duplicate = false

/-- A fresh event on a stored cycle and its own wake. -/
theorem appendInboxEventInTransaction_fresh {input : AppendInboxEventInput}
    {event : InboxEvent} {cycleId : String} (hlinked : Linked db)
    (hfree : db.events.get? id = none) (hcycle : getCycle db cycleId = some row)
    (hcycleId : cycleId ≠ "") (hpayload : input.payload.cycleId = some cycleId)
    (howner : ∀ wakeId, input.wakeId.filter (· ≠ "") = some wakeId →
      row.wakeId = some wakeId)
    (hok : appendInboxEventInTransaction db input id = .ok (event, after)) :
    ∃ wakeId, row.wakeId = some wakeId ∧
      event = newInboxEvent input id cycleId wakeId ∧
      db.events.insert? event = some after.events ∧
      after = { db with events := after.events } := by
  obtain ⟨hknown, _⟩ | ⟨_, mid, wakeId, _, cycle, _, hnew, _, _, _, _, _,
    hrequested, rfl, hinsert, rfl⟩ :=
      appendInboxEventInTransaction_cases hlinked hok
  · rw [getInboxEvent_eq_some_iff, hfree] at hknown
    cases hknown.1
  obtain ⟨_, howned⟩ := getCycle_eq_some_iff.mp hcycle
  cases hrowOwner : row.wakeId with
  | none => simp [hrowOwner] at howned
  | some owner =>
    -- The event names no other wake than the one of its cycle.
    have hsame : wakeId = owner ∧ mid = db := by
      unfold wakeForNewEvent at hnew
      cases hnamed : input.wakeId.filter (· ≠ "") with
      | some named =>
        simp only [hnamed, some_or] at hnew
        obtain ⟨rfl, rfl⟩ := of_pure_pair hnew
        have hclaim := howner named hnamed
        rw [hrowOwner] at hclaim
        exact ⟨(some.inj hclaim).symm, rfl⟩
      | none =>
        have hofCycle : (input.payload.cycleId.filter (· ≠ "")).bind
            (fun id => (getCycle db id).bind Cycle.wakeId) =
              some owner := by
          rw [hpayload, filter_some, if_pos (by simpa using hcycleId)]
          simp [hcycle, hrowOwner]
        simp only [hnamed, none_or, hofCycle] at hnew
        obtain ⟨rfl, rfl⟩ := of_pure_pair hnew
        exact ⟨rfl, rfl⟩
    obtain ⟨rfl, rfl⟩ := hsame
    have hid : cycle.cycleId = cycleId :=
      hrequested cycleId (by rw [hpayload]; rfl) hcycleId
    rw [hid] at hinsert ⊢
    exact ⟨wakeId, rfl, rfl, hinsert, rfl⟩

theorem Delivered.earlier {mid : Sidecar} {frontierId : Option String}
    {event : InboxEvent}
    (hdelivered : Delivered mid after input evidence frontierId result event)
    (hevents : mid.events = db.events) (hle : db.uuidsDrawn ≤ mid.uuidsDrawn) :
    Delivered db after input evidence frontierId result event := by
  obtain ⟨k, _, hlt, hid⟩ := hdelivered.drawn
  refine { hdelivered with inserted := ?_, drawn := ⟨k, by omega, hlt, hid⟩ }
  rw [← hevents]
  exact hdelivered.inserted

/-- The event of the message is appended under a fresh identifier. -/
theorem appendOwnerUtterance_delivered {cycleId : String}
    {owner frontierId : Option String} {event : InboxEvent}
    (hlinked : Linked db) (hreceptive : Receptive db)
    (hrowId : ∃ k, k < db.uuidsDrawn ∧ evidence.rowId = Host.randomUUID k)
    (hcycle : getCycle db cycleId = some row)
    (hjoined : evidence.rowId ∈ row.composeLogIds)
    (howner : ∀ wakeId ∈ owner, row.wakeId = some wakeId)
    (hanswer : result.evidenceRowId = evidence.rowId ∧
      result.inboxEventId = event.id ∧ result.duplicate = false ∧
      result.cycleId = cycleId)
    (hok : appendInboxEventInTransaction db.drew
      (ownerUtteranceEvent input evidence cycleId owner frontierId)
      (Host.randomUUID db.uuidsDrawn) = .ok (event, after)) :
    Delivered db after input evidence frontierId result event ∧
      Receptive after ∧ after = { db.drew with events := after.events } := by
  obtain ⟨hstored, howned⟩ := getCycle_eq_some_iff.mp hcycle
  have hcycleId := hreceptive.cycleId hlinked hstored
  have hdraw : Trace .lenient db db.drew := Moved.drew.trace
  obtain ⟨_, hwakeId, hevent, hinsert, hlast⟩ :=
    appendInboxEventInTransaction_fresh (hlinked.trace hdraw)
      hreceptive.freeEvent hcycle hcycleId rfl
      (fun named hnamed => howner named (filter_eq_some_iff.mp hnamed).1)
      hok
  obtain ⟨k, _, hkId⟩ := hrowId
  obtain ⟨hrowRef, hinbox, hnew, hcycleRef⟩ := hanswer
  have hdrawnAfter : after.uuidsDrawn = db.uuidsDrawn + 1 := by
    rw [hlast]
    rfl
  refine ⟨⟨hinsert, ⟨db.uuidsDrawn, Nat.le_refl _, by omega, ?_⟩, ?_, ?_, ?_, ?_,
    ⟨?_, row, ?_, hjoined⟩, hrowRef, hinbox, hnew⟩, ⟨?_, ?_⟩, hlast⟩
  · rw [hevent]
    rfl
  · rw [hevent, hcycleRef]
    exact ⟨rfl, rfl, rfl⟩
  · rw [hevent]
    rfl
  · rw [hevent]
    rw [hwakeId] at howned
    exact howned
  · rw [hevent]
    cases frontierId <;> rfl
  · rw [hcycleRef]
    exact hcycleId
  · rw [hcycleRef, hlast]
    exact hcycle
  · intro id stored j hstored _
    rw [get?_insert hinsert] at hstored
    split at hstored
    · rename_i hid
      cases hstored
      rw [hid, hevent]
      refine ⟨?_, ?_⟩
      · intro heq
        have hsame : db.uuidsDrawn = j := Host.randomUUID_injective heq
        omega
      · intro heq
        have hrow : evidence.rowId = Host.randomUUID j := some.inj heq
        rw [hkId] at hrow
        have hsame : k = j := Host.randomUUID_injective hrow
        omega
    · exact hreceptive.event id stored j hstored (by omega)
  · intro id wake hwake
    rw [hlast] at hwake
    refine ⟨(hreceptive.wake id wake hwake).1, ?_⟩
    intro j _
    exact (hreceptive.wake id wake hwake).2 j (by omega)

theorem composeIntoCycle_cases (hlinked : Linked db) (hreceptive : Receptive db)
    (hfresh : ∀ id wake, db.wakes.get? id = some wake →
      wake.triggerRef ≠ evidence.rowId)
    (hdrawn : ∃ k, k < db.uuidsDrawn ∧ evidence.rowId = Host.randomUUID k)
    (hok : composeIntoCycle db input evidence = .ok (result, after)) :
    (∃ event, Delivered db after input evidence none result event) ∧
      Receptive after ∧ after.evidence = db.evidence ∧
      after.discordIds = db.discordIds ∧ after.frontiers = db.frontiers := by
  obtain ⟨⟨fence, mid⟩, hfence, hok⟩ := of_bind hok
  obtain ⟨⟨event, _⟩, happend, hok⟩ := of_bind hok
  obtain ⟨hresult, rfl⟩ := of_pure_pair hok
  have hanswer : result.evidenceRowId = evidence.rowId ∧
      result.inboxEventId = event.id ∧ result.duplicate = false ∧
      result.cycleId = fence.cycle.cycleId := by
    rw [← hresult]
    exact ⟨rfl, rfl, rfl, rfl⟩
  obtain ⟨drawnAt, _, hrowId⟩ := hdrawn
  have htrace : Trace (.admitting fun wake =>
      wake.triggerRef = evidence.rowId ∧ wake.cycleId ≠ "") db mid := by
    refine composeOrPreemptInTransaction_trace hlinked ?_ hfence ?_
    · exact fun _ href hnamed => ⟨href, hnamed⟩
    · exact fun _ _ _ _ _ _ _ _ => ⟨False.elim, False.elim⟩
  have hframe := composeOrPreemptInTransaction_frame hlinked hfence
  have hevents : mid.events = db.events := by rw [hframe]
  have hle := htrace.drawn_le
  have hmid : Receptive mid := by
    refine hreceptive.trace htrace hevents ?_
    rintro _ ⟨href, hnamed⟩
    refine ⟨hnamed, ?_⟩
    intro k _ heq
    rw [href, hrowId] at heq
    have hsame : drawnAt = k := Host.randomUUID_injective heq
    omega
  have hcarries : Carries mid fence.cycle [evidence.rowId] := by
    refine composeOrPreemptInTransaction_carries hlinked ?_ ?_ hfence
    · exact hfresh
    · exact List.cons_ne_nil _ _
  obtain ⟨⟨row, hrow, howner, hjoined⟩, howned⟩ := hcarries
  have hcycle : getCycle mid fence.cycle.cycleId = some row := by
    rw [getCycle_eq_some_iff, howner]
    exact ⟨hrow, howned⟩
  have hnamed : evidence.rowId ≠ "" := by
    rw [hrowId]
    exact Host.randomUUID_nonempty _
  obtain ⟨hdelivered, hlast, hframe'⟩ := appendOwnerUtterance_delivered
    (hlinked.trace htrace) hmid ⟨drawnAt, by omega, hrowId⟩ hcycle
    (hjoined _ List.mem_cons_self hnamed)
    (fun _ hmem => howner.trans hmem) hanswer happend
  refine ⟨⟨event, hdelivered.earlier hevents hle⟩, hlast, ?_, ?_, ?_⟩ <;>
    rw [hframe', hframe] <;> rfl

/-- A message that an active frontier takes over. -/
theorem subsumeIntoFrontier_cases {frontier : Frontier} (hlinked : Linked db)
    (hreceptive : Receptive db)
    (hdrawn : ∃ k, k < db.uuidsDrawn ∧ evidence.rowId = Host.randomUUID k)
    (hok : subsumeIntoFrontier db input evidence frontier =
      .ok (result, after)) :
    (∃ event, Delivered db after input evidence (some frontier.frontierId)
      result event) ∧ Receptive after ∧ after.evidence = db.evidence ∧
      after.discordIds = db.discordIds ∧
      after.frontiers = (advanceDeferredFrontierEvidence db frontier.frontierId
        evidence.rowId input.nowMs).frontiers := by
  obtain ⟨⟨cycle, mid⟩, hjoin, hok⟩ := of_bind hok
  obtain ⟨⟨event, _⟩, happend, hok⟩ := of_bind hok
  obtain ⟨hresult, rfl⟩ := of_pure_pair hok
  have hanswer : result.evidenceRowId = evidence.rowId ∧
      result.inboxEventId = event.id ∧ result.duplicate = false ∧
      result.cycleId = frontier.cycleId := by
    rw [← hresult]
    exact ⟨rfl, rfl, rfl, rfl⟩
  obtain ⟨drawnAt, _, hrowId⟩ := hdrawn
  have hframe := appendCycleLogIds_frame hjoin
  have hadvance : Trace (.admitting fun _ => False) db
      (advanceDeferredFrontierEvidence db frontier.frontierId evidence.rowId
        input.nowMs) :=
    Moved.trace (.aside (Nat.le_refl _) rfl rfl rfl rfl)
  obtain ⟨hjoined, hevents, _, hstored, _, _, _, hlog⟩ :
      Trace (.admitting fun _ => False) _ mid ∧ _ :=
    appendCycleLogIds_cases hjoin
  have htrace := hadvance.trans hjoined
  have hevents' : mid.events = db.events := by
    rw [hevents]
    rfl
  have hmid : Receptive mid :=
    hreceptive.trace htrace hevents' fun _ hnever => hnever.elim
  have hlinked' := hlinked.trace htrace
  have hcycle : getCycle mid frontier.cycleId = some cycle := by
    rw [getCycle_of_linked hlinked']
    exact hstored
  have hnamed : evidence.rowId ≠ "" := by
    rw [hrowId]
    exact Host.randomUUID_nonempty _
  have hle := htrace.drawn_le
  obtain ⟨hdelivered, hlast, hframe'⟩ := appendOwnerUtterance_delivered
    hlinked' hmid ⟨drawnAt, by omega, hrowId⟩ hcycle
    (by rw [hlog]; simp [hnamed])
    (fun _ hmem => by cases hmem) hanswer happend
  refine ⟨⟨event, hdelivered.earlier hevents' hle⟩, hlast, ?_, ?_, ?_⟩ <;>
    rw [hframe', hframe] <;> rfl

/-- The room work that an Owner turn silences keeps the tables receptive. -/
theorem preemptExternalRoomAttempts_receptive {nowMs : Int}
    (hreceptive : Receptive db)
    (hok : preemptExternalRoomAttemptsInTransaction db nowMs = .ok after) :
    Receptive after := by
  obtain ⟨htrace, hframe, _⟩ :
      Trace (.admitting fun _ => False) db after ∧ _ :=
    preemptExternalRoomAttemptsInTransaction_cases hok
  refine hreceptive.trace htrace ?_ fun _ hnever => hnever.elim
  rw [hframe]

/-- Recording evidence keeps the tables receptive. -/
theorem EvidenceRecorded.receptive {input : AppendEvidenceInput}
    (hrecorded : EvidenceRecorded db after input evidence)
    (hreceptive : Receptive db) : Receptive after := by
  have htrace : Trace (.admitting fun _ => False) db after :=
    hrecorded.moved.trace
  refine hreceptive.trace htrace ?_ fun _ hnever => hnever.elim
  rw [hrecorded.frame]

/-- The row that the evidence log is asked to write for a message. -/
def CognitiveIngressInput.utterance (input : CognitiveIngressInput) :
    AppendEvidenceInput :=
  { conversationId := input.conversationId, text := some (trim input.message)
    discordMessageIds := input.discordMessageIds, nowMs := input.nowMs }

omit [Host] in
theorem answerDuplicate_same
    (hok : answerDuplicate db evidence = .ok (result, after)) : after = db := by
  obtain ⟨⟨_, _⟩, _, hok⟩ := of_bind hok
  obtain ⟨_, rfl⟩ := of_pure_pair hok
  rfl

/-- An admitted message: its evidence, its bindings and its event. -/
structure MessageAdmitted (db after : Sidecar) (input : CognitiveIngressInput)
    (result : CognitiveIngressResult) (evidence : Evidence)
    (event : InboxEvent) : Prop where
  unknown : existingByDiscordIds db (uniqueIds input.discordMessageIds) = none
  recorded : ∃ mid, EvidenceRecorded db mid input.utterance evidence ∧
    mid.evidence = after.evidence ∧ mid.discordIds = after.discordIds
  ids : evidence.discordMessageIds = uniqueIds input.discordMessageIds
  delivered : Delivered db after input evidence
    ((getActiveDeferredFrontier db input.conversationId).map
      Frontier.frontierId) result event
  frontiers : after.frontiers =
    match getActiveDeferredFrontier db input.conversationId with
    | some frontier => (advanceDeferredFrontierEvidence db frontier.frontierId
        evidence.rowId input.nowMs).frontiers
    | none => db.frontiers

/-- Ingress answers for a known message, or admits a new one. -/
theorem admitCognitiveIngress_cases (hlinked : Linked db)
    (hreceptive : Receptive db)
    (hok : admitCognitiveIngress db input = .ok (result, after)) :
    (∃ evidence, existingByDiscordIds db
        (uniqueIds input.discordMessageIds) = some evidence ∧
      answerDuplicate db evidence = .ok (result, after) ∧ after = db) ∨
    ((∃ evidence event,
      MessageAdmitted db after input result evidence event) ∧
      Receptive after) := by
  replace hok := passed hok
  replace hok := passed hok
  replace hok := passed hok
  obtain ⟨⟨appended, mid⟩, happend, hok⟩ := of_bind hok
  rcases appendOwnerUtteranceInTransaction_cases rfl happend with
    ⟨hknown, hduplicate, hsame⟩ | ⟨hunknown, hnew, hrecorded, hids⟩
  · simp only [hduplicate, if_true, hsame] at hok
    exact .inl ⟨appended.evidence, hknown, hok, answerDuplicate_same hok⟩
  right
  simp only [hnew, Bool.false_eq_true, if_false] at hok
  obtain ⟨silenced, hsilence, hok⟩ := of_bind hok
  have hrecord : Trace .lenient db mid := hrecorded.moved.trace
  have hmid := hrecorded.receptive hreceptive
  obtain ⟨hsilent, hframe, _⟩ :
      Trace (.admitting fun _ => False) mid silenced ∧ _ :=
    preemptExternalRoomAttemptsInTransaction_cases hsilence
  have hreceptive' := preemptExternalRoomAttempts_receptive hmid hsilence
  have hlinked' : Linked silenced :=
    (hlinked.trace hrecord).trace hsilent
  have hle' := hsilent.drawn_le
  obtain ⟨k, hk, _, hrowId⟩ := hrecorded.drawn
  have hevents : silenced.events = db.events := by
    rw [hframe, hrecorded.frame]
  have hfrontiers : silenced.frontiers = db.frontiers := by
    rw [hframe, hrecorded.frame]
  have hactive : getActiveDeferredFrontier silenced input.conversationId =
      getActiveDeferredFrontier db input.conversationId := by
    unfold getActiveDeferredFrontier
    rw [hfrontiers]
  have hevidence : silenced.evidence = mid.evidence := by rw [hframe]
  have hbindings : silenced.discordIds = mid.discordIds := by rw [hframe]
  rw [hactive] at hok
  cases hfrontier : getActiveDeferredFrontier db input.conversationId with
  | some =>
    simp only [hfrontier] at hok
    obtain ⟨⟨event, hdelivered⟩, hlast, hkeptRows, hkeptIds, hadvanced⟩ :=
      subsumeIntoFrontier_cases hlinked' hreceptive'
        ⟨k, by omega, hrowId⟩ hok
    refine ⟨⟨appended.evidence, event, hunknown, ⟨mid, hrecorded, ?_, ?_⟩,
      hids, ?_, ?_⟩, hlast⟩
    · rw [hkeptRows, hevidence]
    · rw [hkeptIds, hbindings]
    · rw [hfrontier]
      exact hdelivered.earlier hevents (by omega)
    · simp only [hfrontier]
      rw [hadvanced]
      simp only [advanceDeferredFrontierEvidence, Sidecar.updateFrontier,
        hfrontiers]
  | none =>
    simp only [hfrontier] at hok
    have hfresh : ∀ id wake, silenced.wakes.get? id = some wake →
        wake.triggerRef ≠ appended.evidence.rowId := by
      intro id _ hwake
      obtain ⟨old, hold | hnever, href, _⟩ := hsilent.wake_backward hwake
      · rw [href, hrowId]
        rw [hrecorded.frame] at hold
        exact (hreceptive.wake id old hold).2 k hk
      · exact hnever.elim
    obtain ⟨⟨event, hdelivered⟩, hlast, hkeptRows, hkeptIds, hkept⟩ :=
      composeIntoCycle_cases hlinked' hreceptive' hfresh
        ⟨k, by omega, hrowId⟩ hok
    refine ⟨⟨appended.evidence, event, hunknown, ⟨mid, hrecorded, ?_, ?_⟩,
      hids, ?_, ?_⟩, hlast⟩
    · rw [hkeptRows, hevidence]
    · rw [hkeptIds, hbindings]
    · rw [hfrontier]
      exact hdelivered.earlier hevents (by omega)
    · simp only [hfrontier]
      rw [hkept, hfrontiers]

omit [Host] in
/-- Who continues a cycle depends on its wake only through the wake's state. -/
theorem hasValidDurableContinuationOwner_congr {cycle : Cycle}
    (hframe : after = { db with
      wakes := after.wakes, cycles := after.cycles, evidence := after.evidence
      discordIds := after.discordIds, uuidsDrawn := after.uuidsDrawn })
    (hstates : ∀ id, (after.wakes.get? id).map Wake.state =
      (db.wakes.get? id).map Wake.state) :
    hasValidDurableContinuationOwner after cycle =
      hasValidDurableContinuationOwner db cycle := by
  have hopen : (cycle.wakeId.bind (getWake after)).any (·.state ≠ .terminal) =
      (cycle.wakeId.bind (getWake db)).any (·.state ≠ .terminal) := by
    cases cycle.wakeId with
    | none => rfl
    | some wakeId =>
      have hany : ∀ row : Option Wake, row.any (·.state ≠ .terminal) =
          (row.map Wake.state).any (· ≠ .terminal) := by
        intro row
        cases row <;> rfl
      change (after.wakes.get? wakeId).any _ = (db.wakes.get? wakeId).any _
      rw [hany, hany, hstates]
  unfold hasValidDurableContinuationOwner hasActiveOwnerWorkerUndertaking
  rw [hopen, hframe]

/-- What a message must find to strand nothing: when it preempts its cycle by
finishing the wake, no event of that wake still waits to be claimed. -/
def IngressTidy (db : Sidecar) (input : CognitiveIngressInput) : Prop :=
  existingByDiscordIds db (uniqueIds input.discordMessageIds) = none →
  getActiveDeferredFrontier db input.conversationId = none →
  ∀ current wakeId wake,
    currentAfterRoomWork db input.conversationId = some current →
    current.wakeId = some wakeId → db.wakes.get? wakeId = some wake →
    wake.isCancellable = true →
    preemptsByFinishing db (input.fenceInput "") current wakeId = true →
    NoEventOn db InboxEvent.isClaimableContinuation wakeId

theorem admitCognitiveIngress_trace (hlinked : Linked db)
    (hadmits : ∀ wake, permit.admits wake) (horderly : ¬ permit.orderly)
    (htidy : permit.tidy → IngressTidy db input)
    (hok : admitCognitiveIngress db input = .ok (result, after)) :
    Trace permit db after := by
  replace hok := passed hok
  replace hok := passed hok
  replace hok := passed hok
  obtain ⟨⟨appended, mid⟩, happend, hok⟩ := of_bind hok
  rcases appendOwnerUtteranceInTransaction_cases rfl happend with
    ⟨_, hduplicate, hsame⟩ | ⟨hunknown, hnew, hrecorded, _⟩
  · simp only [hduplicate, if_true, hsame] at hok
    rw [answerDuplicate_same hok]
    exact .refl db
  simp only [hnew, Bool.false_eq_true, if_false] at hok
  obtain ⟨silenced, hsilence, hok⟩ := of_bind hok
  have hrecord : Trace permit db mid := hrecorded.moved.trace
  obtain ⟨hsilent, hframe, hstates, hcurrent⟩ :=
    preemptExternalRoomAttemptsInTransaction_cases hsilence
  have htrace := hrecord.trans hsilent
  have hlinked' := hlinked.trace htrace
  have hframe' : silenced = { db with
      wakes := silenced.wakes, cycles := silenced.cycles
      evidence := silenced.evidence, discordIds := silenced.discordIds
      uuidsDrawn := silenced.uuidsDrawn } := by
    rw [hframe, hrecorded.frame]
  have hstates' : ∀ id, (silenced.wakes.get? id).map Wake.state =
      (db.wakes.get? id).map Wake.state := by
    intro _
    rw [hstates, hrecorded.frame]
  have hcurrent' : getCurrentCycle silenced input.conversationId =
      currentAfterRoomWork db input.conversationId := by
    rw [hcurrent, hrecorded.frame]
    rfl
  have hevents : silenced.events = db.events := by rw [hframe']
  have hactive : getActiveDeferredFrontier silenced input.conversationId =
      getActiveDeferredFrontier db input.conversationId := by rw [hframe']; rfl
  refine htrace.trans ?_
  cases hfrontier : getActiveDeferredFrontier silenced input.conversationId with
  | some frontier =>
    simp only [hfrontier] at hok
    obtain ⟨⟨_, joined⟩, hjoin, hok⟩ := of_bind hok
    obtain ⟨⟨_, _⟩, hlast, hok⟩ := of_bind hok
    obtain ⟨_, rfl⟩ := of_pure_pair hok
    have hadvance : Trace permit silenced (advanceDeferredFrontierEvidence
        silenced frontier.frontierId appended.evidence.rowId input.nowMs) :=
      Moved.trace (.aside (Nat.le_refl _) rfl rfl rfl rfl)
    have hdrew : Trace permit silenced joined.drew :=
      (hadvance.trans (appendCycleLogIds_cases hjoin).1).step .drew
    exact hdrew.trans (appendInboxEventInTransaction_trace
      (hlinked'.trace hdrew) hadmits hlast)
  | none =>
    simp only [hfrontier] at hok
    obtain ⟨⟨_, fenced⟩, hfence, hok⟩ := of_bind hok
    obtain ⟨⟨_, _⟩, hlast, hok⟩ := of_bind hok
    obtain ⟨_, rfl⟩ := of_pure_pair hok
    have hcomposed : Trace permit silenced fenced := by
      refine composeOrPreemptInTransaction_trace hlinked'
        (fun wake _ _ => hadmits wake) hfence ?_
      intro current wakeId wake hcur howner hwake hcancellable hfinishes
      refine ⟨fun hpromise => ?_, fun hpromise => absurd hpromise horderly⟩
      obtain ⟨old, hold, hstate⟩ : ∃ old, db.wakes.get? wakeId = some old ∧
          old.state = wake.state := by
        have hsameState := hstates' wakeId
        rw [hwake, map_some, eq_comm, map_eq_some_iff]
          at hsameState
        exact hsameState
      unfold NoEventOn
      rw [hevents]
      refine htidy hpromise hunknown (hactive.symm.trans hfrontier) current
        wakeId old ?_ howner hold ?_ ?_
      · rw [← hcurrent']
        exact hcur
      · unfold Wake.isCancellable at hcancellable ⊢
        rw [hstate]
        exact hcancellable
      · have hvalid := @hasValidDurableContinuationOwner_congr db silenced
          current hframe' hstates'
        unfold preemptsByFinishing preemptionFinishes hasLiveOwnerContinuation
          hasEffectfulInFlight hasPublishedOutbox at hfinishes ⊢
        rw [hvalid, hframe'] at hfinishes
        exact hfinishes
    have hdrew : Trace permit silenced fenced.drew := hcomposed.step .drew
    exact hdrew.trans (appendInboxEventInTransaction_trace
      (hlinked'.trace hdrew) hadmits hlast)

end CognitiveSidecar
