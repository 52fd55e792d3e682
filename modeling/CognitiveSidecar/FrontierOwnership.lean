/-
The transfer of a deferred cycle: which frontier owns it once the settlement
that leaves it in capacity wait has committed.
-/
import CognitiveSidecar.FrontierRuns
import CognitiveSidecar.System

namespace CognitiveSidecar

open Relational

/-- An active frontier is recorded for the cycle. -/
def OwnsCycle (db : Sidecar) (cycleId : String) : Prop :=
  ∃ id row, db.frontiers.get? id = some row ∧ row.isActive = true ∧
    row.cycleId = cycleId

/-- A frontier outlives its rescheduling. -/
def Frontier.Outlives (row : Frontier) (nextEligibleAtMs nowMs : Int) : Prop :=
  nowMs < row.capacityDeadlineAtMs ∧
    nextEligibleAtMs ≤ row.capacityDeadlineAtMs ∧ nowMs < nextEligibleAtMs

/-- The conversation has no active frontier yet; or an active one is recorded
for the cycle, and if it is that of the conversation, it outlives its
rescheduling. -/
def FrontierTakes (db : Sidecar) (conversationId cycleId : String)
    (nextEligibleAtMs nowMs : Int) : Prop :=
  ∀ existing, getActiveDeferredFrontier db conversationId = some existing →
    ∃ id row, db.frontiers.get? id = some row ∧ row.isActive = true ∧
      row.cycleId = cycleId ∧
      (id = existing.frontierId → row.Outlives nextEligibleAtMs nowMs)

section Scheduling

variable {db after : Sidecar}
variable {nowMs : Int} {input : CreateDeferredFrontierInput}

/-- A rescheduling touches its own frontier only, and that one stays active if
it outlives it. -/
theorem rescheduleDeferredFrontier_active {frontierId : String}
    {nextEligibleAtMs : Int} {outcome : RescheduleOutcome} {current : Frontier}
    (hcurrent : db.frontiers.get? frontierId = some current)
    (hok : rescheduleDeferredFrontier db frontierId nextEligibleAtMs nowMs =
      .ok (outcome, after)) :
    (∀ id, id ≠ frontierId →
      after.frontiers.get? id = db.frontiers.get? id) ∧
    ∃ row, after.frontiers.get? frontierId = some row ∧
      row.cycleId = current.cycleId ∧
      (row.isActive = true ↔ current.Outlives nextEligibleAtMs nowMs) := by
  have hothers : ∀ (guard : Frontier → Bool) (f : Frontier → Frontier)
      (hkey : ∀ row, key (f row) = key row) (id : String), id ≠ frontierId →
      (db.updateFrontier frontierId guard f hkey).frontiers.get? id =
        db.frontiers.get? id := by
    intro _ f hkey id hother
    change (db.frontiers.update _ f hkey).get? id = _
    rw [get?_update]
    exact map_get?_self fun row (hid : row.frontierId = id) => by
      simp [hid, hother]
  have hself : current.frontierId = frontierId := key_of_get? hcurrent
  obtain ⟨_, hfound, hok⟩ := of_orFault hok
  cases hcurrent.symm.trans hfound
  obtain ⟨hactive, hok⟩ := of_require hok
  have hupdated : ∀ (f : Frontier → Frontier)
      (hkey : ∀ row, key (f row) = key row),
      (db.updateFrontier frontierId Frontier.isActive f hkey).frontiers.get?
        frontierId = some (f current) := by
    intro f hkey
    change (db.frontiers.update _ f hkey).get? frontierId = _
    rw [get?_update, hcurrent]
    simp [hself, hactive]
  split at hok
  · rename_i hlate
    cases of_pure hok
    refine ⟨hothers _ _ _, _, hupdated _ _, rfl, ?_⟩
    constructor
    · intro hstill
      cases hstill
    · rintro ⟨hbefore, hwithin, _⟩
      rcases hlate with hlate | hlate
      · exact absurd hbefore (not_lt.mpr hlate)
      · exact absurd hlate (not_lt.mpr hwithin)
  · rename_i hintime
    split at hok
    · rename_i hbackward
      cases of_pure hok
      refine ⟨hothers _ _ _, _, hupdated _ _, rfl, ?_⟩
      constructor
      · intro hstill
        cases hstill
      · rintro ⟨_, _, hforward⟩
        exact absurd hforward (not_lt.mpr hbackward)
    · rename_i hforward
      cases of_pure hok
      rw [not_or, not_le, not_lt] at hintime
      exact ⟨hothers _ _ _, _, hupdated _ _, rfl,
        fun _ => ⟨hintime.1, hintime.2, not_le.mp hforward⟩, fun _ => rfl⟩

/-- The cycle of a settlement is owned after the scheduling if, and only if, a
frontier takes it. -/
theorem scheduleFrontier_owns [Host]
    (hok : scheduleFrontier db input = .ok after) :
    OwnsCycle after input.cycleId ↔
      FrontierTakes db input.conversationId input.cycleId
        input.nextEligibleAtMs input.nowMs := by
  unfold scheduleFrontier at hok
  cases hexisting : getActiveDeferredFrontier db input.conversationId with
  | none =>
    rw [hexisting] at hok
    obtain ⟨⟨frontier, _⟩, hinsert, hok⟩ := of_bind hok
    cases of_pure hok
    obtain ⟨_, hinserted⟩ := insertDeferredFrontierRecord_opens hinsert
    constructor
    · intro _ _ hother
      rw [hexisting] at hother
      cases hother
    · intro _
      replace hinsert := passed hinsert
      replace hinsert := passed hinsert
      obtain ⟨_, _, hinsert⟩ := of_orFault hinsert
      obtain ⟨hfrontier, _⟩ := of_pure_pair hinsert
      refine ⟨frontier.frontierId, frontier, ?_, ?_, ?_⟩
      · rw [get?_insert hinserted,
          if_pos (show frontier.frontierId = key frontier from rfl)]
      · rw [← hfrontier]
        rfl
      · rw [← hfrontier]
  | some existing =>
    rw [hexisting] at hok
    obtain ⟨⟨_, _⟩, hreschedule, hok⟩ := of_bind hok
    cases of_pure hok
    obtain ⟨hstored, _, _⟩ := getActiveDeferredFrontier_stored hexisting
    obtain ⟨hothers, row, hrow, hcycle, hactive⟩ :=
      rescheduleDeferredFrontier_active hstored hreschedule
    constructor
    · rintro ⟨id, owner, howner, hstill, hfor⟩ _ hother
      cases hexisting.symm.trans hother
      by_cases hid : id = existing.frontierId
      · subst hid
        cases hrow.symm.trans howner
        exact ⟨_, existing, hstored,
          (getActiveDeferredFrontier_stored hexisting).2.2,
          hcycle.symm.trans hfor, fun _ => hactive.mp hstill⟩
      · rw [hothers id hid] at howner
        exact ⟨id, owner, howner, hstill, hfor, fun heq => absurd heq hid⟩
    · intro htakes
      obtain ⟨id, owner, howner, hstill, hfor, houtlives⟩ :=
        htakes existing hexisting
      by_cases hid : id = existing.frontierId
      · subst hid
        cases hstored.symm.trans howner
        exact ⟨_, row, hrow, hactive.mpr (houtlives rfl), hcycle.trans hfor⟩
      · exact ⟨id, owner, (hothers id hid).trans howner, hstill, hfor⟩

theorem scheduleFrontier_cycles [Host]
    (hok : scheduleFrontier db input = .ok after) :
    after.cycles = db.cycles := by
  unfold scheduleFrontier at hok
  split at hok
  · obtain ⟨⟨_, _⟩, hreschedule, hok⟩ := of_bind hok
    cases of_pure hok
    obtain ⟨_, _, hreschedule⟩ := of_orFault hreschedule
    replace hreschedule := passed hreschedule
    split at hreschedule
    · cases of_pure hreschedule
      rfl
    · split at hreschedule
      · cases of_pure hreschedule
        rfl
      · cases of_pure hreschedule
        rfl
  · obtain ⟨⟨_, _⟩, hinsert, hok⟩ := of_bind hok
    cases of_pure hok
    replace hinsert := passed hinsert
    replace hinsert := passed hinsert
    obtain ⟨_, _, hinsert⟩ := of_orFault hinsert
    obtain ⟨_, rfl⟩ := of_pure_pair hinsert
    rfl

/-- A cycle whose state was set has that state. -/
theorem updateCycleState_sets {cycleId : String} {state : CycleState}
    (hok : updateCycleState db cycleId state nowMs = .ok after) :
    (getCycle after cycleId).map (·.state) = some state ∧
      after.frontiers = db.frontiers := by
  obtain ⟨_, hcycle, hok⟩ := of_orFault hok
  cases of_pure hok
  refine ⟨?_, rfl⟩
  rw [hcycle]
  obtain ⟨hstored, _⟩ := Option.filter_eq_some_iff.mp hcycle
  rw [Sidecar.updateCycle, get?_update] at hstored
  obtain ⟨old, hold, hnew⟩ := Option.map_eq_some_iff.mp hstored
  have hid : old.cycleId = cycleId := key_of_get? hold
  rw [if_pos (by simp [hid])] at hnew
  rw [← hnew]
  rfl

end Scheduling

section Deferral

variable [Host] {db after : Sidecar}

/-- A settlement that defers to a frontier and commits on an open attempt
leaves its cycle in capacity wait; an active frontier owns the cycle then if,
and only if, one takes it. -/
theorem deferral_owned_iff {input : SettleDurableAttemptInput}
    {outcome : DurableSettlementOutcome} {conversationId cycleId : String}
    {generation nextEligibleAtMs : Int} {latestEvidenceRowId : String}
    (hresult : input.result = .deferredToFrontier conversationId cycleId
      generation nextEligibleAtMs latestEvidenceRowId)
    (hcycle : cycleId ≠ "")
    (hopen : ∀ value,
      attemptOfEvent db input.attemptId input.eventId = some value →
        value.finishedAtMs = none)
    (hok : settleDurableAttempt db input = .ok (outcome, after)) :
    (getCycle after cycleId).map (·.state) = some .capacityWait ∧
      (OwnsCycle after cycleId ↔
        FrontierTakes db conversationId cycleId nextEligibleAtMs
          input.nowMs) := by
  obtain ⟨_, _, hok⟩ := of_bind hok
  obtain ⟨value, hvalue, hok⟩ := of_orFault hok
  rw [if_neg (by rw [hopen value hvalue]; exact Bool.false_ne_true)] at hok
  replace hok := passed hok
  simp only [hresult] at hok
  obtain ⟨_, hsettle, hok⟩ := of_bind hok
  cases of_pure hok
  unfold settleDeferred at hsettle
  simp only [if_neg hcycle] at hsettle
  obtain ⟨waiting, hwaiting, hschedule⟩ := of_bind hsettle
  obtain ⟨hstate, hfrontiers⟩ := updateCycleState_sets hwaiting
  have hsame : waiting.frontiers = db.frontiers := by
    rw [hfrontiers]
    split <;> rfl
  refine ⟨?_, ?_⟩
  · unfold getCycle at hstate ⊢
    rw [scheduleFrontier_cycles hschedule]
    exact hstate
  · rw [scheduleFrontier_owns hschedule]
    unfold FrontierTakes getActiveDeferredFrontier
    rw [hsame]

end Deferral

section Plain

attribute [local instance] plainHost

/-- The settlement of an attempt whose cycle waits for capacity. -/
def deferral (eventId attemptId claimToken cycleId : String)
    (generation nowMs : Int) : SettleDurableAttemptInput where
  eventId := eventId
  attemptId := attemptId
  claimToken := claimToken
  result := .deferredToFrontier "d" cycleId generation 1000 "row"
  nowMs := nowMs

def firstDeferral : SettleDurableAttemptInput :=
  deferral "e" "attempt:uu" "wake-lease:u" "cycle:wake:wake-occurrence:inboxed"
    1 4

def secondDeferral : SettleDurableAttemptInput :=
  deferral "f" "attempt:uuuuu" "wake-lease:uuuu"
    "cycle:wake:wake-occurrence:inboxfd" 2 6

/-- Two messages of one conversation, the first of which is worked on. -/
def firstClaimed : List Op :=
  [.appendInboxEvent
      { conversationId := "d", kind := "owner_message", createdAtMs := 1 }
      (some "e"),
    .appendInboxEvent
      { conversationId := "d", kind := "owner_message", createdAtMs := 2 }
      (some "f"),
    .startAttempt { eventId := "e", workerId := "w", nowMs := 3 }]

/-- The first waits for capacity, and the second is worked on. -/
def secondClaimed : List Op :=
  firstClaimed ++ [.settle firstDeferral,
    .startAttempt { eventId := "f", workerId := "w", nowMs := 5 }]

/-- The frontier of the first cycle is all that the second one gets. -/
theorem second_deferral_unowned :
    ¬ ∀ (db after : Sidecar) (input : SettleDurableAttemptInput)
        (outcome : DurableSettlementOutcome)
        (conversationId cycleId : String) (generation nextEligibleAtMs : Int)
        (latestEvidenceRowId : String),
      Reached db →
      input.result = .deferredToFrontier conversationId cycleId generation
        nextEligibleAtMs latestEvidenceRowId →
      settleDurableAttempt db input = .ok (outcome, after) →
      (getCycle after cycleId).map (·.state) = some .capacityWait →
      OwnsCycle after cycleId := by
  intro hall
  have hcommits : (settleDurableAttempt (run step {} secondClaimed)
      secondDeferral).toOption.isSome = true := by decide +kernel
  have hunowned : (settleDurableAttempt (run step {} secondClaimed)
      secondDeferral).toOption.all (fun settled =>
        (getCycle settled.2 "cycle:wake:wake-occurrence:inboxfd").map
            (·.state) = some .capacityWait &&
          settled.2.frontiers.rows.all (fun row => row.cycleId ≠
            "cycle:wake:wake-occurrence:inboxfd")) = true := by
    decide +kernel
  cases hsettle : settleDurableAttempt (run step {} secondClaimed)
      secondDeferral with
  | error =>
    rw [hsettle] at hcommits
    cases hcommits
  | ok settled =>
    rw [hsettle] at hunowned
    obtain ⟨hwaits, hnone⟩ := (Bool.and_eq_true _ _).mp hunowned
    obtain ⟨_, row, hrow, _, hcycle⟩ := hall _ _ _ settled.1 _ _ _ _ _
      ⟨secondClaimed, rfl⟩ rfl hsettle (of_decide_eq_true hwaits)
    exact of_decide_eq_true
      (List.all_eq_true.mp hnone row (mem_of_get? hrow)) hcycle

/-- The first deferral of a conversation gets a frontier of its own. -/
theorem first_deferral_owned :
    ∃ outcome after, settleDurableAttempt (run step {} firstClaimed)
        firstDeferral = .ok (outcome, after) ∧
      OwnsCycle after "cycle:wake:wake-occurrence:inboxed" := by
  have hcommits : (settleDurableAttempt (run step {} firstClaimed)
      firstDeferral).toOption.isSome = true := by decide +kernel
  have hopen : ((attemptOfEvent (run step {} firstClaimed) "attempt:uu"
      "e").all (·.finishedAtMs = none)) = true := by decide +kernel
  have hvacant : getActiveDeferredFrontier (run step {} firstClaimed) "d" =
      none := by decide +kernel
  cases hsettle : settleDurableAttempt (run step {} firstClaimed)
      firstDeferral with
  | error =>
    rw [hsettle] at hcommits
    cases hcommits
  | ok settled =>
    refine ⟨settled.1, settled.2, rfl, ?_⟩
    refine (@deferral_owned_iff _ (run step {} firstClaimed) settled.2
      firstDeferral settled.1 "d" "cycle:wake:wake-occurrence:inboxed" 1 1000
      "row" rfl (by decide) (fun value hvalue => of_decide_eq_true
        ((Option.all_eq_true _ _).mp hopen value hvalue)) hsettle).2.mpr ?_
    intro _ hexisting
    rw [hvacant] at hexisting
    cases hexisting

end Plain

end CognitiveSidecar
