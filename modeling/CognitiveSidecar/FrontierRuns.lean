/-
The frontier ledger over whole runs: what each operation may do to a row, the
laws that every run keeps, and the fence between coordinators.
-/
import CognitiveSidecar.DurableSettlement
import CognitiveSidecar.Lib.Run

namespace CognitiveSidecar

open Relational

/-- How a frontier may change. -/
structure FrontierChange (old new : Frontier) : Prop where
  conversationId : new.conversationId = old.conversationId
  capacityDeadlineAtMs : new.capacityDeadlineAtMs = old.capacityDeadlineAtMs
  attemptCount : old.attemptCount ≤ new.attemptCount
  settled : old.isActive = false → new = old
  inTime : (old.state = .waiting →
      old.nextEligibleAtMs ≤ old.capacityDeadlineAtMs) →
    new.state = .waiting → new.nextEligibleAtMs ≤ new.capacityDeadlineAtMs

theorem FrontierChange.refl (row : Frontier) : FrontierChange row row :=
  ⟨rfl, rfl, Nat.le_refl _, fun _ => rfl, fun hold => hold⟩

theorem Frontier.isActive_iff {row : Frontier} :
    row.isActive = true ↔ row.state = .waiting ∨ row.state = .running := by
  simp [Frontier.isActive]

/-- An active frontier may leave the waiting state, and may be put back into it
for a time within its deadline. -/
theorem FrontierChange.ofActive {old new : Frontier}
    (hactive : old.isActive = true)
    (hconversation : new.conversationId = old.conversationId)
    (hdeadline : new.capacityDeadlineAtMs = old.capacityDeadlineAtMs)
    (hcount : old.attemptCount ≤ new.attemptCount)
    (htime : new.state = .waiting → (old.state = .waiting ∧
        new.nextEligibleAtMs = old.nextEligibleAtMs) ∨
      new.nextEligibleAtMs ≤ old.capacityDeadlineAtMs) :
    FrontierChange old new where
  conversationId := hconversation
  capacityDeadlineAtMs := hdeadline
  attemptCount := hcount
  settled := by
    intro hinactive
    rw [hactive] at hinactive
    cases hinactive
  inTime := by
    intro hold hwaiting
    rw [hdeadline]
    rcases htime hwaiting with ⟨hwas, hsame⟩ | hle
    · rw [hsame]
      exact hold hwas
    · exact hle

theorem FrontierChange.trans {a b c : Frontier} (hab : FrontierChange a b)
    (hbc : FrontierChange b c) : FrontierChange a c where
  conversationId := hbc.conversationId.trans hab.conversationId
  capacityDeadlineAtMs :=
    hbc.capacityDeadlineAtMs.trans hab.capacityDeadlineAtMs
  attemptCount := hab.attemptCount.trans hbc.attemptCount
  settled := by
    intro hinactive
    have hsame := hab.settled hinactive
    exact (hbc.settled (by rw [hsame]; exact hinactive)).trans hsame
  inTime := fun hold => hbc.inTime (hab.inTime hold)

/-- A new row: waiting, in a conversation without an active frontier. -/
structure OpensFrontier (db : Sidecar) (new : Frontier)
    (nextEligibleAtMs nowMs : Int) : Prop where
  waiting : new.state = .waiting
  vacant : ∀ id row, db.frontiers.get? id = some row →
    row.conversationId = new.conversationId → row.isActive = false
  nextEligibleAtMs : new.nextEligibleAtMs = nextEligibleAtMs
  capacityDeadlineAtMs :
    new.capacityDeadlineAtMs = nowMs + capacityWaitMaxDurationMs

section Rows

variable {db after : Sidecar}
variable {frontierId : String} {nowMs : Int}
variable {row : Frontier} {conversationId : String}

theorem updateFrontier_rewrites {guard : Frontier → Bool}
    {f : Frontier → Frontier} {hkey : ∀ row, key (f row) = key row}
    (hchange : ∀ row, db.frontiers.get? frontierId = some row →
      guard row = true → FrontierChange row (f row)) :
    Table.Rewrites FrontierChange db.frontiers
      (db.updateFrontier frontierId guard f hkey).frontiers := by
  refine Table.rewrites_update hkey ?_ .refl
  intro k row hrow hguard
  rw [Bool.and_eq_true, decide_eq_true_eq] at hguard
  have hid : row.frontierId = k := key_of_get? hrow
  rw [← hid, hguard.1] at hrow
  exact hchange row hrow hguard.2

theorem isDue_active (hdue : row.isDue nowMs = true) :
    row.isActive = true := by
  rw [Frontier.isActive_iff]
  simp only [Frontier.isDue, Bool.or_eq_true, Bool.and_eq_true,
    decide_eq_true_eq] at hdue
  exact hdue.imp And.left And.left

theorem advanceDeferredFrontierEvidence_rewrites {evidenceRowId : String} :
    Table.Rewrites FrontierChange db.frontiers
      (advanceDeferredFrontierEvidence db frontierId evidenceRowId
        nowMs).frontiers := by
  refine updateFrontier_rewrites ?_
  intro _ _ hactive
  exact .ofActive hactive rfl rfl (Nat.le_refl _)
    fun hwaiting => .inl ⟨hwaiting, rfl⟩

theorem claimDueDeferredFrontier_rewrites {claimToken : String} {leaseMs : Int} :
    Table.Rewrites FrontierChange db.frontiers
      (claimDueDeferredFrontier db frontierId claimToken leaseMs
        nowMs).2.frontiers := by
  unfold claimDueDeferredFrontier
  split
  · refine updateFrontier_rewrites ?_
    intro _ _ hdue
    exact .ofActive (isDue_active hdue) rfl rfl (Nat.le_succ _)
      fun hwaiting => by cases hwaiting
  · exact Table.Rewrites.refl .refl _

theorem resolveDeferredFrontier_rewrites :
    Table.Rewrites FrontierChange db.frontiers
      (resolveDeferredFrontier db frontierId nowMs).frontiers := by
  refine updateFrontier_rewrites ?_
  intro _ _ hrunning
  refine .ofActive (Frontier.isActive_iff.mpr
    (.inr (of_decide_eq_true hrunning))) rfl rfl (Nat.le_refl _) ?_
  intro hwaiting
  cases hwaiting

theorem exhaustDeferredFrontier_rewrites {terminalReason : Option String} :
    Table.Rewrites FrontierChange db.frontiers
      (exhaustDeferredFrontier db frontierId nowMs terminalReason).frontiers := by
  refine updateFrontier_rewrites ?_
  intro _ _ hactive
  exact .ofActive hactive rfl rfl (Nat.le_refl _)
    fun hwaiting => by cases hwaiting

theorem rescheduleDeferredFrontier_rewrites {nextEligibleAtMs : Int}
    {outcome : RescheduleOutcome}
    (hok : rescheduleDeferredFrontier db frontierId nextEligibleAtMs nowMs =
      .ok (outcome, after)) :
    Table.Rewrites FrontierChange db.frontiers after.frontiers := by
  obtain ⟨_, hcurrent, hok⟩ := of_orFault hok
  obtain ⟨hactive, hok⟩ := of_require hok
  split at hok
  · cases of_pure hok
    exact exhaustDeferredFrontier_rewrites
  rename_i hbound
  split at hok
  · cases of_pure hok
    exact exhaustDeferredFrontier_rewrites
  · cases of_pure hok
    refine updateFrontier_rewrites ?_
    intro _ hrow _
    cases hcurrent.symm.trans hrow
    refine .ofActive hactive rfl rfl (Nat.le_refl _) ?_
    intro _
    right
    exact Int.not_lt.mp fun hlate => hbound (.inr hlate)

theorem getActiveDeferredFrontier_eq_none
    (hnone : getActiveDeferredFrontier db conversationId = none) {id : String}
    (hrow : db.frontiers.get? id = some row)
    (hconversation : row.conversationId = conversationId) :
    row.isActive = false := by
  have hnot := List.find?_eq_none.mp hnone row (mem_of_get? hrow)
  simpa [hconversation] using hnot

theorem getActiveDeferredFrontier_stored
    (hrow : getActiveDeferredFrontier db conversationId = some row) :
    db.frontiers.get? row.frontierId = some row ∧
      row.conversationId = conversationId ∧ row.isActive = true := by
  have hfound := List.find?_some hrow
  rw [Bool.and_eq_true, decide_eq_true_eq] at hfound
  exact ⟨get?_key (List.mem_of_find?_eq_some hrow), hfound⟩

theorem insertDeferredFrontierRecord_opens [Host]
    {input : CreateDeferredFrontierInput} {frontier : Frontier}
    (hok : insertDeferredFrontierRecord db input = .ok (frontier, after)) :
    OpensFrontier db frontier input.nextEligibleAtMs input.nowMs ∧
      db.frontiers.insert? frontier = some after.frontiers := by
  replace hok := passed hok
  obtain ⟨hvacant, hok⟩ := of_require hok
  obtain ⟨_, hinsert, hok⟩ := of_orFault hok
  obtain ⟨rfl, rfl⟩ := of_pure_pair hok
  exact ⟨⟨rfl, fun _ _ hrow hconversation =>
    getActiveDeferredFrontier_eq_none hvacant hrow hconversation, rfl, rfl⟩,
    hinsert⟩

end Rows

section Runs

variable [Host]
variable {db : Sidecar}

/-- An operation on the frontier table with its arguments. -/
inductive FrontierOp
  | insert (input : CreateDeferredFrontierInput)
  | schedule (input : CreateDeferredFrontierInput)
  | advance (frontierId evidenceRowId : String) (nowMs : Int)
  | claim (frontierId claimToken : String) (leaseMs nowMs : Int)
  | resolve (frontierId : String) (nowMs : Int)
  | exhaust (frontierId : String) (nowMs : Int)
      (terminalReason : Option String)
  | reschedule (frontierId : String) (nextEligibleAtMs nowMs : Int)

def performFrontier (op : FrontierOp) (db : Sidecar) : Outcome Sidecar :=
  match op with
  | .insert input => Prod.snd <$> insertDeferredFrontierRecord db input
  | .schedule input => scheduleFrontier db input
  | .advance frontierId evidenceRowId nowMs =>
    .ok (advanceDeferredFrontierEvidence db frontierId evidenceRowId nowMs)
  | .claim frontierId claimToken leaseMs nowMs =>
    .ok (claimDueDeferredFrontier db frontierId claimToken leaseMs nowMs).2
  | .resolve frontierId nowMs =>
    .ok (resolveDeferredFrontier db frontierId nowMs)
  | .exhaust frontierId nowMs terminalReason =>
    .ok (exhaustDeferredFrontier db frontierId nowMs terminalReason)
  | .reschedule frontierId nextEligibleAtMs nowMs =>
    Prod.snd <$>
      rescheduleDeferredFrontier db frontierId nextEligibleAtMs nowMs

def frontierStep (op : FrontierOp) (db : Sidecar) : Sidecar :=
  commit db (performFrontier op db)

/-- The schedule with which an operation would insert a new frontier. -/
def FrontierOp.inserts (op : FrontierOp) (db : Sidecar) :
    Option CreateDeferredFrontierInput :=
  match op with
  | .insert input => some input
  | .schedule input =>
    if (getActiveDeferredFrontier db input.conversationId).isSome then none
    else some input
  | _ => none

/-- A new frontier is scheduled within the longest capacity wait. -/
def FrontierOp.InTime (op : FrontierOp) (db : Sidecar) : Prop :=
  ∀ input ∈ op.inserts db,
    input.nextEligibleAtMs ≤ input.nowMs + capacityWaitMaxDurationMs

variable {op : FrontierOp}

/-- What one operation does to the table: it rewrites rows, or opens one. -/
theorem performFrontier_cases {after : Sidecar}
    (hok : performFrontier op db = .ok after) :
    Table.Rewrites FrontierChange db.frontiers after.frontiers ∨
      ∃ input frontier, op.inserts db = some input ∧
        OpensFrontier db frontier input.nextEligibleAtMs input.nowMs ∧
        db.frontiers.insert? frontier = some after.frontiers := by
  cases op with
  | insert input =>
    obtain ⟨frontier, hok⟩ := snd_ok.mp hok
    exact .inr ⟨input, frontier, rfl,
      insertDeferredFrontierRecord_opens hok⟩
  | schedule input =>
    unfold performFrontier scheduleFrontier at hok
    cases hactive : getActiveDeferredFrontier db input.conversationId with
    | some =>
      simp only [hactive] at hok
      obtain ⟨⟨_, _⟩, hreschedule, hok⟩ := of_bind hok
      cases of_pure hok
      exact .inl (rescheduleDeferredFrontier_rewrites hreschedule)
    | none =>
      simp only [hactive] at hok
      obtain ⟨⟨frontier, _⟩, hinsert, hok⟩ := of_bind hok
      cases of_pure hok
      refine .inr ⟨input, frontier, ?_,
        insertDeferredFrontierRecord_opens hinsert⟩
      simp [FrontierOp.inserts, hactive]
  | advance =>
    cases hok
    exact .inl advanceDeferredFrontierEvidence_rewrites
  | claim =>
    cases hok
    exact .inl claimDueDeferredFrontier_rewrites
  | resolve =>
    cases hok
    exact .inl resolveDeferredFrontier_rewrites
  | exhaust =>
    cases hok
    exact .inl exhaustDeferredFrontier_rewrites
  | reschedule =>
    obtain ⟨_, hok⟩ := snd_ok.mp hok
    exact .inl (rescheduleDeferredFrontier_rewrites hok)

/-- A conversation has at most one active frontier. -/
def OneActive (db : Sidecar) : Prop :=
  ∀ id id' row row', db.frontiers.get? id = some row →
    db.frontiers.get? id' = some row' →
    row.conversationId = row'.conversationId →
    row.isActive = true → row'.isActive = true → id = id'

/-- A waiting frontier becomes eligible by its capacity deadline. -/
def WaitsInTime (db : Sidecar) : Prop :=
  ∀ id row, db.frontiers.get? id = some row → row.state = .waiting →
    row.nextEligibleAtMs ≤ row.capacityDeadlineAtMs

theorem frontierStep_oneActive (hone : OneActive db) :
    OneActive (frontierStep op db) := by
  refine commit_preserves hone ?_
  intro _ hok id id' row row' hrow hrow' hconversation hactive hactive'
  rcases performFrontier_cases hok with hrewrites |
    ⟨input, frontier, _, hopens, hinsert⟩
  · obtain ⟨old, hold, hchange⟩ := hrewrites.backward hrow
    obtain ⟨old', hold', hchange'⟩ := hrewrites.backward hrow'
    refine hone id id' old old' hold hold' ?_ ?_ ?_
    · rw [← hchange.conversationId, ← hchange'.conversationId, hconversation]
    · cases hwas : old.isActive with
      | true => rfl
      | false =>
        rw [hchange.settled hwas, hwas] at hactive
        cases hactive
    · cases hwas : old'.isActive with
      | true => rfl
      | false =>
        rw [hchange'.settled hwas, hwas] at hactive'
        cases hactive'
  · rw [get?_insert hinsert] at hrow hrow'
    by_cases hid : id = key frontier
    · by_cases hid' : id' = key frontier
      · rw [hid, hid']
      · rw [if_pos hid] at hrow
        rw [if_neg hid'] at hrow'
        cases hrow
        rw [hopens.vacant id' row' hrow' hconversation.symm] at hactive'
        cases hactive'
    · by_cases hid' : id' = key frontier
      · rw [if_neg hid] at hrow
        rw [if_pos hid'] at hrow'
        cases hrow'
        rw [hopens.vacant id row hrow hconversation] at hactive
        cases hactive
      · rw [if_neg hid] at hrow
        rw [if_neg hid'] at hrow'
        exact hone id id' row row' hrow hrow' hconversation hactive hactive'

theorem frontierStep_waitsInTime (htime : op.InTime db)
    (hwaits : WaitsInTime db) :
    WaitsInTime (frontierStep op db) := by
  refine commit_preserves hwaits ?_
  intro _ hok id row hrow hwaiting
  rcases performFrontier_cases hok with hrewrites |
    ⟨input, frontier, hinput, hopens, hinsert⟩
  · obtain ⟨old, hold, hchange⟩ := hrewrites.backward hrow
    exact hchange.inTime (hwaits id old hold) hwaiting
  · rw [get?_insert hinsert] at hrow
    by_cases hid : id = key frontier
    · rw [if_pos hid] at hrow
      cases hrow
      rw [hopens.nextEligibleAtMs, hopens.capacityDeadlineAtMs]
      exact htime input hinput
    · rw [if_neg hid] at hrow
      exact hwaits id row hrow hwaiting

/-- A frontier is never removed, and its row descends from the stored one. -/
theorem frontier_run_forward {id : String} {row : Frontier}
    (hrow : db.frontiers.get? id = some row) (ops : List FrontierOp) :
    ∃ row', (run frontierStep db ops).frontiers.get? id = some row' ∧
      FrontierChange row row' := by
  induction ops generalizing db row with
  | nil => exact ⟨row, hrow, .refl row⟩
  | cons op _ ih =>
    obtain ⟨mid, hmid, hfirst⟩ : ∃ mid,
        (frontierStep op db).frontiers.get? id = some mid ∧
          FrontierChange row mid := by
      unfold frontierStep
      cases hperform : performFrontier op db with
      | error => exact ⟨row, hrow, .refl row⟩
      | ok =>
        rcases performFrontier_cases hperform with hrewrites |
          ⟨_, _, _, _, hinsert⟩
        · exact hrewrites.forward hrow
        · exact ⟨row, get?_insert_of_some hinsert hrow, .refl row⟩
    obtain ⟨row', hrow', hlast⟩ := ih hmid
    exact ⟨row', hrow', hfirst.trans hlast⟩

/-- In every run that schedules its new frontiers within the longest capacity
wait, each conversation has one active frontier at most, a waiting frontier
becomes eligible by its deadline, and in every later state a frontier has the
same deadline and, once settled, the same row. -/
theorem frontier_ledger_laws {ops : List FrontierOp}
    (hmeets : Meets frontierStep FrontierOp.InTime {} ops) :
    OneActive (run frontierStep {} ops) ∧
    WaitsInTime (run frontierStep {} ops) ∧
    ∀ id row later, (run frontierStep {} ops).frontiers.get? id = some row →
      ∃ row', (run frontierStep {} (ops ++ later)).frontiers.get? id =
          some row' ∧
        row'.capacityDeadlineAtMs = row.capacityDeadlineAtMs ∧
        (row.state = .resolved ∨ row.state = .exhausted → row' = row) := by
  refine ⟨?_, ?_, ?_⟩
  · refine run_preserves (P := OneActive)
      (fun _ _ => frontierStep_oneActive) ?_ ops
    intro _ _ _ _ hrow
    cases hrow
  · refine meets_preserves (P := WaitsInTime)
      (fun _ _ => frontierStep_waitsInTime) ?_ hmeets
    intro _ _ hrow
    cases hrow
  · intro _ _ later hrow
    obtain ⟨row', hrow', hchange⟩ := frontier_run_forward hrow later
    refine ⟨row', ?_, hchange.capacityDeadlineAtMs, ?_⟩
    · rw [run_append]
      exact hrow'
    · intro hsettled
      apply hchange.settled
      rcases hsettled with hstate | hstate <;>
        simp [Frontier.isActive, hstate]

end Runs

section Plain

attribute [local instance] plainHost

/-- A frontier scheduled at 0 for a later time. -/
def scheduledFor (nextEligibleAtMs : Int) : FrontierOp :=
  .insert
    { conversationId := "c", cycleId := "cycle", generation := 1
      nextEligibleAtMs, latestEvidenceRowId := "row", nowMs := 0 }

/-- A frontier that is scheduled, claimed and resolved. -/
def scheduledAndResolved : List FrontierOp :=
  [scheduledFor 5000, .claim "u" "w" 30000 6000, .resolve "u" 7000]

theorem frontier_ledger_laws_resolved :
    (run frontierStep {} scheduledAndResolved).frontiers.rows.map
        Frontier.state = [.resolved] ∧
      WaitsInTime (run frontierStep {} scheduledAndResolved) := by
  have hmeets :
      Meets frontierStep FrontierOp.InTime {} scheduledAndResolved := by
    refine ⟨?_, ?_, ?_, trivial⟩
    · intro _ hinput
      cases hinput
      decide
    · intro _ hinput
      cases hinput
    · intro _ hinput
      cases hinput
  exact ⟨by decide +kernel, (frontier_ledger_laws hmeets).2.1⟩

/-- An insertion does not look at the deadline it computes. -/
theorem inserted_frontier_waits_past_deadline :
    (run frontierStep {} [scheduledFor 120001]).frontiers.rows.any
      (fun row => row.state = .waiting &&
        row.capacityDeadlineAtMs < row.nextEligibleAtMs) = true := by
  decide +kernel

end Plain

end CognitiveSidecar
