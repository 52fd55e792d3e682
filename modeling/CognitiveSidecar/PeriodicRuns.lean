/-
The periodic schedule over whole runs of polls, crashes and the work of others:
an occurrence is closed once and woken once, and the next time only moves on.
-/
import Mathlib
import CognitiveSidecar.Lib.Run
import CognitiveSidecar.PeriodicMoves

namespace CognitiveSidecar.Periodic

open Option Relational Process

section Runs

variable [Host] {start db : PeriodicDb} {input : PeriodicPollInput}
variable {schedule : PeriodicScheduleRow} {occurrenceId wakeId : String}
variable {dispatchAllowed : Bool}
variable {after : PeriodicDb} {dueAtMs : Int}
variable {wake : Wake} {disposition : PeriodicDisposition}
variable {detail : ReceiptDetail} {candidate : String}

/-- Wherever the process stops, it reaches its state from the start. -/
def Keeps {α : Type} (start db : PeriodicDb) (m : Poll α) : Prop :=
  Leaves db m (fun _ => Reaches start) (Reaches start)

theorem keeps_pure {α : Type} {a : α} (hreached : Reaches start db) :
    Keeps start db (pure a) := leaves_pure hreached

/-! Closing the pending occurrence. -/

/-- Nothing is pending any more. -/
def Cleared (db : PeriodicDb) : Prop :=
  ∀ schedule, db.schedule = some schedule → schedule.pendingOccurrenceId = none

/-- The truth of a bound wake closes its occurrence. -/
theorem closeBound_keeps (hdigests : OccurrenceDigests)
    (hreached : Reaches start db) (htimely : Timely input.nowMs db)
    (hpending : PendingAs db occurrenceId (some wake.wakeId))
    (hdisposition : disposition ∉ [PeriodicDisposition.expired, .skippedEmpty,
      .authorityEpochAbandoned])
    (hended : Ended db wake.wakeId ∨
      disposition = PeriodicDisposition.admittedStaleSuppressed) :
    Leaves db (closeBound occurrenceId wake disposition detail input.nowMs)
      (fun _ after => Reaches start after ∧ Cleared after)
      (Reaches start) := by
  obtain ⟨schedule, hschedule, hoccurrence, hwake⟩ := hpending
  refine leaves_transaction hreached fun _ _ hok => ?_
  obtain ⟨_, _, hclose, hreaches, hafter⟩ :=
    @close_reaches _ db schedule hdigests hreached.1 hschedule
      { occurrenceId, disposition, wakeId := some wake.wakeId
        eventMs := input.nowMs, nowMs := input.nowMs, detail }
      htimely hoccurrence fun _ hbound => by
        cases hwake.symm.trans hbound
        exact ⟨rfl, hdisposition, hended⟩
  cases hclose.symm.trans hok
  refine ⟨hreached.trans hreaches, fun _ hfound => ?_⟩
  cases hafter.symm.trans hfound
  rfl

/-- A pending occurrence without a wake is closed under any disposition. -/
theorem closeUnbound_keeps (hdigests : OccurrenceDigests)
    (hreached : Reaches start db) (htimely : Timely input.nowMs db)
    (hpending : PendingAs db occurrenceId none) :
    Leaves db (closeUnbound occurrenceId disposition detail input.nowMs)
      (fun _ after => Reaches start after ∧ Cleared after)
      (Reaches start) := by
  obtain ⟨schedule, hschedule, hoccurrence, hwake⟩ := hpending
  refine leaves_transaction hreached fun _ _ hok => ?_
  obtain ⟨_, _, hclose, hreaches, hafter⟩ :=
    @close_reaches _ db schedule hdigests hreached.1 hschedule
      { occurrenceId, disposition, wakeId := none
        eventMs := input.nowMs, nowMs := input.nowMs, detail }
      htimely hoccurrence fun _ hbound => by
        cases hwake.symm.trans hbound
  cases hclose.symm.trans hok
  refine ⟨hreached.trans hreaches, fun _ hfound => ?_⟩
  cases hafter.symm.trans hfound
  rfl

/-! Bound occurrences. -/

/-- A reservation is written in the budget alone. -/
theorem reserveWake_reaches (hreached : Reaches start db)
    {conversationId : String} {admission : PrivateBudgetAdmission}
    (hok : reserveWake wake conversationId input db = .ok (admission, after)) :
    Reaches start after := by
  obtain ⟨⟨_, _⟩, _, hok⟩ := of_bind hok
  obtain ⟨rfl, rfl⟩ := of_pure_pair hok
  exact hreached.trans (hreached.1.aside rfl rfl rfl)

theorem continueBound_keeps (hreached : Reaches start db) :
    Keeps start db (continueBound input occurrenceId wake dispatchAllowed) := by
  refine leaves_read ?_
  split
  · exact keeps_pure hreached
  split_ifs
  · exact keeps_pure hreached
  · exact keeps_pure hreached
  · exact keeps_pure hreached
  split
  · exact keeps_pure hreached
  split
  · exact keeps_pure hreached
  refine leaves_commit hreached fun _ _ hok => ?_
  have hreached := reserveWake_reaches hreached hok
  split
  · exact keeps_pure hreached
  · exact keeps_pure hreached

omit [Host] in
/-- A terminal wake closes its occurrence as admitted, or as a failure. -/
theorem terminalDisposition_closes (wake : Wake) :
    terminalDispositionForWake wake ∉ [PeriodicDisposition.expired,
      .skippedEmpty, .authorityEpochAbandoned] := by
  unfold terminalDispositionForWake
  split <;> decide

theorem evaluateBound_keeps (hdigests : OccurrenceDigests)
    (hreached : Reaches start db) (htimely : Timely input.nowMs db)
    (hpending : PendingAs db occurrenceId (some wakeId)) :
    Keeps start db
      (evaluateBoundOccurrence input occurrenceId wakeId dispatchAllowed) := by
  refine leaves_read ?_
  split
  · exact keeps_pure hreached
  rename_i wake hwake
  obtain rfl : wake.wakeId = wakeId := (Table.get?_eq_some_iff.mp hwake).2
  split_ifs with _ hterminal _
  · exact keeps_pure hreached
  · refine leaves_bind (closeBound_keeps hdigests hreached htimely hpending
      (terminalDisposition_closes wake) (.inl ⟨wake, hwake, hterminal⟩)) ?_
    intro _ _ hafter
    exact keeps_pure hafter.1
  · exact continueBound_keeps hreached
  split
  · exact keeps_pure hreached
  · exact continueBound_keeps hreached
  · refine leaves_orElse ?_ fun after (hafter : Reaches start after) =>
      keeps_pure hafter
    refine leaves_bind ((closeBound_keeps hdigests hreached htimely hpending
      (by decide) (.inr rfl)).mono (fun _ _ hafter => hafter)
      fun _ hafter => ⟨hafter, hafter⟩) ?_
    intro _ _ hafter
    exact leaves_pure hafter.1

/-! Unbound occurrences. -/

theorem admitOccurrence_keeps (hdigests : OccurrenceDigests)
    (hreached : Reaches start db) (hpending : PendingAs db occurrenceId none)
    {observations : List String} :
    Keeps start db (admitOccurrence input occurrenceId dueAtMs candidate
      observations) := by
  obtain ⟨_, hschedule, hoccurrence, hwake⟩ := hpending
  refine @leaves_bind _ _ _ _ db _ _ _ _ (fun _ => Reaches start) ?_ ?_
  · refine leaves_orElse ?_ fun after (hafter : Reaches start after) =>
      keeps_pure hafter
    refine leaves_commit ⟨hreached, hreached⟩ fun _ _ hok => ?_
    exact leaves_pure (hreached.trans (freeze_reaches hdigests hreached.1
      hschedule hoccurrence hwake rfl hok))
  · intro _ _ hafter
    split
    · exact keeps_pure hafter
    · exact keeps_pure hafter
    · exact keeps_pure hafter
    refine leaves_commit hafter fun _ _ hok => ?_
    have hlast := reserveWake_reaches hafter hok
    split
    · exact keeps_pure hlast
    · exact keeps_pure hlast

omit [Host] in
/-- The work of others leaves the pending occurrence as it is. -/
theorem Others.pendingAs (hothers : Others db after) {bound : Option String}
    (hpending : PendingAs db occurrenceId bound) :
    PendingAs after occurrenceId bound := by
  unfold PendingAs
  rw [hothers.schedule]
  exact hpending

omit [Host] in
theorem Others.timely (hothers : Others db after) {nowMs : Int}
    (htimely : Timely nowMs db) : Timely nowMs after := by
  unfold Timely
  rw [hothers.schedule]
  exact htimely

theorem acquireAndAdmit_keeps (hdigests : OccurrenceDigests)
    (hreached : Reaches start db) (htimely : Timely input.nowMs db)
    (hpending : PendingAs db occurrenceId none) :
    Keeps start db (acquireAndAdmit input occurrenceId dueAtMs candidate) := by
  have hothers := input.acquiring.keeps db
  have hreached := hreached.trans (hreached.1.others hothers)
  refine leaves_await ?_
  dsimp only
  split
  · refine leaves_bind (closeUnbound_keeps hdigests hreached
      (hothers.timely htimely) (hothers.pendingAs hpending)) ?_
    intro _ _ hafter
    exact keeps_pure hafter.1
  · exact admitOccurrence_keeps hdigests hreached (hothers.pendingAs hpending)

omit [Host] in
/-- A wake found under the trigger of the occurrence is one of its wakes. -/
theorem findUnboundWake_isWakeOf {orphan : Wake}
    (hfind : findUnboundWake db occurrenceId dueAtMs = .ok (some orphan)) :
    db.sidecar.wakes.get? orphan.wakeId = some orphan ∧
      IsWakeOf orphan occurrenceId := by
  unfold findUnboundWake at hfind
  split at hfind
  · cases hfind
  · rename_i hrows
    cases hfind
    have hmem : orphan ∈ db.sidecar.wakes.rows.filter
        (·.triggerRef = periodicTriggerRef occurrenceId dueAtMs) := by
      rw [hrows]
      exact List.mem_singleton_self orphan
    obtain ⟨hstored, href⟩ := List.mem_filter.mp hmem
    exact ⟨get?_key hstored, dueAtMs, of_decide_eq_true href⟩
  · cases hfind

theorem evaluateUnbound_keeps (hdigests : OccurrenceDigests)
    (hreached : Reaches start db) (htimely : Timely input.nowMs db)
    (hpending : PendingAs db occurrenceId none) :
    Keeps start db
      (evaluateUnboundOccurrence input occurrenceId dueAtMs dispatchAllowed) := by
  refine leaves_read (leaves_ofExcept hreached fun _ hfind => ?_)
  split
  · -- The wake and the binding are committed together: there is no orphan.
    obtain ⟨hwake, hof⟩ := findUnboundWake_isWakeOf hfind
    obtain ⟨_, hschedule, hoccurrence, hunbound⟩ := hpending
    exact absurd hof (hreached.1.unwoken hdigests hschedule hoccurrence hunbound
      hwake)
  split
  · refine leaves_bind (closeUnbound_keeps hdigests hreached htimely hpending) ?_
    intro _ _ hafter
    exact keeps_pure hafter.1
  split
  · exact keeps_pure hreached
  split
  · exact keeps_pure hreached
  · exact acquireAndAdmit_keeps hdigests hreached htimely hpending

/-! The authority epoch. -/

/-- What is closed under the old epoch lets the new one in. -/
theorem closeAndAdopt_keeps {close : Poll PeriodicOccurrenceReceipt}
    {decision : PeriodicOccurrenceReceipt → PeriodicPollDecision}
    {halted : PeriodicDb → Prop}
    (hclose : Leaves db close
      (fun _ after => Reaches start after ∧ Cleared after) (Reaches start))
    (hhalted : ∀ after, Reaches start after → halted after) :
    Leaves db (closeAndAdopt close decision input)
      (fun transition after => Reaches start after ∧
        ∃ decided, transition = .decided decided) halted := by
  refine leaves_bind (hclose.mono (fun _ _ hafter => hafter) hhalted) ?_
  intro receipt after ⟨hafter, hcleared⟩
  refine leaves_commit (hhalted after hafter) fun _ _ hok => ?_
  exact leaves_pure ⟨hafter.trans (adopt_reaches hafter.1 hcleared hok).1,
    decision receipt, rfl⟩

/-- The transition decides the poll, or leaves the schedule under the epoch of
the poll and a pending occurrence as it was. -/
theorem evaluateEpoch_keeps (hdigests : OccurrenceDigests)
    (hreached : Reaches start db) (htimely : Timely input.nowMs db)
    (hschedule : db.schedule = some schedule) :
    Leaves db (evaluateAuthorityEpochTransition input schedule)
      (fun transition after => Reaches start after ∧
        ∀ ready, transition = .ready ready →
          after.schedule = some ready ∧ Timely input.nowMs after)
      (Reaches start) := by
  have hdecided : ∀ {decided : PeriodicPollDecision} {after : PeriodicDb},
      Reaches start after → Reaches start after ∧ ∀ ready,
        EpochTransition.decided decided = .ready ready →
          after.schedule = some ready ∧ Timely input.nowMs after := by
    intro _ _ hafter
    exact ⟨hafter, fun _ hready => by cases hready⟩
  have hclosed : ∀ {transition : EpochTransition} {after : PeriodicDb},
      (Reaches start after ∧ ∃ decided, transition = .decided decided) →
      Reaches start after ∧ ∀ ready, transition = .ready ready →
        after.schedule = some ready ∧ Timely input.nowMs after := by
    rintro _ _ ⟨hafter, _, rfl⟩
    exact hdecided hafter
  unfold evaluateAuthorityEpochTransition
  split
  · refine leaves_pure ⟨hreached, ?_⟩
    rintro _ ⟨rfl⟩
    exact ⟨hschedule, htimely⟩
  split
  · rename_i hnone
    refine leaves_commit hreached fun adopted _ hok => ?_
    obtain ⟨hreaches, hafter, hunpending⟩ := adopt_reaches hreached.1
      (fun _ hfound => by
        cases hschedule.symm.trans hfound
        exact hnone) hok
    refine leaves_pure ⟨hreached.trans hreaches, ?_⟩
    rintro _ ⟨rfl⟩
    refine ⟨hafter, fun _ _ hfound hdue => ?_⟩
    cases hafter.symm.trans hfound
    rw [(hreaches.1.idle adopted hafter hunpending).2] at hdue
    cases hdue
  · rename_i hoccurrence hunbound
    exact (closeAndAdopt_keeps (closeUnbound_keeps hdigests hreached htimely
      ⟨schedule, hschedule, hoccurrence, hunbound⟩) fun _ hafter => hafter).mono
      (fun _ _ hafter => hclosed hafter) fun _ hafter => hafter
  · rename_i occurrenceId wakeId hoccurrence hbound
    have hpending : PendingAs db occurrenceId (some wakeId) :=
      ⟨schedule, hschedule, hoccurrence, hbound⟩
    refine leaves_read ?_
    split
    · exact leaves_pure (hdecided hreached)
    rename_i wake hwake
    obtain rfl : wake.wakeId = wakeId := (Table.get?_eq_some_iff.mp hwake).2
    split
    · rename_i hterminal
      exact (closeAndAdopt_keeps (closeBound_keeps hdigests hreached htimely
        hpending (terminalDisposition_closes wake)
        (.inl ⟨wake, hwake, hterminal⟩)) fun _ hafter => hafter).mono
        (fun _ _ hafter => hclosed hafter) fun _ hafter => hafter
    split
    · exact leaves_pure (hdecided hreached)
    split_ifs
    · exact leaves_pure (hdecided hreached)
    · refine leaves_orElse ?_ fun after (hafter : Reaches start after) =>
        leaves_pure (hdecided hafter)
      exact (closeAndAdopt_keeps (closeBound_keeps hdigests hreached htimely
        hpending (by decide) (.inr rfl)) fun _ hafter => hafter).mono
        (fun _ _ hafter => hclosed hafter) fun _ hafter => ⟨hafter, hafter⟩
    · exact leaves_pure (hdecided hreached)

/-! The poll. -/

theorem evaluatePending_keeps (hdigests : OccurrenceDigests)
    (hreached : Reaches start db) (htimely : Timely input.nowMs db)
    (hschedule : db.schedule = some schedule) :
    Keeps start db (evaluatePending input schedule) := by
  unfold evaluatePending
  split
  · exact keeps_pure hreached
  rename_i occurrenceId hoccurrence
  dsimp only
  split
  · rename_i hbound
    exact evaluateBound_keeps hdigests hreached htimely
      ⟨schedule, hschedule, hoccurrence, hbound⟩
  rename_i hunbound
  have hpending : PendingAs db occurrenceId none :=
    ⟨schedule, hschedule, hoccurrence, hunbound⟩
  split
  · refine leaves_bind (closeUnbound_keeps hdigests hreached htimely hpending) ?_
    intro _ _ hafter
    exact keeps_pure hafter.1
  · exact evaluateUnbound_keeps hdigests hreached htimely hpending

theorem evaluateDue_keeps (hdigests : OccurrenceDigests)
    (hreached : Reaches start db) (htimely : Timely input.nowMs db)
    (hschedule : db.schedule = some schedule) :
    Keeps start db (evaluateDue input schedule) := by
  unfold evaluateDue
  split_ifs with hpending _
  · exact evaluatePending_keeps hdigests hreached htimely hschedule
  · exact keeps_pure hreached
  refine leaves_commit hreached fun _ _ hok => ?_
  obtain ⟨hreaches, hafter, htimely⟩ := mint_reaches hreached.1 hschedule
    (not_isSome_iff_eq_none.mp hpending) hok
  exact evaluatePending_keeps hdigests (hreached.trans hreaches) htimely hafter

theorem evaluateDisabled_keeps (hdigests : OccurrenceDigests)
    (hreached : Reaches start db) (htimely : Timely input.nowMs db)
    (hschedule : db.schedule = some schedule) :
    Keeps start db (evaluateDisabled input schedule) := by
  unfold evaluateDisabled
  split
  · rename_i hoccurrence hbound
    exact evaluateBound_keeps hdigests hreached htimely
      ⟨schedule, hschedule, hoccurrence, hbound⟩
  · exact keeps_pure hreached

theorem evaluateSchedule_keeps (hdigests : OccurrenceDigests)
    (hreached : Reaches start db) (htimely : Timely input.nowMs db) :
    Keeps start db (evaluateSchedule input) := by
  refine leaves_read ?_
  split
  · rename_i hnone
    split_ifs
    · exact keeps_pure hreached
    refine leaves_commit hreached fun _ _ hok => ?_
    exact keeps_pure
      (hreached.trans (createSchedule_reaches hreached.1 hnone hok))
  rename_i hschedule
  split_ifs
  · exact evaluateDisabled_keeps hdigests hreached htimely hschedule
  refine leaves_bind
    (evaluateEpoch_keeps hdigests hreached htimely hschedule) ?_
  intro _ _ ⟨hafter, hready⟩
  split
  · exact keeps_pure hafter
  · rename_i ready
    obtain ⟨hschedule, htimely⟩ := hready ready rfl
    exact evaluateDue_keeps hdigests hafter htimely hschedule

/-- A poll at a timely reading keeps the invariant and advances, wherever it
stops. -/
theorem evaluatePeriodicPoll_keeps (hdigests : OccurrenceDigests)
    (hscheduled : Scheduled db) (htimely : Timely input.nowMs db) :
    Keeps db db (evaluatePeriodicPoll input) := by
  have hothers := input.polling.keeps db
  exact leaves_await (evaluateSchedule_keeps hdigests
    (hscheduled.others hothers) (hothers.timely htimely))

/-! The disabled poll. -/

/-- The run that a decision lets the caller dispatch. -/
def PeriodicPollDecision.runnable : PeriodicPollDecision → Option PeriodicRunnable
  | .boundRunnable runnable => some runnable
  | .admitRunnable runnable => some runnable
  | _ => none

/-- No wake, cycle, event or reservation was written. -/
def Unspent (before after : PeriodicDb) : Prop :=
  after.sidecar = before.sidecar ∧ after.budget = before.budget

/-- The process spends nothing, and lets nothing be dispatched. -/
def Idles (start db : PeriodicDb) (m : Poll PeriodicPollDecision) : Prop :=
  Leaves db m
    (fun decision after => Unspent start after ∧ decision.runnable = none)
    (Unspent start)

omit [Host] in
theorem clearPending_unspent {input : CloseInput}
    {receipt : PeriodicOccurrenceReceipt} (hunspent : Unspent start db)
    (hok : clearPendingAndAdvance input db = .ok (receipt, after)) :
    Unspent start after := by
  unfold clearPendingAndAdvance at hok
  split at hok
  · obtain ⟨_, rfl⟩ := of_pure_pair hok
    exact hunspent
  · obtain ⟨_, _, hok⟩ := of_orFault hok
    replace hok := passed hok
    obtain ⟨_, rfl⟩ := of_pure_pair hok
    exact hunspent

theorem continueBound_idles (hunspent : Unspent start db) :
    Idles start db (continueBound input occurrenceId wake false) := by
  refine leaves_read ?_
  split
  · exact leaves_pure ⟨hunspent, rfl⟩
  split_ifs with _ _ hdeferred
  · exact leaves_pure ⟨hunspent, rfl⟩
  · exact leaves_pure ⟨hunspent, rfl⟩
  · exact leaves_pure ⟨hunspent, rfl⟩
  · exact absurd rfl hdeferred

theorem evaluateBound_idles (hunspent : Unspent start db) :
    Idles start db
      (evaluateBoundOccurrence input occurrenceId wakeId false) := by
  refine leaves_read ?_
  split
  · exact leaves_pure ⟨hunspent, rfl⟩
  split_ifs
  · exact leaves_pure ⟨hunspent, rfl⟩
  · refine leaves_commit hunspent fun _ after hok => ?_
    exact leaves_pure ⟨clearPending_unspent hunspent hok, rfl⟩
  · exact continueBound_idles hunspent
  split
  · exact leaves_pure ⟨hunspent, rfl⟩
  · exact continueBound_idles hunspent
  · refine leaves_orElse ?_ fun after (hafter : Unspent start after) =>
      leaves_pure ⟨hafter, rfl⟩
    refine leaves_commit ⟨hunspent, hunspent⟩ fun _ _ hok => ?_
    exact leaves_pure ⟨clearPending_unspent hunspent hok, rfl⟩

/-- While disabled a poll spends nothing but what its waiting let others do. -/
theorem evaluatePeriodicPoll_idles (hdisabled : input.enabled = false) :
    Idles (input.polling.run db) db (evaluatePeriodicPoll input) := by
  refine leaves_await (leaves_read ?_)
  have hunspent : Unspent (input.polling.run db) (input.polling.run db) :=
    ⟨rfl, rfl⟩
  rw [hdisabled]
  split
  · exact leaves_pure ⟨hunspent, rfl⟩
  change Idles _ _ (evaluateDisabled input _)
  unfold evaluateDisabled
  split
  · exact evaluateBound_idles hunspent
  · exact leaves_pure ⟨hunspent, rfl⟩

/-! Runs. -/

/-- A poll that lives to make some commits, or the work of others. -/
inductive PeriodicOp
  | poll (input : PeriodicPollInput) (lives : Nat)
  | others (work : OtherWork)

def periodicStep : PeriodicOp → PeriodicDb → PeriodicDb
  | .poll input lives, db => (evaluatePeriodicPoll input lives db).2
  | .others work, db => work.run db

omit [Host] in
/-- The polls of the run are read at timely clocks. -/
def PeriodicOp.Timely : PeriodicOp → PeriodicDb → Prop
  | .poll input _, db => Periodic.Timely input.nowMs db
  | .others _, _ => True

instance (nowMs : Int) (db : PeriodicDb) : Decidable (Timely nowMs db) :=
  decidable_of_iff (∀ schedule ∈ db.schedule,
      ∀ dueAtMs ∈ schedule.pendingDueAtMs,
        dueAtMs < max nowMs schedule.nextEligibleAtMs + periodicCadenceMs)
    ⟨fun htimely schedule dueAtMs hschedule hdue =>
        htimely schedule hschedule dueAtMs hdue,
      fun htimely schedule hschedule dueAtMs hdue =>
        htimely schedule dueAtMs hschedule hdue⟩

instance (op : PeriodicOp) (db : PeriodicDb) : Decidable (op.Timely db) :=
  match op with
  | .poll input _ => inferInstanceAs (Decidable (Timely input.nowMs db))
  | .others _ => .isTrue trivial

theorem periodicStep_reaches (hdigests : OccurrenceDigests) (op : PeriodicOp)
    (db : PeriodicDb) (htimely : op.Timely db) (hscheduled : Scheduled db) :
    Reaches db (periodicStep op db) := by
  cases op with
  | poll input lives =>
    have hkeeps := evaluatePeriodicPoll_keeps hdigests hscheduled htimely lives
    change Reaches db (evaluatePeriodicPoll input lives db).2
    generalize evaluatePeriodicPoll input lives db = outcome at hkeeps
    obtain ⟨result, _⟩ := outcome
    cases result with
    | ok | error => exact hkeeps
  | others work => exact hscheduled.others (work.keeps db)

theorem scheduled_initial (budget : PrivateBudget) : Scheduled { budget } where
  pending := fun _ _ hschedule => by cases hschedule
  idle := fun _ hschedule => by cases hschedule
  closed := fun _ _ hreceipt => by cases hreceipt
  bound := fun _ _ _ hwake => by cases hwake
  once := fun _ _ _ _ _ hwake => by cases hwake

/-- What every state of the schedule satisfies: a receipt, a wake and a pending
occurrence are each the only one, and what is pending is not closed. -/
structure ExactlyOnce (db : PeriodicDb) : Prop where
  receipt : ∀ receipt ∈ db.receipts.rows, ∀ receipt' ∈ db.receipts.rows,
    receipt.scheduleOccurrenceId = receipt'.scheduleOccurrenceId →
    receipt = receipt'
  wake : ∀ wake ∈ db.sidecar.wakes.rows, ∀ wake' ∈ db.sidecar.wakes.rows,
    ∀ occurrenceId, IsWakeOf wake occurrenceId →
      IsWakeOf wake' occurrenceId → wake = wake'
  pending : ∀ occurrenceId occurrenceId' wakeId wakeId',
    PendingAs db occurrenceId wakeId → PendingAs db occurrenceId' wakeId' →
    occurrenceId = occurrenceId' ∧ wakeId = wakeId'
  unclosed : ∀ occurrenceId wakeId, PendingAs db occurrenceId wakeId →
    ∀ receipt ∈ db.receipts.rows,
      receipt.scheduleOccurrenceId ≠ occurrenceId

theorem Scheduled.exactlyOnce (hdigests : OccurrenceDigests)
    (hscheduled : Scheduled db) : ExactlyOnce db where
  receipt := by
    intro receipt hreceipt _ hreceipt' hsame
    have hget := get?_key hreceipt
    have hget' := get?_key hreceipt'
    change db.receipts.get? receipt.scheduleOccurrenceId = _ at hget
    rw [hsame] at hget
    exact some.inj (hget.symm.trans hget')
  wake := by
    intro wake hwake wake' hwake' occurrenceId hof hof'
    have hget := get?_key hwake
    have hget' := get?_key hwake'
    have hsame := hscheduled.once _ _ wake wake' occurrenceId hget hget' hof hof'
    rw [hsame] at hget
    exact some.inj (hget.symm.trans hget')
  pending := by
    rintro _ _ _ _ ⟨_, hschedule, hpending, hwake⟩ ⟨_, hschedule', hpending',
      hwake'⟩
    cases hschedule.symm.trans hschedule'
    exact ⟨some.inj (hpending.symm.trans hpending'),
      hwake.symm.trans hwake'⟩
  unclosed := by
    rintro _ _ ⟨_, hschedule, hpending, _⟩ receipt hreceipt rfl
    have hfree := hscheduled.open hdigests hschedule hpending
    rw [show db.receipts.get? receipt.scheduleOccurrenceId = some receipt from
      get?_key hreceipt] at hfree
    cases hfree

/-- Over every run whose polls are timely each state is exactly once, each
timely step advances it, and a disabled poll spends nothing. -/
theorem periodic_exactly_once (hdigests : OccurrenceDigests)
    (budget : PrivateBudget) (ops : List PeriodicOp)
    (hmeets : Meets periodicStep PeriodicOp.Timely { budget } ops) :
    ExactlyOnce (run periodicStep { budget } ops) ∧
      (∀ op, op.Timely (run periodicStep { budget } ops) →
        Advances (run periodicStep { budget } ops)
          (periodicStep op (run periodicStep { budget } ops))) ∧
      ∀ input : PeriodicPollInput, input.enabled = false →
        Idles (input.polling.run (run periodicStep { budget } ops))
          (run periodicStep { budget } ops) (evaluatePeriodicPoll input) := by
  have hscheduled : Scheduled (run periodicStep { budget } ops) :=
    meets_preserves
      (fun op db htimely hscheduled =>
        (periodicStep_reaches hdigests op db htimely hscheduled).1)
      (scheduled_initial budget) hmeets
  refine ⟨hscheduled.exactlyOnce hdigests, ?_, ?_⟩
  · intro op htimely
    exact (periodicStep_reaches hdigests op _ htimely hscheduled).2
  · intro _ hdisabled
    exact evaluatePeriodicPoll_idles hdisabled

end Runs

section Plain

/-- Fields joined by colons. -/
def joinFields : List String → String
  | [] => ""
  | [field] => field
  | field :: rest => field ++ ":" ++ joinFields rest

/-- An executable host whose digest joins its fields by colons. -/
@[reducible]
def joiningHost : Host :=
  { plainHost with sha256 := fun fields => joinFields fields.flatten }

attribute [local instance] joiningHost

theorem joiningHost_digests : OccurrenceDigests := by
  intro epoch _ dueAtMs _ heq
  have hjoined : ∀ prefixed epoch dueAtMs : String,
      prefixed ++ Host.sha256 [[periodicScheduleId], [epoch], [dueAtMs]] =
        (prefixed ++ (periodicScheduleId ++ ":" ++ epoch)) ++ ":" ++
          dueAtMs := by
    intro prefixed epoch dueAtMs
    change prefixed ++ (periodicScheduleId ++ ":" ++ (epoch ++ ":" ++ dueAtMs)) =
      _
    simp only [String.append_assoc]
  unfold periodicScheduleOccurrenceId at heq
  rw [hjoined, hjoined] at heq
  exact Int.repr_injective (joined_number_inj heq).2

/-- The occurrence is held back, then bound at an earlier reading by a poll that
dies before it reserves, and a later poll finds it bound. -/
def boundPolls : List PeriodicOp :=
  [.poll { nowMs := 0, policyId := "" } 1,
   .poll { nowMs := 14400000, policyId := "", dueTriggerFired := true
           scopeConversationId := some "room" } 1,
   .poll { nowMs := 14399999, policyId := "", matched := ["seen"]
           scopeConversationId := some "room" } 1,
   .poll { nowMs := 43200001, policyId := "" } 1]

theorem boundPolls_timely :
    Meets periodicStep PeriodicOp.Timely { budget := initialBudget }
      boundPolls := by
  refine ⟨?_, ?_, ?_, ?_, trivial⟩ <;> decide +kernel

/-- The occurrence of that run keeps its wake past its window. -/
theorem bound_polls_exactly_once :
    ExactlyOnce (run periodicStep { budget := initialBudget } boundPolls) ∧
      ((run periodicStep { budget := initialBudget } boundPolls).schedule.bind
        (·.pendingWakeId)).isSome = true :=
  ⟨(periodic_exactly_once joiningHost_digests initialBudget boundPolls
    boundPolls_timely).1, by decide +kernel⟩

/-- A due trigger holds the occurrence of a room back, and then no room is
selectable. -/
def regressedPolls : List PeriodicOp :=
  [.poll { nowMs := 0, policyId := "" } 1,
   .poll { nowMs := 28800000, policyId := "", dueTriggerFired := true
           scopeConversationId := some "room" } 1,
   .poll { nowMs := 14400000, policyId := "" } 1,
   .poll { nowMs := 28800000, policyId := "" } 1]

/-- The clock goes back by a cadence while an occurrence is pending: it is closed,
minted again, and stays pending beside its receipt. -/
theorem regressed_occurrence_pends_closed :
    ∃ receipt ∈ (run periodicStep { budget := initialBudget }
        regressedPolls).receipts.rows,
      PendingAs (run periodicStep { budget := initialBudget } regressedPolls)
        receipt.scheduleOccurrenceId none := by
  refine ⟨⟨periodicScheduleOccurrenceId 1 28800000, .skippedEmpty, none, 1,
    28800000, 14400000, .noCandidate⟩, ?_, ⟨1, 28800000,
    some (periodicScheduleOccurrenceId 1 28800000), none, some 28800000,
    some 43200000, 28800000⟩, ?_, rfl, rfl⟩
  · decide +kernel
  · decide +kernel

end Plain

end CognitiveSidecar.Periodic
