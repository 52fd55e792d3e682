/-
Runs of the worker queue in which the process may be lost between any two
committed statements, and what the repair of the execution slot restores.
-/
import CognitiveSidecar.DetachedQueue

namespace CognitiveSidecar

open Option List Relational

/-- The operations of the queue, those of the detached ledger, and the
statements of other modules that touch the queue. -/
inductive WorkerOp
  | enqueue (input : EnqueueWorkerUndertakingInput) (nowMs : Int)
  | markCapacity (undertakingId : String) (input : CapacityInput) (nowMs : Int)
  | requeueAfterCapacity (undertakingId : String) (input : CapacityInput)
      (nowMs : Int)
  | markWorkerBusy (undertakingId : String) (nowMs : Int)
  | requestCancel (undertakingId : String) (nowMs : Int)
  | supersede (undertakingId supersededBy : String) (nowMs : Int)
  | markRunning (undertakingId operationId : String) (nowMs : Int)
  | releaseSlot (undertakingId : String) (nowMs : Int)
  | projectTerminal (undertakingId : String)
      (terminalState : WorkerTerminalState) (terminalReason : Option String)
      (nowMs : Int)
  | expireQueued (nowMs : Int)
  | repairSlot (nowMs : Int)
  | bind (input : BindInput) (nowMs : Int)
  | recoverClaims (nowMs : Int)
  | blockOthers (nowMs : Int)
  | acknowledge (undertakingId acknowledgementRef : String) (nowMs : Int)
  | detached (op : DetachedOp)

def WorkerUndertaking.acknowledged (row : WorkerUndertaking)
    (acknowledgementRef : String) (nowMs : Int) : WorkerUndertaking :=
  { row with
    acknowledgementRef := row.acknowledgementRef.or (some acknowledgementRef)
    updatedAtMs := nowMs }

theorem WorkerUndertaking.acknowledged_key (row : WorkerUndertaking)
    (acknowledgementRef : String) (nowMs : Int) :
    key (row.acknowledged acknowledgementRef nowMs) = key row := rfl

def WorkerUndertaking.blocked (row : WorkerUndertaking) (nowMs : Int) :
    WorkerUndertaking :=
  { row with blockedReason := some .workerBusy, updatedAtMs := nowMs }

theorem WorkerUndertaking.blocked_key (row : WorkerUndertaking) (nowMs : Int) :
    key (row.blocked nowMs) = key row := rfl

/-- While the slot is held, the other queued undertakings wait for it. -/
def blockOtherUndertakings (db : WorkerDb) (nowMs : Int) : WorkerDb :=
  match db.slot.undertakingId with
  | none => db
  | some holder =>
    { db with
      undertakings := db.undertakings.update
        (fun row => row.state = .queued && row.undertakingId ≠ holder &&
          row.blockedReason ≠ some .capacity)
        (·.blocked nowMs) (WorkerUndertaking.blocked_key · nowMs) }

/-- The state that an answer commits, or the state as it was. -/
def committed {ε α : Type} (db : WorkerDb)
    (answer : Except ε (α × WorkerDb)) : WorkerDb :=
  match answer with
  | .ok (_, after) => after
  | .error _ => db

/-- The statements of an operation, in their order. -/
def WorkerOp.statements [Host] (op : WorkerOp) (db : WorkerDb) :
    List QueueStatement :=
  match op with
  | .enqueue input nowMs =>
    [.whole fun db => committed db (enqueueWorkerUndertaking db input nowMs)]
  | .markCapacity undertakingId input nowMs =>
    [.whole fun db =>
      markWorkerUndertakingCapacity db undertakingId input nowMs]
  | .requeueAfterCapacity undertakingId input nowMs =>
    [.whole fun db =>
      (requeueWorkerUndertakingAfterCapacity db undertakingId input nowMs).2]
  | .markWorkerBusy undertakingId nowMs =>
    [.whole fun db => markWorkerUndertakingWorkerBusy db undertakingId nowMs]
  | .requestCancel undertakingId nowMs =>
    [.whole fun db =>
      (requestWorkerUndertakingCancel db undertakingId nowMs).toOption.getD db]
  | .supersede undertakingId supersededBy nowMs =>
    [.whole fun db => (supersedeWorkerUndertaking db undertakingId
      supersededBy nowMs).toOption.getD db]
  | .markRunning undertakingId operationId nowMs =>
    [.whole fun db =>
      markWorkerUndertakingRunning db undertakingId operationId nowMs]
  | .releaseSlot undertakingId nowMs =>
    [.whole fun db => releaseWorkerExecutionSlot db undertakingId nowMs]
  | .projectTerminal undertakingId terminalState terminalReason nowMs =>
    [.whole fun db => (projectWorkerUndertakingTerminal db undertakingId
      terminalState terminalReason nowMs).2]
  | .expireQueued nowMs => expireQueuedCuriosity db nowMs
  | .repairSlot nowMs => repairWorkerExecutionSlot db nowMs
  | .bind input nowMs =>
    [.whole fun db =>
      committed db (bindWorkerUndertakingToOperation db input nowMs)]
  | .recoverClaims nowMs => recoverExpiredDispatchClaims db nowMs
  | .blockOthers nowMs => [.whole fun db => blockOtherUndertakings db nowMs]
  | .acknowledge undertakingId acknowledgementRef nowMs =>
    [.whole fun db => db.updateUndertaking undertakingId (fun _ => true)
      (·.acknowledged acknowledgementRef nowMs)
      (WorkerUndertaking.acknowledged_key · acknowledgementRef nowMs)]
  | .detached op =>
    [.whole fun db => { db with detached := detachedStep op db.detached }]

def commitAll (statements : List QueueStatement) (db : WorkerDb) : WorkerDb :=
  statements.foldl QueueStatement.commit db

/-- An operation, and how many of its statements commit before the process is
lost; all of them when it is not lost. -/
structure WorkerStep where
  op : WorkerOp
  survives : Option Nat := none

def WorkerStep.committed [Host] (input : WorkerStep) (db : WorkerDb) :
    List QueueStatement :=
  match input.survives with
  | none => input.op.statements db
  | some count => (input.op.statements db).take count

/-- A lost process takes its dispatches with it. -/
def WorkerDb.lostProcess (db : WorkerDb) : WorkerDb :=
  { db with detached := { db.detached with dispatches := Table.empty } }

def workerStep [Host] (input : WorkerStep) (db : WorkerDb) : WorkerDb :=
  let after := commitAll (input.committed db) db
  if input.survives.isSome then after.lostProcess else after

/-- The slot is free, or it names an undertaking that is dispatching or
running. -/
def SlotHeld (db : WorkerDb) : Prop :=
  ∀ id, db.slot.undertakingId = some id → nonEmpty id = true ∧
    ∃ row, db.undertakings.get? id = some row ∧ row.isActive = true

section Updates

variable {db : WorkerDb} {undertakingId : String}
  {guard : WorkerUndertaking → Bool}
  {f : WorkerUndertaking → WorkerUndertaking}
  {hkey : ∀ row, key (f row) = key row} {nowMs : Int}

theorem get?_updateUndertaking (id : String) :
    (db.updateUndertaking undertakingId guard f hkey).undertakings.get? id =
      (db.undertakings.get? id).map fun row =>
        if (decide (row.undertakingId = undertakingId) && guard row) = true then
          f row else row := by
  exact get?_update db.undertakings _ f hkey id

/-- An update that leaves active undertakings active keeps the slot held. -/
theorem SlotHeld.update (hheld : SlotHeld db)
    (hactive : ∀ row, row.isActive = true → guard row = true →
      (f row).isActive = true) :
    SlotHeld (db.updateUndertaking undertakingId guard f hkey) := by
  intro id hslot
  obtain ⟨hname, row, hrow, hrowActive⟩ := hheld id hslot
  refine ⟨hname, _, by rw [get?_updateUndertaking, hrow, map_some], ?_⟩
  split
  · rename_i hselected
    simp only [Bool.and_eq_true] at hselected
    exact hactive row hrowActive hselected.2
  · exact hrowActive

/-- An update of queued undertakings keeps the slot held. -/
theorem SlotHeld.updateQueued (hheld : SlotHeld db) :
    SlotHeld (db.updateUndertaking undertakingId (·.state = .queued) f
      hkey) := by
  refine hheld.update fun _ hactive hqueued => ?_
  simp only [decide_eq_true_eq] at hqueued
  simp [WorkerUndertaking.isActive, hqueued] at hactive

theorem clearSlot_undertakings :
    (db.clearSlot undertakingId nowMs).undertakings = db.undertakings := by
  unfold WorkerDb.clearSlot
  split <;> rfl

theorem clearSlot_slot {id : String}
    (hslot : (db.clearSlot undertakingId nowMs).slot.undertakingId = some id) :
    id ≠ undertakingId ∧ db.slot.undertakingId = some id := by
  unfold WorkerDb.clearSlot at hslot
  split at hslot
  · cases hslot
  · rename_i hother
    refine ⟨?_, hslot⟩
    rintro rfl
    exact hother hslot

/-- Whatever becomes of the undertaking whose slot is freed with it. -/
theorem SlotHeld.updateCleared (hheld : SlotHeld db) :
    SlotHeld ((db.updateUndertaking undertakingId guard f hkey).clearSlot
      undertakingId nowMs) := by
  intro id hslot
  obtain ⟨hother, hslot⟩ := clearSlot_slot hslot
  obtain ⟨hname, row, hrow, hactive⟩ := hheld id hslot
  have hid : row.undertakingId = id := key_of_get? hrow
  refine ⟨hname, row, ?_, hactive⟩
  rw [clearSlot_undertakings, get?_updateUndertaking, hrow, map_some,
    if_neg (by simp [hid, hother])]

theorem SlotHeld.cleared (hheld : SlotHeld db) :
    SlotHeld (db.clearSlot undertakingId nowMs) := by
  intro id hslot
  rw [clearSlot_undertakings]
  exact hheld id (clearSlot_slot hslot).2

end Updates

section Operations

variable {db : WorkerDb} {undertakingId : String} {nowMs : Int}

variable {input : CapacityInput}

theorem requeueWorkerUndertakingAfterCapacity_held (hheld : SlotHeld db) :
    SlotHeld (requeueWorkerUndertakingAfterCapacity db undertakingId input
      nowMs).2 := by
  unfold requeueWorkerUndertakingAfterCapacity
  split
  · split
    · exact hheld
    · split
      · exact hheld.updateCleared
      · exact hheld
  · exact hheld

theorem projectWorkerUndertakingTerminal_held
    {terminalState : WorkerTerminalState} {terminalReason : Option String}
    (hheld : SlotHeld db) :
    SlotHeld (projectWorkerUndertakingTerminal db undertakingId terminalState
      terminalReason nowMs).2 := by
  unfold projectWorkerUndertakingTerminal
  split
  · split
    · exact hheld
    · split
      · exact hheld
      · split
        · exact hheld
        · exact hheld.updateCleared
  · exact hheld

theorem markWorkerUndertakingCapacity_held (hheld : SlotHeld db) :
    SlotHeld (markWorkerUndertakingCapacity db undertakingId input nowMs) := by
  unfold markWorkerUndertakingCapacity
  split
  · exact hheld.update fun _ hactive _ => hactive
  · exact hheld

theorem markWorkerUndertakingWorkerBusy_held (hheld : SlotHeld db) :
    SlotHeld (markWorkerUndertakingWorkerBusy db undertakingId nowMs) := by
  unfold markWorkerUndertakingWorkerBusy
  split
  · exact hheld.updateQueued
  · exact hheld

theorem requestWorkerUndertakingCancel_held (hheld : SlotHeld db) :
    SlotHeld ((requestWorkerUndertakingCancel db undertakingId
      nowMs).toOption.getD db) := by
  cases hanswer : requestWorkerUndertakingCancel db undertakingId nowMs with
  | error => exact hheld
  | ok =>
    replace hanswer := passed hanswer
    obtain ⟨_, _, hanswer⟩ := of_orFault hanswer
    split at hanswer
    · cases of_pure hanswer
      exact hheld.updateQueued
    split at hanswer
    · cases of_pure hanswer
      exact hheld.update fun _ hactive _ => hactive
    · cases hanswer

theorem supersedeWorkerUndertaking_held {supersededBy : String}
    (hheld : SlotHeld db) :
    SlotHeld ((supersedeWorkerUndertaking db undertakingId supersededBy
      nowMs).toOption.getD db) := by
  cases hanswer : supersedeWorkerUndertaking db undertakingId supersededBy
      nowMs with
  | error => exact hheld
  | ok =>
    replace hanswer := passed hanswer
    obtain ⟨_, _, hanswer⟩ := of_orFault hanswer
    replace hanswer := passed hanswer
    cases of_pure hanswer
    exact hheld.updateQueued

theorem markWorkerUndertakingRunning_held {operationId : String}
    (hheld : SlotHeld db) :
    SlotHeld (markWorkerUndertakingRunning db undertakingId operationId
      nowMs) := by
  unfold markWorkerUndertakingRunning
  split
  · split
    · exact hheld
    · split
      · exact @SlotHeld.update db undertakingId _ _
          (WorkerUndertaking.running_key · nowMs) hheld fun _ _ _ => rfl
      · exact hheld
  · exact hheld

theorem blockOtherUndertakings_held (hheld : SlotHeld db) :
    SlotHeld (blockOtherUndertakings db nowMs) := by
  unfold blockOtherUndertakings
  split
  · exact hheld
  · intro id hslot
    obtain ⟨hname, _, hrow, hactive⟩ := hheld id hslot
    refine ⟨hname, _, by rw [get?_update, hrow, map_some], ?_⟩
    split <;> exact hactive

variable [Host]

theorem enqueueWorkerUndertaking_held {input : EnqueueWorkerUndertakingInput}
    (hheld : SlotHeld db) :
    SlotHeld (committed db (enqueueWorkerUndertaking db input nowMs)) := by
  cases hanswer : enqueueWorkerUndertaking db input nowMs with
  | error => exact hheld
  | ok =>
    replace hanswer := passed hanswer
    dsimp only at hanswer
    generalize db.undertakings.rows.find? _ = admitted at hanswer
    generalize (if input.originKind = .ownerRequest then
      db.undertakings.rows.find? input.matchesActive else none) = active
        at hanswer
    cases admitted with
    | some =>
      cases of_pure hanswer
      exact hheld
    | none =>
    cases active with
    | some =>
      cases of_pure hanswer
      exact hheld
    | none =>
      replace hanswer := passed hanswer
      replace hanswer := passed hanswer
      obtain ⟨_, hinsert, hanswer⟩ := of_orFault hanswer
      cases of_pure hanswer
      intro id hslot
      obtain ⟨hname, held, hrow, hactive⟩ := hheld id hslot
      exact ⟨hname, held, get?_insert_of_some hinsert hrow, hactive⟩

/-- A binding finds the slot free or held by its own undertaking, and leaves it
to an undertaking that is dispatching. -/
theorem bindWorkerUndertakingToOperation_held {input : BindInput}
    (hheld : SlotHeld db) :
    SlotHeld (committed db
      (bindWorkerUndertakingToOperation db input nowMs)) := by
  cases hanswer : bindWorkerUndertakingToOperation db input nowMs with
  | error => exact hheld
  | ok =>
    obtain ⟨hvalid, hanswer⟩ := of_require hanswer
    have hname : nonEmpty input.undertakingId = true := by
      simp only [BindInput.isValid, Bool.and_eq_true] at hvalid
      exact hvalid.1.1.1.1.1
    obtain ⟨current, hcurrent, hanswer⟩ := of_orFault hanswer
    split at hanswer
    · rename_i hdispatching
      replace hanswer := passed hanswer
      replace hanswer := passed hanswer
      cases of_pure hanswer
      intro id hslot
      split at hslot
      · cases hslot
        refine ⟨hname, _, hcurrent, ?_⟩
        simp [WorkerUndertaking.isActive, hdispatching.1]
      · exact hheld id hslot
    · obtain ⟨hqueued, hanswer⟩ := of_require hanswer
      replace hanswer := passed hanswer
      replace hanswer := passed hanswer
      replace hanswer := passed hanswer
      split at hanswer
      · cases hanswer
      · replace hanswer := passed hanswer
        cases of_pure hanswer
        intro _ hslot
        cases hslot
        have hid : current.undertakingId = input.undertakingId :=
          key_of_get? hcurrent
        refine ⟨hname, current.claimed input nowMs, ?_, rfl⟩
        refine (@get?_updateUndertaking db input.undertakingId _ _
          (WorkerUndertaking.claimed_key · input nowMs) _).trans ?_
        rw [show db.undertakings.get? input.undertakingId = some current from
          hcurrent, map_some, if_pos (by simp [hid, hqueued])]

end Operations

section Statements

variable {db : WorkerDb} {undertakingId : String} {nowMs : Int}
variable {statements : List QueueStatement}

/-- An undertaking that does not hold the slot may become anything. -/
theorem SlotHeld.updateOther {guard : WorkerUndertaking → Bool}
    {f : WorkerUndertaking → WorkerUndertaking}
    {hkey : ∀ row, key (f row) = key row} (hheld : SlotHeld db)
    (hother : db.slot.undertakingId ≠ some undertakingId) :
    SlotHeld (db.updateUndertaking undertakingId guard f hkey) := by
  intro id hslot
  obtain ⟨hname, row, hrow, hactive⟩ := hheld id hslot
  have hid : row.undertakingId = id := key_of_get? hrow
  have hne : id ≠ undertakingId := by
    rintro rfl
    exact hother hslot
  refine ⟨hname, row, ?_, hactive⟩
  rw [get?_updateUndertaking, hrow, map_some,
    if_neg (by simp [hid, hne])]

/-- The slot is given to nobody. -/
def KeepsSlot (change : WorkerDb → WorkerDb) : Prop :=
  ∀ db id, (change db).slot.undertakingId = some id →
    db.slot.undertakingId = some id

/-- Statements that keep the slot held once all of them have committed: what
is returned to the queue gives up the slot with the next statement. -/
inductive Releasing : List QueueStatement → Prop
  | nil : Releasing []
  | single {change : WorkerDb → WorkerDb}
      (hheld : ∀ db, SlotHeld db → SlotHeld (change db)) :
      Releasing [.whole change]
  | whole {change : WorkerDb → WorkerDb} {rest : List QueueStatement}
      (hheld : ∀ db, SlotHeld db → SlotHeld (change db))
      (hslot : KeepsSlot change) (hrest : Releasing rest) :
      Releasing (.whole change :: rest)
  | release {undertakingId : String} {nowMs : Int}
      {rest : List QueueStatement} (hrest : Releasing rest) :
      Releasing (.release undertakingId nowMs :: rest)
  | claim {undertakingId : String} {keepsOperation : Bool} {nowMs : Int}
      {rest : List QueueStatement} (hrest : Releasing rest) :
      Releasing (.requeue undertakingId keepsOperation nowMs ::
        .release undertakingId nowMs :: rest)
  | unnamed {undertakingId : String} {keepsOperation : Bool} {nowMs : Int}
      {rest : List QueueStatement} (hname : nonEmpty undertakingId = false)
      (hrest : Releasing rest) :
      Releasing (.requeue undertakingId keepsOperation nowMs :: rest)

/-- The last statement that commits does not return the holder of the slot to
the queue. -/
def GivesUpSlot (statements : List QueueStatement) (db : WorkerDb) : Prop :=
  ∀ undertakingId keepsOperation nowMs,
    statements.getLast? = some (.requeue undertakingId keepsOperation nowMs) →
    db.slot.undertakingId ≠ some undertakingId

theorem GivesUpSlot.tail {statement : QueueStatement}
    {rest : List QueueStatement} {after : WorkerDb}
    (hgives : GivesUpSlot (statement :: rest) db)
    (hslot : ∀ id, after.slot.undertakingId = some id →
      db.slot.undertakingId = some id) : GivesUpSlot rest after := by
  intro undertakingId keepsOperation nowMs hlast hnamed
  refine hgives undertakingId keepsOperation nowMs ?_ (hslot _ hnamed)
  cases rest with
  | nil => cases hlast
  | cons => exact hlast

theorem Releasing.held (hreleasing : Releasing statements) (count : Nat)
    (hgives : GivesUpSlot (statements.take count) db) (hheld : SlotHeld db) :
    SlotHeld (commitAll (statements.take count) db) := by
  induction hreleasing generalizing db count with
  | nil =>
    rw [take_nil]
    exact hheld
  | single hchange =>
    cases count with
    | zero => exact hheld
    | succ =>
      rw [take_succ_cons, take_nil]
      exact hchange db hheld
  | whole hchange hslot _ ih =>
    cases count with
    | zero => exact hheld
    | succ count =>
      exact ih count (hgives.tail (hslot db)) (hchange db hheld)
  | @release undertakingId nowMs _ _ ih =>
    cases count with
    | zero => exact hheld
    | succ count =>
      exact ih count (hgives.tail fun id hnamed => (clearSlot_slot
        (hnamed : (db.clearSlot undertakingId nowMs).slot.undertakingId =
          some id)).2) hheld.cleared
  | @claim undertakingId keepsOperation nowMs _ _ ih =>
    match count with
    | 0 => exact hheld
    | 1 =>
      have hother : db.slot.undertakingId ≠ some undertakingId :=
        hgives undertakingId keepsOperation nowMs rfl
      exact hheld.updateOther hother
    | count + 2 =>
      refine ih count ?_ hheld.updateCleared
      have hreleases : GivesUpSlot _ db :=
        hgives.tail fun _ hnamed => hnamed
      refine hreleases.tail ?_
      intro _ hnamed
      exact (clearSlot_slot hnamed).2
  | @unnamed undertakingId _ _ _ hname _ ih =>
    cases count with
    | zero => exact hheld
    | succ count =>
      have hother : db.slot.undertakingId ≠ some undertakingId := by
        intro hnamed
        rw [(hheld undertakingId hnamed).1] at hname
        cases hname
      exact ih count (hgives.tail fun _ hnamed => hnamed)
        (hheld.updateOther hother)

/-- A complete list ends with the release of what it returned to the queue. -/
theorem Releasing.last (hreleasing : Releasing statements)
    {keepsOperation : Bool}
    (hlast : statements.getLast? =
      some (.requeue undertakingId keepsOperation nowMs)) :
    nonEmpty undertakingId = false := by
  induction hreleasing with
  | nil | single => cases hlast
  | @whole _ rest _ _ _ ih | @release _ _ rest _ ih | @claim _ _ _ rest _ ih =>
    cases rest with
    | nil => cases hlast
    | cons =>
      exact ih hlast
  | @unnamed _ _ _ rest hname _ ih =>
    cases rest with
    | nil =>
      cases hlast
      exact hname
    | cons =>
      exact ih hlast

theorem Releasing.append {first second : List QueueStatement}
    (hfirst : Releasing first) (hsecond : Releasing second)
    (hslot : ∀ change, QueueStatement.whole change ∈ first →
      KeepsSlot change) : Releasing (first ++ second) := by
  induction hfirst with
  | nil => exact hsecond
  | single hheld => exact .whole hheld (hslot _ mem_cons_self) hsecond
  | whole hheld hkeeps _ ih =>
    exact .whole hheld hkeeps
      (ih fun change hmem => hslot change (mem_cons_of_mem _ hmem))
  | release _ ih =>
    exact .release
      (ih fun change hmem => hslot change (mem_cons_of_mem _ hmem))
  | claim _ ih =>
    exact .claim (ih fun change hmem => hslot change
      (mem_cons_of_mem _ (mem_cons_of_mem _ hmem)))
  | unnamed hname _ ih =>
    exact .unnamed hname
      (ih fun change hmem => hslot change (mem_cons_of_mem _ hmem))

theorem projectWorkerUndertakingTerminal_slot
    {terminalState : WorkerTerminalState} {terminalReason : Option String} :
    KeepsSlot fun db => (projectWorkerUndertakingTerminal db undertakingId
      terminalState terminalReason nowMs).2 := by
  intro _ _ hnamed
  dsimp only at hnamed
  unfold projectWorkerUndertakingTerminal at hnamed
  split at hnamed
  · split at hnamed
    · exact hnamed
    · split at hnamed
      · exact hnamed
      · split at hnamed
        · exact hnamed
        · exact (clearSlot_slot hnamed).2
  · exact hnamed

theorem expireQueuedCuriosity_releasing :
    Releasing (expireQueuedCuriosity db nowMs) := by
  unfold expireQueuedCuriosity
  split
  · generalize expiredCuriosity db nowMs = ids
    induction ids with
    | nil => exact .nil
    | cons _ _ ih =>
      exact .whole (fun _ => projectWorkerUndertakingTerminal_held)
        projectWorkerUndertakingTerminal_slot ih
  · exact .nil

theorem repairWorkerExecutionSlot_releasing :
    Releasing (repairWorkerExecutionSlot db nowMs) := by
  unfold repairWorkerExecutionSlot
  split
  swap
  · exact .nil
  split
  · exact .nil
  split
  · exact .release .nil
  dsimp only
  split
  · exact .release .nil
  split
  · exact .single fun _ => projectWorkerUndertakingTerminal_held
  split
  · exact .single fun _ => requeueWorkerUndertakingAfterCapacity_held
  split
  · exact .nil
  split
  · exact .claim .nil
  split
  · exact .single fun _ => projectWorkerUndertakingTerminal_held
  · exact .nil

theorem recoverClaim_releasing {row : WorkerUndertaking} :
    Releasing (recoverClaim db nowMs row) ∧
      ∀ change, QueueStatement.whole change ∉ recoverClaim db nowMs row := by
  have hclaim : ∀ keepsOperation,
      Releasing (.requeue row.undertakingId keepsOperation nowMs ::
        if nonEmpty row.undertakingId then [.release row.undertakingId nowMs]
        else []) ∧
      ∀ change, QueueStatement.whole change ∉
        (.requeue row.undertakingId keepsOperation nowMs ::
          if nonEmpty row.undertakingId then
            [.release row.undertakingId nowMs] else []) := by
    intro _
    split
    · exact ⟨.claim .nil, by simp⟩
    · rename_i hname
      exact ⟨.unnamed (by simpa using hname) .nil, by simp⟩
  unfold recoverClaim
  dsimp only
  split
  · exact ⟨.nil, by simp⟩
  split
  · exact hclaim true
  · exact hclaim false

theorem recoverExpiredDispatchClaims_releasing :
    Releasing (recoverExpiredDispatchClaims db nowMs) := by
  unfold recoverExpiredDispatchClaims
  split
  · generalize expiredClaims db nowMs = rows
    induction rows with
    | nil => exact .nil
    | cons _ _ ih =>
      refine recoverClaim_releasing.1.append ih ?_
      intro change hmem
      exact absurd hmem (recoverClaim_releasing.2 change)
  · exact .nil

theorem WorkerOp.statements_releasing [Host] (op : WorkerOp) :
    Releasing (op.statements db) := by
  cases op with
  | enqueue => exact .single fun _ => enqueueWorkerUndertaking_held
  | markCapacity =>
    exact .single fun _ => markWorkerUndertakingCapacity_held
  | requeueAfterCapacity =>
    exact .single fun _ => requeueWorkerUndertakingAfterCapacity_held
  | markWorkerBusy =>
    exact .single fun _ => markWorkerUndertakingWorkerBusy_held
  | requestCancel =>
    exact .single fun _ => requestWorkerUndertakingCancel_held
  | supersede =>
    exact .single fun _ => supersedeWorkerUndertaking_held
  | markRunning =>
    exact .single fun _ => markWorkerUndertakingRunning_held
  | releaseSlot =>
    refine .single fun _ hheld => ?_
    unfold releaseWorkerExecutionSlot
    split
    · exact hheld.cleared
    · exact hheld
  | projectTerminal =>
    exact .single fun _ => projectWorkerUndertakingTerminal_held
  | expireQueued => exact expireQueuedCuriosity_releasing
  | repairSlot => exact repairWorkerExecutionSlot_releasing
  | bind =>
    exact .single fun _ => bindWorkerUndertakingToOperation_held
  | recoverClaims => exact recoverExpiredDispatchClaims_releasing
  | blockOthers => exact .single fun _ => blockOtherUndertakings_held
  | acknowledge =>
    exact .single fun _ hheld => hheld.update fun _ hactive _ => hactive
  | detached => exact .single fun _ hheld => hheld

end Statements

section Runs

variable [Host]
variable {db : WorkerDb}

/-- The process is not lost between the return of the slot's holder to the
queue and the release of the slot. -/
def ReleasesHolder (input : WorkerStep) (db : WorkerDb) : Prop :=
  GivesUpSlot (input.committed db) db

theorem workerStep_held {input : WorkerStep}
    (hreleases : ReleasesHolder input db) (hheld : SlotHeld db) :
    SlotHeld (workerStep input db) := by
  have hreleasing := @WorkerOp.statements_releasing db _ input.op
  unfold workerStep
  unfold ReleasesHolder WorkerStep.committed at hreleases
  unfold WorkerStep.committed
  cases hsurvives : input.survives with
  | none =>
    rw [hsurvives] at hreleases
    rw [← take_length (l := input.op.statements db)] at hreleases ⊢
    exact hreleasing.held (input.op.statements db).length hreleases hheld
  | some count =>
    rw [hsurvives] at hreleases
    exact hreleasing.held count hreleases hheld

/-- All the statements of an operation keep the slot held together. -/
theorem complete_releasesHolder (op : WorkerOp) (hheld : SlotHeld db) :
    ReleasesHolder { op } db := by
  intro undertakingId _ _ hlast hnamed
  have hname := (@WorkerOp.statements_releasing db _ op).last hlast
  rw [(hheld undertakingId hnamed).1] at hname
  cases hname

/-- A run in which the process is never lost meets the condition. -/
theorem meets_complete (hheld : SlotHeld db) (ops : List WorkerOp) :
    Meets workerStep ReleasesHolder db
      (ops.map fun op => ({ op } : WorkerStep)) := by
  induction ops generalizing db with
  | nil => trivial
  | cons op _ ih =>
    have hreleases := complete_releasesHolder op hheld
    exact ⟨hreleases, ih (workerStep_held hreleases hheld)⟩

/-- Only a held slot makes a binding answer that the worker is busy. -/
theorem bind_busy {input : BindInput} {nowMs : Int}
    (hbusy : bindWorkerUndertakingToOperation db input nowMs =
      .error .workerBusy) : db.slot.undertakingId ≠ none := by
  intro hfree
  rcases require_bind_error.mp hbusy with ⟨_, hfault⟩ | ⟨_, hbusy⟩
  · cases hfault
  rcases orFault_bind_error.mp hbusy with ⟨_, hfault⟩ | ⟨_, _, hbusy⟩
  · cases hfault
  split at hbusy
  · unfold reclaimSlot at hbusy
    rw [hfree] at hbusy
    rcases require_bind_error.mp hbusy with ⟨hother, _⟩ | ⟨_, hbusy⟩
    · exact hother rfl
    rcases require_bind_error.mp hbusy with ⟨hother, _⟩ | ⟨_, hbusy⟩
    · exact hother rfl
    · cases hbusy
  rcases require_bind_error.mp hbusy with ⟨_, hfault⟩ | ⟨_, hbusy⟩
  · cases hfault
  rcases require_bind_error.mp hbusy with ⟨hheld, _⟩ | ⟨_, hbusy⟩
  · exact hheld hfree
  rcases require_bind_error.mp hbusy with ⟨_, hfault⟩ | ⟨_, hbusy⟩
  · cases hfault
  rcases require_bind_error.mp hbusy with ⟨_, hfault⟩ | ⟨_, hbusy⟩
  · cases hfault
  split at hbusy
  · cases hbusy
  · rcases require_bind_error.mp hbusy with ⟨_, hfault⟩ | ⟨_, hbusy⟩
    · cases hfault
    · cases hbusy

omit [Host] in
theorem slotHeld_empty : SlotHeld {} := by
  intro _ hslot
  cases hslot

/-- The execution slot is true: it is free or held, and only a held slot makes
the worker busy. -/
structure SlotTrue (db : WorkerDb) : Prop where
  held : ∀ id, db.slot.undertakingId = some id →
    ∃ row, db.undertakings.get? id = some row ∧ row.isActive = true
  busy : ∀ input nowMs,
    bindWorkerUndertakingToOperation db input nowMs = .error .workerBusy →
    ∃ row ∈ db.undertakings.rows, row.isActive = true

theorem SlotHeld.slotTrue (hheld : SlotHeld db) :
    SlotTrue db where
  held := fun id hslot => (hheld id hslot).2
  busy := by
    intro _ _ hbusy
    obtain ⟨id, hslot⟩ := ne_none_iff_exists'.mp (bind_busy hbusy)
    obtain ⟨_, row, hrow, hactive⟩ := hheld id hslot
    exact ⟨row, mem_of_get? hrow, hactive⟩

/-- In every run in which no crash falls between the return of the slot's
holder to the queue and the release of the slot, the slot is true after its
repair. -/
theorem worker_slot_repaired (inputs : List WorkerStep)
    (hreleases : Meets workerStep ReleasesHolder {} inputs) (nowMs : Int) :
    SlotTrue (workerStep { op := .repairSlot nowMs }
      (run workerStep {} inputs)) := by
  have hheld := meets_preserves (P := SlotHeld)
    (fun _ _ hreleases hheld => workerStep_held hreleases hheld)
    slotHeld_empty hreleases
  exact (workerStep_held (complete_releasesHolder _ hheld) hheld).slotTrue

end Runs

section Plain

attribute [local instance] plainHost

def inspection (purpose : String) : EnqueueWorkerUndertakingInput where
  originKind := .ashleyCommitment
  originRef := "r"
  ownerId := "o"
  conversationId := some "c"
  originCycleId := "y"
  originGeneration := 1
  request := { projectId := some "p", text := "q" }
  purpose
  evidenceNeed := "facts"

/-- The identity of that undertaking under the plain host. -/
def inspectionId (purpose : String) : String :=
  workerUndertakingIdFor (inspection purpose).canonicalAdmissionKey

def bindInspection (purpose : String) : BindInput where
  undertakingId := inspectionId purpose
  operationId := "detached-operation:" ++ inspectionId purpose
  calendarIndex := 0
  admission :=
    { investigation with
      idempotencyKey := inspectionId purpose
      workerUndertakingId := some (inspectionId purpose)
      operationDeadlineAtMs := 1000000 }

/-- An undertaking is bound to the slot, and another one waits. -/
def boundInspection : List WorkerStep :=
  [.enqueue (inspection "look") 1, .bind (bindInspection "look") 2,
    .enqueue (inspection "other") 3].map fun op => { op }

/-- The claim expires, and the process is lost after some of the statements
that recover it. -/
def lostRecovery (survives : Nat) : WorkerStep :=
  { op := .recoverClaims 200000, survives := some survives }

theorem worker_slot_repaired_recovered :
    Meets workerStep ReleasesHolder {} (boundInspection ++ [lostRecovery 2]) ∧
      SlotTrue (workerStep { op := .repairSlot 300000 }
        (run workerStep {} (boundInspection ++ [lostRecovery 2]))) := by
  have hbound : Meets workerStep ReleasesHolder {} boundInspection :=
    meets_complete slotHeld_empty _
  have hheld : SlotHeld (run workerStep {} boundInspection) :=
    meets_preserves (P := SlotHeld)
      (fun _ _ hreleases hheld => workerStep_held hreleases hheld)
      slotHeld_empty hbound
  have hlength : ((WorkerOp.recoverClaims 200000).statements
      (run workerStep {} boundInspection)).length = 2 := by decide +kernel
  have hcomplete : ReleasesHolder (lostRecovery 2)
      (run workerStep {} boundInspection) := by
    change GivesUpSlot (((WorkerOp.recoverClaims 200000).statements
      (run workerStep {} boundInspection)).take 2) _
    rw [List.take_of_length_le (by rw [hlength])]
    exact complete_releasesHolder (.recoverClaims 200000) hheld
  have hreleases : Meets workerStep ReleasesHolder {}
      (boundInspection ++ [lostRecovery 2]) :=
    meets_append.mpr ⟨hbound, hcomplete, trivial⟩
  exact ⟨hreleases, worker_slot_repaired _ hreleases 300000⟩

/-- The queue after the process was lost between the two statements of the
recovery, and the slot was repaired. -/
def repairedInspection : WorkerDb :=
  run workerStep {} (boundInspection ++
    [lostRecovery 1, { op := .repairSlot 300000 }])

/-- The slot still names the undertaking, which is queued; nothing is active,
and the worker is busy for both. -/
theorem lost_release_blocks_worker :
    repairedInspection.slot.undertakingId = some (inspectionId "look") ∧
      (repairedInspection.undertakings.get? (inspectionId "look")).map
        (·.state) = some .queued ∧
      (∀ row ∈ repairedInspection.undertakings.rows, row.isActive = false) ∧
      bindWorkerUndertakingToOperation repairedInspection
        (bindInspection "look") 400000 = .error .workerBusy ∧
      bindWorkerUndertakingToOperation repairedInspection
        (bindInspection "other") 400000 = .error .workerBusy := by
  refine ⟨?_, ?_, ?_, ?_, ?_⟩
  · decide +kernel
  · decide +kernel
  · decide +kernel
  · decide +kernel
  · decide +kernel

end Plain

end CognitiveSidecar
