/-
What every run of the worker queue keeps, crash points included: its two caps,
the states of ended undertakings, and the answers to repeated admissions.
-/
import CognitiveSidecar.DetachedSlot

namespace CognitiveSidecar

open List Relational

/-- What an undertaking asks for; no operation changes it. -/
structure WorkerAsk where
  undertakingId : String
  originKind : WorkerOriginKind
  originRef : String
  originOwnerEventId : Option String
  (request purpose evidenceNeed admissionKey : String)

def WorkerUndertaking.ask (row : WorkerUndertaking) : WorkerAsk where
  undertakingId := row.undertakingId
  originKind := row.originKind
  originRef := row.originRef
  originOwnerEventId := row.originOwnerEventId
  request := row.requestJson.text
  purpose := row.purpose
  evidenceNeed := row.evidenceNeed
  admissionKey := row.admissionKey

/-- The undertaking is queued or dispatching. -/
def WorkerUndertaking.isPending (row : WorkerUndertaking) : Bool :=
  row.state = .queued || row.state = .dispatching

/-- A change of one undertaking: an ended one keeps its state, and none becomes
pending again. -/
structure UndertakingMove (row row' : WorkerUndertaking) : Prop where
  ask : row'.ask = row.ask
  ended : row.isNonterminal = false → row'.state = row.state
  pending : row'.isPending = true → row.isPending = true

namespace UndertakingMove

variable {row row' row'' : WorkerUndertaking}

theorem refl (row : WorkerUndertaking) : UndertakingMove row row :=
  ⟨rfl, fun _ => rfl, fun hpending => hpending⟩

theorem nonterminal (hmove : UndertakingMove row row')
    (hrow : row'.isNonterminal = true) : row.isNonterminal = true := by
  by_contra hended
  rw [Bool.not_eq_true] at hended
  have hstate := hmove.ended hended
  have hsame : row'.isNonterminal = row.isNonterminal := by
    simp only [WorkerUndertaking.isNonterminal, WorkerUndertaking.isActive,
      hstate]
  rw [hsame, hended] at hrow
  cases hrow

theorem trans (hfirst : UndertakingMove row row')
    (hsecond : UndertakingMove row' row'') : UndertakingMove row row'' where
  ask := hsecond.ask.trans hfirst.ask
  ended := by
    intro hended
    have hended' : row'.isNonterminal = false := by
      by_contra hactive
      rw [Bool.not_eq_false] at hactive
      rw [hfirst.nonterminal hactive] at hended
      cases hended
    rw [hsecond.ended hended', hfirst.ended hended]
  pending := fun hpending => hfirst.pending (hsecond.pending hpending)

/-- A change that leaves the state alone. -/
theorem kept (hask : row'.ask = row.ask) (hstate : row'.state = row.state) :
    UndertakingMove row row' where
  ask := hask
  ended := fun _ => hstate
  pending := by
    intro hpending
    rwa [WorkerUndertaking.isPending, hstate] at hpending

/-- A pending undertaking may get any state. -/
theorem ofPending (hask : row'.ask = row.ask) (hrow : row.isPending = true) :
    UndertakingMove row row' where
  ask := hask
  ended := by
    intro hended
    simp only [WorkerUndertaking.isPending, Bool.or_eq_true,
      decide_eq_true_eq] at hrow
    rcases hrow with hqueued | hdispatching
    · simp [WorkerUndertaking.isNonterminal, hqueued] at hended
    · simp [WorkerUndertaking.isNonterminal, WorkerUndertaking.isActive,
        hdispatching] at hended
  pending := fun _ => hrow

end UndertakingMove

/-- Every undertaking is changed in its place. -/
def QueueMoves (db db' : WorkerDb) : Prop :=
  List.Forall₂ UndertakingMove db.undertakings.rows db'.undertakings.rows

namespace QueueMoves

variable {db db' db'' : WorkerDb}

theorem of_eq (hsame : db'.undertakings = db.undertakings) :
    QueueMoves db db' := by
  rw [QueueMoves, hsame]
  exact List.forall₂_same.mpr fun row _ => UndertakingMove.refl row

theorem trans (hfirst : QueueMoves db db') (hsecond : QueueMoves db' db'') :
    QueueMoves db db'' := by
  have hcompose : ∀ (rows rows' rows'' : List WorkerUndertaking),
      List.Forall₂ UndertakingMove rows rows' →
      List.Forall₂ UndertakingMove rows' rows'' →
      List.Forall₂ UndertakingMove rows rows'' := by
    intro _ _ rows'' hold hnew
    induction hold generalizing rows'' with
    | nil =>
      cases hnew
      exact .nil
    | cons hhead _ ih =>
      cases hnew with
      | cons hhead' htail' => exact .cons (hhead.trans hhead') (ih _ htail')
  exact hcompose _ _ _ hfirst hsecond

theorem update {undertakingId : String} {guard : WorkerUndertaking → Bool}
    {f : WorkerUndertaking → WorkerUndertaking}
    (hkey : ∀ row, key (f row) = key row)
    (hmove : ∀ row, guard row = true → UndertakingMove row (f row)) :
    QueueMoves db (db.updateUndertaking undertakingId guard f hkey) := by
  refine Table.forall₂_update hkey ?_ UndertakingMove.refl
  intro row _ hselected
  simp only [Bool.and_eq_true] at hselected
  exact hmove row hselected.2

theorem cleared {undertakingId : String} {nowMs : Int}
    (hmoves : QueueMoves db db') :
    QueueMoves db (db'.clearSlot undertakingId nowMs) :=
  hmoves.trans (of_eq clearSlot_undertakings)

end QueueMoves

section Operations

variable {db : WorkerDb} {undertakingId : String} {nowMs : Int}
variable {row : WorkerUndertaking} {input : CapacityInput}

theorem isPending_of_queued (hqueued : decide (row.state = .queued) = true) :
    row.isPending = true := by
  rw [WorkerUndertaking.isPending, hqueued, Bool.true_or]

theorem isPending_of_dispatching
    (hdispatching : decide (row.state = .dispatching) = true) :
    row.isPending = true := by
  rw [WorkerUndertaking.isPending, hdispatching, Bool.or_true]

/-- A claim goes back to the queue only from dispatching. -/
theorem requeueWorkerUndertakingAfterCapacity_moves :
    QueueMoves db (requeueWorkerUndertakingAfterCapacity db undertakingId input
      nowMs).2 := by
  unfold requeueWorkerUndertakingAfterCapacity
  split
  · split
    · exact .of_eq rfl
    · split
      · exact (QueueMoves.update
          (WorkerUndertaking.requeuedForCapacity_key · input nowMs)
          fun _ hguard => .ofPending rfl
            (isPending_of_dispatching hguard)).cleared
      · exact .of_eq rfl
  · exact .of_eq rfl

theorem WorkerTerminalState.toState_ended (state : WorkerTerminalState) :
    state.toState ≠ .queued ∧ state.toState ≠ .dispatching := by
  cases state <;> exact ⟨nofun, nofun⟩

theorem projectWorkerUndertakingTerminal_moves
    {terminalState : WorkerTerminalState} {terminalReason : Option String} :
    QueueMoves db (projectWorkerUndertakingTerminal db undertakingId
      terminalState terminalReason nowMs).2 := by
  unfold projectWorkerUndertakingTerminal
  split
  · split
    · exact .of_eq rfl
    · split
      · exact .of_eq rfl
      · split
        · exact .of_eq rfl
        · rename_i state _ _
          refine (QueueMoves.update _ fun _ hactive => ?_).cleared
          refine ⟨rfl, fun hended => ?_, fun hpending => ?_⟩
          · rw [hended] at hactive
            cases hactive
          · obtain ⟨hqueued, hdispatching⟩ := state.toState_ended
            simp [WorkerUndertaking.isPending, WorkerUndertaking.ended, hqueued,
              hdispatching] at hpending
  · exact .of_eq rfl

theorem markWorkerUndertakingCapacity_moves :
    QueueMoves db (markWorkerUndertakingCapacity db undertakingId input
      nowMs) := by
  unfold markWorkerUndertakingCapacity
  split
  · exact QueueMoves.update _ fun _ _ => .kept rfl rfl
  · exact .of_eq rfl

theorem markWorkerUndertakingWorkerBusy_moves :
    QueueMoves db (markWorkerUndertakingWorkerBusy db undertakingId nowMs) := by
  unfold markWorkerUndertakingWorkerBusy
  split
  · exact QueueMoves.update _ fun _ _ => .kept rfl rfl
  · exact .of_eq rfl

theorem requestWorkerUndertakingCancel_moves :
    QueueMoves db ((requestWorkerUndertakingCancel db undertakingId
      nowMs).toOption.getD db) := by
  cases hanswer : requestWorkerUndertakingCancel db undertakingId nowMs with
  | error => exact .of_eq rfl
  | ok =>
    replace hanswer := passed hanswer
    obtain ⟨_, _, hanswer⟩ := of_orFault hanswer
    split at hanswer
    · cases of_pure hanswer
      exact QueueMoves.update _ fun _ hguard =>
        .ofPending rfl (isPending_of_queued hguard)
    split at hanswer
    · cases of_pure hanswer
      exact QueueMoves.update _ fun _ _ => .kept rfl rfl
    · cases hanswer

theorem supersedeWorkerUndertaking_moves {supersededBy : String} :
    QueueMoves db ((supersedeWorkerUndertaking db undertakingId supersededBy
      nowMs).toOption.getD db) := by
  cases hanswer : supersedeWorkerUndertaking db undertakingId supersededBy
      nowMs with
  | error => exact .of_eq rfl
  | ok =>
    replace hanswer := passed hanswer
    obtain ⟨_, _, hanswer⟩ := of_orFault hanswer
    replace hanswer := passed hanswer
    cases of_pure hanswer
    exact QueueMoves.update _ fun _ hguard =>
      .ofPending rfl (isPending_of_queued hguard)

theorem markWorkerUndertakingRunning_moves {operationId : String} :
    QueueMoves db (markWorkerUndertakingRunning db undertakingId operationId
      nowMs) := by
  unfold markWorkerUndertakingRunning
  split
  · split
    · exact .of_eq rfl
    · split
      · refine (QueueMoves.update (WorkerUndertaking.running_key · nowMs)
          fun row hguard => ?_).trans (.of_eq rfl)
        rw [Bool.and_eq_true] at hguard
        exact .ofPending rfl (isPending_of_dispatching hguard.1)
      · exact .of_eq rfl
  · exact .of_eq rfl

theorem blockOtherUndertakings_moves :
    QueueMoves db (blockOtherUndertakings db nowMs) := by
  unfold blockOtherUndertakings
  split
  · exact .of_eq rfl
  · exact Table.forall₂_update (WorkerUndertaking.blocked_key · nowMs)
      (fun _ _ _ => .kept rfl rfl) UndertakingMove.refl

theorem bindWorkerUndertakingToOperation_moves [Host] {input : BindInput} :
    QueueMoves db (committed db
      (bindWorkerUndertakingToOperation db input nowMs)) := by
  cases hanswer : bindWorkerUndertakingToOperation db input nowMs with
  | error => exact .of_eq rfl
  | ok =>
    replace hanswer := passed hanswer
    obtain ⟨_, _, hanswer⟩ := of_orFault hanswer
    split at hanswer
    · replace hanswer := passed hanswer
      replace hanswer := passed hanswer
      cases of_pure hanswer
      exact .of_eq rfl
    · replace hanswer := passed hanswer
      replace hanswer := passed hanswer
      replace hanswer := passed hanswer
      replace hanswer := passed hanswer
      split at hanswer
      · cases hanswer
      · replace hanswer := passed hanswer
        cases of_pure hanswer
        exact (QueueMoves.update (WorkerUndertaking.claimed_key · input nowMs)
          fun _ hguard => .ofPending rfl
            (isPending_of_queued hguard)).trans (.of_eq rfl)

end Operations

section Statements

variable {db db' : WorkerDb} {nowMs : Int}
variable {undertakingId : String}

/-- Each of the statements changes undertakings in their places. -/
def AllMove (statements : List QueueStatement) : Prop :=
  ∀ statement ∈ statements, ∀ db, QueueMoves db (statement.commit db)

theorem AllMove.single {change : WorkerDb → WorkerDb}
    (hmoves : ∀ db, QueueMoves db (change db)) :
    AllMove [.whole change] := by
  intro _ hmem db
  cases mem_singleton.mp hmem
  exact hmoves db

theorem requeue_moves {keepsOperation : Bool} :
    QueueMoves db
      ((QueueStatement.requeue undertakingId keepsOperation nowMs).commit db) :=
  QueueMoves.update _ fun _ hguard =>
    .ofPending rfl (isPending_of_dispatching hguard)

theorem release_moves :
    QueueMoves db ((QueueStatement.release undertakingId nowMs).commit db) :=
  .of_eq clearSlot_undertakings

theorem commitAll_moves {statements : List QueueStatement}
    (hmove : AllMove statements) (db : WorkerDb) :
    QueueMoves db (commitAll statements db) := by
  induction statements generalizing db with
  | nil => exact .of_eq rfl
  | cons statement _ ih =>
    have hfirst := hmove statement mem_cons_self db
    exact hfirst.trans (ih (fun other hmem =>
      hmove other (mem_cons_of_mem _ hmem)) _)

theorem expireQueuedCuriosity_moves :
    AllMove (expireQueuedCuriosity db nowMs) := by
  unfold expireQueuedCuriosity
  split
  · intro _ hmem _
    obtain ⟨_, _, rfl⟩ := mem_map.mp hmem
    exact projectWorkerUndertakingTerminal_moves
  · exact nofun

theorem repairWorkerExecutionSlot_moves :
    AllMove (repairWorkerExecutionSlot db nowMs) := by
  have hrelease : ∀ id, AllMove [QueueStatement.release id nowMs] := by
    intro _ _ hmem _
    cases mem_singleton.mp hmem
    exact release_moves
  unfold repairWorkerExecutionSlot
  split
  swap
  · exact nofun
  split
  · exact nofun
  split
  · exact hrelease _
  dsimp only
  split
  · exact hrelease _
  split
  · exact .single fun _ => projectWorkerUndertakingTerminal_moves
  split
  · exact .single fun _ => requeueWorkerUndertakingAfterCapacity_moves
  split
  · exact nofun
  split
  · intro statement hmem db
    rcases mem_cons.mp hmem with rfl | hmem
    · exact requeue_moves
    · exact hrelease _ statement hmem db
  split
  · exact .single fun _ => projectWorkerUndertakingTerminal_moves
  · exact nofun

theorem recoverClaim_moves {row : WorkerUndertaking} :
    AllMove (recoverClaim db nowMs row) := by
  have hclaim : ∀ keepsOperation,
      AllMove (.requeue row.undertakingId keepsOperation nowMs ::
        if nonEmpty row.undertakingId then [.release row.undertakingId nowMs]
        else []) := by
    intro _ _ hmem _
    rcases mem_cons.mp hmem with rfl | hmem
    · exact requeue_moves
    · split at hmem
      · cases mem_singleton.mp hmem
        exact release_moves
      · cases hmem
  unfold recoverClaim
  dsimp only
  split
  · exact nofun
  split
  · exact hclaim true
  · exact hclaim false

theorem recoverExpiredDispatchClaims_moves :
    AllMove (recoverExpiredDispatchClaims db nowMs) := by
  unfold recoverExpiredDispatchClaims
  split
  · intro statement hmem db
    obtain ⟨_, _, hmem⟩ := mem_flatMap.mp hmem
    exact recoverClaim_moves statement hmem db
  · exact nofun

/-- Apart from an admission, every statement of an operation changes
undertakings in their places. -/
theorem WorkerOp.statements_move [Host] (op : WorkerOp)
    (hop : ∀ input nowMs, op ≠ .enqueue input nowMs) :
    AllMove (op.statements db) := by
  cases op with
  | enqueue input nowMs => exact absurd rfl (hop input nowMs)
  | markCapacity =>
    exact .single fun _ => markWorkerUndertakingCapacity_moves
  | requeueAfterCapacity =>
    exact .single fun _ => requeueWorkerUndertakingAfterCapacity_moves
  | markWorkerBusy =>
    exact .single fun _ => markWorkerUndertakingWorkerBusy_moves
  | requestCancel =>
    exact .single fun _ => requestWorkerUndertakingCancel_moves
  | supersede =>
    exact .single fun _ => supersedeWorkerUndertaking_moves
  | markRunning =>
    exact .single fun _ => markWorkerUndertakingRunning_moves
  | releaseSlot =>
    refine .single fun _ => ?_
    unfold releaseWorkerExecutionSlot
    split
    · exact .of_eq clearSlot_undertakings
    · exact .of_eq rfl
  | projectTerminal =>
    exact .single fun _ => projectWorkerUndertakingTerminal_moves
  | expireQueued => exact expireQueuedCuriosity_moves
  | repairSlot => exact repairWorkerExecutionSlot_moves
  | bind =>
    exact .single fun _ => bindWorkerUndertakingToOperation_moves
  | recoverClaims => exact recoverExpiredDispatchClaims_moves
  | blockOthers => exact .single fun _ => blockOtherUndertakings_moves
  | acknowledge =>
    exact .single fun _ => QueueMoves.update _ fun _ _ => .kept rfl rfl
  | detached => exact .single fun _ => .of_eq rfl

end Statements

/-- What the undertaking that an admission creates asks for. -/
def EnqueueWorkerUndertakingInput.ask [Host]
    (input : EnqueueWorkerUndertakingInput) : WorkerAsk where
  undertakingId := workerUndertakingIdFor input.canonicalAdmissionKey
  originKind := input.originKind
  originRef := input.originRef
  originOwnerEventId := input.ownerEventId
  request := input.request.text
  purpose := input.purpose
  evidenceNeed := input.evidenceNeed
  admissionKey := input.canonicalAdmissionKey

/-- The undertaking is a curiosity that is queued or dispatching. -/
def WorkerUndertaking.isPendingCuriosity (row : WorkerUndertaking) : Bool :=
  row.originKind = .ashleyCuriosity && row.isPending

/-- The two rows ask for the same work of one Owner message. -/
def WorkerAsk.sameWork (first second : WorkerAsk) : Prop :=
  first.originKind = .ownerRequest ∧ second.originKind = .ownerRequest ∧
    first.originRef = second.originRef ∧ first.purpose = second.purpose ∧
    first.evidenceNeed = second.evidenceNeed ∧ first.request = second.request

section Admission

variable [Host] {db db' : WorkerDb} {input : EnqueueWorkerUndertakingInput}
  {nowMs : Int} {row : WorkerUndertaking} {created : Bool}

/-- An admission creates an undertaking under the caps and a fresh key. -/
structure Creates (db : WorkerDb) (input : EnqueueWorkerUndertakingInput)
    (row : WorkerUndertaking) (db' : WorkerDb) : Prop where
  fresh : ∀ old ∈ db.undertakings.rows,
    old.admissionKey ≠ input.canonicalAdmissionKey
  unmatched : input.originKind = .ownerRequest →
    ∀ old ∈ db.undertakings.rows, input.matchesActive old = false
  room : db.undertakings.rows.countP (·.isNonterminal) <
    maxNonterminalWorkerUndertakings
  curiosity : input.originKind = .ashleyCuriosity →
    db.undertakings.rows.countP (·.isPendingCuriosity) < maxPendingCuriosity
  ask : row.ask = input.ask
  inserted : db.undertakings.insert? row = some db'.undertakings

theorem enqueueWorkerUndertaking_cases
    (hanswer : enqueueWorkerUndertaking db input nowMs =
      .ok ((row, created), db')) :
    (created = false ∧ db' = db ∧ row ∈ db.undertakings.rows ∧
      (row.admissionKey = input.canonicalAdmissionKey ∨
        (input.originKind = .ownerRequest ∧
          input.matchesActive row = true))) ∨
    (created = true ∧ input.isValid nowMs = true ∧
      Creates db input row db') := by
  obtain ⟨hvalid, hanswer⟩ := of_require hanswer
  dsimp only at hanswer
  cases hkey : db.undertakings.rows.find?
      (·.admissionKey = input.canonicalAdmissionKey) with
  | some =>
    rw [hkey] at hanswer
    cases of_pure hanswer
    have hstored := List.find?_some hkey
    simp only [decide_eq_true_eq] at hstored
    exact .inl ⟨rfl, rfl, mem_of_find?_eq_some hkey, .inl hstored⟩
  | none =>
  rw [hkey] at hanswer
  have hfresh : ∀ old ∈ db.undertakings.rows,
      old.admissionKey ≠ input.canonicalAdmissionKey := by
    intro old hold
    simpa using List.find?_eq_none.mp hkey old hold
  cases hactive : (if input.originKind = .ownerRequest then
      db.undertakings.rows.find? input.matchesActive else none) with
  | some =>
    rw [hactive] at hanswer
    cases of_pure hanswer
    by_cases howner : input.originKind = .ownerRequest
    · rw [if_pos howner] at hactive
      exact .inl ⟨rfl, rfl, mem_of_find?_eq_some hactive,
        .inr ⟨howner, List.find?_some hactive⟩⟩
    · rw [if_neg howner] at hactive
      cases hactive
  | none =>
    rw [hactive] at hanswer
    obtain ⟨hroom, hanswer⟩ := of_require hanswer
    obtain ⟨hcuriosity, hanswer⟩ := of_require hanswer
    obtain ⟨_, hinsert, hanswer⟩ := of_orFault hanswer
    cases of_pure hanswer
    refine .inr ⟨rfl, hvalid, hfresh, ?_, hroom, hcuriosity, rfl, hinsert⟩
    intro howner old hold
    rw [if_pos howner] at hactive
    simpa using List.find?_eq_none.mp hactive old hold

/-- A repeated admission finds the undertaking that its key is stored with. -/
theorem enqueueWorkerUndertaking_stored (hvalid : input.isValid nowMs = true)
    (hrow : row ∈ db.undertakings.rows)
    (hkey : row.admissionKey = input.canonicalAdmissionKey) :
    ∃ found ∈ db.undertakings.rows,
      found.admissionKey = input.canonicalAdmissionKey ∧
      enqueueWorkerUndertaking db input nowMs = .ok ((found, false), db) := by
  cases hfind : db.undertakings.rows.find?
      (·.admissionKey = input.canonicalAdmissionKey) with
  | none =>
    have hother := List.find?_eq_none.mp hfind row hrow
    rw [hkey] at hother
    simp at hother
  | some found =>
    have hstored := List.find?_some hfind
    simp only [decide_eq_true_eq] at hstored
    refine ⟨found, mem_of_find?_eq_some hfind, hstored, ?_⟩
    refine require_bind_ok.mpr ⟨hvalid, ?_⟩
    dsimp only
    rw [hfind]
    rfl

/-- An Owner request whose key is not stored finds an active undertaking for
the same work. -/
theorem enqueueWorkerUndertaking_active (hvalid : input.isValid nowMs = true)
    (hfresh : ∀ old ∈ db.undertakings.rows,
      old.admissionKey ≠ input.canonicalAdmissionKey)
    (howner : input.originKind = .ownerRequest)
    (hrow : row ∈ db.undertakings.rows)
    (hactive : input.matchesActive row = true) :
    ∃ found ∈ db.undertakings.rows, input.matchesActive found = true ∧
      enqueueWorkerUndertaking db input nowMs = .ok ((found, false), db) := by
  cases hfind : db.undertakings.rows.find? input.matchesActive with
  | none =>
    have hother := List.find?_eq_none.mp hfind row hrow
    exact absurd hactive hother
  | some found =>
    have hkey : db.undertakings.rows.find?
        (·.admissionKey = input.canonicalAdmissionKey) = none := by
      refine List.find?_eq_none.mpr fun old hold => ?_
      simpa using hfresh old hold
    refine ⟨found, mem_of_find?_eq_some hfind, List.find?_some hfind, ?_⟩
    refine require_bind_ok.mpr ⟨hvalid, ?_⟩
    dsimp only
    rw [hkey]
    rw [if_pos howner, hfind]
    rfl

end Admission

section Runs

variable [Host] {db db' : WorkerDb}
variable {row : WorkerUndertaking} {input : EnqueueWorkerUndertakingInput}
variable {nowMs : Int}

/-- A step changes undertakings in their places, or creates one. -/
theorem workerStep_cases (input : WorkerStep) (db : WorkerDb) :
    QueueMoves db (workerStep input db) ∨
      ∃ admission nowMs row,
        EnqueueWorkerUndertakingInput.isValid admission nowMs = true ∧
          Creates db admission row (workerStep input db) := by
  have hlost : (workerStep input db).undertakings =
      (commitAll (input.committed db) db).undertakings := by
    unfold workerStep
    split <;> rfl
  have hsub : input.committed db ⊆ input.op.statements db := by
    unfold WorkerStep.committed
    split
    · exact List.Subset.refl _
    · exact take_subset _ _
  by_cases hop : ∃ admission nowMs, input.op = .enqueue admission nowMs
  · obtain ⟨admission, nowMs, hop⟩ := hop
    have hstatements : commitAll (input.committed db) db = db ∨
        commitAll (input.committed db) db =
          committed db (enqueueWorkerUndertaking db admission nowMs) := by
      unfold WorkerStep.committed
      rw [hop]
      cases input.survives with
      | none => exact .inr rfl
      | some count =>
        cases count with
        | zero => exact .inl rfl
        | succ => exact .inr (by simp [WorkerOp.statements]; rfl)
    rcases hstatements with hnone | hall
    · exact .inl (.of_eq (hlost.trans (by rw [hnone])))
    rw [hall] at hlost
    cases hanswer : enqueueWorkerUndertaking db admission nowMs with
    | error =>
      rw [hanswer] at hlost
      exact .inl (.of_eq hlost)
    | ok answer =>
      obtain ⟨⟨row, _⟩, _⟩ := answer
      rw [hanswer] at hlost
      rcases enqueueWorkerUndertaking_cases hanswer with
        ⟨_, hsame, _⟩ | ⟨_, hvalid, hcreates⟩
      · exact .inl (.of_eq (hlost.trans (by rw [← hsame]; rfl)))
      · refine .inr ⟨admission, nowMs, row, hvalid, { hcreates with
          inserted := ?_ }⟩
        rw [hlost]
        exact hcreates.inserted
  · have hmoves : AllMove (input.committed db) := fun statement hmem =>
      input.op.statements_move (fun admission nowMs heq =>
        hop ⟨admission, nowMs, heq⟩) statement (hsub hmem)
    exact .inl ((commitAll_moves hmoves db).trans (.of_eq hlost))

/-- Every undertaking is still there after a step. -/
theorem workerStep_moves (input : WorkerStep)
    (hrow : row ∈ db.undertakings.rows) :
    ∃ row' ∈ (workerStep input db).undertakings.rows,
      UndertakingMove row row' := by
  rcases workerStep_cases input db with
    hmoves | ⟨_, _, _, _, hcreates⟩
  · exact Table.exists_new hmoves hrow
  · exact ⟨row, (mem_insert_iff hcreates.inserted).mpr (.inl hrow),
      .refl row⟩

theorem run_moves (inputs : List WorkerStep) (hrow : row ∈ db.undertakings.rows) :
    ∃ row' ∈ (run workerStep db inputs).undertakings.rows,
      UndertakingMove row row' := by
  refine run_preserves (P := fun db : WorkerDb => ∃ row' ∈ db.undertakings.rows,
    UndertakingMove row row') ?_ ⟨row, hrow, .refl row⟩ inputs
  rintro input _ ⟨_, hrow', hmove⟩
  obtain ⟨row'', hrow'', hmove'⟩ := workerStep_moves input hrow'
  exact ⟨row'', hrow'', hmove.trans hmove'⟩

/-- The two caps of the queue. -/
structure QueueCapped (db : WorkerDb) : Prop where
  nonterminal : db.undertakings.rows.countP (·.isNonterminal) ≤
    maxNonterminalWorkerUndertakings
  curiosity : db.undertakings.rows.countP (·.isPendingCuriosity) ≤
    maxPendingCuriosity

omit [Host] in
theorem QueueMoves.capped (hmoves : QueueMoves db db')
    (hcapped : QueueCapped db) : QueueCapped db' where
  nonterminal := by
    refine Nat.le_trans ?_ hcapped.nonterminal
    rw [countP_eq_length_filter, countP_eq_length_filter]
    exact Table.length_filter_le hmoves fun _ _ hmove => hmove.nonterminal
  curiosity := by
    refine Nat.le_trans ?_ hcapped.curiosity
    rw [countP_eq_length_filter, countP_eq_length_filter]
    refine Table.length_filter_le hmoves fun row row' hmove hrow => ?_
    have hkind : row'.originKind = row.originKind :=
      congrArg WorkerAsk.originKind hmove.ask
    simp only [WorkerUndertaking.isPendingCuriosity, Bool.and_eq_true] at hrow ⊢
    exact ⟨hkind ▸ hrow.1, hmove.pending hrow.2⟩

theorem Creates.capped (hcreates : Creates db input row db')
    (hcapped : QueueCapped db) : QueueCapped db' := by
  have hrows := (insert?_eq_some hcreates.inserted).2
  refine ⟨?_, ?_⟩
  · rw [hrows, countP_append]
    have hlast := countP_le_length (p := (·.isNonterminal)) (l := [row])
    have hroom := hcreates.room
    rw [length_singleton] at hlast
    omega
  · rw [hrows, countP_append]
    cases hpending : row.isPendingCuriosity with
    | false => simpa [hpending] using hcapped.curiosity
    | true =>
      have hkind : input.originKind = .ashleyCuriosity := by
        simp only [WorkerUndertaking.isPendingCuriosity, Bool.and_eq_true,
          decide_eq_true_eq] at hpending
        exact (congrArg WorkerAsk.originKind hcreates.ask).symm.trans
          hpending.1
      have hroom := hcreates.curiosity hkind
      simp only [countP_singleton, hpending, if_true]
      omega

theorem workerStep_capped (input : WorkerStep) (hcapped : QueueCapped db) :
    QueueCapped (workerStep input db) := by
  rcases workerStep_cases input db with hmoves | ⟨_, _, _, _, hcreates⟩
  · exact hmoves.capped hcapped
  · exact hcreates.capped hcapped

/-- An undertaking is stored under the name of its admission key, and at most
one undertaking is active for the same work of an Owner message. -/
structure QueueNamed (db : WorkerDb) : Prop where
  named : ∀ row ∈ db.undertakings.rows,
    row.undertakingId = workerUndertakingIdFor row.admissionKey
  owned : ∀ row ∈ db.undertakings.rows, row.originKind = .ownerRequest →
    row.originOwnerEventId = some row.originRef
  single : ∀ first ∈ db.undertakings.rows, ∀ second ∈ db.undertakings.rows,
    first.isNonterminal = true → second.isNonterminal = true →
    first.ask.sameWork second.ask → first.undertakingId = second.undertakingId

theorem QueueMoves.queueNamed (hmoves : QueueMoves db db')
    (hnamed : QueueNamed db) : QueueNamed db' where
  named := by
    intro _ hrow'
    obtain ⟨row, hrow, hmove⟩ := Table.exists_old hmoves hrow'
    have hid := congrArg WorkerAsk.undertakingId hmove.ask
    have hkey := congrArg WorkerAsk.admissionKey hmove.ask
    exact hid.trans ((hnamed.named row hrow).trans
      (congrArg workerUndertakingIdFor hkey.symm))
  owned := by
    intro _ hrow' howner
    obtain ⟨row, hrow, hmove⟩ := Table.exists_old hmoves hrow'
    have hkind := congrArg WorkerAsk.originKind hmove.ask
    have hevent := congrArg WorkerAsk.originOwnerEventId hmove.ask
    have href := congrArg WorkerAsk.originRef hmove.ask
    exact hevent.trans ((hnamed.owned row hrow (hkind.symm.trans howner)).trans
      (congrArg some href.symm))
  single := by
    intro _ hfirst' _ hsecond' hactive hactive' hsame
    obtain ⟨first, hfirst, hmove⟩ := Table.exists_old hmoves hfirst'
    obtain ⟨second, hsecond, hmove'⟩ := Table.exists_old hmoves hsecond'
    rw [hmove.ask, hmove'.ask] at hsame
    have hid := hnamed.single first hfirst second hsecond
      (hmove.nonterminal hactive) (hmove'.nonterminal hactive') hsame
    exact (congrArg WorkerAsk.undertakingId hmove.ask).trans
      (hid.trans (congrArg WorkerAsk.undertakingId hmove'.ask).symm)

section Matching

variable {input : EnqueueWorkerUndertakingInput} {row : WorkerUndertaking}
  {nowMs : Int}

omit [Host] in
theorem ownerEventId_of_isValid (hvalid : input.isValid nowMs = true)
    (howner : input.originKind = .ownerRequest) :
    input.ownerEventId = some input.originRef := by
  simp only [EnqueueWorkerUndertakingInput.isValid,
    EnqueueWorkerUndertakingInput.originIsValid, howner, if_true,
    Bool.and_eq_true, decide_eq_true_eq] at hvalid
  exact hvalid.1.1.1.1.1.2.2.2

/-- An active undertaking matches an Owner request when it is for the same
work. -/
theorem matchesActive_iff (hvalid : input.isValid nowMs = true)
    (howner : input.originKind = .ownerRequest)
    (howned : row.originKind = .ownerRequest →
      row.originOwnerEventId = some row.originRef) :
    input.matchesActive row = true ↔
      row.isNonterminal = true ∧ row.ask.sameWork input.ask := by
  have hevent := ownerEventId_of_isValid hvalid howner
  simp only [EnqueueWorkerUndertakingInput.matchesActive, hevent,
    Option.getD_some, Bool.and_eq_true, Bool.or_eq_true, decide_eq_true_eq,
    WorkerAsk.sameWork, WorkerUndertaking.ask,
    EnqueueWorkerUndertakingInput.ask, howner, true_and]
  constructor
  · rintro ⟨⟨⟨⟨⟨hkind, href⟩, hactive⟩, hpurpose⟩, hneed⟩, htext⟩
    refine ⟨hactive, hkind, ?_, hpurpose, hneed, htext⟩
    rcases href with href | href
    · exact href
    · exact Option.some.inj ((howned hkind).symm.trans href)
  · rintro ⟨hactive, hkind, href, hpurpose, hneed, htext⟩
    exact ⟨⟨⟨⟨⟨hkind, .inl href⟩, hactive⟩, hpurpose⟩, hneed⟩, htext⟩

end Matching

variable {first second : WorkerAsk}

omit [Host] in
theorem WorkerAsk.sameWork.symm (hsame : first.sameWork second) :
    second.sameWork first := by
  obtain ⟨hfirst, hsecond, href, hpurpose, hneed, htext⟩ := hsame
  exact ⟨hsecond, hfirst, href.symm, hpurpose.symm, hneed.symm, htext.symm⟩

omit [Host] in
theorem WorkerAsk.sameWork.trans {third : WorkerAsk}
    (hsame : first.sameWork second) (hsame' : second.sameWork third) :
    first.sameWork third := by
  obtain ⟨hfirst, _, href, hpurpose, hneed, htext⟩ := hsame
  obtain ⟨_, hthird, href', hpurpose', hneed', htext'⟩ := hsame'
  exact ⟨hfirst, hthird, href.trans href', hpurpose.trans hpurpose',
    hneed.trans hneed', htext.trans htext'⟩

theorem Creates.queueNamed (hvalid : input.isValid nowMs = true)
    (hcreates : Creates db input row db') (hnamed : QueueNamed db) :
    QueueNamed db' := by
  have hmem : ∀ {other}, other ∈ db'.undertakings.rows ↔
      other ∈ db.undertakings.rows ∨ other = row :=
    mem_insert_iff hcreates.inserted
  -- No older active undertaking is for the work of the new one.
  have hnone : ∀ old ∈ db.undertakings.rows, old.isNonterminal = true →
      ¬ old.ask.sameWork row.ask := by
    intro old hold hactive hsame
    rw [hcreates.ask] at hsame
    have hunmatched := hcreates.unmatched hsame.2.1 old hold
    rw [(matchesActive_iff hvalid hsame.2.1 (hnamed.owned old hold)).mpr
      ⟨hactive, hsame⟩] at hunmatched
    cases hunmatched
  refine ⟨?_, ?_, ?_⟩
  · intro other hother
    rcases hmem.mp hother with hold | rfl
    · exact hnamed.named other hold
    · have hid := congrArg WorkerAsk.undertakingId hcreates.ask
      have hkey := congrArg WorkerAsk.admissionKey hcreates.ask
      exact hid.trans (congrArg workerUndertakingIdFor hkey.symm)
  · intro other hother howner
    rcases hmem.mp hother with hold | rfl
    · exact hnamed.owned other hold howner
    · have hkind := congrArg WorkerAsk.originKind hcreates.ask
      have hevent := congrArg WorkerAsk.originOwnerEventId hcreates.ask
      have href := congrArg WorkerAsk.originRef hcreates.ask
      exact hevent.trans ((ownerEventId_of_isValid hvalid
        (hkind.symm.trans howner)).trans (congrArg some href.symm))
  · intro first hfirst second hsecond hactive hactive' hsame
    rcases hmem.mp hfirst with hold | rfl
    · rcases hmem.mp hsecond with hold' | rfl
      · exact hnamed.single first hold second hold' hactive hactive' hsame
      · exact absurd hsame (hnone first hold hactive)
    · rcases hmem.mp hsecond with hold' | rfl
      · exact absurd hsame.symm (hnone second hold' hactive')
      · rfl

theorem workerStep_named (input : WorkerStep) (hnamed : QueueNamed db) :
    QueueNamed (workerStep input db) := by
  rcases workerStep_cases input db with hmoves | ⟨_, _, _, hvalid, hcreates⟩
  · exact hmoves.queueNamed hnamed
  · exact hcreates.queueNamed hvalid hnamed

omit [Host] in
theorem isValid_at {againMs : Int} (hvalid : input.isValid nowMs = true)
    (hagain : safeMs againMs = true) :
    input.isValid againMs = true := by
  simp only [EnqueueWorkerUndertakingInput.isValid, Bool.and_eq_true]
    at hvalid ⊢
  obtain ⟨⟨⟨⟨⟨hhead, _⟩, hobject⟩, hpurpose⟩, hneed⟩, hproject⟩ := hvalid
  exact ⟨⟨⟨⟨⟨hhead, hagain⟩, hobject⟩, hpurpose⟩, hneed⟩, hproject⟩

/-- How an admission that was answered with an undertaking is answered again
later: it creates nothing and gets the same undertaking, when its key is stored
with that undertaking or the undertaking has not ended. -/
def AnswersReplays (db : WorkerDb) : Prop :=
  ∀ input nowMs row created db',
    enqueueWorkerUndertaking db input nowMs = .ok ((row, created), db') →
    (created = true → row.admissionKey = input.canonicalAdmissionKey) ∧
    ∀ later againMs, safeMs againMs = true →
      (row.admissionKey = input.canonicalAdmissionKey →
        ∃ found, enqueueWorkerUndertaking (run workerStep db' later) input
            againMs = .ok ((found, false), run workerStep db' later) ∧
          found.undertakingId = row.undertakingId) ∧
      ∀ current, (run workerStep db' later).undertakings.get?
          row.undertakingId = some current → current.isNonterminal = true →
        ∃ found, enqueueWorkerUndertaking (run workerStep db' later) input
            againMs = .ok ((found, false), run workerStep db' later) ∧
          (found.undertakingId = row.undertakingId ∨
            found.admissionKey = input.canonicalAdmissionKey)

theorem QueueNamed.answersReplays (hnamed : QueueNamed db) :
    AnswersReplays db := by
  intro input nowMs row created db' hanswer
  have hvalid : input.isValid nowMs = true := by
    exact (of_require hanswer).1
  have hstep : workerStep { op := .enqueue input nowMs } db = db' := by
    change committed db (enqueueWorkerUndertaking db input nowMs) = db'
    rw [hanswer]
    rfl
  have hnamed' : QueueNamed db' := hstep ▸ workerStep_named _ hnamed
  -- The undertaking is stored, and it is under the key or it matches.
  have hfound : row ∈ db'.undertakings.rows ∧
      (row.admissionKey = input.canonicalAdmissionKey ∨
        (created = false ∧ input.originKind = .ownerRequest ∧
          input.matchesActive row = true)) := by
    rcases enqueueWorkerUndertaking_cases hanswer with
      ⟨hcreated, rfl, hrow, hkey | hactive⟩ | ⟨_, _, hcreates⟩
    · exact ⟨hrow, .inl hkey⟩
    · exact ⟨hrow, .inr ⟨hcreated, hactive⟩⟩
    · exact ⟨(mem_insert_iff hcreates.inserted).mpr (.inr rfl),
        .inl (congrArg WorkerAsk.admissionKey hcreates.ask)⟩
  obtain ⟨hrow, hcase⟩ := hfound
  refine ⟨?_, ?_⟩
  · intro hcreated
    rcases hcase with hkey | ⟨hexisting, _⟩
    · exact hkey
    · rw [hexisting] at hcreated
      cases hcreated
  intro later againMs hagain
  have hagain := isValid_at hvalid hagain
  have hafter : QueueNamed (run workerStep db' later) :=
    run_preserves (fun input _ => workerStep_named input) hnamed' later
  obtain ⟨row', hrow', hmove⟩ := run_moves later hrow
  have hid : row'.undertakingId = row.undertakingId :=
    congrArg WorkerAsk.undertakingId hmove.ask
  have hkeyed : row.admissionKey = input.canonicalAdmissionKey →
      ∃ found, enqueueWorkerUndertaking (run workerStep db' later) input
          againMs = .ok ((found, false), run workerStep db' later) ∧
        found.undertakingId = row.undertakingId := by
    intro hkey
    have hkey' : row'.admissionKey = input.canonicalAdmissionKey :=
      (congrArg WorkerAsk.admissionKey hmove.ask).trans hkey
    obtain ⟨found, hfound, hstored, hreplay⟩ :=
      enqueueWorkerUndertaking_stored hagain hrow' hkey'
    refine ⟨found, hreplay, ?_⟩
    rw [hafter.named found hfound, hstored, ← hkey', ← hafter.named row' hrow',
      hid]
  refine ⟨hkeyed, ?_⟩
  intro current hcurrent hactive
  have hsame : current = row' := by
    have hget := get?_key hrow'
    rw [show key row' = row.undertakingId from hid, hcurrent] at hget
    exact Option.some.inj hget
  subst hsame
  by_cases hstored : ∃ old ∈ (run workerStep db' later).undertakings.rows,
      old.admissionKey = input.canonicalAdmissionKey
  · obtain ⟨_, hold, hkey⟩ := hstored
    obtain ⟨found, _, hkey', hreplay⟩ :=
      enqueueWorkerUndertaking_stored hagain hold hkey
    exact ⟨found, hreplay, .inr hkey'⟩
  have hfresh : ∀ old ∈ (run workerStep db' later).undertakings.rows,
      old.admissionKey ≠ input.canonicalAdmissionKey :=
    fun old hold hkey => hstored ⟨old, hold, hkey⟩
  rcases hcase with hkey | ⟨_, howner, hmatch⟩
  · obtain ⟨found, hreplay, hsame⟩ := hkeyed hkey
    exact ⟨found, hreplay, .inl hsame⟩
  have hwork : current.ask.sameWork input.ask := by
    rw [hmove.ask]
    exact ((matchesActive_iff hvalid howner (hnamed'.owned row hrow)).mp
      hmatch).2
  have hmatch' := (matchesActive_iff hagain howner
    (hafter.owned current hrow')).mpr ⟨hactive, hwork⟩
  obtain ⟨found, hmem, hfound, hreplay⟩ :=
    enqueueWorkerUndertaking_active hagain hfresh howner hrow' hmatch'
  obtain ⟨hfoundActive, hfoundWork⟩ := (matchesActive_iff hagain howner
    (hafter.owned found hmem)).mp hfound
  refine ⟨found, hreplay, .inl ?_⟩
  exact (hafter.single found hmem current hrow' hfoundActive hactive
    (hfoundWork.trans hwork.symm)).trans hid

omit [Host] in
theorem queueCapped_empty : QueueCapped {} :=
  ⟨Nat.zero_le _, Nat.zero_le _⟩

theorem queueNamed_empty : QueueNamed {} where
  named := fun _ hrow => absurd hrow not_mem_nil
  owned := fun _ hrow => absurd hrow not_mem_nil
  single := fun _ hrow => absurd hrow not_mem_nil

/-- In every run, whatever crashes it has: the caps hold, an ended undertaking
keeps its state for ever, and repeated admissions create nothing. -/
theorem worker_queue_bounds (inputs : List WorkerStep) :
    QueueCapped (run workerStep {} inputs) ∧
    (∀ row ∈ (run workerStep {} inputs).undertakings.rows,
      row.isNonterminal = false → ∀ later,
      ∃ row', (run workerStep (run workerStep {} inputs) later).undertakings.get?
          row.undertakingId = some row' ∧ row'.state = row.state) ∧
    AnswersReplays (run workerStep {} inputs) := by
  refine ⟨?_, ?_, ?_⟩
  · exact run_preserves (fun input _ => workerStep_capped input)
      queueCapped_empty inputs
  · intro row hrow hended later
    obtain ⟨row', hrow', hmove⟩ := run_moves later hrow
    refine ⟨row', ?_, hmove.ended hended⟩
    rw [← show key row' = row.undertakingId from
      congrArg WorkerAsk.undertakingId hmove.ask]
    exact get?_key hrow'
  · exact (run_preserves (fun input _ => workerStep_named input)
      queueNamed_empty inputs).answersReplays

end Runs

section Plain

attribute [local instance] plainHost

/-- The same Owner request, asked in one cycle or another. -/
def ownerInspection (originCycleId : String) :
    EnqueueWorkerUndertakingInput where
  originKind := .ownerRequest
  originRef := "message"
  ownerEventId := some "message"
  ownerId := "o"
  conversationId := some "c"
  originCycleId
  originGeneration := 1
  request := { projectId := some "p", text := "q" }
  purpose := "look"
  evidenceNeed := "facts"

/-- The undertaking of a first cycle. -/
def firstInspection : WorkerDb :=
  run workerStep {} [{ op := .enqueue (ownerInspection "first") 1 }]

/-- It is cancelled after it answered the request of a second cycle. -/
def cancelledInspection : WorkerDb :=
  run workerStep firstInspection
    [{ op := .enqueue (ownerInspection "second") 2 },
      { op := .requestCancel (workerUndertakingIdFor
        (ownerInspection "first").canonicalAdmissionKey) 3 }]

/-- The second admission was answered with the first undertaking, and its
replay creates another one. -/
theorem ended_match_replay_creates :
    (enqueueWorkerUndertaking firstInspection (ownerInspection "second")
      2).toOption.map (fun answer => (answer.1.1.undertakingId, answer.1.2)) =
        some (workerUndertakingIdFor
          (ownerInspection "first").canonicalAdmissionKey, false) ∧
      (enqueueWorkerUndertaking cancelledInspection (ownerInspection "second")
        4).toOption.map (fun answer =>
          (answer.1.1.undertakingId, answer.1.2)) =
        some (workerUndertakingIdFor
          (ownerInspection "second").canonicalAdmissionKey, true) ∧
      workerUndertakingIdFor (ownerInspection "first").canonicalAdmissionKey ≠
        workerUndertakingIdFor
          (ownerInspection "second").canonicalAdmissionKey := by
  refine ⟨?_, ?_, ?_⟩
  · decide +kernel
  · decide +kernel
  · decide +kernel

end Plain

end CognitiveSidecar
