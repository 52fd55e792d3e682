/-
Runs of the detached operations: what a step does to an operation, and that no
run calls the worker of an operation twice or changes an outcome.
-/
import CognitiveSidecar.DetachedDispatch

namespace CognitiveSidecar

variable {row row' : DetachedOperation}

open Option List Relational

/-- The outcome of an operation is the same: its state, its terminal state and
time, and what it left. -/
structure SameOutcome (row row' : DetachedOperation) : Prop where
  state : row'.state = row.state
  terminalState : row'.terminalState = row.terminalState
  terminalAtMs : row'.terminalAtMs = row.terminalAtMs
  observationRef : row'.observationRef = row.observationRef
  receiptRef : row'.receiptRef = row.receiptRef
  errorCode : row'.errorCode = row.errorCode
  failureEvidenceJson : row'.failureEvidenceJson = row.failureEvidenceJson

theorem SameOutcome.refl (row : DetachedOperation) : SameOutcome row row :=
  ⟨rfl, rfl, rfl, rfl, rfl, rfl, rfl⟩

theorem SameOutcome.trans {mid : DetachedOperation}
    (hfirst : SameOutcome row mid) (hsecond : SameOutcome mid row') :
    SameOutcome row row' :=
  ⟨hsecond.1.trans hfirst.1, hsecond.2.trans hfirst.2,
    hsecond.3.trans hfirst.3, hsecond.4.trans hfirst.4,
    hsecond.5.trans hfirst.5, hsecond.6.trans hfirst.6,
    hsecond.7.trans hfirst.7⟩

/-- What one change does to an operation. -/
inductive DetachedMove (row row' : DetachedOperation) : Prop
  | kept (hsame : SameOutcome row row')
  | waits (hpending : row.isPending = true)
      (hstate : row'.state = .waitingCapacity)
  | starts (hpending : row.isPending = true) (hstate : row'.state = .started)
  | ends (terminal : DetachedTerminalState)
      (hopen : isTerminalState row.state = false)
      (hsucceeds : terminal = .succeeded → row.state = .started)
      (hstate : row'.state = terminal.toState)

theorem DetachedMove.refl (row : DetachedOperation) : DetachedMove row row :=
  .kept (.refl row)

theorem isTerminalState_toState (terminal : DetachedTerminalState) :
    isTerminalState terminal.toState = true := by
  cases terminal <;> rfl

theorem isPending_of_terminal (hterminal : isTerminalState row.state = true) :
    row.isPending = false := by
  unfold DetachedOperation.isPending
  cases hstate : row.state <;> rw [hstate] at hterminal <;> first
    | rfl
    | cases hterminal

theorem terminal_of_pending (hpending : row.isPending = true) :
    isTerminalState row.state = false := by
  cases hterminal : isTerminalState row.state with
  | false => rfl
  | true => rw [isPending_of_terminal hterminal] at hpending; cases hpending

theorem toState_pending (terminal : DetachedTerminalState)
    (hstate : row.state = terminal.toState) :
    row.isPending = false :=
  isPending_of_terminal (by rw [hstate]; exact isTerminalState_toState terminal)

/-- What has begun stays begun. -/
theorem DetachedMove.begun (hmove : DetachedMove row row')
    (hbegun : row.isPending = false) :
    row'.isPending = false := by
  cases hmove with
  | kept hsame =>
    unfold DetachedOperation.isPending at hbegun ⊢
    rw [hsame.state]
    exact hbegun
  | waits hpending | starts hpending => rw [hbegun] at hpending; cases hpending
  | ends terminal _ _ hstate => exact toState_pending terminal hstate

/-- An outcome stays as it is. -/
theorem DetachedMove.terminal {row row' : DetachedOperation}
    (hmove : DetachedMove row row')
    (hterminal : isTerminalState row.state = true) : SameOutcome row row' := by
  cases hmove with
  | kept hsame => exact hsame
  | waits hpending | starts hpending =>
    rw [terminal_of_pending hpending] at hterminal
    cases hterminal
  | ends _ hopen => rw [hopen] at hterminal; cases hterminal

/-- A success follows a start. -/
theorem DetachedMove.succeeded (hmove : DetachedMove row row')
    (hbefore : row.state ≠ .succeeded) (hafter : row'.state = .succeeded) :
    row.state = .started := by
  cases hmove with
  | kept hsame => exact absurd (hsame.state.symm.trans hafter) hbefore
  | waits _ hstate | starts _ hstate => rw [hafter] at hstate; cases hstate
  | ends terminal _ hsucceeds hstate =>
    refine hsucceeds ?_
    rw [hafter] at hstate
    cases terminal <;> first
      | rfl
      | cases hstate

/-- Each operation makes one move at most, and a new one is admitted. -/
structure LedgerMove (db db' : DetachedDb) : Prop where
  forward : ∀ id row, db.operations.get? id = some row →
    ∃ row', db'.operations.get? id = some row' ∧ DetachedMove row row'
  admitted : ∀ id row', db'.operations.get? id = some row' →
    db.operations.get? id = none → row'.state = .admitted

theorem LedgerMove.refl (db : DetachedDb) : LedgerMove db db where
  forward := fun _ row hrow => ⟨row, hrow, .refl row⟩
  admitted := by
    intro _ _ hrow' hnone
    rw [hnone] at hrow'
    cases hrow'

section Updates

variable {db db' : DetachedDb} {operationId : String}
  {guard : DetachedOperation → Bool} {f : DetachedOperation → DetachedOperation}
  {hkey : ∀ row, key (f row) = key row} {expected : DetachedOperation → Bool}

variable {row' : DetachedOperation}

theorem get?_updateOperation (id : String) :
    (db.updateOperation operationId guard f hkey).operations.get? id =
      (db.operations.get? id).map fun row =>
        if (decide (row.operationId = operationId) && guard row) = true then
          f row else row := by
  exact get?_update db.operations _ f hkey id

theorem updateOperation_move
    (hmove : ∀ row, db.operations.get? operationId = some row →
      guard row = true → DetachedMove row (f row)) :
    LedgerMove db (db.updateOperation operationId guard f hkey) where
  forward := by
    intro id row hrow
    refine ⟨_, by rw [get?_updateOperation, hrow, map_some], ?_⟩
    split
    · rename_i hselected
      simp only [Bool.and_eq_true, decide_eq_true_eq] at hselected
      have hid : row.operationId = id := key_of_get? hrow
      refine hmove row ?_ hselected.2
      rw [← hselected.1, hid]
      exact hrow
    · exact .refl row
  admitted := by
    intro _ _ hrow' hnone
    rw [get?_updateOperation, hnone] at hrow'
    cases hrow'

/-- A change that answers has updated the operation. -/
theorem change_ok
    (hok : db.change operationId guard f hkey expected = .ok (row', db')) :
    db' = db.updateOperation operationId guard f hkey ∧
      db'.operations.get? operationId = some row' ∧ expected row' = true := by
  obtain ⟨_, hupdated, hok⟩ := of_orFault hok
  obtain ⟨hexpected, hok⟩ := of_require hok
  obtain ⟨rfl, rfl⟩ := of_pure_pair hok
  exact ⟨rfl, hupdated, hexpected⟩

theorem change_move
    (hok : db.change operationId guard f hkey expected = .ok (row', db'))
    (hmove : ∀ row, db.operations.get? operationId = some row →
      guard row = true → DetachedMove row (f row)) : LedgerMove db db' := by
  rw [(change_ok hok).1]
  exact updateOperation_move hmove

end Updates

section Operations

variable {db db' : DetachedDb} {operationId : String} {nowMs : Int}
  {row' : DetachedOperation}

/-- A start finds the operation waiting, and leaves it started. -/
theorem markDetachedOperationStarted_move {input : StartDetachedOperationInput}
    (hok : markDetachedOperationStarted db operationId input nowMs =
      .ok (row', db')) :
    LedgerMove db db' ∧
      (∃ row, db.operations.get? operationId = some row ∧
        row.isPending = true) ∧
      db'.operations.get? operationId = some row' ∧ row'.state = .started := by
  replace hok := passed hok
  obtain ⟨current, hcurrent, hok⟩ := of_orFault hok
  replace hok := passed hok
  obtain ⟨hpending, hok⟩ := of_require hok
  replace hok := passed hok
  replace hok := passed hok
  replace hok := passed hok
  obtain ⟨_, hupdated, hexpected⟩ := change_ok hok
  refine ⟨change_move hok fun _ _ hguard => .starts hguard rfl,
    ⟨current, hcurrent, hpending⟩, hupdated, ?_⟩
  simpa using hexpected

theorem markDetachedOperationWaiting_move {reason : String}
    {nextProbeAtMs : Option Int}
    (hok : markDetachedOperationWaiting db operationId reason nextProbeAtMs
      nowMs = .ok (row', db')) : LedgerMove db db' := by
  replace hok := passed hok
  replace hok := passed hok
  obtain ⟨_, _, hok⟩ := of_orFault hok
  replace hok := passed hok
  exact change_move hok fun _ _ hguard => .waits hguard rfl

theorem setDetachedOperationTerminal_move
    {input : SetDetachedOperationTerminalInput}
    (hok : setDetachedOperationTerminal db operationId input nowMs =
      .ok (row', db')) : LedgerMove db db' := by
  replace hok := passed hok
  obtain ⟨current, hcurrent, hok⟩ := of_orFault hok
  obtain ⟨hopen, hok⟩ := of_require hok
  obtain ⟨hallowed, hok⟩ := of_require hok
  replace hok := passed hok
  refine change_move hok fun row hrow _ => ?_
  have hsame : current = row := some.inj (hcurrent.symm.trans hrow)
  subst hsame
  refine .ends input.terminalState hopen ?_ rfl
  intro hsucceeds
  rw [hsucceeds] at hallowed
  cases hstate : current.state <;> rw [hstate] at hallowed <;> first
    | rfl
    | cases hallowed

theorem requestDetachedOperationCancel_move
    (hok : requestDetachedOperationCancel db operationId nowMs =
      .ok (row', db')) : LedgerMove db db' := by
  replace hok := passed hok
  obtain ⟨_, _, hok⟩ := of_orFault hok
  replace hok := passed hok
  exact change_move hok fun _ _ _ => .kept ⟨rfl, rfl, rfl, rfl, rfl, rfl, rfl⟩

theorem resolveDetachedOperationCancel_move
    {input : ResolveDetachedCancelInput}
    (hok : resolveDetachedOperationCancel db operationId input nowMs =
      .ok (row', db')) : LedgerMove db db' := by
  replace hok := passed hok
  obtain ⟨_, _, hok⟩ := of_orFault hok
  replace hok := passed hok
  split at hok
  · refine change_move hok fun row _ hguard => ?_
    exact .ends .cancelled (terminal_of_pending hguard) (by simp) rfl
  split at hok
  · replace hok := passed hok
    refine change_move hok fun row _ hguard => ?_
    have hstarted : row.state = .started := by simpa using hguard
    exact .ends .stopped (by rw [hstarted]; rfl) (by simp) rfl
  · cases hok

theorem supersedeDetachedOperation_move {input : SupersedeDetachedInput}
    (hok : supersedeDetachedOperation db operationId input nowMs =
      .ok (row', db')) : LedgerMove db db' := by
  replace hok := passed hok
  obtain ⟨_, _, hok⟩ := of_orFault hok
  split at hok
  · refine change_move hok fun _ _ hguard => ?_
    exact .ends .cancelled (terminal_of_pending hguard) (by simp) rfl
  · exact change_move hok fun _ _ _ =>
      .kept ⟨rfl, rfl, rfl, rfl, rfl, rfl, rfl⟩

/-- The outcome is the same, or the started operation is given up. -/
def GivenUp (row row' : DetachedOperation) : Prop :=
  SameOutcome row row' ∨
    (row.state = .started ∧ row'.state = .outcomeUnknown)

theorem GivenUp.refl (row : DetachedOperation) : GivenUp row row :=
  .inl (.refl row)

theorem GivenUp.trans (row mid row' : DetachedOperation)
    (hfirst : GivenUp row mid) (hsecond : GivenUp mid row') :
    GivenUp row row' := by
  rcases hfirst with hfirst | ⟨hstarted, hunknown⟩
  · rcases hsecond with hsecond | ⟨hstarted, hunknown⟩
    · exact .inl (hfirst.trans hsecond)
    · exact .inr ⟨hfirst.state.symm.trans hstarted, hunknown⟩
  · rcases hsecond with hsecond | ⟨hstarted', _⟩
    · exact .inr ⟨hstarted, hsecond.state.trans hunknown⟩
    · rw [hunknown] at hstarted'
      cases hstarted'

theorem GivenUp.move (hgiven : GivenUp row row') :
    DetachedMove row row' := by
  rcases hgiven with hsame | ⟨hstarted, hunknown⟩
  · exact .kept hsame
  · exact .ends .outcomeUnknown (by rw [hstarted]; rfl) (by simp) hunknown

theorem expireOperation_rewrites :
    Table.Rewrites GivenUp db.operations
      (expireOperation nowMs db operationId).operations := by
  refine Table.rewrites_update (DetachedOperation.expired_key · nowMs) ?_
    GivenUp.refl
  intro _ _ _ hselected
  simp only [Bool.and_eq_true, decide_eq_true_eq] at hselected
  exact .inr ⟨hselected.2, rfl⟩

/-- The statements of a reconciliation, all of them or the first ones. -/
theorem foldl_expireOperation_move (ids : List String) :
    LedgerMove db (ids.foldl (expireOperation nowMs) db) := by
  have hrewrites : Table.Rewrites GivenUp db.operations
      (ids.foldl (expireOperation nowMs) db).operations := by
    induction ids generalizing db with
    | nil => exact Table.Rewrites.refl GivenUp.refl _
    | cons _ _ ih =>
      exact Table.Rewrites.trans GivenUp.trans expireOperation_rewrites ih
  constructor
  · intro _ _ hrow
    obtain ⟨row', hrow', hgiven⟩ := hrewrites.forward hrow
    exact ⟨row', hrow', hgiven.move⟩
  · intro _ _ hrow' hnone
    obtain ⟨_, hrow, _⟩ := hrewrites.backward hrow'
    rw [hnone] at hrow
    cases hrow

theorem linkDetachedOperation_move
    {interimOutboxRef completionEventRef : Option String} :
    LedgerMove db (linkDetachedOperation db operationId interimOutboxRef
      completionEventRef nowMs) :=
  updateOperation_move fun _ _ _ => .kept ⟨rfl, rfl, rfl, rfl, rfl, rfl, rfl⟩

theorem admitDetachedOperation_move [Host]
    {input : AdmitDetachedOperationInput} {created : Bool}
    (hok : admitDetachedOperation db input nowMs =
      .ok ((row', created), db')) : LedgerMove db db' := by
  obtain ⟨_, _, hok⟩ := of_orFault hok
  obtain ⟨_, _, hok⟩ := of_orFault hok
  replace hok := passed hok
  split at hok
  · cases of_pure hok
    exact .refl db
  · replace hok := passed hok
    obtain ⟨_, hinsert, hok⟩ := of_orFault hok
    cases of_pure hok
    constructor
    · intro _ row hrow
      exact ⟨row, get?_insert_of_some hinsert hrow, .refl row⟩
    · intro _ _ hfound hnone
      rw [get?_insert hinsert, hnone] at hfound
      split at hfound
      · cases hfound
        rfl
      · cases hfound

end Operations

section Dispatches

variable {db : DetachedDb} {operationId : String} {nowMs : Int}

/-- What a stretch of a dispatch does to its operation, and where it waits
next: a dispatch that is about to call its worker has just started it. -/
inductive StretchMove (db : DetachedDb) (operationId : String) :
    DispatchPhase × DetachedDb → Prop
  | aside {phase : DispatchPhase} {db' : DetachedDb}
      (hphase : ∀ started, phase ≠ .starting started)
      (hledger : LedgerMove db db') : StretchMove db operationId (phase, db')
  | launched {started : DetachedOperation} {db' : DetachedDb}
      (hledger : LedgerMove db db')
      (hpending : ∃ row, db.operations.get? operationId = some row ∧
        row.isPending = true)
      (hstarted : ∃ row', db'.operations.get? operationId = some row' ∧
        row'.state = .started) :
      StretchMove db operationId (.starting started, db')

variable {answer : DetachedAnswer}

theorem concludeDispatch_move
    (hledger : ∀ row' db', answer = .ok (row', db') → LedgerMove db db') :
    StretchMove db operationId (concludeDispatch db answer) := by
  unfold concludeDispatch
  split
  · exact .aside (by simp) (hledger _ _ rfl)
  · exact .aside (by simp) (.refl db)

theorem launchWorker_move {operation : DetachedOperation} :
    StretchMove db operationId
      (launchWorker db operationId operation nowMs) := by
  unfold launchWorker
  split
  · rename_i started _ hstart
    obtain ⟨hledger, hpending, hfound, hstate⟩ :=
      markDetachedOperationStarted_move hstart
    exact .launched hledger hpending ⟨started, hfound, hstate⟩
  · exact concludeDispatch_move fun _ _ => setDetachedOperationTerminal_move
  · exact .aside (by simp) (.refl db)

theorem beginDispatch_move {hasProbe : Bool} :
    StretchMove db operationId
      (beginDispatch db operationId nowMs hasProbe) := by
  unfold beginDispatch
  split
  · exact .aside (by simp) (.refl db)
  split
  · exact .aside (by simp) (.refl db)
  split
  · exact concludeDispatch_move fun _ _ => resolveDetachedOperationCancel_move
  split
  · exact .aside (by simp) (.refl db)
  · exact launchWorker_move

theorem afterProbe_move {seen : DetachedOperation}
    {decision : CapacityDecision} :
    StretchMove db operationId
      (afterProbe db operationId seen nowMs decision) := by
  unfold afterProbe
  split
  · exact launchWorker_move
  · exact concludeDispatch_move fun _ _ => setDetachedOperationTerminal_move
  · exact concludeDispatch_move fun _ _ => markDetachedOperationWaiting_move

/-- What one step of the system does: the dispatches that are about to call
their worker stay, or one more has started its operation, or one calls. -/
inductive DispatchMove (s s' : DetachedSystem) : Prop
  | aside (hledger : LedgerMove s.db s'.db)
      (hcalls : s'.workerCalls = s.workerCalls)
      (hstarting : ∀ k row, s'.dispatches.get? k = some row →
        row.isStarting = true → s.dispatches.get? k = some row)
  | launched (runId : Nat) (operationId : String)
      (hledger : LedgerMove s.db s'.db)
      (hcalls : s'.workerCalls = s.workerCalls)
      (hpending : ∃ row, s.db.operations.get? operationId = some row ∧
        row.isPending = true)
      (hstarted : ∃ row', s'.db.operations.get? operationId = some row' ∧
        row'.state = .started)
      (hstarting : ∀ k row, s'.dispatches.get? k = some row →
        row.isStarting = true → s.dispatches.get? k = some row ∨
          (k = runId ∧ row.operationId = operationId))
  | called (caller : DispatchRun)
      (hcaller : s.dispatches.get? caller.runId = some caller)
      (hready : caller.isStarting = true) (hdb : s'.db = s.db)
      (hcalls : s'.workerCalls = s.workerCalls ++ [caller.operationId])
      (hstarting : ∀ k row, s'.dispatches.get? k = some row →
        row.isStarting = true →
          k ≠ caller.runId ∧ s.dispatches.get? k = some row)

variable {s : DetachedSystem}
variable {caller row : DispatchRun} {phase : DispatchPhase}

theorem of_get?_setPhase {k : Nat}
    (hcaller : s.dispatches.get? caller.runId = some caller)
    (hrow : (s.setPhase caller.runId phase).get? k = some row) :
    (k = caller.runId ∧ row = caller.inPhase phase) ∨
      (k ≠ caller.runId ∧ s.dispatches.get? k = some row) := by
  unfold DetachedSystem.setPhase at hrow
  rw [get?_update] at hrow
  obtain ⟨old, hold, hrow⟩ := map_eq_some_iff.mp hrow
  have hkey : old.runId = k := key_of_get? hold
  by_cases hsame : k = caller.runId
  · rw [hsame, hcaller] at hold
    cases hold
    rw [if_pos (by simp)] at hrow
    exact .inl ⟨hsame, hrow.symm⟩
  · rw [if_neg (by simpa [hkey] using hsame)] at hrow
    exact .inr ⟨hsame, hrow ▸ hold⟩

theorem isStarting_inPhase (hphase : ∀ started, phase ≠ .starting started) :
    (row.inPhase phase).isStarting = false := by
  cases phase with
  | starting started => exact absurd rfl (hphase started)
  | probing | working | finished => rfl

/-- A dispatch goes on from one wait to the next. -/
theorem stretch_move {db' : DetachedDb}
    (hcaller : s.dispatches.get? caller.runId = some caller)
    (hmove : StretchMove s.db caller.operationId (phase, db')) :
    DispatchMove s
      { s with db := db', dispatches := s.setPhase caller.runId phase } := by
  cases hmove with
  | aside hphase hledger =>
    refine .aside hledger rfl ?_
    intro k _ hrow hstarting
    rcases of_get?_setPhase hcaller hrow with ⟨_, rfl⟩ | ⟨_, hold⟩
    · rw [isStarting_inPhase hphase] at hstarting
      cases hstarting
    · exact hold
  | launched hledger hpending hstarted =>
    refine .launched caller.runId caller.operationId hledger rfl hpending
      hstarted ?_
    intro k _ hrow _
    rcases of_get?_setPhase hcaller hrow with ⟨hk, rfl⟩ | ⟨_, hold⟩
    · exact .inr ⟨hk, rfl⟩
    · exact .inl hold

theorem dispatch_move {hasProbe : Bool} :
    DispatchMove s (s.dispatch operationId nowMs hasProbe) := by
  unfold DetachedSystem.dispatch
  cases hbegin : beginDispatch s.db operationId nowMs hasProbe with
  | mk =>
    have hmove := @beginDispatch_move s.db operationId nowMs hasProbe
    rw [hbegin] at hmove
    cases hmove with
    | aside hphase hledger =>
      refine .aside hledger rfl ?_
      intro k _ hrow hstarting
      rcases Table.of_get?_insertNew hrow with rfl | hold
      · unfold DispatchRun.isStarting at hstarting
        split at hstarting
        · rename_i started hstarted
          exact absurd hstarted (hphase started)
        · cases hstarting
      · exact hold
    | launched hledger hpending hstarted =>
      refine .launched s.nextRun operationId hledger rfl hpending hstarted
        ?_
      intro k row hrow _
      have hk : row.runId = k := key_of_get? hrow
      rcases Table.of_get?_insertNew hrow with rfl | hold
      · exact .inr ⟨hk.symm, rfl⟩
      · exact .inl hold

theorem callWorker_move (hcaller : s.dispatches.get? caller.runId = some caller) :
    DispatchMove s (s.callWorker caller) := by
  unfold DetachedSystem.callWorker
  split
  · rename_i hphase
    refine .called caller hcaller (by simp [DispatchRun.isStarting, hphase]) rfl
      rfl ?_
    intro k _ hrow hstarting
    rcases of_get?_setPhase hcaller hrow with ⟨_, rfl⟩ | hold
    · cases hstarting
    · exact hold
  · exact .aside (.refl _) rfl fun _ _ hrow _ => hrow

theorem change_dispatchMove
    (hledger : ∀ row' db', answer = .ok (row', db') → LedgerMove s.db db') :
    DispatchMove s (s.change answer) := by
  unfold DetachedSystem.change
  split
  · exact .aside (hledger _ _ rfl) rfl fun _ _ hrow _ => hrow
  · exact .aside (.refl _) rfl fun _ _ hrow _ => hrow

theorem detachedStep_move [Host] (op : DetachedOp) :
    DispatchMove s (detachedStep op s) := by
  have hkept : DispatchMove s s :=
    .aside (.refl _) rfl fun _ _ hrow _ => hrow
  unfold detachedStep
  cases op with
  | admitOperation =>
    dsimp only
    split
    · rename_i hadmit
      exact .aside (admitDetachedOperation_move hadmit) rfl
        fun _ _ hrow _ => hrow
    · exact hkept
  | dispatch => exact dispatch_move
  | probed runId =>
    dsimp only
    split
    · rename_i caller hcaller
      have hid : caller.runId = runId := key_of_get? hcaller
      subst hid
      unfold DetachedSystem.probed
      split
      · exact stretch_move hcaller afterProbe_move
      · exact hkept
    · exact hkept
  | callWorker runId =>
    dsimp only
    split
    · rename_i caller hcaller
      have hid : caller.runId = runId := key_of_get? hcaller
      subst hid
      exact callWorker_move hcaller
    · exact hkept
  | settleWorker runId =>
    dsimp only
    split
    · rename_i caller hcaller
      have hid : caller.runId = runId := key_of_get? hcaller
      subst hid
      unfold DetachedSystem.settleWorker
      split
      · exact stretch_move hcaller (concludeDispatch_move
          fun _ _ => setDetachedOperationTerminal_move)
      · exact hkept
    · exact hkept
  | start =>
    exact change_dispatchMove
      fun _ _ hok => (markDetachedOperationStarted_move hok).1
  | wait =>
    exact change_dispatchMove fun _ _ => markDetachedOperationWaiting_move
  | setTerminal =>
    exact change_dispatchMove fun _ _ => setDetachedOperationTerminal_move
  | requestCancel =>
    exact change_dispatchMove fun _ _ => requestDetachedOperationCancel_move
  | resolveCancel =>
    exact change_dispatchMove fun _ _ => resolveDetachedOperationCancel_move
  | supersede =>
    exact change_dispatchMove fun _ _ => supersedeDetachedOperation_move
  | reconcile =>
    refine .aside ?_ rfl fun _ _ hrow _ => hrow
    dsimp only
    unfold reconcileDetachedOperations
    split
    · exact foldl_expireOperation_move _
    · exact .refl _
  | reconcileUpTo =>
    refine .aside (foldl_expireOperation_move _) rfl ?_
    intro k _ hrow
    cases hrow
  | link =>
    exact .aside linkDetachedOperation_move rfl fun _ _ hrow _ => hrow
  | restart =>
    refine .aside (.refl _) rfl ?_
    intro k _ hrow
    cases hrow

theorem DispatchMove.ledger {s' : DetachedSystem} (hmove : DispatchMove s s') :
    LedgerMove s.db s'.db := by
  cases hmove with
  | aside hledger | launched _ _ hledger => exact hledger
  | called _ _ _ hdb =>
    rw [hdb]
    exact .refl _

end Dispatches

section Runs

/-- The operation has begun: it waits for its start no more. -/
def HasBegun (s : DetachedSystem) (operationId : String) : Prop :=
  ∃ row, s.db.operations.get? operationId = some row ∧ row.isPending = false

/-- The worker is called once for an operation at most: a dispatch that is about
to call it is the only one, and finds it called for nobody. -/
structure CalledOnce (s : DetachedSystem) : Prop where
  nodup : s.workerCalls.Nodup
  called : ∀ operationId ∈ s.workerCalls, HasBegun s operationId
  starting : ∀ k row, s.dispatches.get? k = some row → row.isStarting = true →
    row.operationId ∉ s.workerCalls ∧ HasBegun s row.operationId
  single : ∀ k k' row row', s.dispatches.get? k = some row →
    s.dispatches.get? k' = some row' → row.isStarting = true →
    row'.isStarting = true → row.operationId = row'.operationId → k = k'

variable {s s' : DetachedSystem}

variable {operationId : String}

theorem LedgerMove.hasBegun (hledger : LedgerMove s.db s'.db)
    (hbegun : HasBegun s operationId) :
    HasBegun s' operationId := by
  obtain ⟨row, hrow, hbegun⟩ := hbegun
  obtain ⟨row', hrow', hmove⟩ := hledger.forward operationId row hrow
  exact ⟨row', hrow', hmove.begun hbegun⟩

theorem DispatchMove.calledOnce (hmove : DispatchMove s s')
    (honce : CalledOnce s) : CalledOnce s' := by
  cases hmove with
  | aside hledger hcalls hstarting =>
    constructor
    · rw [hcalls]
      exact honce.nodup
    · intro operationId hmem
      rw [hcalls] at hmem
      exact hledger.hasBegun (honce.called operationId hmem)
    · intro k row hrow hready
      obtain ⟨hnew, hbegun⟩ :=
        honce.starting k row (hstarting k row hrow hready) hready
      rw [hcalls]
      exact ⟨hnew, hledger.hasBegun hbegun⟩
    · intro k k' row row' hrow hrow' hready hready'
      exact honce.single k k' row row' (hstarting k row hrow hready)
        (hstarting k' row' hrow' hready') hready hready'
  | launched _ operationId hledger hcalls hpending hstarted hstarting =>
    obtain ⟨_, hold, hpending⟩ := hpending
    obtain ⟨new, hnew, hstate⟩ := hstarted
    have hfresh : ¬ HasBegun s operationId := by
      rintro ⟨_, hrow, hbegun⟩
      rw [hold] at hrow
      cases hrow
      rw [hpending] at hbegun
      cases hbegun
    constructor
    · rw [hcalls]
      exact honce.nodup
    · intro other hmem
      rw [hcalls] at hmem
      exact hledger.hasBegun (honce.called other hmem)
    · intro k row hrow hready
      rw [hcalls]
      rcases hstarting k row hrow hready with hkept | ⟨_, rfl⟩
      · obtain ⟨huncalled, hbegun⟩ := honce.starting k row hkept hready
        exact ⟨huncalled, hledger.hasBegun hbegun⟩
      · refine ⟨fun hmem => hfresh (honce.called _ hmem), new, hnew, ?_⟩
        simp [DetachedOperation.isPending, hstate]
    · intro k k' row row' hrow hrow' hready hready' hsame
      rcases hstarting k row hrow hready with hkept | ⟨hk, hid⟩
      · rcases hstarting k' row' hrow' hready' with hkept' | ⟨_, hid'⟩
        · exact honce.single k k' row row' hkept hkept' hready hready' hsame
        · exact absurd ((hsame.trans hid') ▸
            (honce.starting k row hkept hready).2) hfresh
      · rcases hstarting k' row' hrow' hready' with hkept' | ⟨hk', _⟩
        · exact absurd ((hsame.symm.trans hid) ▸
            (honce.starting k' row' hkept' hready').2) hfresh
        · exact hk.trans hk'.symm
  | called caller hcaller hready hdb hcalls hstarting =>
    have hkept : ∀ operationId, HasBegun s operationId →
        HasBegun s' operationId := by
      intro _ hbegun
      unfold HasBegun
      rw [hdb]
      exact hbegun
    obtain ⟨huncalled, hbegun⟩ := honce.starting _ caller hcaller hready
    constructor
    · rw [hcalls, nodup_append]
      refine ⟨honce.nodup, nodup_singleton _, ?_⟩
      rintro _ hmem _ hlast rfl
      rw [mem_singleton.mp hlast] at hmem
      exact huncalled hmem
    · intro operationId hmem
      rw [hcalls] at hmem
      rcases mem_append.mp hmem with hmem | hlast
      · exact hkept _ (honce.called operationId hmem)
      · rw [mem_singleton.mp hlast]
        exact hkept _ hbegun
    · intro k row hrow hstill
      obtain ⟨hk, hold⟩ := hstarting k row hrow hstill
      obtain ⟨hnew, hbegun'⟩ := honce.starting k row hold hstill
      refine ⟨?_, hkept _ hbegun'⟩
      rw [hcalls]
      intro hmem
      rcases mem_append.mp hmem with hmem | hlast
      · exact hnew hmem
      · exact hk (honce.single k caller.runId row caller hold hcaller hstill
          hready (mem_singleton.mp hlast))
    · intro k k' row row' hrow hrow' hstill hstill'
      exact honce.single k k' row row' (hstarting k row hrow hstill).2
        (hstarting k' row' hrow' hstill').2 hstill hstill'

theorem calledOnce_empty : CalledOnce {} where
  nodup := nodup_nil
  called := by
    intro _ hmem
    cases hmem
  starting := by
    intro k _ hrow
    cases hrow
  single := by
    intro k _ _ _ hrow
    cases hrow

variable [Host]

theorem run_calledOnce (ops : List DetachedOp) :
    CalledOnce (run detachedStep {} ops) :=
  run_preserves (P := CalledOnce)
    (fun op _ hs => (detachedStep_move op).calledOnce hs) calledOnce_empty ops

/-- An outcome stays as it is in every later state. -/
theorem run_terminal (hrow : s.db.operations.get? operationId = some row)
    (hterminal : isTerminalState row.state = true) (ops : List DetachedOp) :
    ∃ row', (run detachedStep s ops).db.operations.get? operationId =
      some row' ∧ SameOutcome row row' := by
  refine run_preserves (P := fun later : DetachedSystem => ∃ row',
    later.db.operations.get? operationId = some row' ∧ SameOutcome row row') ?_
    ⟨row, hrow, .refl row⟩ ops
  rintro op s ⟨mid, hmid, hsame⟩
  obtain ⟨row', hrow', hmove⟩ :=
    (detachedStep_move op).ledger.forward operationId mid hmid
  rw [← hsame.state] at hterminal
  exact ⟨row', hrow', hsame.trans (hmove.terminal hterminal)⟩

/-- No dispatch of the operation is about to call the worker. -/
def NoneStarting (s : DetachedSystem) (operationId : String) : Prop :=
  ∀ k row, s.dispatches.get? k = some row → row.operationId = operationId →
    row.isStarting = false

omit [Host] in
theorem CalledOnce.noneStarting (honce : CalledOnce s)
    (hcalled : operationId ∈ s.workerCalls) : NoneStarting s operationId := by
  rintro k row hrow rfl
  by_contra hready
  rw [Bool.not_eq_false] at hready
  exact (honce.starting k row hrow hready).1 hcalled

omit [Host] in
theorem DispatchMove.calls (hmove : DispatchMove s s')
    (hbegun : HasBegun s operationId) (hnone : NoneStarting s operationId) :
    NoneStarting s' operationId ∧
      s'.workerCalls.count operationId = s.workerCalls.count operationId := by
  cases hmove with
  | aside _ hcalls hstarting =>
    refine ⟨?_, by rw [hcalls]⟩
    intro k row hrow hid
    by_contra hready
    rw [Bool.not_eq_false] at hready
    rw [hnone k row (hstarting k row hrow hready) hid] at hready
    cases hready
  | launched _ _ _ hcalls hpending _ hstarting =>
    refine ⟨?_, by rw [hcalls]⟩
    intro k row hrow hid
    by_contra hready
    rw [Bool.not_eq_false] at hready
    rcases hstarting k row hrow hready with hkept | ⟨_, hlaunched⟩
    · rw [hnone k row hkept hid] at hready
      cases hready
    · obtain ⟨_, hold, hpending⟩ := hpending
      obtain ⟨_, hfound, hbegun⟩ := hbegun
      rw [← hlaunched, hid, hfound] at hold
      cases hold
      rw [hpending] at hbegun
      cases hbegun
  | called caller hcaller hready _ hcalls hstarting =>
    have hother : caller.operationId ≠ operationId := by
      intro hid
      rw [hnone _ caller hcaller hid] at hready
      cases hready
    refine ⟨?_, ?_⟩
    · intro k row hrow hid
      by_contra hstill
      rw [Bool.not_eq_false] at hstill
      rw [hnone k row (hstarting k row hrow hstill).2 hid] at hstill
      cases hstill
    · rw [hcalls]
      simp [hother]

theorem run_calls (hbegun : HasBegun s operationId)
    (hnone : NoneStarting s operationId) (ops : List DetachedOp) :
    (run detachedStep s ops).workerCalls.count operationId =
      s.workerCalls.count operationId := by
  have hkept := run_preserves (P := fun later => HasBegun later operationId ∧
      NoneStarting later operationId ∧
      later.workerCalls.count operationId = s.workerCalls.count operationId)
    (fun op later hs => by
      obtain ⟨hbegun, hnone, hcount⟩ := hs
      have hmove := @detachedStep_move later _ op
      obtain ⟨hnone', hcalls⟩ := hmove.calls hbegun hnone
      exact ⟨hmove.ledger.hasBegun hbegun, hnone', hcalls.trans hcount⟩)
    ⟨hbegun, hnone, rfl⟩ ops
  exact hkept.2.2

/-- In every run, however dispatches, starts, completions, cancellations and
restarts interleave: the worker is called once for an operation at most; a
success is recorded from the started state only; an operation whose outcome is
unknown is not run again, nor at all when no dispatch had started it before; and
an outcome never changes. -/
theorem detached_runs_once (ops : List DetachedOp) :
    (∀ operationId,
      (run detachedStep {} ops).workerCalls.count operationId ≤ 1) ∧
    (∀ before op after, ops = before ++ op :: after → ∀ operationId row',
      (run detachedStep {} (before ++ [op])).db.operations.get? operationId =
        some row' → row'.state = .succeeded →
      ∃ row, (run detachedStep {} before).db.operations.get? operationId =
        some row ∧ (row.state = .succeeded ∨ row.state = .started)) ∧
    (∀ before after, ops = before ++ after → ∀ operationId row,
      (run detachedStep {} before).db.operations.get? operationId = some row →
      row.state = .outcomeUnknown →
      (operationId ∈ (run detachedStep {} before).workerCalls ∨
        NoneStarting (run detachedStep {} before) operationId) →
      (run detachedStep {} ops).workerCalls.count operationId =
        (run detachedStep {} before).workerCalls.count operationId) ∧
    (∀ before after, ops = before ++ after → ∀ operationId row,
      (run detachedStep {} before).db.operations.get? operationId = some row →
      isTerminalState row.state = true →
      ∃ row', (run detachedStep {} ops).db.operations.get? operationId =
        some row' ∧ SameOutcome row row') := by
  refine ⟨?_, ?_, ?_, ?_⟩
  · intro operationId
    exact List.nodup_iff_count_le_one.mp (run_calledOnce ops).nodup operationId
  · intro before op _ _ operationId row' hrow' hsucceeded
    rw [run_append] at hrow'
    have hledger := (@detachedStep_move (run detachedStep {} before) _
      op).ledger
    cases hrow : (run detachedStep {} before).db.operations.get?
        operationId with
    | none =>
      have hadmitted := hledger.admitted operationId row' hrow' hrow
      rw [hsucceeded] at hadmitted
      cases hadmitted
    | some row =>
      refine ⟨row, rfl, ?_⟩
      obtain ⟨found, hfound, hmove⟩ := hledger.forward operationId row hrow
      have hsame : found = row' :=
        Option.some.inj (hfound.symm.trans hrow')
      subst hsame
      by_cases hbefore : row.state = .succeeded
      · exact Or.inl hbefore
      · exact Or.inr (hmove.succeeded hbefore hsucceeded)
  · rintro before after rfl operationId row hrow hunknown hcalled
    have hnone : NoneStarting (run detachedStep {} before) operationId := by
      rcases hcalled with hcalled | hnone
      · exact (run_calledOnce before).noneStarting hcalled
      · exact hnone
    rw [run_append]
    refine run_calls ⟨row, hrow, ?_⟩ hnone after
    simp [DetachedOperation.isPending, hunknown]
  · rintro _ after rfl _ _ hrow hterminal
    rw [run_append]
    exact run_terminal hrow hterminal after

end Runs

section Plain

attribute [local instance] plainHost

def investigation : AdmitDetachedOperationInput where
  idempotencyKey := "k"
  conversationId := "c"
  originCycleId := "y"
  originGeneration := 1
  originKind := some .ashleyCommitment
  originRef := some "r"
  request := { projectId := some "p", text := "q" }
  purpose := "look"
  evidenceNeed := "facts"
  operationDeadlineAtMs := 1000

/-- Two dispatches wait for capacity; the second one finds the operation
started, and the first one's success comes after the deadline. -/
example :
    let s := run detachedStep {}
      [.admitOperation investigation 1,
        .dispatch "detached-operation:k" 2 true,
        .dispatch "detached-operation:k" 3 true, .probed 1 .available,
        .probed 2 .available, .callWorker 1, .callWorker 2, .reconcile 2000,
        .settleWorker 1 (.succeeded true) 2001]
    s.workerCalls = ["detached-operation:k"] ∧
      (s.db.operations.get? "detached-operation:k").map (·.state) =
        some .outcomeUnknown := by decide +kernel

end Plain

end CognitiveSidecar
