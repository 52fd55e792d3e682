/-
Runs of the attention system: every request has its call, and in which runs a
call that has ended leaves its request closed.
-/
import CognitiveSidecar.AttentionMoves
import CognitiveSidecar.Lib.Run

namespace CognitiveSidecar

variable {s : AttentionSystem} {id : Nat}

open Relational

/-- The call waits for its next attempt. -/
def CallPhase.waits : CallPhase → Prop
  | .attempting => True
  | .sleeping _ _ => True
  | _ => False

/-- The states of the request while its call is in a phase. -/
def CallPhase.admits (phase : CallPhase) (state : AttentionState) : Prop :=
  match phase with
  | .attempting => state = .queued
  | .sleeping _ _ => state = .queued
  | .dispatching _ => state = .running
  | .ended _ => state = .queued ∨ state = .terminal

/-- Every request has its call and every call its request, numbered in order. -/
structure Attended (s : AttentionSystem) : Prop where
  served : ∀ id, Option.Rel (fun row call => call.phase.admits row.state)
    (s.db.requests.get? id) (s.calls.get? id)
  numbered : ∀ id call, s.calls.get? id = some call → id < s.db.nextId

theorem Attended.call_of_row {row : AttentionRequest} (hattended : Attended s)
    (hrow : s.db.requests.get? id = some row) :
    ∃ call, s.calls.get? id = some call ∧ call.phase.admits row.state := by
  have hserved := hattended.served id
  rw [hrow] at hserved
  cases hcall : s.calls.get? id with
  | none => rw [hcall] at hserved; cases hserved
  | some call =>
    rw [hcall] at hserved
    cases hserved with
    | some hadmits => exact ⟨call, rfl, hadmits⟩

theorem Attended.row_of_call {call : DispatchCall} (hattended : Attended s)
    (hcall : s.calls.get? id = some call) :
    ∃ row, s.db.requests.get? id = some row ∧
      call.phase.admits row.state := by
  have hserved := hattended.served id
  rw [hcall] at hserved
  cases hrow : s.db.requests.get? id with
  | none => rw [hrow] at hserved; cases hserved
  | some row =>
    rw [hrow] at hserved
    cases hserved with
    | some hadmits => exact ⟨row, rfl, hadmits⟩

section Steps

variable [AttentionHost]

/-- What becomes of a request and the phase of its call when the call goes on. -/
inductive CallMove (db : AttentionDb) (row : AttentionRequest)
    (readings : Nat → Int) (phase : CallPhase) :
    CallPhase → AttentionRequest → Prop
  | attempt {phase' : CallPhase} {row' : AttentionRequest}
      (hwaits : phase.waits) (hstate : row.state = .queued)
      (hmove : AttemptMove db row readings phase' row') :
      CallMove db row readings phase phase' row'
  | settle {seq : Nat} {result : CallEnd} {row' : AttentionRequest}
      (hphase : phase = .dispatching seq) (hstate : row.state = .running)
      (hfinished : FinishedAs row row') :
      CallMove db row readings phase (.ended result) row'

/-- What one step of the system does. -/
inductive SystemMove (clock : Nat → Int) (op : AttentionOp)
    (s s' : AttentionSystem) : Prop
  | refused (hdb : s'.db = s.db) (hcalls : s'.calls = s.calls)
  | queued (row : AttentionRequest) (call : DispatchCall)
      (hstate : row.state = .queued) (hidle : row.Idle)
      (hphase : call.phase = .attempting)
      (hid : row.id = s.db.nextId) (hcallId : call.requestId = s.db.nextId)
      (hinsert : s.db.requests.insert? row = some s'.db.requests)
      (hcalls : s.calls.insert? call = some s'.calls)
      (hnext : s'.db.nextId = s.db.nextId + 1)
  | moved (id : Nat) (call : DispatchCall) (row row' : AttentionRequest)
      (phase : CallPhase) (hcall : s.calls.get? id = some call)
      (hrow : s.db.requests.get? id = some row)
      (htouches : Touches id s.db s'.db)
      (hrow' : s'.db.requests.get? id = some row')
      (hcalls : s'.calls = s.setPhase id phase)
      (hmove : CallMove s.db row (s.clockFrom clock) call.phase phase row')
  | signalled (id : Nat) (hdb : s'.db = s.db)
      (hcalls : ∀ other, Option.Rel (fun call call' =>
      call'.phase = call.phase ∨ (op = .abort id ∧ other = id ∧
        (∃ attempt waitMs, call.phase = .sleeping attempt waitMs) ∧
        call'.phase = .ended (.failed "AbortError")))
      (s.calls.get? other) (s'.calls.get? other))

variable {clock : Nat → Int} {s : AttentionSystem} {op : AttentionOp}
variable {readings : Nat → Int} {reads id : Nat} {call : DispatchCall}
variable {db : AttentionDb} {row row' : AttentionRequest} {phase : CallPhase}
variable {s' : AttentionSystem}

theorem beginCall_move {input : AttentionDispatchInput} (hattended : Attended s) :
    SystemMove clock op s { s.beginCall input readings with reads } := by
  unfold AttentionSystem.beginCall
  split
  · have hfreeCall : s.calls.get? s.db.nextId = none := by
      cases hcall : s.calls.get? s.db.nextId with
      | none => rfl
      | some =>
        exact absurd (hattended.numbered _ _ hcall) (Nat.lt_irrefl _)
    have hfreeRow : s.db.requests.get? s.db.nextId = none := by
      cases hrow : s.db.requests.get? s.db.nextId with
      | none => rfl
      | some =>
        obtain ⟨_, hcall, _⟩ := hattended.call_of_row hrow
        rw [hfreeCall] at hcall
        cases hcall
    dsimp only [insertQueuedRequest]
    unfold Table.insertNew
    generalize hnew : ({ id := s.db.nextId, .. } : AttentionRequest) = row
    have hkey : key row = s.db.nextId := by rw [← hnew]; rfl
    obtain ⟨_, hrequests⟩ :=
        @exists_insert? _ _ _ _ _ row (by rw [hkey]; exact hfreeRow)
    generalize hbegun : DispatchCall.mk s.db.nextId input input.signalAborted
      .attempting = call
    have hcallKey : key call = s.db.nextId := by rw [← hbegun]; rfl
    obtain ⟨_, hcalls⟩ :=
        @exists_insert? _ _ _ _ _ call (by rw [hcallKey]; exact hfreeCall)
    rw [hrequests, hcalls]
    refine .queued row call ?_ ?_ ?_ hkey hcallKey hrequests hcalls rfl
    · rw [← hnew]
    · rw [← hnew]
      exact ⟨rfl, rfl, rfl, rfl⟩
    · rw [← hbegun]
  · exact .refused rfl rfl

theorem attemptCall_move {attempt maximumOciSequence : Nat}
    (hattended : Attended s) (hcall : s.calls.get? id = some call)
    (hwaits : call.phase.waits) :
    SystemMove clock op s { s.attemptCall call attempt maximumOciSequence
      (s.clockFrom clock) with reads } := by
  have hid : call.requestId = id := key_of_get? hcall
  obtain ⟨row, hrow, hadmits⟩ := hattended.row_of_call hcall
  have hstate : row.state = .queued := by
    cases hphase : call.phase with
    | attempting | sleeping => rw [hphase] at hadmits; exact hadmits
    | dispatching | ended => rw [hphase] at hwaits; exact hwaits.elim
  subst hid
  obtain ⟨htouches, row', hrow', hmove⟩ :=
    @admissionTurn_move _ s.db call row (s.clockFrom clock) attempt
      maximumOciSequence hrow hstate
  exact .moved call.requestId call row row' _ hcall hrow htouches hrow' rfl
    (.attempt hwaits hstate hmove)

theorem abortCall_move (hcall : s.calls.get? id = some call) :
    SystemMove clock (.abort id) s { s.abortCall call with reads } := by
  have hid : call.requestId = id := key_of_get? hcall
  subst hid
  unfold AttentionSystem.abortCall
  split
  · rename_i attempt waitMs hphase
    refine .signalled call.requestId rfl ?_
    intro other
    dsimp only [AttentionSystem.setPhase]
    rw [get?_update]
    cases hother : s.calls.get? other with
    | none => exact Option.Rel.none
    | some row =>
      refine Option.Rel.some ?_
      have hkey : row.requestId = other := key_of_get? hother
      dsimp only
      by_cases hsame : row.requestId = call.requestId
      · rw [if_pos (by simpa using hsame)]
        rw [← hkey, hsame] at hother
        rw [hcall] at hother
        cases hother
        exact .inr ⟨rfl, hkey.symm, ⟨attempt, waitMs, hphase⟩, rfl⟩
      · rw [if_neg (by simpa using hsame)]
        exact .inl rfl
  · refine .signalled call.requestId rfl ?_
    intro other
    rw [get?_update]
    cases s.calls.get? other with
    | none => exact Option.Rel.none
    | some =>
      refine Option.Rel.some (.inl ?_)
      dsimp only
      split <;> rfl

theorem attentionStep_move (hattended : Attended s) :
    SystemMove clock op s (attentionStep clock op s) := by
  unfold attentionStep
  cases op with
  | call => exact beginCall_move hattended
  | attempt id =>
    dsimp only
    cases hcall : s.calls.get? id with
    | none => exact .refused rfl rfl
    | some call =>
      dsimp only
      cases hphase : call.phase with
      | attempting | sleeping =>
        exact attemptCall_move hattended hcall (by simp [hphase,
          CallPhase.waits])
      | dispatching | ended => exact .refused rfl rfl
  | abort id =>
    dsimp only
    cases hcall : s.calls.get? id with
    | none => exact .refused rfl rfl
    | some => exact abortCall_move hcall
  | settle id answer =>
    dsimp only
    cases hcall : s.calls.get? id with
    | none => exact .refused rfl rfl
    | some call =>
      dsimp only
      cases hphase : call.phase with
      | attempting | sleeping | ended => exact .refused rfl rfl
      | dispatching seq =>
        have hid : call.requestId = id := key_of_get? hcall
        subst hid
        obtain ⟨row, hrow, hadmits⟩ := hattended.row_of_call hcall
        rw [hphase] at hadmits
        obtain ⟨htouches, row', hrow', hfinished, _⟩ :=
          @settleDispatch_move _ s.db call row (s.clockFrom clock)
            s.continuity seq answer hrow hadmits
        exact .moved call.requestId call row row' _ hcall hrow htouches
          hrow' rfl (.settle hphase hadmits hfinished)

/-- After an attempt or a settlement the request is in a state that the new
phase of its call admits. -/
theorem CallMove.admits {phase' : CallPhase}
    (hmove : CallMove db row readings phase phase' row') :
    phase'.admits row'.state := by
  cases hmove with
  | attempt _ hstate hmove =>
    cases hmove with
    | waits => exact hstate
    | closes hclosed => exact .inr hclosed.state
    | starts _ hstarted => exact hstarted.state
    | refuses _ _ hfinished => exact .inr hfinished.state
  | settle _ _ hfinished => exact .inr hfinished.state

/-- Only a sleep leaves the request of a call queued. -/
theorem CallMove.closed {result : CallEnd}
    (hmove : CallMove db row readings phase (.ended result) row') :
    row'.state = .terminal := by
  cases hmove with
  | attempt _ _ hmove =>
    cases hmove with
    | closes hclosed => exact hclosed.state
    | refuses _ _ hfinished => exact hfinished.state
  | settle _ _ hfinished => exact hfinished.state

omit [AttentionHost] in
theorem get?_setPhase (hcall : s.calls.get? id = some call) (other : Nat) :
    (s.setPhase id phase).get? other =
      if other = id then some (call.inPhase phase) else s.calls.get? other := by
  have hid : call.requestId = id := key_of_get? hcall
  unfold AttentionSystem.setPhase
  rw [get?_update]
  by_cases hother : other = id
  · subst hother
    rw [if_pos rfl, hcall, Option.map_some, if_pos (by simpa using hid)]
  · rw [if_neg hother]
    exact map_get?_self fun row (hkey : row.requestId = other) => by
      simp [hkey, hother]

theorem SystemMove.attended (hmove : SystemMove clock op s s')
    (hattended : Attended s) :
    Attended s' := by
  cases hmove with
  | refused hdb hcalls =>
    constructor
    · rw [hdb, hcalls]
      exact hattended.served
    · rw [hdb, hcalls]
      exact hattended.numbered
  | queued row call hstate hidle hphase hid hcallId hinsert hcalls hnext =>
    constructor
    · intro id
      rw [get?_insert hinsert, get?_insert hcalls]
      change Option.Rel _ (if id = row.id then _ else _)
        (if id = call.requestId then _ else _)
      rw [hid, hcallId]
      by_cases hnew : id = s.db.nextId
      · rw [if_pos hnew, if_pos hnew]
        refine Option.Rel.some ?_
        rw [hphase]
        exact hstate
      · rw [if_neg hnew, if_neg hnew]
        exact hattended.served id
    · intro id other hother
      rw [get?_insert hcalls] at hother
      change (if id = call.requestId then _ else _) = _ at hother
      rw [hcallId] at hother
      by_cases hnew : id = s.db.nextId
      · omega
      · rw [if_neg hnew] at hother
        have := hattended.numbered id other hother
        omega
  | moved id call row row' phase hcall hrow htouches hrow' hcalls hmove =>
    constructor
    · intro other
      rw [hcalls, get?_setPhase hcall]
      by_cases hother : other = id
      · subst hother
        rw [if_pos rfl, hrow']
        exact Option.Rel.some hmove.admits
      · rw [if_neg hother, htouches.others other hother]
        exact hattended.served other
    · intro other found hfound
      rw [htouches.nextId]
      rw [hcalls, get?_setPhase hcall] at hfound
      by_cases hother : other = id
      · subst hother
        exact hattended.numbered other call hcall
      · rw [if_neg hother] at hfound
        exact hattended.numbered other found hfound
  | signalled id hdb hcalls =>
    constructor
    · intro other
      rw [hdb]
      have hserved := hattended.served other
      have hphase := hcalls other
      cases hcall : s.calls.get? other with
      | none =>
        rw [hcall] at hserved hphase
        cases hnew : s'.calls.get? other with
        | none => exact hserved
        | some call' => rw [hnew] at hphase; cases hphase
      | some call =>
        rw [hcall] at hserved hphase
        cases hnew : s'.calls.get? other with
        | none => rw [hnew] at hphase; cases hphase
        | some call' =>
          rw [hnew] at hphase
          cases hrow : s.db.requests.get? other with
          | none => rw [hrow] at hserved; cases hserved
          | some row =>
            rw [hrow] at hserved
            cases hserved with
            | some hadmits =>
            cases hphase with
            | some hphase =>
            refine Option.Rel.some ?_
            rcases hphase with hsame | ⟨_, _, ⟨_, _, hslept⟩, hended⟩
            · rw [hsame]
              exact hadmits
            · rw [hslept] at hadmits
              rw [hended]
              exact .inl hadmits
    · intro other found hfound
      rw [hdb]
      have hphase := hcalls other
      cases hcall : s.calls.get? other with
      | none => rw [hcall, hfound] at hphase; cases hphase
      | some call => exact hattended.numbered other call hcall

/-- No call that has ended leaves its request behind. -/
def NoneAbandoned (s : AttentionSystem) : Prop :=
  ∀ id call row result, s.calls.get? id = some call →
    s.db.requests.get? id = some row → call.phase = .ended result →
    row.state = .terminal

/-- No signal aborts while its call sleeps between two attempts. -/
def SparesSleep (op : AttentionOp) (s : AttentionSystem) : Prop :=
  ∀ id call attempt waitMs, op = .abort id → s.calls.get? id = some call →
    call.phase ≠ .sleeping attempt waitMs

theorem SystemMove.noneAbandoned (hmove : SystemMove clock op s s')
    (hspares : SparesSleep op s) (hnone : NoneAbandoned s) :
    NoneAbandoned s' := by
  intro other found stored result hfound hstored hended
  cases hmove with
  | refused hdb hcalls =>
    rw [hcalls] at hfound
    rw [hdb] at hstored
    exact hnone other found stored result hfound hstored hended
  | queued row call hstate hidle hphase hid hcallId hinsert hcalls hnext =>
    rw [get?_insert hcalls] at hfound
    rw [get?_insert hinsert] at hstored
    change (if other = call.requestId then _ else _) = _ at hfound
    change (if other = row.id then _ else _) = _ at hstored
    rw [hcallId] at hfound
    rw [hid] at hstored
    by_cases hnew : other = s.db.nextId
    · rw [if_pos hnew] at hfound
      cases hfound
      rw [hphase] at hended
      cases hended
    · rw [if_neg hnew] at hfound hstored
      exact hnone other found stored result hfound hstored hended
  | moved id call row row' phase hcall hrow htouches hrow' hcalls hmove =>
    rw [hcalls, get?_setPhase hcall] at hfound
    by_cases hother : other = id
    · subst hother
      rw [if_pos rfl] at hfound
      cases hfound
      rw [hrow'] at hstored
      cases hstored
      have hphase : phase = .ended result := hended
      subst hphase
      exact hmove.closed
    · rw [if_neg hother] at hfound
      rw [htouches.others other hother] at hstored
      exact hnone other found stored result hfound hstored hended
  | signalled id hdb hcalls =>
    rw [hdb] at hstored
    have hphase := hcalls other
    rw [hfound] at hphase
    cases hcall : s.calls.get? other with
    | none => rw [hcall] at hphase; cases hphase
    | some call =>
      rw [hcall] at hphase
      cases hphase with
      | some hphase =>
      rcases hphase with hsame | ⟨hop, rfl, ⟨attempt, waitMs, hslept⟩, _⟩
      · exact hnone other call stored result hcall hstored
          (hsame.symm.trans hended)
      · exact absurd hslept (hspares other call attempt waitMs hop hcall)

omit [AttentionHost] in
theorem emptyAttention_attended : Attended {} where
  served := fun _ => Option.Rel.none
  numbered := by
    intro _ _ hcall
    cases hcall

/-- In every run a request is running exactly while its call dispatches, and is
queued or terminal when its call has ended. -/
theorem calls_attended (clock : Nat → Int) (ops : List AttentionOp) :
    Attended (run (attentionStep clock) {} ops) :=
  run_preserves (P := Attended) (fun _ _ hattended =>
    (attentionStep_move hattended).attended hattended) emptyAttention_attended
    ops

/-- The queue is served: a request is closed when its call has ended, an open
one belongs to a live call, and the next one to be admitted is awaited. -/
structure QueueServed (s : AttentionSystem) : Prop where
  closed : ∀ id call, s.calls.get? id = some call → call.isLive = false →
    ∃ row, s.db.requests.get? id = some row ∧ row.state = .terminal
  live : ∀ id row, s.db.requests.get? id = some row → row.state ≠ .terminal →
    ∃ call, s.calls.get? id = some call ∧ call.isLive = true
  awaited : ∀ nowMs id, selectNextEligibleRequestId s.db nowMs = some id →
    ∃ call, s.calls.get? id = some call ∧ call.phase.waits

omit [AttentionHost] in
theorem selectNextEligibleRequestId_queued {nowMs : Int}
    (hnext : selectNextEligibleRequestId db nowMs = some id) :
    ∃ row, db.requests.get? id = some row ∧ row.state = .queued := by
  obtain ⟨row, hfirst, rfl⟩ := Option.map_eq_some_iff.mp hnext
  obtain ⟨hmem, htests⟩ := List.mem_filter.mp (mem_of_firstBy hfirst)
  simp only [Bool.and_eq_true, decide_eq_true_eq] at htests
  exact ⟨row, get?_key hmem, htests.1.1⟩

omit [AttentionHost] in
theorem queueServed_of_noneAbandoned (hattended : Attended s)
    (hnone : NoneAbandoned s) : QueueServed s := by
  have hopen : ∀ id row, s.db.requests.get? id = some row →
      row.state ≠ .terminal → ∃ call, s.calls.get? id = some call ∧
        call.isLive = true ∧ call.phase.admits row.state := by
    intro id row hrow hstate
    obtain ⟨call, hcall, hadmits⟩ := hattended.call_of_row hrow
    refine ⟨call, hcall, ?_, hadmits⟩
    cases hphase : call.phase with
    | ended result =>
      exact absurd (hnone id call row result hcall hrow hphase) hstate
    | attempting | sleeping | dispatching => simp [DispatchCall.isLive, hphase]
  constructor
  · intro id _ hcall hended
    obtain ⟨row, hrow, _⟩ := hattended.row_of_call hcall
    refine ⟨row, hrow, ?_⟩
    by_contra hstate
    obtain ⟨_, hfound, hlive, _⟩ := hopen id row hrow hstate
    rw [hcall] at hfound
    cases hfound
    rw [hended] at hlive
    cases hlive
  · intro id row hrow hstate
    obtain ⟨call, hcall, hlive, _⟩ := hopen id row hrow hstate
    exact ⟨call, hcall, hlive⟩
  · intro _ id hnext
    obtain ⟨row, hrow, hstate⟩ := selectNextEligibleRequestId_queued hnext
    obtain ⟨call, hcall, hlive, hadmits⟩ := hopen id row hrow (by simp [hstate])
    refine ⟨call, hcall, ?_⟩
    rw [hstate] at hadmits
    cases hphase : call.phase with
    | attempting | sleeping => trivial
    | dispatching => rw [hphase] at hadmits; cases hadmits
    | ended => simp [DispatchCall.isLive, hphase] at hlive

/-- In every run in which no signal aborts during a sleep, however the calls
interleave and end, the queue is served. -/
theorem attention_queue_served (clock : Nat → Int) (ops : List AttentionOp)
    (hspares : Meets (attentionStep clock) SparesSleep {} ops) :
    QueueServed (run (attentionStep clock) {} ops) := by
  have hkept := meets_preserves
    (P := fun s => Attended s ∧ NoneAbandoned s)
    (fun _ s hspares hs => ⟨(attentionStep_move hs.1).attended hs.1,
      (attentionStep_move hs.1).noneAbandoned hspares hs.2⟩)
    ⟨emptyAttention_attended, by
      intro _ _ _ _ hcall
      cases hcall⟩ hspares
  exact queueServed_of_noneAbandoned hkept.1 hkept.2

end Steps

section Plain

/-- One request per second and a fixed token limit for every bucket. -/
@[reducible] def plainAttentionHost : AttentionHost where
  quotaContractFor := fun _ => ⟨1, 25000, by decide⟩
  defaultModelFor := fun _ => "m"
  providerReady := fun _ => true
  currentContractId := "contract"
  currentBuildIdentity := "build"

attribute [local instance] plainAttentionHost

def emptyDispatch (purpose : AttentionPurpose) : AttentionDispatchInput :=
  { messages := [], purpose, maxTokens := some 1000 }

/-- A clock that is read the same throughout a step. -/
def stepClock (reading : Nat) : Int := (reading / 8 * 100 : Nat)

/-- A dispatch is admitted and settles, and another waits behind it. -/
def twoDispatches : List AttentionOp :=
  [.call (emptyDispatch .thought), .attempt 1 0,
    .call (emptyDispatch .expression), .attempt 2 0, .abort 1,
    .settle 1 (.resolved (some "m-1") (some ⟨some 10, some 20⟩)),
    .attempt 2 0]

theorem attention_queue_served_two :
    Meets (attentionStep stepClock) SparesSleep {} twoDispatches ∧
      QueueServed (run (attentionStep stepClock) {} twoDispatches) := by
  have hdispatching : ((run (attentionStep stepClock) {}
      (twoDispatches.take 4)).calls.get? 1).map DispatchCall.phase =
        some (.dispatching 1) := by decide +kernel
  have hspares : Meets (attentionStep stepClock) SparesSleep {}
      twoDispatches := by
    refine ⟨?_, ?_, ?_, ?_, ?_, ?_, ?_, trivial⟩
    case refine_5 =>
      intro _ _ _ _ hop hcall hphase
      cases hop
      change (run (attentionStep stepClock) {}
        (twoDispatches.take 4)).calls.get? 1 = _ at hcall
      rw [hcall, Option.map_some, hphase] at hdispatching
      cases hdispatching
    all_goals
      intro _ _ _ _ hop
      cases hop
  exact ⟨hspares, attention_queue_served _ _ hspares⟩

/-- A call is aborted while it sleeps behind a dispatch of its bucket, and a
curiosity is queued after it. -/
def abortedAsleep : List AttentionOp :=
  [.call (emptyDispatch .thought), .attempt 1 0,
    .call (emptyDispatch .expression), .attempt 2 0, .abort 2,
    .call (emptyDispatch .curiosityConsolidation), .attempt 3 0]

/-- The request of the aborted call stays queued without a live call, and later
admissions yield to it. -/
theorem aborted_sleep_wedges_queue :
    ∃ call row,
      (run (attentionStep stepClock) {} abortedAsleep).calls.get? 2 =
        some call ∧
      (run (attentionStep stepClock) {} abortedAsleep).db.requests.get? 2 =
        some row ∧
      call.isLive = false ∧ row.state = .queued ∧
      selectNextEligibleRequestId
        (run (attentionStep stepClock) {} abortedAsleep).db 1000000 =
          some 2 := by
  have hcall : ((run (attentionStep stepClock) {}
      abortedAsleep).calls.get? 2).map DispatchCall.isLive = some false := by
    decide +kernel
  have hrow : ((run (attentionStep stepClock) {}
      abortedAsleep).db.requests.get? 2).map AttentionRequest.state =
        some .queued := by decide +kernel
  obtain ⟨call, hcall, hended⟩ := Option.map_eq_some_iff.mp hcall
  obtain ⟨row, hrow, hqueued⟩ := Option.map_eq_some_iff.mp hrow
  exact ⟨call, row, hcall, hrow, hended, hqueued, by decide +kernel⟩

end Plain

end CognitiveSidecar
