/-
What one step of the attention system does to its ledger: it touches the row of
one request, and what becomes of that row.
-/
import CognitiveSidecar.AttentionGovernor

namespace CognitiveSidecar

open Relational

/-- Nothing but the row of one request may have changed. -/
structure Touches (requestId : Nat) (db db' : AttentionDb) : Prop where
  keys : db'.requests.rows.map key = db.requests.rows.map key
  others : ∀ id, id ≠ requestId →
    db'.requests.get? id = db.requests.get? id
  nextId : db'.nextId = db.nextId

theorem Touches.refl (requestId : Nat) (db : AttentionDb) :
    Touches requestId db db := ⟨rfl, fun _ _ => rfl, rfl⟩

theorem Touches.trans {requestId : Nat} {db mid db' : AttentionDb}
    (hfirst : Touches requestId db mid) (hsecond : Touches requestId mid db') :
    Touches requestId db db' where
  keys := hsecond.keys.trans hfirst.keys
  others := fun id hid => (hsecond.others id hid).trans (hfirst.others id hid)
  nextId := hsecond.nextId.trans hfirst.nextId

section Updates

variable {db : AttentionDb} {requestId : Nat} {guard : AttentionRequest → Bool}
  {f : AttentionRequest → AttentionRequest}
  {hkey : ∀ row, key (f row) = key row} {row : AttentionRequest}

theorem updateRequest_touches :
    Touches requestId db (db.updateRequest requestId guard f hkey) where
  keys := Table.keys_update hkey
  others := by
    intro id hid
    unfold AttentionDb.updateRequest
    rw [get?_update]
    exact map_get?_self fun row (hown : row.id = id) => by simp [hown, hid]
  nextId := rfl

theorem get?_updateRequest (hrow : db.requests.get? requestId = some row) :
    (db.updateRequest requestId guard f hkey).requests.get? requestId =
      some (if guard row then f row else row) := by
  have hid : row.id = requestId := key_of_get? hrow
  unfold AttentionDb.updateRequest
  rw [get?_update, hrow]
  simp [hid]

end Updates

/-- The row has been admitted nowhere: nothing is reserved, started or
charged. -/
structure AttentionRequest.Idle (row : AttentionRequest) : Prop where
  reservedAt : row.reservedAt = none
  dispatchStartedAt : row.dispatchStartedAt = none
  actualInputTokens : row.actualInputTokens = none
  budgetRetainUntil : row.budgetRetainUntil = none

/-- The same request, under the same bucket and estimates. -/
structure SameRequest (row row' : AttentionRequest) : Prop where
  quotaBucket : row'.quotaBucket = row.quotaBucket
  estimatedInputTokens : row'.estimatedInputTokens = row.estimatedInputTokens
  estimatedOutputTokens : row'.estimatedOutputTokens = row.estimatedOutputTokens

/-- The request is closed before its admission. -/
structure ClosedAs (row row' : AttentionRequest) : Prop
    extends SameRequest row row' where
  state : row'.state = .terminal
  idle : row.Idle → row'.Idle

/-- The request is admitted at one reading of the clock and started at
another. -/
structure StartedAs (row : AttentionRequest) (reserved started : Int)
    (row' : AttentionRequest) : Prop extends SameRequest row row' where
  state : row'.state = .running
  reservedAt : row'.reservedAt = some reserved
  dispatchStartedAt : row'.dispatchStartedAt = some started
  reservedInputTokens : row'.reservedInputTokens = row.estimatedInputTokens
  reservedOutputTokens : row'.reservedOutputTokens = row.estimatedOutputTokens
  actualInputTokens : row'.actualInputTokens = row.actualInputTokens
  budgetRetainUntil : row'.budgetRetainUntil = row.budgetRetainUntil

/-- What a finished request leaves to be charged: its reported input, its
reservation for a window, or a report without an input count. -/
inductive LeftCharge (row row' : AttentionRequest) : Prop
  | reported (hactual : row'.actualInputTokens.isSome = true)
      (hretain : row'.budgetRetainUntil = none)
  | retained (reserved : Int) (hreserved : row.reservedAt = some reserved)
      (hactual : row'.actualInputTokens = none)
      (hretain : row'.budgetRetainUntil = some (reserved + tpmWindowMs))
      (hinput : row'.reservedInputTokens = row.reservedInputTokens)
      (houtput : row'.reservedOutputTokens = row.reservedOutputTokens)
  | uncounted (hactual : row'.actualInputTokens = none)
      (hretain : row'.budgetRetainUntil = none)

/-- The dispatch of the request is over. -/
structure FinishedAs (row row' : AttentionRequest) : Prop
    extends SameRequest row row' where
  state : row'.state = .terminal
  reservedAt : row'.reservedAt = row.reservedAt
  dispatchStartedAt : row'.dispatchStartedAt = row.dispatchStartedAt
  charge : row.reservedAt ≠ none → LeftCharge row row'

/-- The request keeps what its provider reported, and its budget when that was
nothing. -/
structure Reports (usage : Option TokenUsage) (row : AttentionRequest) :
    Prop where
  input : row.actualInputTokens = usage.bind (·.promptTokens)
  output : row.actualOutputTokens = usage.bind (·.completionTokens)
  retain : row.budgetRetainUntil.isSome = usage.isNone

/-- The usage that a settled dispatch reports. -/
def ProviderAnswer.usage : ProviderAnswer → Option TokenUsage
  | .resolved _ usage => usage
  | _ => none

section Completion

variable {db : AttentionDb} {requestId : Nat} {input : CompleteInput}
  {now : Int} {row : AttentionRequest}

theorem completeRequest_touches :
    Touches requestId db (completeRequest db requestId input now) := by
  unfold completeRequest
  split
  · exact .refl requestId db
  · split
    · exact .refl requestId db
    · exact updateRequest_touches
    · exact updateRequest_touches

theorem completeRequest_terminal
    (hrow : db.requests.get? requestId = some row)
    (hstate : row.state = .terminal) :
    completeRequest db requestId input now = db := by
  unfold completeRequest
  rw [hrow]
  dsimp only
  rw [hstate]

/-- A queued request that is completed consumes nothing. -/
theorem completeRequest_queued (hrow : db.requests.get? requestId = some row)
    (hstate : row.state = .queued) :
    ∃ row', (completeRequest db requestId input now).requests.get? requestId =
      some row' ∧ ClosedAs row row' := by
  refine ⟨row.dropped input now, ?_, ⟨⟨rfl, rfl, rfl⟩, rfl, ?_⟩⟩
  · unfold completeRequest
    rw [hrow]
    dsimp only
    rw [hstate]
    rw [get?_updateRequest hrow]
    simp [hstate]
  · intro hidle
    exact ⟨hidle.reservedAt, hidle.dispatchStartedAt, hidle.actualInputTokens,
      rfl⟩

theorem completeRequest_ended (hrow : db.requests.get? requestId = some row)
    (hstate : row.state = .running) :
    (completeRequest db requestId input now).requests.get? requestId =
      some (row.ended input now) := by
  unfold completeRequest
  rw [hrow]
  dsimp only
  rw [hstate]
  rw [get?_updateRequest hrow]
  simp [AttentionRequest.isInFlight, hstate]

/-- A running request that is completed ends with one of the charges. -/
theorem ended_finished
    (hinput : input.actualInput.isSome = true →
      input.retainUnknownBudget = false)
    (houtput : input.retainUnknownBudget = true → input.actualOutput = none) :
    FinishedAs row (row.ended input now) := by
  refine ⟨⟨rfl, rfl, rfl⟩, rfl, rfl, rfl, ?_⟩
  intro hreserved
  obtain ⟨reserved, hreserved⟩ := Option.ne_none_iff_exists'.mp hreserved
  cases hactual : input.actualInput with
  | some =>
    refine .reported (by simp [AttentionRequest.ended, hactual]) ?_
    simp [AttentionRequest.ended, hinput (by simp [hactual])]
  | none =>
    cases hretain : input.retainUnknownBudget with
    | true =>
      refine .retained reserved hreserved hactual ?_ ?_ ?_
      · simp [AttentionRequest.ended, hretain, hreserved]
      · simp [AttentionRequest.ended, hactual]
      · simp [AttentionRequest.ended, houtput hretain]
    | false =>
      exact .uncounted hactual (by simp [AttentionRequest.ended, hretain])

theorem rejectDispatch_touches {code : Option String} :
    Touches requestId db (rejectDispatch db requestId code now) :=
  completeRequest_touches

theorem rejectDispatch_running {code : Option String}
    (hrow : db.requests.get? requestId = some row)
    (hstate : row.state = .running) :
    ∃ row', (rejectDispatch db requestId code now).requests.get? requestId =
      some row' ∧ FinishedAs row row' ∧ Reports none row' := by
  cases code with
  | none | some =>
    refine ⟨_, completeRequest_ended hrow hstate,
      ended_finished (by simp) (by simp), rfl, rfl, rfl⟩

/-- A dispatch is completed with what its provider reported. -/
theorem completeRequest_reporting {usage : Option TokenUsage}
    (hrow : db.requests.get? requestId = some row)
    (hstate : row.state = .running) :
    ∃ row', (completeRequest db requestId (input.reporting usage)
      now).requests.get? requestId = some row' ∧ FinishedAs row row' ∧
        Reports usage row' := by
  refine ⟨_, completeRequest_ended hrow hstate, ended_finished ?_ ?_, rfl, rfl,
    ?_⟩
  · intro hactual
    cases usage with
    | none => simp [CompleteInput.reporting] at hactual
    | some => rfl
  · intro hretain
    cases usage with
    | none => rfl
    | some => simp [CompleteInput.reporting] at hretain
  · cases usage with
    | none | some => rfl

end Completion

section Steps

variable [AttentionHost] {db : AttentionDb} {call : DispatchCall}
  {row : AttentionRequest} {clock : Nat → Int}

/-- The limits of the bucket let the request be dispatched at one reading, as
computed at another. -/
def WithinLimits (db : AttentionDb) (row : AttentionRequest)
    (now computed : Int) : Prop :=
  ∃ earliest, earliestLegalDispatchMs db row.demand computed row.quotaBucket =
    .ok earliest ∧ earliest ≤ now

theorem earliestLegalDispatchMs_error {demand nowMs : Int} {quotaBucket : String}
    {fault : AttentionFault}
    (herror : earliestLegalDispatchMs db demand nowMs quotaBucket =
      .error fault) : fault = .requestExceedsTpmBudget := by
  unfold earliestLegalDispatchMs at herror
  dsimp only at herror
  split at herror <;> cases herror
  rfl

/-- The answers of an admission for a queued request. -/
inductive AdmissionMove (db : AttentionDb) (row : AttentionRequest)
    (clock : Nat → Int) : Except AttentionFault Admission × AttentionDb → Prop
  | stays {answer : Admission} (hanswer : ∀ seq, answer ≠ .admitted seq)
      (hdeadline : ∀ next, answer ≠ .deadline next) :
      AdmissionMove db row clock (.ok answer, db)
  | exceeds :
      AdmissionMove db row clock (.error .requestExceedsTpmBudget, db)
  | expires {next : Option Int} {db' : AttentionDb} {row' : AttentionRequest}
      (htouches : Touches row.id db db')
      (hrow : db'.requests.get? row.id = some row')
      (hclosed : ClosedAs row row') :
      AdmissionMove db row clock (.ok (.deadline next), db')
  | admits {seq : Nat} {db' : AttentionDb}
      (hlimits : WithinLimits db row (clock 0) (clock 2))
      (htouches : Touches row.id db db')
      (hrow : db'.requests.get? row.id = some (row.reserve (clock 0) seq)) :
      AdmissionMove db row clock (.ok (.admitted seq), db')

theorem tryAdmitRequest_move {maximumOciSequence : Nat}
    (hrow : db.requests.get? row.id = some row) (hstate : row.state = .queued) :
    AdmissionMove db row clock
      (tryAdmitRequest db row.id maximumOciSequence clock) := by
  have hexpired : ∀ next, AdmissionMove db row clock (.ok (.deadline next),
      db.updateRequest row.id (fun _ => true) (·.timedOut (clock 0))
        (AttentionRequest.timedOut_key · (clock 0))) := by
    intro _
    refine .expires updateRequest_touches (get?_updateRequest hrow) ?_
    exact ⟨⟨rfl, rfl, rfl⟩, rfl, fun hidle => ⟨hidle.reservedAt,
      hidle.dispatchStartedAt, hidle.actualInputTokens,
      hidle.budgetRetainUntil⟩⟩
  unfold tryAdmitRequest
  rw [hrow]
  simp only [Option.filter, hstate, decide_true, if_true]
  by_cases hdeadline : row.deadlineAt.any (fun x => decide (x ≤ clock 0)) = true
  · rw [if_pos hdeadline]
    exact hexpired none
  rw [if_neg hdeadline]
  by_cases hnext : selectNextEligibleRequestId db (clock 1) ≠ some row.id
  · rw [if_pos hnext]
    exact .stays (by simp) (by simp)
  rw [if_neg hnext]
  cases hearliest : earliestLegalDispatchMs db row.demand (clock 2)
      row.quotaBucket with
  | error =>
    cases earliestLegalDispatchMs_error hearliest
    exact .exceeds
  | ok earliest =>
    dsimp only
    by_cases hlate : row.deadlineAt.any (fun x => decide (x ≤ earliest)) = true
    · rw [if_pos hlate]
      exact hexpired (some earliest)
    rw [if_neg hlate]
    by_cases hwait : clock 0 < earliest
    · rw [if_pos hwait]
      exact .stays (by simp) (by simp)
    rw [if_neg hwait]
    refine .admits ⟨earliest, hearliest, not_lt.mp hwait⟩
      ⟨updateRequest_touches.keys, updateRequest_touches.others, rfl⟩ ?_
    refine (@get?_updateRequest { db with nextSeq := _ } row.id _ _ _ row
      hrow).trans ?_
    simp [hstate]

/-- What becomes of a queued request in one turn of its call. -/
inductive AttemptMove (db : AttentionDb) (row : AttentionRequest)
    (clock : Nat → Int) : CallPhase → AttentionRequest → Prop
  | waits {attempt : Nat} {waitMs : Int} :
      AttemptMove db row clock (.sleeping attempt waitMs) row
  | closes {result : CallEnd} {row' : AttentionRequest}
      (hclosed : ClosedAs row row') :
      AttemptMove db row clock (.ended result) row'
  | starts {seq : Nat} {row' : AttentionRequest}
      (hlimits : WithinLimits db row (clock 1) (clock 3))
      (hstarted : StartedAs row (clock 1) (clock 4) row') :
      AttemptMove db row clock (.dispatching seq) row'
  | refuses {result : CallEnd} {mid row' : AttentionRequest}
      (hlimits : WithinLimits db row (clock 1) (clock 3))
      (hstarted : StartedAs row (clock 1) (clock 4) mid)
      (hfinished : FinishedAs mid row') (hreports : Reports none row') :
      AttemptMove db row clock (.ended result) row'

omit [AttentionHost] in
theorem bindThoughtAttempt_move {db' : AttentionDb} {requestId : Nat}
    {binding : ThoughtAttemptBinding}
    (hrow : db.requests.get? requestId = some row)
    (hok : bindThoughtAttempt db requestId binding = .ok db') :
    Touches requestId db db' ∧
      db'.requests.get? requestId = some (row.bound binding) := by
  replace hok := passed hok
  replace hok := passed hok
  rw [hrow] at hok
  obtain ⟨hunbound, hok⟩ := of_require hok
  cases of_pure hok
  refine ⟨updateRequest_touches, ?_⟩
  rw [get?_updateRequest hrow, if_pos hunbound]

theorem admissionTurn_move {attempt maximumOciSequence : Nat}
    (hrow : db.requests.get? call.requestId = some row)
    (hstate : row.state = .queued) :
    Touches call.requestId db
        (admissionTurn db call attempt maximumOciSequence clock).2 ∧
      ∃ row', (admissionTurn db call attempt maximumOciSequence
          clock).2.requests.get? call.requestId = some row' ∧
        AttemptMove db row clock
          (admissionTurn db call attempt maximumOciSequence clock).1 row' := by
  have hid : row.id = call.requestId := key_of_get? hrow
  have hcloses : ∀ (input : CompleteInput) (now : Int) (result : CallEnd),
      Touches call.requestId db
          (completeRequest db call.requestId input now) ∧
        ∃ row', (completeRequest db call.requestId input now).requests.get?
            call.requestId = some row' ∧
          AttemptMove db row clock (.ended result) row' := by
    intro _ _ _
    obtain ⟨row', hrow', hclosed⟩ := completeRequest_queued hrow hstate
    exact ⟨completeRequest_touches, row', hrow', .closes hclosed⟩
  unfold admissionTurn
  split
  · unfold attemptAdmission
    split
    · exact hcloses _ _ _
    split
    · exact hcloses _ _ _
    have hadmission := @tryAdmitRequest_move _ db row
      (fun k => clock (k + 1)) maximumOciSequence (by rw [hid]; exact hrow)
      hstate
    rw [hid] at hadmission
    cases hanswer : tryAdmitRequest db call.requestId maximumOciSequence
        fun k => clock (k + 1) with
    | mk answer after =>
      rw [hanswer] at hadmission
      cases hadmission with
      | stays hno hlater =>
        rename_i answer
        cases answer with
        | admitted seq => exact absurd rfl (hno seq)
        | deadline next => exact absurd rfl (hlater next)
        | notQueued | preempted | budgetWait =>
          exact ⟨.refl _ _, row, hrow, .waits⟩
      | exceeds => exact hcloses _ _ _
      | expires htouches hafter hclosed =>
        rw [hid] at htouches hafter
        exact ⟨htouches, _, hafter, .closes hclosed⟩
      | admits hlimits htouches hafter =>
        rename_i seq
        rw [hid] at htouches hafter
        have hrunning : (markRunning after call.requestId
            (clock 4)).requests.get? call.requestId =
              some ((row.reserve (clock 1) seq).started (clock 4)) := by
          unfold markRunning
          rw [get?_updateRequest hafter]
          rfl
        have htouched : Touches call.requestId db
            (markRunning after call.requestId (clock 4)) :=
          htouches.trans updateRequest_touches
        have hstarted : StartedAs row (clock 1) (clock 4)
            ((row.reserve (clock 1) seq).started (clock 4)) :=
          ⟨⟨rfl, rfl, rfl⟩, rfl, rfl, rfl, rfl, rfl, rfl, rfl⟩
        unfold startDispatch
        dsimp only
        split
        · exact ⟨htouched, _, hrunning, .starts hlimits hstarted⟩
        · split
          · rename_i hbound
            obtain ⟨hmore, hbound⟩ := bindThoughtAttempt_move hrunning hbound
            refine ⟨htouched.trans hmore, _, hbound, .starts hlimits ?_⟩
            exact ⟨⟨rfl, rfl, rfl⟩, rfl, rfl, rfl, rfl, rfl, rfl, rfl⟩
          · obtain ⟨row', hrow', hfinished, hreports⟩ :=
              @rejectDispatch_running _ _ (clock (2 + 4)) _ (some "error")
                hrunning rfl
            have hrejected : Touches call.requestId _ (rejectDispatch
                (markRunning after call.requestId (clock 4)) call.requestId
                (some "error") (clock (2 + 4))) := rejectDispatch_touches
            exact ⟨htouched.trans hrejected, row', hrow',
              .refuses hlimits hstarted hfinished hreports⟩
  · exact hcloses _ _ _

/-- A dispatch that settles is over, with what its provider reported. -/
theorem settleDispatch_move {continuity : ModelContinuity}
    {dispatchSequence : Nat} {answer : ProviderAnswer}
    (hrow : db.requests.get? call.requestId = some row)
    (hstate : row.state = .running) :
    Touches call.requestId db
        (settleDispatch db continuity call dispatchSequence answer
          clock).2.1 ∧
      ∃ row', (settleDispatch db continuity call dispatchSequence answer
          clock).2.1.requests.get? call.requestId = some row' ∧
        FinishedAs row row' ∧ Reports answer.usage row' := by
  have hrejected : ∀ code now,
      Touches call.requestId db (rejectDispatch db call.requestId code now) ∧
        ∃ row', (rejectDispatch db call.requestId code now).requests.get?
          call.requestId = some row' ∧ FinishedAs row row' ∧
            Reports none row' := fun _ _ =>
    ⟨rejectDispatch_touches, rejectDispatch_running hrow hstate⟩
  -- The error is caught again below, where the row is already terminal.
  have hthrown : ∀ (input : CompleteInput) (usage : Option TokenUsage)
      (code : String) (now later : Int),
      Touches call.requestId db (rejectDispatch (completeRequest db
          call.requestId (input.reporting usage) now) call.requestId
          (some code) later) ∧
        ∃ row', (rejectDispatch (completeRequest db call.requestId
          (input.reporting usage) now) call.requestId (some code)
          later).requests.get? call.requestId = some row' ∧
          FinishedAs row row' ∧ Reports usage row' := by
    intro input usage _ now _
    obtain ⟨row', hrow', hfinished, hreports⟩ :=
      @completeRequest_reporting _ _ input now _ usage hrow hstate
    refine ⟨completeRequest_touches.trans rejectDispatch_touches, row', ?_,
      hfinished, hreports⟩
    unfold rejectDispatch
    rw [completeRequest_terminal hrow' hfinished.state]
    exact hrow'
  unfold settleDispatch
  dsimp only
  split
  · exact hrejected none (clock 0)
  · rename_i code
    exact hrejected (some code) (clock 0)
  · rename_i providerModel usage
    split
    · exact hthrown _ _ _ _ _
    split
    · exact hthrown _ _ _ _ _
    · obtain ⟨_, hrow', hfinished, hreports⟩ := @completeRequest_reporting db
        call.requestId { outcome := .completed, resolvedModelId :=
          (resolveProviderModelId call.input.modelAliasUsed
            providerModel).resolvedModelId } (clock 1) row usage hrow hstate
      refine ⟨completeRequest_touches.trans updateRequest_touches, _,
        get?_updateRequest hrow', ?_⟩
      split
      · refine ⟨?_, hreports.input, hreports.output, hreports.retain⟩
        obtain ⟨hsame, hterminal, hreserved, hstarted, hcharge⟩ := hfinished
        refine ⟨⟨hsame.1, hsame.2, hsame.3⟩, hterminal, hreserved, hstarted, ?_⟩
        intro hsome
        cases hcharge hsome with
        | reported hactual hretain => exact .reported hactual hretain
        | retained reserved hwas hactual hretain hinput houtput =>
          exact .retained reserved hwas hactual hretain hinput houtput
        | uncounted hactual hretain => exact .uncounted hactual hretain
      · exact ⟨hfinished, hreports⟩

end Steps

end CognitiveSidecar
