/-
The lease of an effect continuation over whole runs: it is granted in the commit
that releases the cognition claim, renewed within the deadline and its margin,
and ended once, by its holder or by the recovery of its worker.
-/
import CognitiveSidecar.CompletionMoves

namespace CognitiveSidecar.Completions

open Option List Relational

def cognitionClaimLeaseMs : Int := 600000

/-- A row of `cognition_claims`. -/
structure CognitionClaim where
  (conversationId holderEventId : String)
  (holderWakeId cycleId : Option String)
  generation : Option Int
  claimToken : String
  (leaseExpiresAtMs createdAtMs updatedAtMs : Int)

instance : Keyed CognitionClaim String := ⟨CognitionClaim.conversationId⟩

structure CognitionClaimInput where
  (conversationId eventId : String)
  wakeId : Option String := none
  cycleId : Option String := none
  generation : Option Int := none
  nowMs : Int
  leaseMs : Int := cognitionClaimLeaseMs

/-- An expired claim is taken over; the row keeps the time it was made. -/
def CognitionClaim.takenOver (row held : CognitionClaim) : CognitionClaim :=
  { row with
    conversationId := held.conversationId
    createdAtMs := held.createdAtMs }

theorem CognitionClaim.takenOver_key (row held : CognitionClaim) :
    key (row.takenOver held) = key held := rfl

/-- Acquire the claim of a conversation: insert, or take over an expired
lease. -/
def claimConversationCognition [Host] (claims : Table CognitionClaim)
    (input : CognitionClaimInput) (drawn : Nat) :
    Option String × Table CognitionClaim :=
  if input.conversationId = "" ∨ input.eventId = "" ∨
      safeMs input.nowMs = false ∨ safeMs input.leaseMs = false ∨
      input.leaseMs ≤ 0 then (none, claims)
  else
    let row : CognitionClaim :=
      { conversationId := input.conversationId, holderEventId := input.eventId
        holderWakeId := input.wakeId, cycleId := input.cycleId
        generation := input.generation, claimToken := Host.randomUUID drawn
        leaseExpiresAtMs := input.nowMs + input.leaseMs
        createdAtMs := input.nowMs, updatedAtMs := input.nowMs }
    match claims.insert? row with
    | some claims => (some row.claimToken, claims)
    | none =>
      let expired := fun (held : CognitionClaim) =>
        decide (held.conversationId = row.conversationId) &&
          decide (held.leaseExpiresAtMs < row.createdAtMs)
      (if claims.rows.any expired then some row.claimToken else none,
        claims.update expired row.takenOver row.takenOver_key)

structure RenewCognitionInput where
  (conversationId claimToken : String)
  nowMs : Int
  leaseMs : Int := cognitionClaimLeaseMs
  eventId : Option String := none
  wakeId : Option (Option String) := none
  cycleId : Option (Option String) := none
  generation : Option (Option Int) := none

/-- The holder that a renewal names; a part it leaves out is not compared. -/
def RenewCognitionInput.names (input : RenewCognitionInput)
    (claim : CognitionClaim) : Bool :=
  input.eventId.all (· = claim.holderEventId) &&
    input.wakeId.all (· = claim.holderWakeId) &&
    input.cycleId.all (· = claim.cycleId) &&
    input.generation.all (· = claim.generation)

def CognitionClaim.renewed (leaseExpiresAtMs nowMs : Int)
    (claim : CognitionClaim) : CognitionClaim :=
  { claim with leaseExpiresAtMs, updatedAtMs := nowMs }

theorem CognitionClaim.renewed_key (leaseExpiresAtMs nowMs : Int)
    (claim : CognitionClaim) :
    key (claim.renewed leaseExpiresAtMs nowMs) = key claim := rfl

/-- `renewConversationCognitionInTransaction`: only the holder whose lease still
runs extends it. -/
def renewConversationCognition (claims : Table CognitionClaim)
    (input : RenewCognitionInput) : Bool × Table CognitionClaim :=
  if input.conversationId = "" ∨ input.claimToken = "" ∨
      safeMs input.nowMs = false ∨ safeMs input.leaseMs = false ∨
      input.leaseMs ≤ 0 then (false, claims)
  else
    let held := fun (claim : CognitionClaim) =>
      decide (claim.conversationId = input.conversationId) &&
        decide (claim.claimToken = input.claimToken) &&
        decide (input.nowMs < claim.leaseExpiresAtMs) && input.names claim
    (claims.rows.any held, claims.update held
      (CognitionClaim.renewed (input.nowMs + input.leaseMs) input.nowMs)
      (CognitionClaim.renewed_key (input.nowMs + input.leaseMs) input.nowMs))

/-- Release only our own claim: a stale holder never releases a successor. -/
def releaseConversationCognition (claims : Table CognitionClaim)
    (conversationId claimToken : String) : Bool × Table CognitionClaim :=
  if conversationId = "" ∨ claimToken = "" then (false, claims)
  else
    let own := fun (claim : CognitionClaim) =>
      decide (claim.conversationId = conversationId) &&
        decide (claim.claimToken = claimToken)
    (claims.rows.any own, claims.delete own)

/-- The claim that a continuation takes over: of its conversation, its token,
its cycle and its generation, and not expired. -/
def holdsCognitionClaim (claims : Table CognitionClaim)
    (input : AcceptContinuationInput) : Bool :=
  claims.rows.any fun claim =>
    decide (claim.conversationId = input.conversationId) &&
      decide (claim.claimToken = input.cognitionClaimToken) &&
      decide (claim.cycleId = some input.cycleId) &&
      decide (claim.generation = some input.generation) &&
      decide (input.nowMs < claim.leaseExpiresAtMs)

/-- Whether a holder still works under its lease. -/
def isEffectContinuationCurrent (continuations : Table EffectContinuation)
    (ledger : EffectLedger) (effectId leaseToken : String) (nowMs : Int) :
    Bool :=
  (getEffectContinuation continuations effectId).any fun row =>
    decide (row.state = .running) && decide (row.leaseToken = leaseToken) &&
      decide (nowMs < row.leaseExpiresAtMs) &&
      decide (nowMs < row.deadlineAtMs) &&
      decide (getEffectReceipt ledger effectId = none)

/-- The tables that the leases rest on. -/
structure LeaseDb where
  ledger : EffectLedger := {}
  claims : Table CognitionClaim := Table.empty
  continuations : Table EffectContinuation := Table.empty
  drawn : Nat := 0

section Steps

variable [Host]

/-- `acceptEffectContinuation` with the claims it reads and releases: all of it
is one commit. -/
def LeaseDb.accept (db : LeaseDb) (reading : AcceptReading)
    (input : AcceptContinuationInput) :
    Except ContinuationFault (EffectContinuation × LeaseDb) := do
  let released := releaseConversationCognition db.claims input.conversationId
    input.cognitionClaimToken
  let accepted ← acceptEffectContinuation db.continuations db.ledger
    { reading with
      holdsCognitionClaim := holdsCognitionClaim db.claims input
      releasesCognitionClaim := released.1 } input db.drawn
  pure (accepted.1, { db with
    claims := released.2, continuations := accepted.2
    drawn := db.drawn + 1 })

/-- A call of any holder, at any time. The ledger of effects and the claims move
beside the continuations; an ending never names the running state. -/
inductive LeaseStep
  | accept (reading : AcceptReading) (input : AcceptContinuationInput)
  | renew (effectId leaseToken : String) (nowMs leaseMs : Int)
  | isCurrent (effectId leaseToken : String) (nowMs : Int)
  | finish (input : FinishContinuationInput) (hended : input.state ≠ .running)
  | abandon (input : AbandonContinuationInput)
      (hended : input.state ≠ .running)
  | recordCompletion (effectId eventId : String) (nowMs : Int)
  | effects (ledger : EffectLedger)
  | claim (input : CognitionClaimInput)
  | renewClaim (input : RenewCognitionInput)
  | releaseClaim (conversationId claimToken : String)

/-- A refused acceptance is rolled back. -/
def LeaseDb.committed (db : LeaseDb)
    (answer : Except ContinuationFault (EffectContinuation × LeaseDb)) :
    LeaseDb :=
  match answer with
  | .error _ => db
  | .ok (_, db') => db'

def leaseStep (step : LeaseStep) (db : LeaseDb) : LeaseDb :=
  match step with
  | .accept reading input => db.committed (db.accept reading input)
  | .renew effectId leaseToken nowMs leaseMs =>
    { db with
      continuations := (renewEffectContinuationLease db.continuations
        effectId leaseToken nowMs leaseMs).2 }
  | .isCurrent _ _ _ => db
  | .finish input _ =>
    { db with
      continuations := (finishEffectContinuation db.continuations input).2 }
  | .abandon input _ =>
    { db with
      continuations := (abandonEffectContinuation db.continuations input).2 }
  | .recordCompletion effectId eventId nowMs =>
    { db with
      continuations := recordEffectContinuationCompletion db.continuations
        effectId eventId nowMs }
  | .effects ledger => { db with ledger }
  | .claim input =>
    { db with
      claims := (claimConversationCognition db.claims input db.drawn).2
      drawn := db.drawn + 1 }
  | .renewClaim input =>
    { db with claims := (renewConversationCognition db.claims input).2 }
  | .releaseClaim conversationId claimToken =>
    { db with
      claims :=
        (releaseConversationCognition db.claims conversationId claimToken).2 }

/-- The tables after a sequence of calls. -/
def leaseRun (steps : List LeaseStep) : LeaseDb := run leaseStep {} steps

/-- A lease that an acceptance of the run has granted. -/
def Granted (steps : List LeaseStep) (effectId leaseToken : String) : Prop :=
  ∃ before reading input after continuation db,
    steps = before ++ .accept reading input :: after ∧
      (leaseRun before).accept reading input = .ok (continuation, db) ∧
      continuation.effectId = effectId ∧ continuation.leaseToken = leaseToken

end Steps

/-- A running row holds its lease no longer than its deadline and the margin of
publication. -/
def InTime (row : EffectContinuation) : Prop :=
  row.state = .running →
    row.leaseExpiresAtMs ≤
      row.deadlineAtMs + effectContinuationPublicationMarginMs

/-- What any call leaves of a row: its proposal and its token, its end, and a
lease in time. -/
structure LeaseMove (row row' : EffectContinuation) : Prop where
  kept : ContinuationKept row row'
  closed : row.state ≠ .running → row'.leaseExpiresAtMs = row.leaseExpiresAtMs
  inTime : InTime row → InTime row'

section Rows

variable {row : EffectContinuation}

theorem LeaseMove.refl (row : EffectContinuation) : LeaseMove row row :=
  ⟨.refl row, fun _ => rfl, fun hin => hin⟩

theorem LeaseMove.trans {middle row' : EffectContinuation}
    (hfirst : LeaseMove row middle) (hsecond : LeaseMove middle row') :
    LeaseMove row row' where
  kept := hfirst.kept.trans hsecond.kept
  closed := by
    intro hended
    have hmiddle : middle.state ≠ .running := by
      rw [(hfirst.kept.ended hended).1]
      exact hended
    rw [hsecond.closed hmiddle, hfirst.closed hended]
  inTime := fun hin => hsecond.inTime (hfirst.inTime hin)

theorem LeaseMove.renewed {expiresAtMs : Int} (nowMs : Int)
    (hrunning : row.state = .running)
    (hmargin : expiresAtMs ≤
      row.deadlineAtMs + effectContinuationPublicationMarginMs) :
    LeaseMove row (row.renewed expiresAtMs nowMs) where
  kept := ⟨rfl, fun hended => absurd hrunning hended, fun _ hlinked => hlinked⟩
  closed := fun hended => absurd hrunning hended
  inTime := fun _ _ => hmargin

theorem LeaseMove.ended {state : ContinuationState}
    (terminalClass effectTruth : String) (nowMs : Int)
    (hrunning : row.state = .running) (hstate : state ≠ .running) :
    LeaseMove row (row.ended state terminalClass effectTruth nowMs) where
  kept := ⟨rfl, fun hended => absurd hrunning hended, fun _ hlinked => hlinked⟩
  closed := fun hended => absurd hrunning hended
  inTime := fun _ hrunning' => absurd hrunning' hstate

theorem LeaseMove.linked (eventId : String) (nowMs : Int) :
    LeaseMove row (row.linked eventId nowMs) where
  kept := by
    refine ⟨rfl, fun _ => ⟨rfl, rfl, rfl⟩, fun held hheld => ?_⟩
    show row.completionEventRef.or (some eventId) = some held
    rw [hheld]
    rfl
  closed := fun _ => rfl
  inTime := fun hin => hin

end Rows

section Calls

variable {continuations : Table EffectContinuation}
variable {input : FinishContinuationInput}

theorem leaseMoves_refl (continuations : Table EffectContinuation) :
    Table.Rewrites LeaseMove continuations continuations :=
  Table.Rewrites.refl LeaseMove.refl continuations

theorem renew_moves (effectId leaseToken : String) (nowMs leaseMs : Int) :
    Table.Rewrites LeaseMove continuations
      (renewEffectContinuationLease continuations effectId leaseToken nowMs
        leaseMs).2 := by
  unfold renewEffectContinuationLease
  split
  · exact leaseMoves_refl continuations
  · split
    · exact leaseMoves_refl continuations
    · refine Table.rewrites_update (EffectContinuation.renewed_key _ _)
        (fun id row hrow hcurrent => ?_) LeaseMove.refl
      simp only [Bool.and_eq_true, decide_eq_true_eq] at hcurrent
      obtain ⟨⟨⟨⟨_, hrunning⟩, _⟩, _⟩, hdeadline⟩ := hcurrent
      refine LeaseMove.renewed nowMs hrunning ?_
      rw [hdeadline]
      exact min_le_right _ _

theorem finish_moves (input : FinishContinuationInput)
    (hended : input.state ≠ .running) :
    Table.Rewrites LeaseMove continuations
      (finishEffectContinuation continuations input).2 := by
  unfold finishEffectContinuation
  split
  · exact leaseMoves_refl continuations
  · refine Table.rewrites_update (EffectContinuation.ended_key _ _ _ _)
      (fun id row hrow hheld => ?_) LeaseMove.refl
    simp only [Bool.and_eq_true, decide_eq_true_eq] at hheld
    exact LeaseMove.ended _ _ _ hheld.1.2 hended

theorem abandon_moves (input : AbandonContinuationInput)
    (hended : input.state ≠ .running) :
    Table.Rewrites LeaseMove continuations
      (abandonEffectContinuation continuations input).2 := by
  unfold abandonEffectContinuation
  split
  · exact leaseMoves_refl continuations
  · refine Table.rewrites_update (EffectContinuation.ended_key _ _ _ _)
      (fun id row hrow hheld => ?_) LeaseMove.refl
    simp only [Bool.and_eq_true, decide_eq_true_eq] at hheld
    exact LeaseMove.ended _ _ _ hheld.2 hended

theorem recordCompletion_moves (effectId eventId : String) (nowMs : Int) :
    Table.Rewrites LeaseMove continuations
      (recordEffectContinuationCompletion continuations effectId eventId
        nowMs) := by
  unfold recordEffectContinuationCompletion
  split
  · exact leaseMoves_refl continuations
  · exact Table.rewrites_update (EffectContinuation.linked_key _ _)
      (fun _ _ _ _ => LeaseMove.linked eventId nowMs) LeaseMove.refl

/-- A finish succeeds for the token of a running row, and for no other. -/
theorem finish_succeeds
    (hok : (finishEffectContinuation continuations input).1 = true) :
    ∃ row, continuations.get? input.effectId = some row ∧
      row.state = .running ∧ row.leaseToken = input.leaseToken := by
  unfold finishEffectContinuation at hok
  split at hok
  · cases hok
  · obtain ⟨row, hrow, hheld⟩ := any_eq_true.mp hok
    simp only [Bool.and_eq_true, decide_eq_true_eq] at hheld
    obtain ⟨⟨hid, hrunning⟩, htoken⟩ := hheld
    exact ⟨row, Table.get?_eq_some_iff.mpr ⟨hrow, hid⟩, hrunning, htoken⟩

/-- A finish that succeeds ends its row. -/
theorem finish_ends
    (hok : (finishEffectContinuation continuations input).1 = true) :
    ∃ row, continuations.get? input.effectId = some row ∧
      (finishEffectContinuation continuations input).2.get? input.effectId =
        some (row.ended input.state input.terminalClass input.effectTruth
          input.nowMs) := by
  obtain ⟨row, hrow, hrunning, htoken⟩ := finish_succeeds hok
  refine ⟨row, hrow, ?_⟩
  unfold finishEffectContinuation at hok ⊢
  split at hok
  · cases hok
  · rename_i hvalid
    rw [if_neg hvalid, get?_update, hrow]
    have hid : row.effectId = input.effectId := key_of_get? hrow
    simp only [map_some, hid, hrunning, htoken, decide_true,
      Bool.and_true, if_true]

end Calls

section Acceptance

variable [Host]
variable {reading : AcceptReading} {input : AcceptContinuationInput}
variable {continuation : EffectContinuation}

/-- The row that an acceptance inserts, under the claim that it releases. -/
theorem accepted_row {continuations continuations' : Table EffectContinuation}
    {ledger : EffectLedger} {drawn : Nat}
    (hok : acceptEffectContinuation continuations ledger reading input drawn =
      .ok (continuation, continuations')) :
    ∃ row, continuations.insert? row = some continuations' ∧
      continuation = row.asRead ∧ row.effectId = input.effectId ∧
      row.deadlineAtMs = input.deadlineAtMs ∧ row.state = .running ∧
      InTime row ∧ reading.holdsCognitionClaim = true ∧
      reading.releasesCognitionClaim = true := by
  replace hok := passed hok
  replace hok := passed hok
  replace hok := passed hok
  replace hok := passed hok
  replace hok := passed hok
  replace hok := passed hok
  obtain ⟨hholds, hok⟩ := of_require hok
  obtain ⟨_, hinsert, hok⟩ := of_orFault hok
  obtain ⟨hreleases, hok⟩ := of_require hok
  obtain ⟨_, hread, hok⟩ := of_orFault hok
  obtain ⟨rfl, rfl⟩ := of_pure_pair hok
  obtain ⟨_, hrow, hasRead, _⟩ := getEffectContinuation_some hread
  rw [get?_insert hinsert,
    if_pos (show input.effectId = key _ from rfl)] at hrow
  refine ⟨_, hinsert, ?_, rfl, rfl, rfl, fun _ => min_le_right _ _, hholds,
    hreleases⟩
  rw [hasRead, some.inj hrow]

omit [Host] in
/-- A release leaves no claim of the conversation, and the others as they
were. -/
theorem release_own {claims : Table CognitionClaim}
    {conversationId claimToken : String} {claim : CognitionClaim}
    (hreleased :
      (releaseConversationCognition claims conversationId claimToken).1 = true)
    (hclaim : claims.get? conversationId = some claim)
    (htoken : claim.claimToken = claimToken) (other : String) :
    (releaseConversationCognition claims conversationId claimToken).2.get?
      other = if other = conversationId then none else claims.get? other := by
  unfold releaseConversationCognition at hreleased ⊢
  split at hreleased
  · cases hreleased
  · rename_i hnamed
    rw [if_neg hnamed, Table.get?_delete]
    by_cases hother : other = conversationId
    · have hid : claim.conversationId = conversationId :=
        key_of_get? hclaim
      subst hother
      rw [hclaim]
      simp [hid, htoken]
    · rw [if_neg hother]
      cases hheld : claims.get? other with
      | none => rfl
      | some held =>
        have hid : held.conversationId = other := key_of_get? hheld
        simp [hid, hother]

/-- An acceptance in one state: the effect had no continuation and gets the one
it returns, with its lease in time; the claim was held under the given token
and is released, and nothing else changes hands. -/
structure Accepts (db db' : LeaseDb) (input : AcceptContinuationInput)
    (continuation : EffectContinuation) : Prop where
  fresh : db.continuations.get? input.effectId = none
  granted : ∃ row, db.continuations.insert? row = some db'.continuations ∧
    continuation = row.asRead ∧ row.effectId = input.effectId ∧
    row.deadlineAtMs = input.deadlineAtMs ∧ row.state = .running ∧ InTime row
  held : ∃ claim, db.claims.get? input.conversationId = some claim ∧
    claim.claimToken = input.cognitionClaimToken ∧
    claim.cycleId = some input.cycleId ∧
    claim.generation = some input.generation ∧
    input.nowMs < claim.leaseExpiresAtMs
  released : ∀ conversationId, db'.claims.get? conversationId =
    if conversationId = input.conversationId then none
    else db.claims.get? conversationId

theorem accept_accepts {db db' : LeaseDb}
    (hok : db.accept reading input = .ok (continuation, db')) :
    Accepts db db' input continuation := by
  obtain ⟨⟨_, _⟩, haccepted, hok⟩ := of_bind hok
  obtain ⟨rfl, rfl⟩ := of_pure_pair hok
  obtain ⟨row, hinsert, hread, hid, hdeadline, hrunning, hin, hholds,
    hreleases⟩ := accepted_row haccepted
  obtain ⟨claim, hclaim, hheld⟩ := any_eq_true.mp hholds
  simp only [Bool.and_eq_true, decide_eq_true_eq] at hheld
  obtain ⟨⟨⟨⟨hconversation, htoken⟩, hcycle⟩, hgeneration⟩, hlive⟩ := hheld
  have hget : db.claims.get? input.conversationId = some claim :=
    Table.get?_eq_some_iff.mpr ⟨hclaim, hconversation⟩
  refine ⟨?_, ⟨row, hinsert, hread, hid, hdeadline, hrunning, hin⟩,
    ⟨claim, hget, htoken, hcycle, hgeneration, hlive⟩,
    release_own hreleases hget htoken⟩
  rw [← hid]
  exact (insert?_eq_some hinsert).1

end Acceptance

section Runs

variable [Host]

variable {db : LeaseDb}
variable {id effectId : String} {row : EffectContinuation}

omit [Host] in
theorem accept_moves {db' : LeaseDb} {input : AcceptContinuationInput}
    {continuation : EffectContinuation}
    (haccepts : Accepts db db' input continuation) {row' : EffectContinuation}
    (hrow : db'.continuations.get? id = some row') :
    db.continuations.get? id = some row' ∨
      id = input.effectId ∧ continuation = row'.asRead ∧ InTime row' := by
  obtain ⟨_, hinsert, hread, hid, _, _, hin⟩ := haccepts.granted
  rw [get?_insert hinsert] at hrow
  split at hrow
  · rename_i heq
    right
    rw [← some.inj hrow]
    exact ⟨heq.trans hid, hread, hin⟩
  · exact .inl hrow

/-- What one call can do to the continuations: rewrite rows as leases move, or
add the one of an acceptance. -/
theorem leaseStep_cases (step : LeaseStep) (db : LeaseDb) :
    Table.Rewrites LeaseMove db.continuations
        (leaseStep step db).continuations ∨
      ∃ reading input continuation,
        step = .accept reading input ∧
          db.accept reading input = .ok (continuation, leaseStep step db) ∧
          Accepts db (leaseStep step db) input continuation := by
  cases step with
  | accept reading input =>
    cases haccept : db.accept reading input with
    | error =>
      left
      have hsame : leaseStep (.accept reading input) db = db := by
        show db.committed (db.accept reading input) = _
        rw [haccept]
        rfl
      rw [hsame]
      exact leaseMoves_refl db.continuations
    | ok accepted =>
      obtain ⟨continuation, db'⟩ := accepted
      right
      have hnext : leaseStep (.accept reading input) db = db' := by
        show db.committed (db.accept reading input) = _
        rw [haccept]
        rfl
      rw [hnext]
      exact ⟨reading, input, continuation, rfl, haccept,
        accept_accepts haccept⟩
  | renew effectId leaseToken nowMs leaseMs =>
    exact .inl (renew_moves effectId leaseToken nowMs leaseMs)
  | finish input hended => exact .inl (finish_moves input hended)
  | abandon input hended => exact .inl (abandon_moves input hended)
  | recordCompletion effectId eventId nowMs =>
    exact .inl (recordCompletion_moves effectId eventId nowMs)
  | isCurrent | effects | claim | renewClaim | releaseClaim =>
    exact .inl (leaseMoves_refl db.continuations)

/-- A call keeps every continuation. -/
theorem leaseStep_keeps (step : LeaseStep)
    (hrow : db.continuations.get? id = some row) :
    ∃ row', (leaseStep step db).continuations.get? id = some row' ∧
      LeaseMove row row' := by
  rcases leaseStep_cases step db with hmoves | ⟨_, _, _, _, _, haccepts⟩
  · exact hmoves.forward hrow
  · obtain ⟨_, hinsert, _⟩ := haccepts.granted
    exact ⟨row, get?_insert_of_some hinsert hrow, .refl row⟩

theorem leaseRun_keeps (steps : List LeaseStep)
    (hrow : db.continuations.get? id = some row) :
    ∃ row', (run leaseStep db steps).continuations.get? id = some row' ∧
      LeaseMove row row' := by
  refine run_preserves
    (P := fun (db : LeaseDb) => ∃ row', db.continuations.get? id = some row' ∧
      LeaseMove row row') ?_ ⟨row, hrow, .refl row⟩ steps
  rintro step _ ⟨_, hmiddle, hfirst⟩
  obtain ⟨row', hrow', hsecond⟩ := leaseStep_keeps step hmiddle
  exact ⟨row', hrow', hfirst.trans hsecond⟩

theorem Granted.snoc {steps : List LeaseStep} {leaseToken : String}
    (hgranted : Granted steps effectId leaseToken) (step : LeaseStep) :
    Granted (steps ++ [step]) effectId leaseToken := by
  obtain ⟨before, reading, input, after, continuation, db, rfl, hrest⟩ :=
    hgranted
  exact ⟨before, reading, input, after ++ [step], continuation, db, by simp,
    hrest⟩

/-- Every continuation of a run comes from an acceptance, and a running one is
within its deadline. -/
theorem leaseRun_sound (steps : List LeaseStep) (id : String)
    (row : EffectContinuation)
    (hrow : (leaseRun steps).continuations.get? id = some row) :
    Granted steps id row.leaseToken ∧ InTime row := by
  induction steps using List.reverseRecOn generalizing row with
  | nil => cases hrow
  | append_singleton before step ih =>
    have hlast : leaseRun (before ++ [step]) =
        leaseStep step (leaseRun before) := run_append _ _ _
    rw [hlast] at hrow
    rcases leaseStep_cases step (leaseRun before) with
      hmoves | ⟨reading, input, continuation, hstep, haccept, haccepts⟩
    · obtain ⟨old, hold, hmove⟩ := hmoves.backward hrow
      obtain ⟨hgranted, hin⟩ := ih old hold
      have htoken : row.leaseToken = old.leaseToken := by
        rw [hmove.kept.fields]
      rw [htoken]
      exact ⟨hgranted.snoc step, hmove.inTime hin⟩
    · rcases accept_moves haccepts hrow with hold | ⟨hid, hread, hin⟩
      · obtain ⟨hgranted, hin⟩ := ih row hold
        exact ⟨hgranted.snoc step, hin⟩
      · refine ⟨⟨before, reading, input, [], continuation,
          leaseStep step (leaseRun before), by rw [hstep], haccept, ?_, ?_⟩,
          hin⟩
        · obtain ⟨_, _, hinserted, heffect, _⟩ := haccepts.granted
          rw [hinserted]
          exact heffect.trans hid.symm
        · rw [hread]
          rfl

omit [Host] in
/-- The effect id is the primary key. -/
theorem only_continuation {continuations : Table EffectContinuation}
    (hrow : continuations.get? effectId = some row) :
    continuations.rows.filter (fun other => other.effectId = effectId) =
      [row] := by
  obtain ⟨hmem, hid⟩ := Table.get?_eq_some_iff.mp hrow
  obtain ⟨before, after, hsplit⟩ := append_of_mem hmem
  have hnodup := continuations.keys_nodup
  rw [hsplit, map_append, map_cons, nodup_middle,
    nodup_cons, hid, ← map_append] at hnodup
  have hothers : ∀ other ∈ before ++ after, other.effectId ≠ effectId :=
    fun other hother heq => hnodup.1 (mem_map.mpr ⟨other, hother, heq⟩)
  have hbefore : before.filter (fun other => other.effectId = effectId) = [] :=
    filter_eq_nil_iff.mpr fun other hother => by
      simpa using hothers other (mem_append_left _ hother)
  have hafter : after.filter (fun other => other.effectId = effectId) = [] :=
    filter_eq_nil_iff.mpr fun other hother => by
      simpa using hothers other (mem_append_right _ hother)
  rw [hsplit, filter_append, filter_cons_of_pos
    (by simpa using show row.effectId = effectId from hid), hbefore, hafter]
  rfl

/-- After a finish that succeeded, no finish of the effect succeeds. -/
theorem finish_once {input : FinishContinuationInput}
    (hended : input.state ≠ .running)
    (hok : (finishEffectContinuation db.continuations input).1 = true)
    (later : List LeaseStep) {second : FinishContinuationInput}
    (hsame : second.effectId = input.effectId) :
    (finishEffectContinuation (run leaseStep
      (leaseStep (.finish input hended) db) later).continuations second).1 =
        false := by
  obtain ⟨row, _, hfinished⟩ := finish_ends hok
  have hstored : (leaseStep (.finish input hended) db).continuations.get?
      input.effectId = some (row.ended input.state input.terminalClass
        input.effectTruth input.nowMs) := hfinished
  obtain ⟨_, hlast, hmove⟩ := leaseRun_keeps later hstored
  refine Bool.eq_false_iff.mpr fun hagain => ?_
  obtain ⟨_, hother, hrunning, _⟩ := finish_succeeds hagain
  rw [hsame, hlast] at hother
  rw [← some.inj hother, (hmove.kept.ended hended).1] at hrunning
  exact hended hrunning

/-- In every run: an acceptance gives the effect its first and only
continuation, in the commit that releases the claim it was made under; the
continuation stays, keeps its token and its deadline, holds its lease in time
while it runs, and changes no more once it has ended; a finish succeeds for the
granted token while it runs, and never again. -/
theorem continuation_leases_fenced (steps : List LeaseStep) :
    (∀ reading input continuation db',
      (leaseRun steps).accept reading input = .ok (continuation, db') →
        Accepts (leaseRun steps) db' input continuation) ∧
    (∀ effectId row,
      (leaseRun steps).continuations.get? effectId = some row →
        Granted steps effectId row.leaseToken ∧ InTime row ∧
        (leaseRun steps).continuations.rows.filter
          (fun other => other.effectId = effectId) = [row] ∧
        ∀ later, ∃ row',
          (run leaseStep (leaseRun steps) later).continuations.get? effectId =
            some row' ∧
          row'.leaseToken = row.leaseToken ∧
          row'.deadlineAtMs = row.deadlineAtMs ∧
          (row.state ≠ .running → row'.state = row.state ∧
            row'.terminalClass = row.terminalClass ∧
            row'.effectTruth = row.effectTruth ∧
            row'.leaseExpiresAtMs = row.leaseExpiresAtMs)) ∧
    (∀ input (hended : input.state ≠ .running),
      (finishEffectContinuation (leaseRun steps).continuations input).1 =
        true →
      (∃ row,
        (leaseRun steps).continuations.get? input.effectId = some row ∧
          row.state = .running ∧ row.leaseToken = input.leaseToken) ∧
      Granted steps input.effectId input.leaseToken ∧
      ∀ later second, second.effectId = input.effectId →
        (finishEffectContinuation (run leaseStep
          (leaseStep (.finish input hended) (leaseRun steps))
          later).continuations second).1 = false) := by
  refine ⟨fun reading input continuation db' hok => accept_accepts hok,
    fun effectId row hrow => ?_, fun input hended hok => ?_⟩
  · obtain ⟨hgranted, hin⟩ := leaseRun_sound steps effectId row hrow
    refine ⟨hgranted, hin, only_continuation hrow, fun later => ?_⟩
    obtain ⟨row', hrow', hmove⟩ := leaseRun_keeps later hrow
    refine ⟨row', hrow', ?_, ?_, fun hended => ?_⟩
    · rw [hmove.kept.fields]
    · rw [hmove.kept.fields]
    · obtain ⟨hstate, hclass, htruth⟩ := hmove.kept.ended hended
      exact ⟨hstate, hclass, htruth, hmove.closed hended⟩
  · obtain ⟨row, hrow, hrunning, htoken⟩ := finish_succeeds hok
    obtain ⟨hgranted, _⟩ := leaseRun_sound steps input.effectId row hrow
    rw [htoken] at hgranted
    exact ⟨⟨row, hrow, hrunning, htoken⟩, hgranted,
      fun later second hsame => finish_once hended hok later hsame⟩

end Runs

section Recovery

attribute [local instance] plainHost

/-- An effect is admitted and accepted from a cognition claim, its process is
lost, and the next one abandons it after the deadline and the margin. -/
def abandonedLate : List LeaseStep :=
  [.effects (effectStep (.putInFlight wokenByMessage
      { effectId := some "effect"
        cycleId := "cycle:wake:wake-occurrence:inboxec", generation := 1
        correlationId := "effect", idempotencyKey := "k"
        originEventId := "e" } 1) {}),
    .claim { conversationId := "c", eventId := "e"
             cycleId := some "cycle:wake:wake-occurrence:inboxec"
             generation := some 1, nowMs := 1 },
    .accept { cycleConversationId := some "c", diagnosticId := "d" }
      { kind := "candidate.develop", effectId := "effect"
        cycleId := "cycle:wake:wake-occurrence:inboxec", generation := 1
        purpose := some "Build it.", conversationId := "c"
        deadlineAtMs := 1000, remainingEffectRounds := 3
        cognitionClaimToken := "u", runtimeId := "r", nowMs := 2 },
    .abandon { effectId := "effect", nowMs := 100000
               terminalClass := "PROCESS_LOST"
               effectTruth := "effect_unknown" } (by decide)]

/-- Ending a continuation writes the time of its end into the lease, however
late that is. -/
theorem ended_lease_past_deadline :
    ¬ ∀ (steps : List LeaseStep) (effectId : String)
        (row : EffectContinuation),
      (leaseRun steps).continuations.get? effectId = some row →
      row.leaseExpiresAtMs ≤
        row.deadlineAtMs + effectContinuationPublicationMarginMs := by
  intro hall
  have hsome : ((leaseRun abandonedLate).continuations.get?
      "effect").isSome = true := by decide +kernel
  obtain ⟨row, hrow⟩ := Option.isSome_iff_exists.mp hsome
  have hlate : ((leaseRun abandonedLate).continuations.get? "effect").all
      (fun row => decide (row.deadlineAtMs +
        effectContinuationPublicationMarginMs < row.leaseExpiresAtMs)) =
        true := by decide +kernel
  rw [hrow] at hlate
  exact absurd (hall abandonedLate "effect" row hrow)
    (not_le.mpr (of_decide_eq_true hlate))

end Recovery

end CognitiveSidecar.Completions
