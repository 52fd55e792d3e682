/-
Runs over commitments: which moves the operations make, and under which
condition an ended commitment stays as it ended.
-/
import CognitiveSidecar.Commitments
import CognitiveSidecar.Lib.Run

namespace CognitiveSidecar.Commitments

open Option Relational

/-- The moves of a commitment's state: an active one moves anywhere but to its
completion, and completion and relinquishment need their cause. -/
inductive StateMove (completes relinquishes : Prop) :
    CommitmentState → CommitmentState → Prop
  | same (state : CommitmentState) : StateMove completes relinquishes state state
  | moves {state state' : CommitmentState} (hactive : state.isActive = true)
      (hother : state' ≠ .completed) :
      StateMove completes relinquishes state state'
  | completed {state : CommitmentState} (hcompletes : completes)
      (hactive : state.isActive = true) :
      StateMove completes relinquishes state .completed
  | relinquished {state : CommitmentState} (hrelinquishes : relinquishes)
      (hstate : state.isRelinquishable = true) :
      StateMove completes relinquishes state .relinquished

section Moves

variable {completes relinquishes : Prop} {state middle state' : CommitmentState}

theorem StateMove.trans (hfirst : StateMove completes relinquishes state middle)
    (hsecond : StateMove completes relinquishes middle state') :
    StateMove completes relinquishes state state' := by
  cases hfirst with
  | same => exact hsecond
  | moves hactive hother =>
    cases hsecond with
    | same => exact .moves hactive hother
    | moves _ hother' => exact .moves hactive hother'
    | completed hcompletes _ => exact .completed hcompletes hactive
    | relinquished _ _ => exact .moves hactive (by decide)
  | completed hcompletes hactive =>
    cases hsecond with
    | same => exact .completed hcompletes hactive
    | moves hactive' _ | completed _ hactive' => cases hactive'
    | relinquished _ hstate => cases hstate
  | relinquished hrelinquishes hstate =>
    cases hsecond with
    | same => exact .relinquished hrelinquishes hstate
    | moves hactive' _ | completed _ hactive' => cases hactive'
    | relinquished _ hstate' => cases hstate'

/-- An end changes by a relinquishment only. -/
theorem StateMove.ended (hmove : StateMove completes relinquishes state state')
    (hended : state.isActive = false) :
    state' = state ∨ relinquishes ∧ state.isRelinquishable = true := by
  cases hmove with
  | same => exact .inl rfl
  | moves hactive _ | completed _ hactive =>
    rw [hended] at hactive
    cases hactive
  | relinquished hrelinquishes hstate => exact .inr ⟨hrelinquishes, hstate⟩

theorem StateMove.of_completed
    (hmove : StateMove completes relinquishes state .completed) :
    state = .completed ∨ completes := by
  cases hmove with
  | same => exact .inl rfl
  | moves _ hother => exact absurd rfl hother
  | completed hcompletes _ => exact .inr hcompletes

end Moves

/-- Every commitment makes a move, a new one from its admission, and results of
proposals stay. -/
structure Moved (completes relinquishes : String → Prop)
    (db db' : CommitmentDb) : Prop where
  kept : ∀ id row, db.commitments.get? id = some row →
    ∃ row', db'.commitments.get? id = some row' ∧
      StateMove (completes id) (relinquishes id) row.commitmentState
        row'.commitmentState
  fresh : ∀ id row', db.commitments.get? id = none →
    db'.commitments.get? id = some row' →
    StateMove (completes id) (relinquishes id) .admitted row'.commitmentState
  results : ∀ id row, db.proposals.get? id = some row →
    ∃ row', db'.proposals.get? id = some row' ∧
      ∀ stored, row.result = some stored → row'.result = some stored

section Databases

variable {completes relinquishes : String → Prop}
  {db middle db' : CommitmentDb}

variable {ownerId commitmentId : String} {guard : CommitmentRow → Bool}
variable {row : CommitmentRow}

theorem Moved.of_tables (hcommitments : db'.commitments = db.commitments)
    (hproposals : db'.proposals = db.proposals) :
    Moved completes relinquishes db db' := by
  refine ⟨fun id row hrow => ?_, fun id row' hnone hrow => ?_,
    fun id row hrow => ?_⟩
  · exact ⟨row, by rw [hcommitments, hrow], .same _⟩
  · rw [hcommitments, hnone] at hrow
    cases hrow
  · exact ⟨row, by rw [hproposals, hrow], fun _ hstored => hstored⟩

theorem Moved.refl (db : CommitmentDb) : Moved completes relinquishes db db :=
  .of_tables rfl rfl

theorem Moved.trans (hfirst : Moved completes relinquishes db middle)
    (hsecond : Moved completes relinquishes middle db') :
    Moved completes relinquishes db db' := by
  refine ⟨fun id row hrow => ?_, fun id row' hnone hrow => ?_,
    fun id row hrow => ?_⟩
  · obtain ⟨row₁, hrow₁, hmove₁⟩ := hfirst.kept id row hrow
    obtain ⟨row₂, hrow₂, hmove₂⟩ := hsecond.kept id row₁ hrow₁
    exact ⟨row₂, hrow₂, hmove₁.trans hmove₂⟩
  · cases hmiddle : middle.commitments.get? id with
    | none => exact hsecond.fresh id row' hmiddle hrow
    | some row₁ =>
      obtain ⟨row₂, hrow₂, hmove⟩ := hsecond.kept id row₁ hmiddle
      rw [hrow] at hrow₂
      cases hrow₂
      exact (hfirst.fresh id row₁ hnone hmiddle).trans hmove
  · obtain ⟨row₁, hrow₁, hkept₁⟩ := hfirst.results id row hrow
    obtain ⟨row₂, hrow₂, hkept₂⟩ := hsecond.results id row₁ hrow₁
    exact ⟨row₂, hrow₂, fun stored hstored => hkept₂ stored (hkept₁ stored
      hstored)⟩

/-- An update of commitments moves the rows that it selects. -/
theorem Moved.update {p : CommitmentRow → Bool}
    {f : CommitmentRow → CommitmentRow} (hkey : ∀ row, key (f row) = key row)
    (hmoves : ∀ id row, db.commitments.get? id = some row → p row = true →
      StateMove (completes id) (relinquishes id) row.commitmentState
        (f row).commitmentState)
    (hcommitments : db'.commitments = db.commitments.update p f hkey)
    (hproposals : db'.proposals = db.proposals) :
    Moved completes relinquishes db db' := by
  refine ⟨fun id row hrow => ?_, fun id row' hnone hrow => ?_,
    fun id row hrow => ?_⟩
  · refine ⟨if p row then f row else row, ?_, ?_⟩
    · rw [hcommitments, get?_update, hrow, map_some]
    · split
      · rename_i hp
        exact hmoves id row hrow hp
      · exact .same _
  · rw [hcommitments, get?_update, hnone] at hrow
    cases hrow
  · exact ⟨row, by rw [hproposals, hrow], fun _ hstored => hstored⟩

theorem markClaimOutcome_moved (entityUuid : String) (state : ClaimState)
    (errorCode : Option String) :
    Moved completes relinquishes db
      (markClaimOutcome db entityUuid state errorCode) :=
  .of_tables rfl rfl

theorem isAt_iff :
    isAt ownerId commitmentId guard row = true ↔
      row.ownerId = ownerId ∧ row.entityUuid = commitmentId ∧
        guard row = true := by
  unfold isAt
  rw [Bool.and_eq_true, Bool.and_eq_true, decide_eq_true_eq, decide_eq_true_eq,
    and_assoc]

/-- A guarded move of one commitment. -/
theorem moveCommitment_moved {state : CommitmentState} {status : String}
    (hmoves : ∀ row, findCommitment db ownerId commitmentId = some row →
      guard row = true → StateMove (completes commitmentId)
        (relinquishes commitmentId) row.commitmentState state) :
    Moved completes relinquishes db
      (moveCommitment db ownerId commitmentId guard state status).2 := by
  refine .update (CommitmentRow.moved_key state status) ?_ rfl rfl
  intro id row hrow hat
  obtain ⟨howner, hid, hguard⟩ := isAt_iff.mp hat
  have hkeyed : row.entityUuid = id := key_of_get? hrow
  subst hkeyed
  subst hid
  refine hmoves row ?_ hguard
  unfold findCommitment
  rw [hrow, filter_some, if_pos (by simpa using howner)]

/-- Storing a result keeps the results that are stored. -/
theorem storeResult_moved (proposalId : String)
    (result : CommitmentSettlement) :
    Moved completes relinquishes db (storeResult db proposalId result) := by
  refine ⟨fun id row hrow => ⟨row, hrow, .same _⟩, fun id row' hnone hrow => ?_,
    fun id row hrow => ?_⟩
  · have hsame : db.commitments.get? id = some row' := hrow
    rw [hnone] at hsame
    cases hsame
  · refine ⟨if (row.proposalId = proposalId && row.result.isNone) = true then
      row.settled result else row, ?_, fun stored hstored => ?_⟩
    · unfold storeResult
      rw [get?_update, hrow, map_some]
    · rw [hstored, isNone_some, Bool.and_false,
        if_neg Bool.false_ne_true, hstored]

/-- A new opportunity is admitted. -/
theorem insertNew_moved (hadmitted : row.commitmentState = .admitted) :
    Moved completes relinquishes db
      { db with commitments := db.commitments.insertNew row } := by
  refine ⟨fun _ old hold => ?_, fun _ _ hnone hrow => ?_,
    fun _ old hold => ⟨old, hold, fun _ hstored => hstored⟩⟩
  · refine ⟨old, ?_, .same _⟩
    unfold Table.insertNew
    cases hinsert : db.commitments.insert? row with
    | none => exact hold
    | some => exact get?_insert_of_some hinsert hold
  · rcases Table.of_get?_insertNew hrow with rfl | hold
    · rw [hadmitted]
      exact .same _
    · rw [hnone] at hold
      cases hold

end Databases

section Operations

variable {completes relinquishes : String → Prop}
  {db db' : CommitmentDb} {reading : CommitmentReading}
  {ownerId commitmentId : String}

variable {proposalId : String} {result : CommitmentSettlement}
variable {state : DeliveryOutcome} {cause : Option String} {receiptCount : Nat}
variable {row : CommitmentRow} {settlementRef : String}
variable {settle : String → CommitmentDb →
  Except CommitmentFault (CommitmentSettlement × CommitmentDb)}

theorem findCommitment_some
    (hfound : findCommitment db ownerId commitmentId = some row) :
    db.commitments.get? commitmentId = some row ∧ row.ownerId = ownerId := by
  obtain ⟨hget, howner⟩ := filter_eq_some_iff.mp hfound
  exact ⟨hget, by simpa using howner⟩

theorem persistOne_moved {sourceRef : String} {proposal : CommitmentProposal}
    (hok : persistOne sourceRef db proposal = .ok db') :
    Moved completes relinquishes db db' := by
  unfold persistOne at hok
  split at hok
  · replace hok := passed hok
    cases of_pure hok
    exact .refl db
  · obtain ⟨proposals, hinsert, hok⟩ := of_orFault hok
    cases of_pure hok
    refine ⟨fun id row hrow => ⟨row, hrow, .same _⟩,
      fun id row' hnone hrow => ?_, fun id row hrow => ?_⟩
    · have hsame : db.commitments.get? id = some row' := hrow
      rw [hnone] at hsame
      cases hsame
    · exact ⟨row, get?_insert_of_some hinsert hrow, fun _ h => h⟩

theorem persist_moved {proposals : List CommitmentProposal}
    (hok : persistCommitmentProposals db reading settlementRef proposals =
      .ok db') : Moved completes relinquishes db db' := by
  replace hok := passed hok
  obtain ⟨_, _, hok⟩ := of_bind hok
  exact eachOf_preserves (P := Moved completes relinquishes db)
    (fun _ _ _ hone hbefore => hbefore.trans (persistOne_moved hone)) hok
    (.refl db)

/-- A proposal that is settled has its result stored, and one that was settled
is replayed. -/
theorem settleCandidate_ok {options : CommitmentAdmissionOptions}
    {proposalId : String} {result : CommitmentSettlement}
    (hok : settleCandidate reading options proposalId db =
      .ok (result, db')) :
    Moved completes relinquishes db db' ∧
    ∃ row row', db.proposals.get? proposalId = some row ∧
      db'.proposals.get? proposalId = some row' ∧
      (∀ stored, row.result = some stored → result = stored.withReplay) ∧
      (row.result = none → row'.result = some result) := by
  obtain ⟨row, hrow, hok⟩ := of_orFault hok
  have hstore : ∀ db₀ : CommitmentDb, db₀.proposals = db.proposals →
      row.result = none → ∀ settlement,
      (storeResult db₀ row.proposalId settlement).proposals.get? proposalId =
        some (row.settled settlement) := by
    intro db₀ hproposals hnone settlement
    unfold storeResult
    rw [get?_update, hproposals, hrow, map_some,
      if_pos (by simp [hnone])]
  cases hresult : row.result with
  | some stored =>
    rw [hresult] at hok
    cases of_pure hok
    refine ⟨.refl db, row, row, hrow, hrow, fun other hother => ?_,
      fun hnone => ?_⟩
    · rw [hresult] at hother
      cases hother
      rfl
    · rw [hresult] at hnone
      cases hnone
  | none =>
    rw [hresult] at hok
    replace hok := passed hok
    dsimp only at hok
    split at hok
    · replace hok := passed hok
      cases of_pure hok
      refine ⟨(insertNew_moved rfl).trans (storeResult_moved _ _), row, _,
        hrow, hstore _ rfl hresult _, fun stored hstored => ?_, fun _ => rfl⟩
      rw [hresult] at hstored
      cases hstored
    · cases of_pure hok
      refine ⟨storeResult_moved _ _, row, _, hrow, hstore _ rfl hresult _,
        fun stored hstored => ?_, fun _ => rfl⟩
      rw [hresult] at hstored
      cases hstored

theorem orphanCandidate_moved
    (hok : orphanCandidate proposalId db = .ok (result, db')) :
    Moved completes relinquishes db db' := by
  obtain ⟨_, _, hok⟩ := of_orFault hok
  split at hok
  · cases of_pure hok
    exact .refl db
  · cases of_pure hok
    exact storeResult_moved _ _

/-- What each transaction does, the loop over the proposals does. -/
theorem eachProposal_moved (hsettle : ∀ proposalId db result db',
      settle proposalId db = .ok (result, db') →
      Moved completes relinquishes db db') (ids : List String)
    (db : CommitmentDb) :
    Moved completes relinquishes db (eachProposal settle ids db).2 := by
  induction ids generalizing db with
  | nil => exact .refl db
  | cons proposalId _ ih =>
    rw [eachProposal]
    cases hresult : settle proposalId db with
    | error => exact .refl db
    | ok pair => exact (hsettle _ _ _ _ hresult).trans (ih pair.2)

/-- A returned result is the stored one, and a replay of it where it was stored
before. -/
def Answers (db db' : CommitmentDb) (proposalId : String)
    (result : CommitmentSettlement) : Prop :=
  ∃ row' stored, db'.proposals.get? proposalId = some row' ∧
    row'.result = some stored ∧
    (result = stored ∨ result = stored.withReplay) ∧
    ∀ row old, db.proposals.get? proposalId = some row →
      row.result = some old → result = old.withReplay

theorem settleCandidate_answers {options : CommitmentAdmissionOptions}
    (hok : settleCandidate reading options proposalId db =
      .ok (result, db')) :
    Moved (fun _ => True) (fun _ => True) db db' ∧
      Answers db db' proposalId result := by
  obtain ⟨hmoved, row, row', hrow, hrow', hreplay, hfresh⟩ :=
    @settleCandidate_ok (fun _ => True) (fun _ => True) _ _ _ _ _ _ hok
  refine ⟨hmoved, ?_⟩
  cases hresult : row.result with
  | none =>
    refine ⟨row', result, hrow', hfresh hresult, .inl rfl, ?_⟩
    intro _ _ hother hold
    rw [hrow] at hother
    cases hother
    rw [hresult] at hold
    cases hold
  | some stored =>
    obtain ⟨_, hkept, hstays⟩ := hmoved.results _ row hrow
    rw [hrow'] at hkept
    cases hkept
    refine ⟨row', stored, hrow', hstays stored hresult,
      .inr (hreplay stored hresult), ?_⟩
    intro _ old hother hold
    rw [hrow] at hother
    cases hother
    exact hreplay old hold

/-- An answer stays one when what comes before it and after it keeps results. -/
theorem Answers.extend {before after : CommitmentDb}
    (hanswers : Answers db db' proposalId result)
    (hbefore : Moved completes relinquishes before db)
    (hafter : Moved completes relinquishes db' after) :
    Answers before after proposalId result := by
  obtain ⟨row', stored, hrow', hstored, heither, hreplay⟩ := hanswers
  obtain ⟨final, hfinal, hkept⟩ := hafter.results _ row' hrow'
  refine ⟨final, stored, hfinal, hkept stored hstored, heither, ?_⟩
  intro row old hrow hold
  obtain ⟨next, hnext, hstays⟩ := hbefore.results _ row hrow
  exact hreplay next old hnext (hstays old hold)

/-- What each transaction answers, the loop over the proposals answers. -/
theorem eachProposal_answers (hsettle : ∀ proposalId db result db',
      settle proposalId db = .ok (result, db') →
      Moved (fun _ => True) (fun _ => True) db db' ∧
        Answers db db' proposalId result) (ids : List String)
    {results : List CommitmentSettlement}
    (hok : eachProposal settle ids db = (.ok results, db')) :
    List.Forall₂ (Answers db db') ids results := by
  induction ids generalizing db results with
  | nil =>
    cases hok
    exact .nil
  | cons proposalId rest ih =>
    rw [eachProposal] at hok
    cases hresult : settle proposalId db with
    | error =>
      rw [hresult] at hok
      cases hok
    | ok pair =>
      obtain ⟨_, after⟩ := pair
      rw [hresult] at hok
      obtain ⟨hresults, hafter⟩ := Prod.mk.inj hok
      obtain ⟨hfirst, hanswer⟩ := hsettle _ _ _ _ hresult
      have hlater : Moved (fun _ => True) (fun _ => True) after db' := by
        rw [← hafter]
        exact eachProposal_moved (fun _ _ _ _ h => (hsettle _ _ _ _ h).1)
          rest after
      cases hrest : (eachProposal settle rest after).1 with
      | error =>
        rw [hrest] at hresults
        cases hresults
      | ok =>
        rw [hrest] at hresults
        cases hresults
        refine .cons (hanswer.extend (.refl db) hlater) ?_
        exact (ih (Prod.ext hrest hafter)).imp fun _ _ hanswers =>
          hanswers.extend hfirst (.refl db')

theorem cancelCommitments_moved
    (hok : cancelCommitmentsForSettlement db settlementRef = .ok db') :
    Moved completes relinquishes db db' := by
  replace hok := passed hok
  cases of_pure hok
  refine .update CommitmentRow.cancelledRow_key (fun _ _ _ hp => ?_) rfl rfl
  rw [Bool.and_eq_true, decide_eq_true_eq] at hp
  rw [hp.1]
  exact .moves rfl nofun

theorem tryClaim_tables (db : CommitmentDb) (ownerId entityUuid : String)
    (clockMs : Int) :
    (tryClaimRelationshipMotivation db ownerId entityUuid
        clockMs).2.commitments = db.commitments ∧
      (tryClaimRelationshipMotivation db ownerId entityUuid
        clockMs).2.proposals = db.proposals := by
  unfold tryClaimRelationshipMotivation
  dsimp only
  split <;> exact ⟨rfl, rfl⟩

theorem CommitmentRow.isClaimable_active {nowMs : Int}
    (hclaimable : row.isClaimable nowMs = true) :
    row.commitmentState.isActive = true := by
  unfold CommitmentRow.isClaimable at hclaimable
  simp only [Bool.and_eq_true, Bool.or_eq_true, decide_eq_true_eq]
    at hclaimable
  rcases hclaimable.1 with (hstate | hstate) | hstate <;> rw [hstate] <;> rfl

/-- A claim leases an active commitment, or changes no commitment. -/
theorem claimCommitment_moved [Host] (nowMs leaseMs clockMs : Int) :
    Moved completes relinquishes db (claimCommitmentOpportunity db reading
      ownerId commitmentId nowMs leaseMs clockMs).2 := by
  unfold claimCommitmentOpportunity
  split
  · exact .refl db
  · split_ifs
    · exact .refl db
    · exact .refl db
    · exact .refl db
    · dsimp only
      obtain ⟨hcommitments, hproposals⟩ :=
        tryClaim_tables db ownerId commitmentId clockMs
      have hclaimed : Moved completes relinquishes db
          (tryClaimRelationshipMotivation db ownerId commitmentId
            clockMs).2 := .of_tables hcommitments hproposals
      split_ifs
      · exact hclaimed
      · refine hclaimed.trans (.update (CommitmentRow.leased_key _ _)
          (fun id row _ hp => ?_) rfl rfl)
        exact .moves (CommitmentRow.isClaimable_active (isAt_iff.mp hp).2.2)
          (by intro hother; cases hother)
      · refine hclaimed.trans (.update (CommitmentRow.leased_key _ _)
          (fun id row _ hp => ?_) rfl rfl)
        exact .moves (CommitmentRow.isClaimable_active (isAt_iff.mp hp).2.2)
          (by intro hother; cases hother)

theorem recheck_moved (nowMs blockedBackoffMs : Int) :
    Moved completes relinquishes db (recheckCommitmentOpportunity db reading
      ownerId commitmentId nowMs blockedBackoffMs).2 := by
  unfold recheckCommitmentOpportunity
  split
  · exact .refl db
  · split
    · exact (moveCommitment_moved fun row _ hactive =>
        .moves hactive (by decide)).trans (markClaimOutcome_moved _ _ _)
    · split
      · exact .refl db
      · refine .update (CommitmentRow.deferred_key _)
          (fun id row _ hp => ?_) rfl rfl
        rw [Bool.and_eq_true] at hp
        exact .moves hp.2 nofun

theorem relinquish_moved {reason : Option String}
    (hrelinquishes : ∀ row, findCommitment db ownerId commitmentId = some row →
      relinquishes commitmentId) :
    Moved completes relinquishes db
      (relinquishCommitment db ownerId commitmentId reason).2 := by
  unfold relinquishCommitment
  dsimp only
  have hmoved : Moved completes relinquishes db
      (moveCommitment db ownerId commitmentId
        (·.commitmentState.isRelinquishable) .relinquished "released").2 :=
    moveCommitment_moved fun row hrow hstate =>
      .relinquished (hrelinquishes row hrow) hstate
  split
  · exact hmoved.trans (markClaimOutcome_moved _ _ _)
  · exact hmoved

theorem reviseCommitment_moved :
    Moved completes relinquishes db
      (reviseCommitment db ownerId commitmentId).2 := by
  unfold reviseCommitment
  dsimp only
  have hmoved : Moved completes relinquishes db
      (moveCommitment db ownerId commitmentId (·.commitmentState.isActive)
        .revised "released").2 :=
    moveCommitment_moved fun _ _ hactive => .moves hactive (by decide)
  split
  · exact hmoved.trans (markClaimOutcome_moved _ _ _)
  · exact hmoved

theorem reviseTiming_moved {revision : TimingRevision} {changed : Bool}
    (hok : reviseCommitmentTiming db reading ownerId commitmentId revision =
      .ok (changed, db')) : Moved completes relinquishes db db' := by
  unfold reviseCommitmentTiming at hok
  split at hok
  · cases hok
    exact .refl db
  · replace hok := passed hok
    dsimp only at hok
    split at hok
    · cases of_pure hok
      refine .update (CommitmentRow.retimed_key _ _)
        (fun id row _ hp => ?_) rfl rfl
      exact .moves (isAt_iff.mp hp).2.2 nofun
    · cases of_pure hok
      exact .refl db

/-- The retry that the status column refuses changes nothing: a delivery
outcome completes, relinquishes, or leaves a commitment alone. -/
theorem applyOutcome_moved (hcompletes : 0 < receiptCount → state = .committed →
      completes commitmentId)
    (hrelinquishes : 0 < receiptCount → state = .cancelled → ∀ row,
      findCommitment db ownerId commitmentId = some row →
      relinquishes commitmentId)
    (hok : applyCommitmentDeliveryOutcome db ownerId commitmentId state cause
      receiptCount = .ok db') : Moved completes relinquishes db db' := by
  unfold applyCommitmentDeliveryOutcome at hok
  split at hok
  · cases hok
    exact .refl db
  · dsimp only at hok
    split_ifs at hok with hcommitted hchanged hcancelled hreceipts hattempts
    · cases hok
      exact (moveCommitment_moved fun _ _ hactive =>
        .completed (hcompletes hcommitted.1 hcommitted.2) hactive).trans
          (markClaimOutcome_moved _ _ _)
    · cases hok
      exact moveCommitment_moved fun _ _ hactive =>
        .completed (hcompletes hcommitted.1 hcommitted.2) hactive
    · cases hok
      exact relinquish_moved (hrelinquishes hreceipts hcancelled)
    · cases hok
      exact .refl db
    · obtain ⟨hcheck, _⟩ := of_require hok
      exact absurd hcheck (by decide)
    · cases hok
      exact .refl db

theorem relinquish_deliveries (reason : Option String) :
    (relinquishCommitment db ownerId commitmentId reason).2.deliveries =
      db.deliveries := by
  unfold relinquishCommitment
  dsimp only
  split <;> rfl

theorem applyOutcome_deliveries
    (hok : applyCommitmentDeliveryOutcome db ownerId commitmentId state cause
      receiptCount = .ok db') : db'.deliveries = db.deliveries := by
  unfold applyCommitmentDeliveryOutcome at hok
  split at hok
  · cases hok
    rfl
  · dsimp only at hok
    split_ifs at hok
    · cases hok
      rfl
    · cases hok
      rfl
    · cases hok
      exact relinquish_deliveries _
    · cases hok
      rfl
    · replace hok := passed hok
      cases of_pure hok
      rfl
    · cases hok
      rfl

theorem requeue_moved (nowMs : Int) :
    Moved completes relinquishes db
      (requeueCommitment db ownerId commitmentId nowMs) := by
  refine .update CommitmentRow.requeued_key (fun _ _ _ hp => ?_) rfl rfl
  have hguard := (isAt_iff.mp hp).2.2
  rw [Bool.and_eq_true, decide_eq_true_eq] at hguard
  rw [hguard.1]
  exact .moves rfl nofun

/-- A recovery completes a commitment only from a delivery with all its
receipts. -/
theorem recoverOne_moved {nowMs overdueGraceMs : Int}
    {counts counts' : RecoveryCounts} {row : CommitmentRow}
    (hcompletes : ∀ delivery ∈ deliveriesOf db ownerId row.entityUuid,
      delivery.isComplete = true → completes row.entityUuid)
    (hok : recoverOne ownerId nowMs overdueGraceMs (counts, db) row =
      .ok (counts', db')) :
    Moved completes relinquishes db db' ∧ db'.deliveries = db.deliveries := by
  unfold recoverOne at hok
  dsimp only at hok
  have hmove : ∀ guard state status,
      (∀ row', findCommitment db ownerId row.entityUuid = some row' →
        guard row' = true → StateMove (completes row.entityUuid)
          (relinquishes row.entityUuid) row'.commitmentState state) →
      Moved completes relinquishes db (moveCommitment db ownerId
        row.entityUuid guard state status).2 :=
    fun _ _ _ hmoves => moveCommitment_moved hmoves
  split_ifs at hok
  · split at hok
    · rename_i delivery hfound
      obtain ⟨after, houtcome, hok⟩ := of_bind hok
      cases of_pure hok
      have hcomplete := hcompletes delivery
        (List.mem_of_find?_eq_some hfound) (List.find?_some hfound)
      refine ⟨applyOutcome_moved (fun _ _ => hcomplete)
        (fun _ hcancelled => by cases hcancelled) houtcome,
        applyOutcome_deliveries houtcome⟩
    · cases hok
      exact ⟨.refl db, rfl⟩
  · cases hok
    exact ⟨.refl db, rfl⟩
  · cases hok
    exact ⟨(hmove (·.commitmentState.isActive) .expired "released"
      fun _ _ hactive => .moves hactive nofun).trans
        (markClaimOutcome_moved _ _ _), rfl⟩
  · cases hok
    exact ⟨hmove (·.commitmentState.isActive) .expired "released"
      fun _ _ hactive => .moves hactive nofun, rfl⟩
  · cases hok
    exact ⟨requeue_moved nowMs, rfl⟩
  · cases hok
    exact ⟨.refl db, rfl⟩
  · cases hok
    exact ⟨hmove (·.commitmentState.isActive) .missedOverdue "released"
      fun _ _ hactive => .moves hactive nofun, rfl⟩
  · cases hok
    exact ⟨requeue_moved nowMs, rfl⟩
  · cases hok
    refine ⟨hmove (·.commitmentState = .attempted) .missedOverdue "released"
      fun row' _ hattempted => ?_, rfl⟩
    rw [of_decide_eq_true hattempted]
    exact .moves rfl nofun
  · cases hok
    exact ⟨.refl db, rfl⟩

/-- The loop of a recovery. -/
theorem recover_moved {nowMs overdueGraceMs : Int} {rows : List CommitmentRow}
    {progress progress' : RecoveryCounts × CommitmentDb}
    (hcompletes : ∀ id, ∀ delivery ∈ deliveriesOf progress.2 ownerId id,
      delivery.isComplete = true → completes id)
    (hok : eachOf (recoverOne ownerId nowMs overdueGraceMs) progress rows =
      .ok progress') :
    Moved completes relinquishes progress.2 progress'.2 := by
  induction rows generalizing progress with
  | nil =>
    cases hok
    exact .refl _
  | cons row _ ih =>
    obtain ⟨_, hfirst, hrest⟩ := of_bind hok
    obtain ⟨hmoved, hdeliveries⟩ :=
      @recoverOne_moved completes relinquishes _ _ _ _ _ _ _ _
        (hcompletes row.entityUuid) hfirst
    refine hmoved.trans (ih ?_ hrest)
    intro id delivery hmem
    unfold deliveriesOf at hmem
    rw [hdeliveries] at hmem
    exact hcompletes id delivery hmem

end Operations

section Runs

variable [Host]
variable {db : CommitmentDb}
variable {state : CommitmentState} {id ownerId commitmentId : String}
variable {reading : CommitmentReading} {nowMs : Int}
variable {opportunity : CommitmentOpportunity}

inductive CommitmentStep
  | persist (reading : CommitmentReading) (settlementRef : String)
      (proposals : List CommitmentProposal)
  | settle (reading : CommitmentReading) (settlementRef : String)
      (options : CommitmentAdmissionOptions)
  | recoverPending
  | cancelSettlement (settlementRef : String)
  | claim (reading : CommitmentReading) (ownerId commitmentId : String)
      (nowMs leaseMs clockMs : Int)
  | recheck (reading : CommitmentReading) (ownerId commitmentId : String)
      (nowMs blockedBackoffMs : Int)
  | recover (ownerId : String) (nowMs overdueGraceMs : Int)
  | reviseTiming (reading : CommitmentReading) (ownerId commitmentId : String)
      (revision : TimingRevision)
  | revise (ownerId commitmentId : String)
  | relinquish (ownerId commitmentId : String) (reason : Option String)
  | outcome (ownerId commitmentId : String) (state : DeliveryOutcome)
      (cause : Option String) (receiptCount : Nat)
  | deliver (deliveries : List DeliveryReservation)

/-- One step; `deliver` is any change of the delivery tables. -/
def commitmentStep (step : CommitmentStep) (db : CommitmentDb) :
    CommitmentDb :=
  match step with
  | .persist reading settlementRef proposals =>
    commit db (persistCommitmentProposals db reading settlementRef proposals)
  | .settle reading settlementRef options =>
    (settlePersistedCommitmentProposals db reading settlementRef options).2
  | .recoverPending => (recoverPendingCommitmentProposals db).2
  | .cancelSettlement settlementRef =>
    commit db (cancelCommitmentsForSettlement db settlementRef)
  | .claim reading ownerId commitmentId nowMs leaseMs clockMs =>
    (claimCommitmentOpportunity db reading ownerId commitmentId nowMs leaseMs
      clockMs).2
  | .recheck reading ownerId commitmentId nowMs blockedBackoffMs =>
    (recheckCommitmentOpportunity db reading ownerId commitmentId nowMs
      blockedBackoffMs).2
  | .recover ownerId nowMs overdueGraceMs =>
    commit db (Prod.snd <$> recoverCommitmentOpportunities db ownerId nowMs
      overdueGraceMs)
  | .reviseTiming reading ownerId commitmentId revision =>
    commit db (Prod.snd <$> reviseCommitmentTiming db reading ownerId
      commitmentId revision)
  | .revise ownerId commitmentId =>
    (reviseCommitment db ownerId commitmentId).2
  | .relinquish ownerId commitmentId reason =>
    (relinquishCommitment db ownerId commitmentId reason).2
  | .outcome ownerId commitmentId state cause receiptCount =>
    commit db (applyCommitmentDeliveryOutcome db ownerId commitmentId state
      cause receiptCount)
  | .deliver deliveries => { db with deliveries }

/-- The commitments that a step may complete: by a committed outcome with
receipts, or by a recovery that finds a delivery with all its receipts. -/
def CommitmentStep.completes (step : CommitmentStep) (db : CommitmentDb)
    (id : String) : Prop :=
  match step with
  | .outcome _ commitmentId state _ receiptCount =>
    id = commitmentId ∧ state = .committed ∧ 0 < receiptCount
  | .recover ownerId _ _ =>
    ∃ delivery ∈ deliveriesOf db ownerId id, delivery.isComplete = true
  | _ => False

/-- The commitments that a step relinquishes. -/
def CommitmentStep.relinquishes (step : CommitmentStep) (db : CommitmentDb)
    (id : String) : Prop :=
  match step with
  | .relinquish ownerId commitmentId _ => id = commitmentId ∧
      ∃ row, findCommitment db ownerId commitmentId = some row
  | .outcome ownerId commitmentId state _ receiptCount =>
    id = commitmentId ∧ state = .cancelled ∧ 0 < receiptCount ∧
      ∃ row, findCommitment db ownerId commitmentId = some row
  | _ => False

theorem commitmentStep_moved (step : CommitmentStep) (db : CommitmentDb) :
    Moved (step.completes db) (step.relinquishes db) db
      (commitmentStep step db) := by
  cases step with
  | persist =>
    exact commit_preserves (P := Moved _ _ db) (.refl db)
      fun _ hok => persist_moved hok
  | settle =>
    exact eachProposal_moved (fun _ _ _ _ h => (settleCandidate_ok h).1) _ db
  | recoverPending =>
    exact eachProposal_moved (fun _ _ _ _ h => orphanCandidate_moved h) _ db
  | cancelSettlement =>
    exact commit_preserves (P := Moved _ _ db) (.refl db)
      fun _ hok => cancelCommitments_moved hok
  | claim _ _ _ nowMs leaseMs clockMs =>
    exact claimCommitment_moved nowMs leaseMs clockMs
  | recheck _ _ _ nowMs blockedBackoffMs =>
    exact recheck_moved nowMs blockedBackoffMs
  | recover =>
    refine commit_preserves (P := Moved _ _ db) (.refl db) fun _ hok => ?_
    obtain ⟨_, hok⟩ := snd_ok.mp hok
    exact @recover_moved _ _ _ _ _ _ ({}, db) _
      (fun _ delivery hmem hcomplete => ⟨delivery, hmem, hcomplete⟩) hok
  | reviseTiming =>
    refine commit_preserves (P := Moved _ _ db) (.refl db) fun _ hok => ?_
    obtain ⟨_, hok⟩ := snd_ok.mp hok
    exact reviseTiming_moved hok
  | revise => exact reviseCommitment_moved
  | relinquish =>
    exact relinquish_moved fun row hrow => ⟨rfl, row, hrow⟩
  | outcome =>
    exact commit_preserves (P := Moved _ _ db) (.refl db) fun _ hok =>
      applyOutcome_moved (fun hreceipts hstate => ⟨rfl, hstate, hreceipts⟩)
        (fun hreceipts hstate row hrow => ⟨rfl, hstate, hreceipts, row, hrow⟩)
        hok
  | deliver => exact .of_tables rfl rfl

/-- A relinquishment finds no cancelled or expired commitment, and a recheck of
an ended one finds it past its latest useful time or refused. -/
def SparesEnds (step : CommitmentStep) (db : CommitmentDb) : Prop :=
  match step with
  | .relinquish ownerId commitmentId _ =>
    ∀ row, findCommitment db ownerId commitmentId = some row →
      row.commitmentState ≠ .cancelled ∧ row.commitmentState ≠ .expired
  | .outcome ownerId commitmentId state _ receiptCount =>
    state = .cancelled → 0 < receiptCount →
      ∀ row, findCommitment db ownerId commitmentId = some row →
        row.commitmentState ≠ .cancelled ∧ row.commitmentState ≠ .expired
  | .recheck reading ownerId commitmentId nowMs _ =>
    ∀ row opportunity, findCommitment db ownerId commitmentId = some row →
      row.commitmentState.isActive = false →
      opportunityFromRow reading row nowMs = some opportunity →
      opportunity.isPast nowMs = true ∨
        wakeFailure reading opportunity nowMs ≠ none
  | _ => True

omit [Host] in
/-- A relinquishment that spares the ends finds its commitment active. -/
theorem relinquishable_active (hstate : state.isRelinquishable = true)
    (hspared : state ≠ .cancelled ∧ state ≠ .expired) :
    state.isActive = true := by
  cases state with
  | cancelled => exact absurd rfl hspared.1
  | expired => exact absurd rfl hspared.2
  | admitted | communicated | attempted | deferredBlocked => rfl
  | completed | relinquished | revised | missedOverdue => cases hstate

/-- The commitment has ended in this state. -/
def EndedIn (id : String) (state : CommitmentState) (db : CommitmentDb) :
    Prop :=
  ∃ row, db.commitments.get? id = some row ∧ row.commitmentState = state

omit [Host] in
theorem relinquishes_spared {step : CommitmentStep} {row : CommitmentRow}
    (hspares : SparesEnds step db) (hrelinquishes : step.relinquishes db id)
    (hrow : db.commitments.get? id = some row) :
    row.commitmentState ≠ .cancelled ∧ row.commitmentState ≠ .expired := by
  have hsame : ∀ {ownerId commitmentId row'}, id = commitmentId →
      findCommitment db ownerId commitmentId = some row' → row' = row := by
    intro _ _ _ hid hfound
    obtain ⟨hget, _⟩ := findCommitment_some hfound
    rw [← hid, hrow] at hget
    exact (some.inj hget).symm
  cases step with
  | relinquish =>
    obtain ⟨hid, row', hfound⟩ := hrelinquishes
    rw [← hsame hid hfound]
    exact hspares row' hfound
  | outcome =>
    obtain ⟨hid, hstate, hreceipts, row', hfound⟩ := hrelinquishes
    rw [← hsame hid hfound]
    exact hspares hstate hreceipts row' hfound
  | _ => cases hrelinquishes

/-- A step that spares the ends keeps each of them. -/
theorem EndedIn.step (hended : state.isActive = false) (step : CommitmentStep)
    (db : CommitmentDb) (hspares : SparesEnds step db)
    (hin : EndedIn id state db) :
    EndedIn id state (commitmentStep step db) := by
  obtain ⟨row, hrow, rfl⟩ := hin
  obtain ⟨row', hrow', hmove⟩ := (commitmentStep_moved step db).kept id row hrow
  refine ⟨row', hrow', ?_⟩
  rcases hmove.ended hended with hsame | ⟨hrelinquishes, hstate⟩
  · exact hsame
  · have hactive := relinquishable_active hstate
      (relinquishes_spared hspares hrelinquishes hrow)
    rw [hended] at hactive
    cases hactive

/-- A commitment that a run completes is completed by a step with its cause. -/
theorem completed_by_step {steps : List CommitmentStep}
    (hbefore : ¬ EndedIn id .completed db)
    (hafter : EndedIn id .completed (run commitmentStep db steps)) :
    ∃ before step after, steps = before ++ step :: after ∧
      step.completes (run commitmentStep db before) id := by
  obtain ⟨before, step, after, hsplit, hout, hin⟩ :=
    exists_leaving_step (P := fun db => ¬ EndedIn id .completed db) hbefore
      (not_not_intro hafter)
  refine ⟨before, step, after, hsplit, ?_⟩
  obtain ⟨row', hrow', hcompleted⟩ := not_not.mp hin
  have hmoved := commitmentStep_moved step (run commitmentStep db before)
  cases hrow : (run commitmentStep db before).commitments.get? id with
  | none =>
    have hmove := hmoved.fresh id row' hrow hrow'
    rw [hcompleted] at hmove
    rcases hmove.of_completed with hadmitted | hcompletes
    · cases hadmitted
    · exact hcompletes
  | some row =>
    obtain ⟨_, hrow₁, hmove⟩ := hmoved.kept id row hrow
    rw [hrow'] at hrow₁
    cases hrow₁
    rw [hcompleted] at hmove
    rcases hmove.of_completed with hstate | hcompletes
    · exact absurd ⟨row, hrow, hstate⟩ hout
    · exact hcompletes

/-- The result of a proposal is stored. -/
def StoredResult (proposalId : String) (stored : CommitmentSettlement)
    (db : CommitmentDb) : Prop :=
  ∃ row, db.proposals.get? proposalId = some row ∧ row.result = some stored

theorem StoredResult.step {proposalId : String} {stored : CommitmentSettlement}
    (step : CommitmentStep) (db : CommitmentDb)
    (hstored : StoredResult proposalId stored db) :
    StoredResult proposalId stored (commitmentStep step db) := by
  obtain ⟨row, hrow, hresult⟩ := hstored
  obtain ⟨row', hrow', hkept⟩ :=
    (commitmentStep_moved step db).results proposalId row hrow
  exact ⟨row', hrow', hkept stored hresult⟩

/-- A lease is given on an active commitment only. -/
theorem claim_active {leaseMs clockMs : Int}
    (hclaimed : (claimCommitmentOpportunity db reading ownerId commitmentId
      nowMs leaseMs clockMs).1 = some opportunity) :
    ∃ row, findCommitment db ownerId commitmentId = some row ∧
      row.commitmentState.isActive = true := by
  unfold claimCommitmentOpportunity at hclaimed
  split at hclaimed
  · cases hclaimed
  · rename_i current hfound
    split_ifs at hclaimed with hended
    exact ⟨current, hfound, by simpa using hended⟩

omit [Host] in
/-- A commitment is fulfilled while it is active, by a recheck that spares the
ends. -/
theorem recheck_active {blockedBackoffMs : Int}
    (hspares : SparesEnds (.recheck reading ownerId commitmentId nowMs
      blockedBackoffMs) db)
    (hfulfill : (recheckCommitmentOpportunity db reading ownerId commitmentId
      nowMs blockedBackoffMs).1 = .fulfill opportunity) :
    ∃ row, findCommitment db ownerId commitmentId = some row ∧
      row.commitmentState.isActive = true := by
  unfold recheckCommitmentOpportunity at hfulfill
  cases hread : (findCommitment db ownerId commitmentId).bind
      (opportunityFromRow reading · nowMs) with
  | none =>
    rw [hread] at hfulfill
    cases hfulfill
  | some read =>
    rw [hread] at hfulfill
    dsimp only at hfulfill
    obtain ⟨row, hfound, hrow⟩ := bind_eq_some_iff.mp hread
    refine ⟨row, hfound, ?_⟩
    by_contra hended
    have hspared := hspares row read hfound (Bool.not_eq_true _ ▸ hended) hrow
    split_ifs at hfulfill with hpast
    cases hfailure : wakeFailure reading read nowMs with
    | none =>
      rcases hspared with hlate | hrefused
      · exact hpast hlate
      · exact hrefused hfailure
    | some =>
      rw [hfailure] at hfulfill
      cases hfulfill

/-- Over any run: while every relinquishment and recheck spares the ends, a
commitment that ended stays in the state it ended in.  In every run a
commitment is completed only by a step with its cause, the result of a proposal
stays and is what each replay answers, and a lease, or the verdict of a recheck
that spares the ends, is about an active commitment. -/
theorem ended_commitments_stay (db : CommitmentDb)
    (steps : List CommitmentStep) :
    (∀ before after id state, steps = before ++ after →
      Meets commitmentStep SparesEnds db steps → state.isActive = false →
      EndedIn id state (run commitmentStep db before) →
      EndedIn id state (run commitmentStep db steps)) ∧
    (∀ id, ¬ EndedIn id .completed db →
      EndedIn id .completed (run commitmentStep db steps) →
      ∃ before step after, steps = before ++ step :: after ∧
        step.completes (run commitmentStep db before) id) ∧
    (∀ before after proposalId stored, steps = before ++ after →
      StoredResult proposalId stored (run commitmentStep db before) →
      StoredResult proposalId stored (run commitmentStep db steps)) ∧
    (∀ reading settlementRef options results db',
      settlePersistedCommitmentProposals (run commitmentStep db steps) reading
        settlementRef options = (.ok results, db') →
      List.Forall₂ (Answers (run commitmentStep db steps) db')
        ((proposalsOf (run commitmentStep db steps) settlementRef).map
          (·.proposalId)) results) ∧
    (∀ reading ownerId commitmentId nowMs leaseMs clockMs opportunity,
      (claimCommitmentOpportunity (run commitmentStep db steps) reading ownerId
        commitmentId nowMs leaseMs clockMs).1 = some opportunity →
      ∃ row, findCommitment (run commitmentStep db steps) ownerId
        commitmentId = some row ∧ row.commitmentState.isActive = true) ∧
    ∀ reading ownerId commitmentId nowMs blockedBackoffMs opportunity,
      SparesEnds (.recheck reading ownerId commitmentId nowMs blockedBackoffMs)
        (run commitmentStep db steps) →
      (recheckCommitmentOpportunity (run commitmentStep db steps) reading
        ownerId commitmentId nowMs blockedBackoffMs).1 =
          .fulfill opportunity →
      ∃ row, findCommitment (run commitmentStep db steps) ownerId
        commitmentId = some row ∧ row.commitmentState.isActive = true := by
  refine ⟨?_, fun _ => completed_by_step, ?_, ?_, ?_, ?_⟩
  · intro _ _ _ _ hsplit hmeets hended hin
    rw [hsplit] at hmeets
    rw [hsplit, run_append]
    exact meets_preserves (EndedIn.step hended) hin (meets_append.mp hmeets).2
  · intro _ after _ _ hsplit hstored
    rw [hsplit, run_append]
    exact run_preserves StoredResult.step hstored after
  · intro _ _ _ _ _ hok
    exact eachProposal_answers (fun _ _ _ _ => settleCandidate_answers) _ hok
  · intro _ _ _ _ _ _ _
    exact claim_active
  · intro _ _ _ _ _ _
    exact recheck_active

end Runs

section Cancelled

attribute [local instance] plainHost

/-- A promise to a friend, made in the settlement "settlement". -/
def promise : CommitmentProposal where
  ordinal := 0
  action := "Ask how the exam went."
  beneficiary := "friend"
  destination := .dm "friend"
  temporal := .exactly 2000
  realizationClause := "When the exam is over."
  cycleId := "cycle"
  attemptId := "attempt"

def promiseId : String := "cmt:settlement:0"

/-- A promise is admitted, and its settlement is withdrawn. -/
def withdrawn : List CommitmentStep :=
  [.persist {} "settlement" [promise],
    .settle {} "settlement" { nowMs := 1000, enabled := true },
    .cancelSettlement "settlement"]

theorem withdrawn_ended :
    EndedIn promiseId .cancelled (run commitmentStep {} withdrawn) := by
  refine ⟨((run commitmentStep {} withdrawn).commitments.get? promiseId).get
    (by decide +kernel), some_get _ |>.symm, by decide +kernel⟩

/-- A relinquishment makes the cancelled promise a relinquished one, and a
recheck of the cancelled promise says to fulfill it. -/
theorem relinquish_overwrites_cancelled :
    (¬ ∀ db steps before after id state, steps = before ++ after →
      state.isActive = false →
      EndedIn id state (run commitmentStep db before) →
      EndedIn id state (run commitmentStep db steps)) ∧
    ¬ ∀ db steps reading ownerId commitmentId nowMs blockedBackoffMs
        opportunity,
      (recheckCommitmentOpportunity (run commitmentStep db steps) reading
        ownerId commitmentId nowMs blockedBackoffMs).1 =
          .fulfill opportunity →
      opportunity.state.isActive = true := by
  constructor
  · intro hall
    obtain ⟨_, hrow, hstate⟩ := hall {}
      (withdrawn ++ [.relinquish "owner" promiseId none]) withdrawn _ promiseId
      .cancelled rfl rfl withdrawn_ended
    have hrelinquished : ((run commitmentStep {}
        (withdrawn ++ [.relinquish "owner" promiseId none])).commitments.get?
          promiseId).map (·.commitmentState) = some .relinquished := by
      decide +kernel
    rw [hrow, Option.map_some, hstate] at hrelinquished
    cases hrelinquished
  · intro hall
    have hactive := hall {} withdrawn {} "owner" promiseId 2000 0
      { commitmentId := promiseId, ownerId := "owner"
        proposal := normalizeCommitmentProposal promise 3600000
        latestUsefulAtMs := none, latenessMs := 0, fireAtMs := some 2000
        state := .cancelled, attemptCount := 0, leaseToken := none
        leaseExpiresAtMs := none, recoveryStatus := false
        delegation := none } (by decide +kernel)
    cases hactive

/-- The withdrawn promise is rechecked while its authority refuses it, and
recovered. -/
def withdrawnSpared : List CommitmentStep :=
  withdrawn ++
    [.recheck { authorityAllows := fun _ _ _ _ => some "revoked" } "owner"
      promiseId 2000 1000, .recover "owner" 3000 0]

theorem withdrawnSpared_meets :
    Meets commitmentStep SparesEnds {} withdrawnSpared := by
  refine ⟨trivial, trivial, trivial, ?_, trivial, trivial⟩
  intro _ _ _ _ _
  refine .inr ?_
  nofun

theorem withdrawn_stays :
    EndedIn promiseId .cancelled (run commitmentStep {} withdrawnSpared) :=
  (ended_commitments_stay {} withdrawnSpared).1 withdrawn _ promiseId .cancelled
    rfl withdrawnSpared_meets rfl withdrawn_ended

end Cancelled

end CognitiveSidecar.Commitments
