/-
Commitments that are due: what recovery makes of one, and when an opportunity
that is listed can still be claimed or ended.
-/
import CognitiveSidecar.CommitmentRuns

namespace CognitiveSidecar.Commitments

open Option List Relational

section Rows

/-- A property of rows that every operation keeps. -/
structure RowInvariant (P : CommitmentRow → Prop) : Prop where
  opportunity : ∀ proposalId proposal options fireAtMs admissionRevision,
    P (opportunityRow proposalId proposal options fireAtMs admissionRevision)
  moved : ∀ state status row, P row → P (row.moved state status)
  cancelled : ∀ row, P row → P row.cancelledRow
  leased : ∀ leaseToken leaseExpiresAtMs row, P row →
    P (row.leased leaseToken leaseExpiresAtMs)
  deferred : ∀ nextFireAtMs row, P row → P (row.deferred nextFireAtMs)
  requeued : ∀ row, P row → P row.requeued
  retimed : ∀ proposal fireAtMs row, P row → P (row.retimed proposal fireAtMs)

def AllRows (P : CommitmentRow → Prop) (db : CommitmentDb) : Prop :=
  ∀ row ∈ db.commitments.rows, P row

variable {P : CommitmentRow → Prop} {db db' : CommitmentDb}
  {ownerId commitmentId : String} {reading : CommitmentReading}

theorem AllRows.update (hall : AllRows P db) {p : CommitmentRow → Bool}
    {f : CommitmentRow → CommitmentRow} (hkey : ∀ row, key (f row) = key row)
    (hf : ∀ row, P row → P (f row)) :
    ∀ row ∈ (db.commitments.update p f hkey).rows, P row := by
  intro _ hrow'
  obtain ⟨row, hrow, rfl⟩ := Table.mem_update_iff.mp hrow'
  split
  · exact hf row (hall row hrow)
  · exact hall row hrow

theorem RowInvariant.move (hP : RowInvariant P) (hall : AllRows P db)
    (guard : CommitmentRow → Bool) (state : CommitmentState)
    (status : String) :
    AllRows P (moveCommitment db ownerId commitmentId guard state status).2 :=
  hall.update (CommitmentRow.moved_key state status) (hP.moved state status)

theorem RowInvariant.settle (hP : RowInvariant P) (hall : AllRows P db)
    {options : CommitmentAdmissionOptions} {proposalId : String}
    {result : CommitmentSettlement}
    (hok : settleCandidate reading options proposalId db =
      .ok (result, db')) : AllRows P db' := by
  obtain ⟨_, _, hok⟩ := of_orFault hok
  split at hok
  · cases of_pure hok
    exact hall
  replace hok := passed hok
  dsimp only at hok
  split at hok
  · replace hok := passed hok
    cases of_pure hok
    intro other hother
    rcases Table.of_get?_insertNew (get?_key hother) with rfl | hold
    · exact hP.opportunity _ _ _ _ _
    · exact hall other (mem_of_get? hold)
  · cases of_pure hok
    exact hall

theorem eachProposal_keeps {settle : String → CommitmentDb →
      Except CommitmentFault (CommitmentSettlement × CommitmentDb)}
    (hsettle : ∀ proposalId db result db',
      settle proposalId db = .ok (result, db') → AllRows P db → AllRows P db')
    (ids : List String) (hall : AllRows P db) :
    AllRows P (eachProposal settle ids db).2 := by
  induction ids generalizing db with
  | nil => exact hall
  | cons proposalId _ ih =>
    rw [eachProposal]
    cases hresult : settle proposalId db with
    | error => exact hall
    | ok => exact ih (hsettle _ _ _ _ hresult hall)

theorem RowInvariant.outcome (hP : RowInvariant P) (hall : AllRows P db)
    {state : DeliveryOutcome} {cause : Option String} {receiptCount : Nat}
    (hok : applyCommitmentDeliveryOutcome db ownerId commitmentId state cause
      receiptCount = .ok db') : AllRows P db' := by
  unfold applyCommitmentDeliveryOutcome at hok
  split at hok
  · cases hok
    exact hall
  · dsimp only at hok
    split_ifs at hok
    · cases hok
      exact hP.move hall _ _ _
    · cases hok
      exact hP.move hall _ _ _
    · cases hok
      unfold relinquishCommitment
      dsimp only
      split
      · exact hP.move hall _ _ _
      · exact hP.move hall _ _ _
    · cases hok
      exact hall
    · replace hok := passed hok
      cases of_pure hok
      exact hP.move hall _ _ _
    · cases hok
      exact hall

theorem RowInvariant.recoverOne (hP : RowInvariant P) (hall : AllRows P db)
    {nowMs overdueGraceMs : Int} {counts counts' : RecoveryCounts}
    {row : CommitmentRow}
    (hok : recoverOne ownerId nowMs overdueGraceMs (counts, db) row =
      .ok (counts', db')) : AllRows P db' := by
  have hrequeue : ∀ id, AllRows P (requeueCommitment db ownerId id nowMs) :=
    fun _ => hall.update CommitmentRow.requeued_key hP.requeued
  unfold Commitments.recoverOne at hok
  dsimp only at hok
  split_ifs at hok
  · split at hok
    · obtain ⟨_, houtcome, hok⟩ := of_bind hok
      cases of_pure hok
      exact hP.outcome hall houtcome
    · cases hok
      exact hall
  all_goals first
    | cases hok; exact hall
    | cases hok; exact hP.move hall _ _ _
    | cases hok; exact hrequeue _

/-- What every kind of row change keeps, a step keeps. -/
theorem RowInvariant.step [Host] (hP : RowInvariant P) (step : CommitmentStep)
    (db : CommitmentDb) (hall : AllRows P db) :
    AllRows P (commitmentStep step db) := by
  cases step with
  | persist =>
    refine commit_preserves (P := AllRows P) hall fun _ hok => ?_
    replace hok := passed hok
    obtain ⟨_, _, hok⟩ := of_bind hok
    refine eachOf_preserves (P := AllRows P) (fun _ _ _ hone hall =>
      ?_) hok hall
    unfold persistOne at hone
    split at hone
    · replace hone := passed hone
      cases of_pure hone
      exact hall
    · obtain ⟨_, _, hone⟩ := of_orFault hone
      cases of_pure hone
      exact hall
  | settle =>
    exact eachProposal_keeps (fun _ _ _ _ hok hall => hP.settle hall hok) _ hall
  | recoverPending =>
    refine eachProposal_keeps (fun _ _ _ _ hok hall => ?_) _
      hall
    obtain ⟨_, _, hok⟩ := of_orFault hok
    split at hok
    · cases of_pure hok
      exact hall
    · cases of_pure hok
      exact hall
  | cancelSettlement =>
    refine commit_preserves (P := AllRows P) hall fun _ hok => ?_
    replace hok := passed hok
    cases of_pure hok
    exact hall.update CommitmentRow.cancelledRow_key hP.cancelled
  | claim _ ownerId commitmentId _ _ clockMs =>
    have hclaimed := (tryClaim_tables db ownerId commitmentId clockMs).1
    have hall' : AllRows P (tryClaimRelationshipMotivation db ownerId
        commitmentId clockMs).2 := by
      unfold AllRows
      rw [hclaimed]
      exact hall
    change AllRows P (claimCommitmentOpportunity _ _ _ _ _ _ _).2
    unfold claimCommitmentOpportunity
    split
    · exact hall
    · dsimp only
      split_ifs
      · exact hall
      · exact hall
      · exact hall
      · exact hall'
      · exact hall'.update (CommitmentRow.leased_key _ _) (hP.leased _ _)
      · exact hall'.update (CommitmentRow.leased_key _ _) (hP.leased _ _)
  | recheck =>
    change AllRows P (recheckCommitmentOpportunity _ _ _ _ _ _).2
    unfold recheckCommitmentOpportunity
    split
    · exact hall
    · split
      · exact hP.move hall _ _ _
      · split
        · exact hall
        · exact hall.update (CommitmentRow.deferred_key _) (hP.deferred _)
  | recover =>
    refine commit_preserves (P := AllRows P) hall fun _ hok => ?_
    obtain ⟨_, hok⟩ := snd_ok.mp hok
    exact eachOf_preserves (P := fun progress : RecoveryCounts × CommitmentDb =>
      AllRows P progress.2)
      (fun _ _ _ hone hall => hP.recoverOne hall hone) hok hall
  | reviseTiming =>
    refine commit_preserves (P := AllRows P) hall fun _ hok => ?_
    obtain ⟨_, hok⟩ := snd_ok.mp hok
    unfold reviseCommitmentTiming at hok
    split at hok
    · cases hok
      exact hall
    · replace hok := passed hok
      dsimp only at hok
      split at hok
      · cases of_pure hok
        exact hall.update (CommitmentRow.retimed_key _ _) (hP.retimed _ _)
      · cases of_pure hok
        exact hall
  | revise =>
    change AllRows P (reviseCommitment _ _ _).2
    unfold reviseCommitment
    dsimp only
    split
    · exact hP.move hall _ _ _
    · exact hP.move hall _ _ _
  | relinquish =>
    change AllRows P (relinquishCommitment _ _ _ _).2
    unfold relinquishCommitment
    dsimp only
    split
    · exact hP.move hall _ _ _
    · exact hP.move hall _ _ _
  | outcome =>
    exact commit_preserves (P := AllRows P) hall fun _ hok =>
      hP.outcome hall hok
  | deliver => exact hall

/-- The late behaviour of a row is one that the column may hold. -/
def CommitmentRow.LateKnown (row : CommitmentRow) : Prop :=
  commitmentLateBehaviors.contains row.lateBehavior = true

theorem CommitmentLateBehavior.text_known (behavior : CommitmentLateBehavior) :
    commitmentLateBehaviors.contains behavior.text = true := by
  cases behavior <;> rfl

theorem lateKnown_invariant : RowInvariant CommitmentRow.LateKnown where
  opportunity := fun _ _ _ _ _ => CommitmentLateBehavior.text_known _
  moved := fun _ _ _ hknown => hknown
  cancelled := fun _ hknown => hknown
  leased := fun _ _ _ hknown => hknown
  deferred := fun _ _ hknown => hknown
  requeued := fun _ hknown => hknown
  retimed := fun _ _ _ _ => CommitmentLateBehavior.text_known _

end Rows

section Recovery

/-- A commitment that is listed: active, at its time, and not on a lease. -/
def CommitmentRow.isDue (ownerId : String) (nowMs : Int)
    (row : CommitmentRow) : Bool :=
  row.ownerId = ownerId && row.commitmentState.isActive &&
    row.fireAtMs.all (· ≤ nowMs) &&
    (row.commitmentState ≠ .attempted || row.leaseExpiresAtMs.all (· ≤ nowMs))

/-- The due commitments of an owner, those that fire first first. -/
def listDueCommitmentOpportunities (db : CommitmentDb)
    (reading : CommitmentReading) (ownerId : String) (nowMs : Int)
    (limit : Nat) : List CommitmentOpportunity :=
  ((((db.commitments.rows.filter (CommitmentRow.isDue ownerId nowMs)
    ).insertionSort fun left right =>
      left.fireAtMs.getD 0 ≤ right.fireAtMs.getD 0).take
        (max 1 (min 100 limit))).filterMap (opportunityFromRow reading · nowMs))

/-- The row is past the time at which it is useful. -/
def CommitmentRow.isPast (nowMs : Int) (row : CommitmentRow) : Bool :=
  row.lateBehavior = "expire" && row.latestUsefulAtMs.any (· < nowMs)

/-- What recovery makes of an active commitment with no delivery and no lease
that runs. -/
def CommitmentRow.recovered (nowMs : Int) (row : CommitmentRow) :
    CommitmentRow :=
  if row.isPast nowMs then row.moved .expired "released"
  else if row.commitmentState = .attempted ∧ row.attemptCount < 3 then
    row.requeued
  else row

variable {db db' : CommitmentDb} {ownerId id : String}
  {nowMs overdueGraceMs : Int} {row : CommitmentRow}

variable {commitmentId : String} {reading : CommitmentReading}

theorem moveCommitment_other {guard : CommitmentRow → Bool}
    {state : CommitmentState} {status : String} (hother : commitmentId ≠ id) :
    (moveCommitment db ownerId commitmentId guard state
      status).2.commitments.get? id = db.commitments.get? id := by
  unfold moveCommitment
  rw [get?_update]
  refine map_get?_self fun found hkey => if_neg fun hat => ?_
  exact hother ((isAt_iff.mp hat).2.1.symm.trans hkey)

theorem requeueCommitment_other (hother : commitmentId ≠ id) :
    (requeueCommitment db ownerId commitmentId nowMs).commitments.get? id =
      db.commitments.get? id := by
  unfold requeueCommitment
  rw [get?_update]
  refine map_get?_self fun found hkey => if_neg fun hat => ?_
  exact hother ((isAt_iff.mp hat).2.1.symm.trans hkey)

/-- A delivery with all its receipts completes the commitment, and no other. -/
theorem completedOutcome_ok {receiptCount : Nat} {commitmentId : String}
    (hreceipts : 0 < receiptCount) :
    ∃ after, applyCommitmentDeliveryOutcome db ownerId commitmentId .committed
        none receiptCount = .ok after ∧
      ∀ id, commitmentId ≠ id →
        after.commitments.get? id = db.commitments.get? id := by
  unfold applyCommitmentDeliveryOutcome
  split
  · exact ⟨db, rfl, fun _ _ => rfl⟩
  · rw [if_pos ⟨hreceipts, rfl⟩]
    dsimp only
    split
    · exact ⟨_, rfl, fun _ hother => moveCommitment_other hother⟩
    · exact ⟨_, rfl, fun _ hother => moveCommitment_other hother⟩

/-- Recovery of one commitment raises nothing, and touches no other. -/
theorem recoverOne_other (progress : RecoveryCounts × CommitmentDb) :
    ∃ progress', recoverOne ownerId nowMs overdueGraceMs progress row =
        .ok progress' ∧
      progress'.2.deliveries = progress.2.deliveries ∧
      ∀ id, row.entityUuid ≠ id → progress'.2.commitments.get? id =
        progress.2.commitments.get? id := by
  obtain ⟨counts, db⟩ := progress
  unfold recoverOne
  dsimp only
  split_ifs
  · split
    · rename_i delivery hfound
      have hcomplete := List.find?_some hfound
      have hreceipts : 0 < delivery.receiptCount := by
        unfold DeliveryReservation.isComplete at hcomplete
        simp only [Bool.and_eq_true, decide_eq_true_eq] at hcomplete
        exact Nat.lt_of_lt_of_le hcomplete.1.1 hcomplete.1.2
      obtain ⟨after, hok, hothers⟩ := @completedOutcome_ok db ownerId
        delivery.receiptCount row.entityUuid hreceipts
      rw [hok]
      exact ⟨(counts, after), rfl, applyOutcome_deliveries hok, hothers⟩
    · exact ⟨_, rfl, rfl, fun _ _ => rfl⟩
  all_goals first
    | exact ⟨_, rfl, rfl, fun _ _ => rfl⟩
    | exact ⟨_, rfl, rfl, fun _ hother => moveCommitment_other hother⟩
    | exact ⟨_, rfl, rfl, fun _ hother => requeueCommitment_other hother⟩

/-- Recovery of a commitment that has no delivery under way. -/
theorem recoverOne_own {counts counts' : RecoveryCounts}
    (hstored : findCommitment db ownerId row.entityUuid = some row)
    (hactive : row.commitmentState.isActive = true)
    (hknown : row.LateKnown)
    (hlease : row.leaseExpiresAtMs.all (· ≤ nowMs) = true)
    (hdeliveries : deliveriesOf db ownerId row.entityUuid = [])
    (hok : recoverOne ownerId nowMs overdueGraceMs (counts, db) row =
      .ok (counts', db')) :
    db'.commitments.get? row.entityUuid = some (row.recovered nowMs) := by
  obtain ⟨hget, howner⟩ := findCommitment_some hstored
  have hunleased : row.leaseExpiresAtMs.any (nowMs < ·) = false := by
    cases hat : row.leaseExpiresAtMs with
    | none => rfl
    | some =>
      rw [hat, all_some, decide_eq_true_eq] at hlease
      rw [any_some, decide_eq_false_iff_not]
      exact Int.not_lt.mpr hlease
  have hrequeued : (requeueCommitment db ownerId row.entityUuid
        nowMs).commitments.get? row.entityUuid =
      some (if row.commitmentState = .attempted then row.requeued else row) := by
    unfold requeueCommitment
    rw [get?_update, hget, map_some]
    by_cases hattempted : row.commitmentState = .attempted
    · rw [if_pos hattempted, if_pos]
      exact isAt_iff.mpr ⟨howner, rfl, by simp [hattempted, hlease]⟩
    · rw [if_neg hattempted, if_neg]
      intro hat
      have hguard := (isAt_iff.mp hat).2.2
      simp [hattempted] at hguard
  have hexpired : (moveCommitment db ownerId row.entityUuid
        (·.commitmentState.isActive) .expired "released").2.commitments.get?
          row.entityUuid = some (row.moved .expired "released") := by
    unfold moveCommitment
    rw [get?_update, hget, map_some,
      if_pos (isAt_iff.mpr ⟨howner, rfl, hactive⟩)]
  unfold recoverOne at hok
  dsimp only at hok
  rw [hdeliveries, hknown] at hok
  simp only [ne_eq, not_true_eq_false, if_false, hunleased, Bool.and_false,
    Bool.false_eq_true, Bool.and_true, Bool.not_true, Bool.false_and] at hok
  unfold CommitmentRow.recovered
  by_cases hpast : row.isPast nowMs = true
  · rw [if_pos hpast]
    unfold CommitmentRow.isPast at hpast
    rw [Bool.and_eq_true, decide_eq_true_eq] at hpast
    rw [if_pos hpast] at hok
    cases hok
    split
    · exact hexpired
    · exact hexpired
  have hnot : ¬ (row.lateBehavior = "expire" ∧
      row.latestUsefulAtMs.any (· < nowMs) = true) := by
    intro hall
    refine hpast ?_
    unfold CommitmentRow.isPast
    rw [hall.1, hall.2]
    rfl
  rw [if_neg hpast]
  rw [if_neg hnot] at hok
  by_cases hretries : row.commitmentState = .attempted ∧ row.attemptCount < 3
  · have htest : (decide (row.commitmentState = .attempted) &&
        decide (row.attemptCount < 3)) = true := by simp [hretries]
    rw [if_pos hretries]
    rw [if_pos hretries.1] at hrequeued
    split at hok
    · cases hok
      exact hrequeued
    · cases hok
      exact hrequeued
  · have htest : (decide (row.commitmentState = .attempted) &&
        decide (row.attemptCount < 3)) = false := by
      rw [← Bool.not_eq_true, Bool.and_eq_true, decide_eq_true_eq,
        decide_eq_true_eq]
      exact hretries
    rw [if_neg hretries]
    rw [htest] at hok
    split at hok
    · cases hok
      exact hget
    · cases hok
      exact hget

/-- The loop of a recovery, for one commitment: its own turn recovers it, and
the turns of the others leave it. -/
theorem recoverLoop_row {rows : List CommitmentRow}
    (hnodup : (rows.map (·.entityUuid)).Nodup)
    (hrows : ∀ other ∈ rows, other.entityUuid = row.entityUuid → other = row)
    (hactive : row ∈ rows → row.commitmentState.isActive = true)
    (hknown : row.LateKnown)
    (hlease : row.leaseExpiresAtMs.all (· ≤ nowMs) = true)
    (progress : RecoveryCounts × CommitmentDb)
    (hstored : findCommitment progress.2 ownerId row.entityUuid = some row)
    (hdeliveries : deliveriesOf progress.2 ownerId row.entityUuid = []) :
    ∃ progress', eachOf (recoverOne ownerId nowMs overdueGraceMs) progress
        rows = .ok progress' ∧
      progress'.2.commitments.get? row.entityUuid =
        some (if row ∈ rows then row.recovered nowMs else row) := by
  induction rows generalizing progress with
  | nil =>
    exact ⟨progress, rfl, by
      exact (findCommitment_some hstored).1⟩
  | cons head rest ih =>
    obtain ⟨hnew, hnodup⟩ := nodup_cons.mp hnodup
    obtain ⟨middle, hok, hdelivered, hothers⟩ :=
      @recoverOne_other ownerId nowMs overdueGraceMs head progress
    by_cases hhead : head = row
    · subst hhead
      have hown := recoverOne_own hstored (hactive mem_cons_self) hknown
        hlease hdeliveries hok
      have hlater : ∀ (later : List CommitmentRow)
          (reached : RecoveryCounts × CommitmentDb),
          head.entityUuid ∉ later.map (·.entityUuid) →
          ∃ progress', eachOf (recoverOne ownerId nowMs overdueGraceMs)
              reached later = .ok progress' ∧
            progress'.2.commitments.get? head.entityUuid =
              reached.2.commitments.get? head.entityUuid := by
        intro later
        induction later with
        | nil => exact fun reached _ => ⟨reached, rfl, rfl⟩
        | cons other _ ih' =>
          intro reached hnot
          rw [map_cons, mem_cons, not_or] at hnot
          obtain ⟨next, hnext, _, hkept⟩ :=
            @recoverOne_other ownerId nowMs overdueGraceMs other reached
          obtain ⟨last, hlast, hsame⟩ := ih' next hnot.2
          refine ⟨last, ?_, hsame.trans (hkept _ fun heq => hnot.1 heq.symm)⟩
          rw [eachOf, hnext]
          exact hlast
      obtain ⟨progress', hrest, hsame⟩ := hlater rest middle hnew
      refine ⟨progress', ?_, ?_⟩
      · rw [eachOf, hok]
        exact hrest
      · rw [if_pos mem_cons_self, hsame]
        exact hown
    · have hne : head.entityUuid ≠ row.entityUuid := fun heq =>
        hhead (hrows head mem_cons_self heq)
      have hkept := hothers _ hne
      obtain ⟨progress', hrest, hrow⟩ := ih hnodup
        (fun other hother => hrows other (mem_cons_of_mem _ hother))
        (fun hmem => hactive (mem_cons_of_mem _ hmem)) middle
        (by
          unfold findCommitment
          rw [hkept]
          exact hstored)
        (by
          unfold deliveriesOf
          rw [hdelivered]
          exact hdeliveries)
      refine ⟨progress', ?_, ?_⟩
      · rw [eachOf, hok]
        exact hrest
      · rw [hrow]
        have hmem : row ∈ head :: rest ↔ row ∈ rest := by
          rw [mem_cons]
          exact ⟨fun h => h.resolve_left fun heq => hhead heq.symm, .inr⟩
        by_cases hin : row ∈ rest
        · rw [if_pos hin, if_pos (hmem.mpr hin)]
        · rw [if_neg hin, if_neg (mt hmem.mp hin)]

/-- Recovery of an owner's commitments, for one that has no delivery under way
and no lease that runs. -/
theorem recover_row
    (hstored : findCommitment db ownerId id = some row)
    (hknown : row.LateKnown)
    (hlease : row.leaseExpiresAtMs.all (· ≤ nowMs) = true)
    (hdeliveries : deliveriesOf db ownerId id = []) :
    ∃ counts after, recoverCommitmentOpportunities db ownerId nowMs
        overdueGraceMs = .ok (counts, after) ∧
      findCommitment after ownerId id =
        some (if row.commitmentState.isActive then row.recovered nowMs
          else row) := by
  obtain ⟨hget, howner⟩ := findCommitment_some hstored
  obtain rfl : row.entityUuid = id := key_of_get? hget
  have hmem := mem_of_get? hget
  obtain ⟨⟨counts, after⟩, hok, hrow⟩ := @recoverLoop_row ownerId nowMs
    overdueGraceMs row (db.commitments.rows.filter fun row =>
      row.ownerId = ownerId && row.commitmentState.isActive)
    (db.commitments.keys_nodup.sublist (filter_sublist.map _))
    (fun _ hother => inj_on_of_nodup_map db.commitments.keys_nodup
      (mem_filter.mp hother).1 hmem)
    (fun hlisted => by
      have hguard := (mem_filter.mp hlisted).2
      rw [Bool.and_eq_true] at hguard
      exact hguard.2) hknown hlease ({}, db) hstored hdeliveries
  refine ⟨counts, after, hok, ?_⟩
  have hlisted : row ∈ (db.commitments.rows.filter fun row =>
      row.ownerId = ownerId && row.commitmentState.isActive) ↔
        row.commitmentState.isActive = true := by
    rw [mem_filter, howner]
    simp [hmem]
  have howned : (row.recovered nowMs).ownerId = ownerId := by
    rw [← howner]
    unfold CommitmentRow.recovered
    split
    · rfl
    · split
      · rfl
      · rfl
  unfold findCommitment
  rw [hrow]
  by_cases hactive : row.commitmentState.isActive = true
  · rw [if_pos (hlisted.mpr hactive), if_pos hactive, filter_some,
      if_pos (decide_eq_true howned)]
  · rw [if_neg (mt hlisted.mp hactive), if_neg hactive, filter_some,
      if_pos (decide_eq_true howner)]

/-- The stored proposal of the row can be read back. -/
def CommitmentRow.isReadable (reading : CommitmentReading)
    (row : CommitmentRow) : Bool :=
  row.evidence.any fun evidence =>
    validateCommitmentProposal reading evidence.proposal

theorem opportunityFromRow_isSome :
    (opportunityFromRow reading row nowMs).isSome =
      row.isReadable reading := by
  unfold opportunityFromRow CommitmentRow.isReadable
  cases row.evidence with
  | none => rfl
  | some =>
    rw [any_some]
    dsimp only
    split
    · rename_i hvalid
      rw [hvalid]
      rfl
    · rename_i hinvalid
      rw [Bool.not_eq_true] at hinvalid
      rw [hinvalid]
      rfl

/-- A claim whose motivation is free succeeds on a claimable row with attempts
left that can be read back. -/
theorem claim_succeeds_iff [Host] {leaseMs clockMs : Int}
    (hstored : findCommitment db ownerId id = some row)
    (hfree : (tryClaimRelationshipMotivation db ownerId id clockMs).1 = true) :
    (claimCommitmentOpportunity db reading ownerId id nowMs leaseMs
        clockMs).1.isSome = true ↔
      row.isClaimable nowMs = true ∧ row.attemptCount < 3 ∧
        row.isReadable reading = true := by
  obtain ⟨hget, howner⟩ := findCommitment_some hstored
  have hid : row.entityUuid = id := key_of_get? hget
  have htables := (tryClaim_tables db ownerId id clockMs).1
  unfold claimCommitmentOpportunity
  rw [hstored]
  dsimp only
  rw [hfree, htables]
  by_cases hclaimable : row.isClaimable nowMs = true
  case neg =>
    refine iff_of_false ?_ fun hall => hclaimable hall.1
    have hnone : db.commitments.rows.any (isAt ownerId id
        (CommitmentRow.isClaimable nowMs)) = false := by
      rw [List.any_eq_false]
      intro other hother hat
      have hguard := isAt_iff.mp hat
      have hfound := get?_key hother
      have hkey : key other = id := hguard.2.1
      rw [hkey, hget] at hfound
      cases hfound
      exact hclaimable hguard.2.2
    simp only [hnone, Bool.not_false, if_true]
    split_ifs
    all_goals exact Bool.false_ne_true
  have hactive := CommitmentRow.isClaimable_active hclaimable
  have hunleased : row.leaseExpiresAtMs.any (nowMs < ·) = false := by
    unfold CommitmentRow.isClaimable at hclaimable
    rw [Bool.and_eq_true] at hclaimable
    cases hat : row.leaseExpiresAtMs with
    | none => rfl
    | some =>
      have hlease := hclaimable.2
      rw [hat, all_some, decide_eq_true_eq] at hlease
      rw [any_some, decide_eq_false_iff_not]
      exact Int.not_lt.mpr hlease
  have hsome : db.commitments.rows.any (isAt ownerId id
      (CommitmentRow.isClaimable nowMs)) = true :=
    List.any_eq_true.mpr ⟨row, mem_of_get? hget,
      isAt_iff.mpr ⟨howner, hid, hclaimable⟩⟩
  rw [hactive, hunleased, hsome]
  by_cases hattempts : 3 ≤ row.attemptCount
  · rw [if_neg (by decide), if_pos hattempts]
    exact iff_of_false Bool.false_ne_true
      fun hall => Nat.not_lt.mpr hattempts hall.2.1
  · rw [if_neg (by decide), if_neg hattempts, if_neg (by decide),
      if_neg (by decide), if_neg (by decide), get?_update, hget,
      map_some, if_pos (isAt_iff.mpr ⟨howner, hid, hclaimable⟩),
      bind_some, opportunityFromRow_isSome]
    exact ⟨fun hread => ⟨hclaimable, Nat.not_le.mp hattempts, hread⟩,
      fun hall => hall.2.2⟩

end Recovery

section Due

variable [Host]

/-- A recovered commitment is ended, or can be claimed, exactly when it was
ended or past its use, or has attempts left and a proposal that can be read. -/
theorem due_commitment_moves_iff (steps : List CommitmentStep)
    (reading : CommitmentReading) (ownerId id : String)
    (nowMs overdueGraceMs leaseMs clockMs : Int) (row : CommitmentRow)
    (hstored : findCommitment (run commitmentStep {} steps) ownerId id =
      some row)
    (hlease : row.leaseExpiresAtMs.all (· ≤ nowMs) = true)
    (hdeliveries : deliveriesOf (run commitmentStep {} steps) ownerId id = [])
    (hfree : (tryClaimRelationshipMotivation
      (commitmentStep (.recover ownerId nowMs overdueGraceMs)
        (run commitmentStep {} steps)) ownerId id clockMs).1 = true) :
    ((∃ ended, findCommitment
        (commitmentStep (.recover ownerId nowMs overdueGraceMs)
          (run commitmentStep {} steps)) ownerId id = some ended ∧
        ended.commitmentState.isActive = false) ∨
      (claimCommitmentOpportunity
        (commitmentStep (.recover ownerId nowMs overdueGraceMs)
          (run commitmentStep {} steps)) reading ownerId id nowMs leaseMs
            clockMs).1.isSome = true) ↔
    row.commitmentState.isActive = false ∨ row.isPast nowMs = true ∨
      (row.attemptCount < 3 ∧ row.isReadable reading = true) := by
  have hall : AllRows CommitmentRow.LateKnown (run commitmentStep {} steps) :=
    run_preserves (P := AllRows CommitmentRow.LateKnown)
      lateKnown_invariant.step (fun _ hrow => absurd hrow List.not_mem_nil) steps
  generalize run commitmentStep {} steps = db at *
  have hknown := hall row (mem_of_get? (findCommitment_some hstored).1)
  obtain ⟨_, after, hok, hafter⟩ := @recover_row db ownerId id nowMs
    overdueGraceMs row hstored hknown hlease hdeliveries
  have hstep : commitmentStep (.recover ownerId nowMs overdueGraceMs) db =
      after := by
    change commit db (Prod.snd <$> recoverCommitmentOpportunities db ownerId
      nowMs overdueGraceMs) = after
    rw [hok]
    rfl
  rw [hstep] at hfree ⊢
  rw [claim_succeeds_iff hafter hfree, hafter]
  by_cases hactive : row.commitmentState.isActive = true
  case neg =>
    rw [if_neg hactive]
    rw [Bool.not_eq_true] at hactive
    exact iff_of_true (.inl ⟨row, rfl, hactive⟩) (.inl hactive)
  rw [if_pos hactive]
  by_cases hpast : row.isPast nowMs = true
  · have hexpired : row.recovered nowMs = row.moved .expired "released" :=
      if_pos hpast
    rw [hexpired]
    exact iff_of_true (.inl ⟨_, rfl, rfl⟩) (.inr (.inl hpast))
  have hkept : (row.recovered nowMs).commitmentState.isActive = true ∧
      (row.recovered nowMs).attemptCount = row.attemptCount ∧
      (row.recovered nowMs).isReadable reading = row.isReadable reading ∧
      (row.attemptCount < 3 → (row.recovered nowMs).isClaimable nowMs = true) := by
    unfold CommitmentRow.recovered
    rw [if_neg hpast]
    by_cases hretries : row.commitmentState = .attempted ∧ row.attemptCount < 3
    · rw [if_pos hretries]
      refine ⟨rfl, rfl, ?_, fun _ => rfl⟩
      unfold CommitmentRow.isReadable CommitmentRow.requeued
      cases row.evidence with
      | none | some => rfl
    · rw [if_neg hretries]
      refine ⟨hactive, rfl, rfl, fun hattempts => ?_⟩
      have hnot : row.commitmentState ≠ .attempted := fun hattempted =>
        hretries ⟨hattempted, hattempts⟩
      unfold CommitmentRow.isClaimable
      rw [hlease]
      cases hstate : row.commitmentState with
      | attempted => exact absurd hstate hnot
      | admitted | communicated | deferredBlocked => rfl
      | _ => rw [hstate] at hactive; cases hactive
  obtain ⟨hstill, hattempts, hread, hclaimable⟩ := hkept
  rw [hattempts, hread]
  constructor
  · rintro (⟨_, hended, hinactive⟩ | ⟨_, hleft, hreadable⟩)
    · cases hended
      rw [hstill] at hinactive
      cases hinactive
    · exact .inr (.inr ⟨hleft, hreadable⟩)
  · rintro (hinactive | hgone | ⟨hleft, hreadable⟩)
    · rw [hactive] at hinactive
      cases hinactive
    · exact absurd hgone hpast
    · exact .inr ⟨hclaimable hleft, hleft, hreadable⟩

end Due

section Exhausted

attribute [local instance] plainHost

/-- A promise is admitted and claimed three times, each time after the lease of
the last attempt has run out and recovery has requeued it. -/
def claimedThrice : List CommitmentStep :=
  [.persist {} "settlement" [promise],
    .settle {} "settlement" { nowMs := 1000, enabled := true },
    .claim {} "owner" promiseId 2000 300000 2000,
    .recover "owner" 400000 900000,
    .claim {} "owner" promiseId 400000 300000 400000,
    .recover "owner" 800000 900000,
    .claim {} "owner" promiseId 800000 300000 800000]

/-- After the third attempt the promise stays listed as due, and no recovery
ends it or lets it be claimed. -/
theorem exhausted_commitment_stays_due :
    (listDueCommitmentOpportunities
      (commitmentStep (.recover "owner" 1200000 900000)
        (run commitmentStep {} claimedThrice)) {} "owner" 1200000 20).map
          (·.commitmentId) = [promiseId] ∧
    ¬ ∀ steps ownerId id nowMs overdueGraceMs leaseMs clockMs row,
      findCommitment (run commitmentStep {} steps) ownerId id = some row →
      row.fireAtMs.all (· ≤ nowMs) = true →
      row.leaseExpiresAtMs.all (· ≤ nowMs) = true →
      deliveriesOf (run commitmentStep {} steps) ownerId id = [] →
      (tryClaimRelationshipMotivation
        (commitmentStep (.recover ownerId nowMs overdueGraceMs)
          (run commitmentStep {} steps)) ownerId id clockMs).1 = true →
      (∃ ended, findCommitment
          (commitmentStep (.recover ownerId nowMs overdueGraceMs)
            (run commitmentStep {} steps)) ownerId id = some ended ∧
          ended.commitmentState.isActive = false) ∨
        (claimCommitmentOpportunity
          (commitmentStep (.recover ownerId nowMs overdueGraceMs)
            (run commitmentStep {} steps)) {} ownerId id nowMs leaseMs
              clockMs).1.isSome = true := by
  refine ⟨by decide +kernel, fun hall => ?_⟩
  have hstored : ∃ row, findCommitment (run commitmentStep {} claimedThrice)
      "owner" promiseId = some row ∧ row.attemptCount = 3 ∧
        row.fireAtMs = some 2000 ∧ row.leaseExpiresAtMs = some 1100000 := by
    refine ⟨(findCommitment (run commitmentStep {} claimedThrice) "owner"
      promiseId).get (by decide +kernel), Option.some_get _ |>.symm,
      by decide +kernel, by decide +kernel, by decide +kernel⟩
  obtain ⟨row, hrow, _, hfire, hlease⟩ := hstored
  rcases hall claimedThrice "owner" promiseId 1200000 900000 300000 1200000 row
    hrow (by rw [hfire]; rfl) (by rw [hlease]; rfl) (by decide +kernel)
    (by decide +kernel) with ⟨_, hended, hinactive⟩ | hclaimed
  · have hactive : (findCommitment
        (commitmentStep (.recover "owner" 1200000 900000)
          (run commitmentStep {} claimedThrice)) "owner" promiseId).map
            (·.commitmentState.isActive) = some true := by
      decide +kernel
    rw [hended, Option.map_some, hinactive] at hactive
    cases hactive
  · revert hclaimed
    decide +kernel

/-- A promise whose first lease has run out is claimed again after recovery. -/
theorem claimed_once_moves :
    (claimCommitmentOpportunity
      (commitmentStep (.recover "owner" 400000 900000)
        (run commitmentStep {} (claimedThrice.take 3))) {} "owner" promiseId
          400000 300000 400000).1.isSome = true := by
  have hstored : ∃ row, findCommitment
      (run commitmentStep {} (claimedThrice.take 3)) "owner" promiseId =
        some row ∧ row.attemptCount = 1 ∧ row.isReadable {} = true ∧
          row.leaseExpiresAtMs = some 302000 := by
    refine ⟨(findCommitment (run commitmentStep {} (claimedThrice.take 3))
      "owner" promiseId).get (by decide +kernel), Option.some_get _ |>.symm,
      by decide +kernel, by decide +kernel, by decide +kernel⟩
  obtain ⟨row, hrow, hattempts, hreadable, hlease⟩ := hstored
  rcases (due_commitment_moves_iff (claimedThrice.take 3) {} "owner" promiseId
    400000 900000 300000 400000 row hrow (by rw [hlease]; rfl)
    (by decide +kernel) (by decide +kernel)).mpr
      (.inr (.inr ⟨by rw [hattempts]; decide, hreadable⟩)) with
    ⟨_, hended, hinactive⟩ | hclaimed
  · have hactive : (findCommitment
        (commitmentStep (.recover "owner" 400000 900000)
          (run commitmentStep {} (claimedThrice.take 3))) "owner"
            promiseId).map (·.commitmentState.isActive) = some true := by
      decide +kernel
    rw [hended, Option.map_some, hinactive] at hactive
    cases hactive
  · exact hclaimed

end Exhausted

end CognitiveSidecar.Commitments
