/-
Coordinators over the frontier ledger.  A coordinator claims a due frontier,
runs a turn, and completes the frontier when the turn ends; the completion
names the frontier only, not the claim it was made under.
-/
import CognitiveSidecar.FrontierRuns
import Mathlib.Data.List.Pairwise

namespace CognitiveSidecar

open Option List Relational

/-- A turn that a coordinator runs under its claim. -/
structure Turn where
  (frontierId claimToken : String)
  attemptCount : Nat
deriving DecidableEq

/-- The tables, and the turns that have not ended. -/
structure Coordination where
  db : Sidecar := {}
  turns : List Turn := []

/-- How a coordinator completes a frontier. -/
inductive Completion
  | resolve
  | exhaust (terminalReason : Option String)
  | reschedule (nextEligibleAtMs : Int)

def Completion.op (completion : Completion) (frontierId : String)
    (nowMs : Int) : FrontierOp :=
  match completion with
  | .resolve => .resolve frontierId nowMs
  | .exhaust terminalReason => .exhaust frontierId nowMs terminalReason
  | .reschedule nextEligibleAtMs =>
    .reschedule frontierId nextEligibleAtMs nowMs

inductive CoordinationOp
  | insert (input : CreateDeferredFrontierInput)
  | advance (frontierId evidenceRowId : String) (nowMs : Int)
  | claim (frontierId claimToken : String) (leaseMs nowMs : Int)
  | complete (ended : Turn) (completion : Completion) (nowMs : Int)

section Coordinators

variable [Host]

def coordinationStep (op : CoordinationOp) (world : Coordination) :
    Coordination :=
  match op with
  | .insert input => { world with db := frontierStep (.insert input) world.db }
  | .advance frontierId evidenceRowId nowMs =>
    { world with
      db := frontierStep (.advance frontierId evidenceRowId nowMs) world.db }
  | .claim frontierId claimToken leaseMs nowMs =>
    let outcome :=
      claimDueDeferredFrontier world.db frontierId claimToken leaseMs nowMs
    { db := outcome.2
      turns := match outcome.1 with
        | some row => ⟨frontierId, claimToken, row.attemptCount⟩ :: world.turns
        | none => world.turns }
  | .complete ended completion nowMs =>
    if ended ∈ world.turns then
      { db := frontierStep (completion.op ended.frontierId nowMs) world.db
        turns := world.turns.erase ended }
    else world

/-- A completed frontier, unless it is settled already, has not been claimed
again since the claim of the turn. -/
def CoordinationOp.Unreclaimed (op : CoordinationOp) (world : Coordination) :
    Prop :=
  match op with
  | .complete ended _ _ => ended ∈ world.turns →
      ∀ row, world.db.frontiers.get? ended.frontierId = some row →
        row.isActive = true → row.attemptCount = ended.attemptCount
  | _ => True

/-- A turn counts at most as many claims as its frontier, and holds the frontier
as long as it is active and not claimed again. -/
structure Turn.Holds (db : Sidecar) (turn : Turn) (row : Frontier) : Prop where
  stored : db.frontiers.get? turn.frontierId = some row
  counted : turn.attemptCount ≤ row.attemptCount
  current : row.isActive = true → turn.attemptCount = row.attemptCount →
    row.state = .running ∧ row.claimToken = some turn.claimToken

/-- Every turn in progress was granted by a claim of its own. -/
structure Coordinated (world : Coordination) : Prop where
  holds : ∀ turn ∈ world.turns, ∃ row, turn.Holds world.db row
  distinct : world.turns.Pairwise fun first second =>
    first.frontierId = second.frontierId →
      first.attemptCount ≠ second.attemptCount

section Rows

variable {db after : Sidecar}
variable {frontierId k : String} {row : Frontier}
variable {guard : Frontier → Bool} {f : Frontier → Frontier} {nowMs : Int}
variable {hkey : ∀ row, key (f row) = key row}

omit [Host] in
theorem get?_updateFrontier (k : String) :
    (db.updateFrontier frontierId guard f hkey).frontiers.get? k =
      (db.frontiers.get? k).map fun row =>
        if k = frontierId ∧ guard row = true then f row else row := by
  rw [Sidecar.updateFrontier, get?_update]
  exact map_get?_congr fun row (hid : row.frontierId = k) => by simp [hid]

/-- What completing one frontier does to its row: nothing once it is settled,
and its claims stay counted. -/
structure Completes (old new : Frontier) : Prop where
  settled : old.isActive = false → new = old
  attemptCount : new.attemptCount = old.attemptCount

omit [Host] in
theorem updateFrontier_completes
    (hguard : ∀ row, guard row = true → row.isActive = true)
    (hcount : ∀ row, (f row).attemptCount = row.attemptCount)
    (hrow : db.frontiers.get? k = some row) :
    ∃ row', (db.updateFrontier frontierId guard f hkey).frontiers.get? k =
        some row' ∧ Completes row row' ∧ (k ≠ frontierId → row' = row) := by
  refine ⟨if k = frontierId ∧ guard row = true then f row else row, ?_, ?_, ?_⟩
  · rw [get?_updateFrontier, hrow]
    rfl
  · split
    · rename_i hboth
      refine ⟨?_, hcount row⟩
      intro hinactive
      rw [hguard row hboth.2] at hinactive
      cases hinactive
    · exact ⟨fun _ => rfl, rfl⟩
  · intro hk
    rw [if_neg fun hboth => hk hboth.1]

theorem frontierStep_completes {completion : Completion}
    (hrow : db.frontiers.get? k = some row) :
    ∃ row', (frontierStep (completion.op frontierId nowMs) db).frontiers.get? k =
        some row' ∧ Completes row row' ∧ (k ≠ frontierId → row' = row) := by
  have hexhaust : ∀ terminalReason, ∃ row',
      (exhaustDeferredFrontier db frontierId nowMs
        terminalReason).frontiers.get? k = some row' ∧ Completes row row' ∧
        (k ≠ frontierId → row' = row) := by
    intro _
    refine updateFrontier_completes (fun _ hactive => hactive) ?_ hrow
    intro _
    rfl
  cases completion with
  | resolve =>
    refine updateFrontier_completes ?_ ?_ hrow
    · intro _ hrunning
      exact Frontier.isActive_iff.mpr (.inr (of_decide_eq_true hrunning))
    · intro _
      rfl
  | exhaust terminalReason => exact hexhaust terminalReason
  | reschedule nextEligibleAtMs =>
    unfold frontierStep
    cases hperform : performFrontier
        (Completion.op (.reschedule nextEligibleAtMs) frontierId nowMs) db with
    | error =>
      exact ⟨row, hrow, ⟨fun _ => rfl, rfl⟩, fun _ => rfl⟩
    | ok =>
      obtain ⟨_, hok⟩ := snd_ok.mp hperform
      obtain ⟨_, _, hok⟩ := of_orFault hok
      replace hok := passed hok
      split at hok
      · cases of_pure hok
        exact hexhaust _
      split at hok
      · cases of_pure hok
        exact hexhaust _
      · cases of_pure hok
        refine updateFrontier_completes (fun _ hactive => hactive) ?_ hrow
        intro _
        rfl

theorem frontierStep_insert_keeps {input : CreateDeferredFrontierInput}
    (hrow : db.frontiers.get? k = some row) :
    (frontierStep (.insert input) db).frontiers.get? k = some row := by
  unfold frontierStep
  cases hperform : performFrontier (.insert input) db with
  | error => exact hrow
  | ok =>
    obtain ⟨_, hok⟩ := snd_ok.mp hperform
    exact get?_insert_of_some
      (insertDeferredFrontierRecord_opens hok).2 hrow

theorem frontierStep_advance_row {evidenceRowId : String}
    (hrow : db.frontiers.get? k = some row) :
    ∃ row', (frontierStep (.advance frontierId evidenceRowId nowMs)
        db).frontiers.get? k = some row' ∧ row'.state = row.state ∧
      row'.claimToken = row.claimToken ∧
      row'.attemptCount = row.attemptCount ∧
      row'.nextEligibleAtMs = row.nextEligibleAtMs := by
  refine ⟨_, (get?_updateFrontier k).trans (by rw [hrow, map_some]), ?_⟩
  split
  · exact ⟨rfl, rfl, rfl, rfl⟩
  · exact ⟨rfl, rfl, rfl, rfl⟩

omit [Host] in
/-- A granted claim: its frontier runs under the token, one more claim
counted. -/
theorem claimDueDeferredFrontier_cases {frontierId claimToken : String}
    {leaseMs nowMs : Int} :
    claimDueDeferredFrontier db frontierId claimToken leaseMs nowMs =
        (none, db) ∨
      ∃ old new, db.frontiers.get? frontierId = some old ∧
        (claimDueDeferredFrontier db frontierId claimToken leaseMs nowMs).1 =
          some new ∧
        new.attemptCount = old.attemptCount + 1 ∧ new.state = .running ∧
        new.claimToken = some claimToken ∧
        new.nextEligibleAtMs = old.nextEligibleAtMs ∧
        ∀ k, (claimDueDeferredFrontier db frontierId claimToken leaseMs
          nowMs).2.frontiers.get? k =
          if k = frontierId then some new else db.frontiers.get? k := by
  unfold claimDueDeferredFrontier getDeferredFrontier
  cases hrow : db.frontiers.get? frontierId with
  | none => exact .inl rfl
  | some old =>
    rw [any_some]
    cases hdue : old.isDue nowMs with
    | false => exact .inl rfl
    | true =>
      refine .inr ⟨old, { old with
        state := .running
        claimToken := some claimToken
        leaseExpiresAtMs := some (nowMs + leaseMs)
        attemptCount := old.attemptCount + 1
        updatedAtMs := nowMs }, rfl, ?_, rfl, rfl, rfl, rfl, ?_⟩
      · simp [get?_updateFrontier, hrow, hdue]
      · intro k
        simp only [if_true, get?_updateFrontier]
        by_cases hk : k = frontierId
        · rw [hk, hrow, map_some, if_pos ⟨rfl, hdue⟩, if_pos rfl]
        · rw [if_neg hk]
          cases db.frontiers.get? k with
          | none => rfl
          | some =>
            rw [map_some, if_neg fun hboth => hk hboth.1]

end Rows

section Runs

variable {world : Coordination}

omit [Host] in
theorem Coordinated.nodup (hworld : Coordinated world) :
    world.turns.Nodup := by
  refine hworld.distinct.imp ?_
  rintro _ _ hdiffer rfl
  exact hdiffer rfl rfl

omit [Host] in
theorem Coordinated.counts_ne (hworld : Coordinated world) {first second : Turn}
    (hfirst : first ∈ world.turns) (hsecond : second ∈ world.turns)
    (hne : first ≠ second) (hid : first.frontierId = second.frontierId) :
    first.attemptCount ≠ second.attemptCount := by
  have hsymm : Std.Symm fun first second : Turn =>
      first.frontierId = second.frontierId →
        first.attemptCount ≠ second.attemptCount :=
    ⟨fun _ _ hab heq => (hab heq.symm).symm⟩
  exact hworld.distinct.forall hfirst hsecond hne hid

omit [Host] in
theorem Turn.Holds.keep {db after : Sidecar} {turn : Turn} {row row' : Frontier}
    (hholds : turn.Holds db row)
    (hrow' : after.frontiers.get? turn.frontierId = some row')
    (hstate : row'.state = row.state) (htoken : row'.claimToken = row.claimToken)
    (hcount : row'.attemptCount = row.attemptCount) :
    turn.Holds after row' where
  stored := hrow'
  counted := by
    rw [hcount]
    exact hholds.counted
  current := by
    intro hactive hsame
    rw [hstate, htoken]
    refine hholds.current ?_ (by rw [hsame, hcount])
    simpa [Frontier.isActive, hstate] using hactive

variable {op : CoordinationOp}

/-- Under the condition, every turn in progress stays granted by a claim of its
own. -/
theorem coordinationStep_coordinated (hunreclaimed : op.Unreclaimed world)
    (hworld : Coordinated world) :
    Coordinated (coordinationStep op world) := by
  cases op with
  | insert =>
    refine ⟨?_, hworld.distinct⟩
    intro turn hturn
    obtain ⟨row, hholds⟩ := hworld.holds turn hturn
    exact ⟨row, hholds.keep (frontierStep_insert_keeps hholds.stored) rfl rfl
      rfl⟩
  | advance frontierId evidenceRowId nowMs =>
    refine ⟨?_, hworld.distinct⟩
    intro turn hturn
    obtain ⟨_, hholds⟩ := hworld.holds turn hturn
    obtain ⟨row', hrow', hstate, htoken, hcount, _⟩ :
        ∃ row', (frontierStep (.advance frontierId evidenceRowId nowMs)
          world.db).frontiers.get? turn.frontierId = some row' ∧ _ :=
      frontierStep_advance_row hholds.stored
    exact ⟨row', hholds.keep hrow' hstate htoken hcount⟩
  | claim frontierId claimToken leaseMs nowMs =>
    change Coordinated { db := _, turns := _ }
    rcases @claimDueDeferredFrontier_cases world.db frontierId claimToken
      leaseMs nowMs with hnone | ⟨_, new, hold, hclaimed, _, hrunning,
        htoken, _, hrows⟩
    · rw [hnone]
      exact hworld
    simp only [hclaimed]
    have hnew : (claimDueDeferredFrontier world.db frontierId claimToken
        leaseMs nowMs).2.frontiers.get? frontierId = some new := by
      rw [hrows, if_pos rfl]
    -- Turns granted before count fewer claims of this frontier.
    have hfewer : ∀ turn ∈ world.turns, turn.frontierId = frontierId →
        turn.attemptCount < new.attemptCount := by
      intro turn hturn hid
      obtain ⟨_, hholds⟩ := hworld.holds turn hturn
      have hstored := hholds.stored
      rw [hid, hold] at hstored
      cases hstored
      have hcounted := hholds.counted
      omega
    refine ⟨?_, ?_⟩
    · intro turn hturn
      rcases mem_cons.mp hturn with rfl | hturn
      · exact ⟨new, hnew, Nat.le_refl _, fun _ _ => ⟨hrunning, htoken⟩⟩
      · obtain ⟨row, hholds⟩ := hworld.holds turn hturn
        by_cases hid : turn.frontierId = frontierId
        · have hless := hfewer turn hturn hid
          refine ⟨new, by rw [hid]; exact hnew, Nat.le_of_lt hless, ?_⟩
          omega
        · refine ⟨row, hholds.keep ?_ rfl rfl rfl⟩
          rw [hrows, if_neg hid]
          exact hholds.stored
    · refine pairwise_cons.mpr ⟨?_, hworld.distinct⟩
      intro turn hturn hid hsame
      have hless := hfewer turn hturn hid.symm
      change new.attemptCount = turn.attemptCount at hsame
      omega
  | complete ended completion nowMs =>
    by_cases hin : ended ∈ world.turns
    · rw [coordinationStep, if_pos hin]
      refine ⟨?_, hworld.distinct.sublist erase_sublist⟩
      intro other hother
      have hotherIn : other ∈ world.turns := mem_of_mem_erase hother
      have hne : other ≠ ended := by
        rintro rfl
        exact (hworld.nodup.mem_erase_iff.mp hother).1 rfl
      obtain ⟨row, hholds⟩ := hworld.holds other hotherIn
      obtain ⟨row', hrow', hcompletes, hkept⟩ : ∃ row', (frontierStep
          (completion.op ended.frontierId nowMs) world.db).frontiers.get?
            other.frontierId = some row' ∧ _ :=
        frontierStep_completes hholds.stored
      by_cases hid : other.frontierId = ended.frontierId
      · by_cases hactive : row.isActive = true
        · -- The completed turn holds the last claim; this one is older.
          have hcount : row.attemptCount = ended.attemptCount := by
            refine hunreclaimed hin row ?_ hactive
            rw [← hid]
            exact hholds.stored
          have hdiffer := hworld.counts_ne hotherIn hin hne hid
          have hcounted := hholds.counted
          refine ⟨row', hrow', ?_, ?_⟩
          · rw [hcompletes.attemptCount]
            exact hcounted
          · intro _ hsame
            rw [hcompletes.attemptCount] at hsame
            omega
        · rw [hcompletes.settled (Bool.eq_false_iff.mpr hactive)] at hrow'
          exact ⟨row, hholds.keep hrow' rfl rfl rfl⟩
      · rw [hkept hid] at hrow'
        exact ⟨row, hholds.keep hrow' rfl rfl rfl⟩
    · rw [coordinationStep, if_neg hin]
      exact hworld

/-- A step respects the fence: a completion changes only the running frontier
that still carries the claim token of its turn, and nothing else completes a
frontier. -/
structure RespectsFence (op : CoordinationOp) (world : Coordination) :
    Prop where
  completes : ∀ ended completion nowMs, op = .complete ended completion nowMs →
    ∀ id row, world.db.frontiers.get? id = some row →
    (coordinationStep op world).db.frontiers.get? id ≠ some row →
    id = ended.frontierId ∧ row.state = .running ∧
      row.claimToken = some ended.claimToken
  leaves : (∀ ended completion nowMs, op ≠ .complete ended completion nowMs) →
    ∀ id row, world.db.frontiers.get? id = some row →
    ∃ row', (coordinationStep op world).db.frontiers.get? id = some row' ∧
      (row'.state = row.state ∨ row'.state = .running) ∧
      row'.nextEligibleAtMs = row.nextEligibleAtMs

theorem coordinationStep_respectsFence (hunreclaimed : op.Unreclaimed world)
    (hworld : Coordinated world) :
    RespectsFence op world := by
  refine ⟨?_, ?_⟩
  · rintro ended completion nowMs rfl id row hrow hchanged
    by_cases hin : ended ∈ world.turns
    · rw [coordinationStep, if_pos hin] at hchanged
      obtain ⟨row', hrow', hcompletes, hkept⟩ : ∃ row', (frontierStep
          (completion.op ended.frontierId nowMs) world.db).frontiers.get? id =
            some row' ∧ _ := frontierStep_completes hrow
      have hne : row' ≠ row := fun hsame => hchanged (by rw [hrow', hsame])
      have hid : id = ended.frontierId := not_not.mp fun hid => hne (hkept hid)
      have hactive : row.isActive = true := by
        cases hactive : row.isActive with
        | true => rfl
        | false => exact absurd (hcompletes.settled hactive) hne
      rw [hid] at hrow
      have hcount := hunreclaimed hin row hrow hactive
      obtain ⟨_, hholds⟩ := hworld.holds ended hin
      cases hrow.symm.trans hholds.stored
      exact ⟨hid, hholds.current hactive hcount.symm⟩
    · rw [coordinationStep, if_neg hin] at hchanged
      exact absurd hrow hchanged
  · intro hother id row hrow
    cases op with
    | insert =>
      exact ⟨row, frontierStep_insert_keeps hrow, .inl rfl, rfl⟩
    | advance frontierId evidenceRowId nowMs =>
      obtain ⟨row', hrow', hstate, _, _, hnext⟩ :
          ∃ row', (frontierStep (.advance frontierId evidenceRowId nowMs)
            world.db).frontiers.get? id = some row' ∧ _ :=
        frontierStep_advance_row hrow
      exact ⟨row', hrow', .inl hstate, hnext⟩
    | claim frontierId claimToken leaseMs nowMs =>
      change ∃ row', (claimDueDeferredFrontier world.db frontierId claimToken
        leaseMs nowMs).2.frontiers.get? id = some row' ∧ _
      rcases @claimDueDeferredFrontier_cases world.db frontierId claimToken
        leaseMs nowMs with hnone | ⟨_, new, hold, _, _, hrunning, _, hnext,
          hrows⟩
      · rw [hnone]
        exact ⟨row, hrow, .inl rfl, rfl⟩
      · rw [hrows]
        by_cases hid : id = frontierId
        · rw [hid, hold] at hrow
          cases hrow
          exact ⟨new, if_pos hid, .inr hrunning, hnext⟩
        · exact ⟨row, by rw [if_neg hid]; exact hrow, .inl rfl, rfl⟩
    | complete ended completion nowMs =>
      exact absurd rfl (hother ended completion nowMs)

omit [Host] in
theorem coordinated_empty : Coordinated {} where
  holds := by
    intro _ hturn
    cases hturn
  distinct := .nil

end Runs

end Coordinators

section Plain

attribute [local instance] plainHost

/-- A frontier is scheduled and claimed, and the first coordinator's lease runs
out. -/
def claimedTwice : List CoordinationOp :=
  [.insert
      { conversationId := "c", cycleId := "cycle", generation := 1
        nextEligibleAtMs := 5000, latestEvidenceRowId := "row", nowMs := 0 },
    .claim "u" "first" 30000 6000,
    .claim "u" "second" 30000 40000]

end Plain

end CognitiveSidecar
