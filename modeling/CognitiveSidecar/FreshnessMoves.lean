/-
The freshness operations as steps on one cycle, and the moves that they make:
the references that each of them absorbs and the attempt ids that it gives.
-/
import CognitiveSidecar.Freshness
import CognitiveSidecar.TrimmedText

namespace CognitiveSidecar.Freshness

open List Relational

/-- The references that a call finds new. -/
def freshRefs (seen : List String) (rows : List FreshEvidenceRow) :
    List String :=
  (uniqueFreshEvidenceRows seen rows).map freshEvidenceRef

theorem freshEvidenceRef_renamed (row : FreshEvidenceRow) :
    freshEvidenceRef { row with evidenceRowId := some (freshEvidenceRef row) } =
      freshEvidenceRef row :=
  trim_trim _

theorem freshRefs_cons (seen : List String) (row : FreshEvidenceRow)
    (rest : List FreshEvidenceRow) :
    freshRefs seen (row :: rest) =
      if freshEvidenceRef row = "" ∨ freshEvidenceRef row ∈ seen then
        freshRefs seen rest
      else freshEvidenceRef row ::
        freshRefs (freshEvidenceRef row :: seen) rest := by
  simp only [freshRefs, uniqueFreshEvidenceRows]
  split
  · rfl
  · rw [map_cons, freshEvidenceRef_renamed]

/-- A new reference is a trimmed text that has not been seen. -/
theorem mem_freshRefs {seen : List String} {rows : List FreshEvidenceRow}
    {ref : String} (href : ref ∈ freshRefs seen rows) :
    ref ∉ seen ∧ ref ≠ "" ∧ trim ref = ref := by
  induction rows generalizing seen with
  | nil => cases href
  | cons _ _ ih =>
    rw [freshRefs_cons] at href
    split at href
    · exact ih href
    · rename_i hnew
      obtain ⟨hblank, hseen⟩ := not_or.mp hnew
      rcases mem_cons.mp href with rfl | hrest
      · exact ⟨hseen, hblank, trim_trim _⟩
      · obtain ⟨hother, htrimmed⟩ := ih hrest
        exact ⟨fun hmem => hother (mem_cons_of_mem _ hmem), htrimmed⟩

theorem freshRefs_nodup (seen : List String) (rows : List FreshEvidenceRow) :
    (freshRefs seen rows).Nodup := by
  induction rows generalizing seen with
  | nil => exact nodup_nil
  | cons _ _ ih =>
    rw [freshRefs_cons]
    split
    · exact ih seen
    · refine nodup_cons.mpr ⟨?_, ih _⟩
      exact fun hmem => (mem_freshRefs hmem).1 mem_cons_self

section Basis

variable [Host] {evidence : String → Option EvidenceFacts}
variable {projectionVersion : Option String} {basis : AttemptInputBasis}

/-- A basis reads the references of its rows, in their order. -/
theorem basisFromEvidenceRows_refs {rows : List FreshEvidenceRow}
    (hbasis : basisFromEvidenceRows evidence rows projectionVersion =
      .ok basis) :
    basis.orderedRefs = (rows.map freshEvidenceRef).filter (· ≠ "") := by
  replace hbasis := passed hbasis
  obtain ⟨⟨_, _⟩, _, hbasis⟩ := of_bind hbasis
  cases of_pure hbasis
  rfl

/-- The references that a first attempt starts from, or that the attempt
reads. -/
def FreshCycle.knownRefs (row : FreshCycle) : List String :=
  match row.attemptInputBasis with
  | some basis => basis.orderedRefs
  | none => row.composeLogIds.filter (· ≠ "")

/-- New evidence joins the end of what the attempt reads. -/
theorem appendAttemptBasis_refs {row : FreshCycle}
    {newRows : List FreshEvidenceRow} {seen : List String}
    (hwake : named row.wakeId = true)
    (hlog : ∀ id ∈ row.composeLogIds, trim id = id)
    (hseen : ∀ ref ∈ row.knownRefs, ref ∈ seen)
    (hbasis : appendAttemptBasis row evidence
      (uniqueFreshEvidenceRows seen newRows) projectionVersion = .ok basis) :
    basis.orderedRefs = row.knownRefs ++ freshRefs seen newRows := by
  obtain ⟨incoming, hincoming, hbasis⟩ := of_bind hbasis
  have hrefs : incoming.orderedRefs = freshRefs seen newRows := by
    rw [basisFromEvidenceRows_refs hincoming]
    refine filter_eq_self.mpr fun _ href => ?_
    simpa using (mem_freshRefs href).2.1
  have hjoin : ∀ known : List String, (∀ ref ∈ known, ref ∈ seen) →
      (freshRefs seen newRows).filter (· ∉ known) =
        freshRefs seen newRows := by
    intro _ hknown
    refine filter_eq_self.mpr fun ref href => ?_
    have hnew := (mem_freshRefs href).1
    simpa using fun hmem => hnew (hknown ref hmem)
  cases hstored : row.attemptInputBasis with
  | some base =>
    rw [hstored] at hbasis
    cases of_pure hbasis
    have hknown : row.knownRefs = base.orderedRefs := by
      rw [FreshCycle.knownRefs, hstored]
    rw [hknown] at hseen ⊢
    simp only [AttemptInputBasis.joined, hrefs]
    rw [hjoin _ hseen]
  | none =>
    rw [hstored] at hbasis
    have hknown : row.knownRefs = row.composeLogIds.filter (· ≠ "") := by
      rw [FreshCycle.knownRefs, hstored]
    rw [hknown] at hseen ⊢
    simp only [hwake, if_true] at hbasis
    split at hbasis
    · rename_i hempty
      cases of_pure hbasis
      rw [hrefs, hempty]
      rfl
    · obtain ⟨existing, hexisting, hbasis⟩ := of_bind hbasis
      cases of_pure hbasis
      have hlogged : existing.orderedRefs =
          row.composeLogIds.filter (· ≠ "") := by
        rw [basisFromEvidenceRows_refs hexisting, map_map]
        congr 1
        exact (map_congr_left hlog).trans (map_id _)
      simp only [AttemptInputBasis.joined, hrefs, hlogged]
      rw [hjoin _ hseen]

end Basis

/-- The operations on the freshness of a cycle. -/
inductive FreshnessOp
  | initializeBasis (basis : AttemptInputBasis) (attemptId : Option String)
      (nowMs : Int)
  | absorb (evidence : String → Option EvidenceFacts)
      (rows : List FreshEvidenceRow) (options : FreshnessAbsorbOptions)
  | preempt (recordsCancellation : Bool) (nowMs : Int)
  | resume (nowMs : Int)
  | hardInvalidate (reason : Option String) (recordsCancellation : Bool)
      (nowMs : Int)

/-- What an outcome commits; a refused operation leaves the row. -/
def committedRow {α : Type} (row : FreshCycle)
    (outcome : Except FreshnessFault (α × FreshCycle)) : FreshCycle :=
  match outcome with
  | .ok (_, after) => after
  | .error _ => row

def freshnessStep [Host] (op : FreshnessOp) (row : FreshCycle) : FreshCycle :=
  match op with
  | .initializeBasis basis attemptId nowMs =>
    committedRow row (initializeAttemptInputBasis row basis attemptId nowMs)
  | .absorb evidence rows options =>
    committedRow row
      (absorbFreshMessagesInTransaction row evidence rows options)
  | .preempt recordsCancellation nowMs =>
    committedRow row
      (preemptExternalAttemptInTransaction row recordsCancellation nowMs)
  | .resume nowMs => committedRow row (resumeExternalAttempt row nowMs)
  | .hardInvalidate reason recordsCancellation nowMs =>
    committedRow row
      (hardInvalidateInTransaction row reason recordsCancellation nowMs)

/-- The references that an operation absorbs: the new ones of an absorption
that is neither refused nor a hard invalidation. -/
def FreshnessOp.absorbs [Host] (row : FreshCycle) : FreshnessOp → List String
  | .absorb evidence rows options =>
    match absorbFreshMessagesInTransaction row evidence rows options with
    | .ok (result, _) =>
      if result.kind = .hardInvalidated then []
      else freshRefs ((row.attemptInputBasis.map (·.orderedRefs)).getD
        row.composeLogIds) rows
    | .error _ => []
  | _ => []

def FreshnessKind.begins : FreshnessKind → Bool
  | .started | .superseded | .resumed => true
  | .queued | .hardInvalidated | .ownerPreempted => false

/-- The attempt id that an outcome gives to a new attempt. -/
def begunBy (outcome : FreshnessOutcome) : List String :=
  match outcome with
  | .ok (result, after) =>
    if result.kind.begins then after.attemptId.toList else []
  | .error _ => []

/-- The attempt id that an operation gives to a new attempt. -/
def FreshnessOp.begins [Host] (row : FreshCycle) : FreshnessOp → List String
  | .initializeBasis basis attemptId nowMs =>
    match initializeAttemptInputBasis row basis attemptId nowMs with
    | .ok (true, after) => (after.attemptId.filter (· ≠ "")).toList
    | _ => []
  | .absorb evidence rows options =>
    begunBy (absorbFreshMessagesInTransaction row evidence rows options)
  | .preempt recordsCancellation nowMs =>
    begunBy
      (preemptExternalAttemptInTransaction row recordsCancellation nowMs)
  | .resume nowMs => begunBy (resumeExternalAttempt row nowMs)
  | .hardInvalidate reason recordsCancellation nowMs =>
    begunBy (hardInvalidateInTransaction row reason recordsCancellation nowMs)

/-- The references that a run absorbs, in their order. -/
def absorbedRefs [Host] (row : FreshCycle) : List FreshnessOp → List String
  | [] => []
  | op :: rest => op.absorbs row ++ absorbedRefs (freshnessStep op row) rest

/-- The attempt ids that a run takes, in their order. -/
def attemptIds [Host] (row : FreshCycle) : List FreshnessOp → List String
  | [] => []
  | op :: rest => op.begins row ++ attemptIds (freshnessStep op row) rest

namespace FreshCycle

def queue (row : FreshCycle) : List String := row.pendingQueue.getD []

def basisRefs (row : FreshCycle) : List String :=
  (row.attemptInputBasis.map (·.orderedRefs)).getD []

/-- What every operation leaves readable: the counter is in its range, the
queue and the compose log hold trimmed references, and an attempt has a
basis. -/
structure Readable (row : FreshCycle) : Prop where
  counter : counterValid row.supersessionsUsed = true
  stored : row.pendingQueue = some row.queue
  queued : ∀ item ∈ row.queue, item ≠ "" ∧ trim item = item
  log : ∀ id ∈ row.composeLogIds, trim id = id
  basis : named row.attemptId = true → row.attemptInputBasis.isSome = true

variable {row row' : FreshCycle}

theorem Readable.parsed (hrow : row.Readable) :
    parsePendingQueue row.pendingQueue = some row.queue := by
  rw [hrow.stored, parsePendingQueue, Option.bind_some, if_pos]
  · congr 1
    exact (map_congr_left fun item hitem =>
      (hrow.queued item hitem).2).trans (map_id _)
  · rw [all_eq_true]
    intro item hitem
    obtain ⟨hblank, htrimmed⟩ := hrow.queued item hitem
    simpa [htrimmed] using hblank

/-- A readable row is read as it is stored. -/
theorem Readable.read (hrow : row.Readable) :
    cycleFreshnessFromRow row =
      { attemptId := row.attemptId, attemptInputBasis := row.attemptInputBasis
        supersessionsUsed := row.supersessionsUsed, pendingQueue := row.queue
        disposition := row.disposition
        integrity := .valid } := by
  have hbasis : (named row.attemptId && row.attemptInputBasis.isNone) =
      false := by
    cases hnamed : named row.attemptId with
    | false => rfl
    | true =>
      have hsome := hrow.basis hnamed
      cases hstored : row.attemptInputBasis with
      | none =>
        rw [hstored] at hsome
        cases hsome
      | some => rfl
  unfold cycleFreshnessFromRow
  rw [hrow.parsed, hrow.counter, hbasis]
  rfl

/-- What a write leaves of a readable row. -/
theorem Readable.written (hrow : row.Readable) {input : FreshnessWrite}
    (hwrite : writeFreshnessStateInTransaction row input = .ok row') :
    row' = { row with
      attemptId := input.attemptId.or row.attemptId
      attemptInputBasis := input.attemptInputBasis.or row.attemptInputBasis
      supersessionsUsed :=
        input.supersessionsUsed.getD row.supersessionsUsed
      pendingQueue := some (input.pendingQueue.getD row.queue)
      disposition := input.disposition.getD row.disposition
      state := input.state.getD row.state, updatedAtMs := input.nowMs } ∧
    counterValid (input.supersessionsUsed.getD row.supersessionsUsed) = true := by
  unfold writeFreshnessStateInTransaction at hwrite
  rw [hrow.read] at hwrite
  obtain ⟨hcounter, hwrite⟩ := of_require hwrite
  replace hwrite := passed hwrite
  replace hwrite := passed hwrite
  cases of_pure hwrite
  exact ⟨rfl, hcounter⟩

/-- New references that are readable keep the compose log readable. -/
theorem Readable.logged (hrow : row.Readable) {refs : List String}
    (hrefs : ∀ ref ∈ refs, ref ≠ "" ∧ trim ref = ref) {nowMs : Int} :
    Readable { row with
      composeLogIds := (row.composeLogIds ++ refs.filter (· ≠ "")).eraseDups
      updatedAtMs := nowMs } :=
  { hrow with
    log := by
      intro id hid
      rw [mem_eraseDups, mem_append] at hid
      rcases hid with hid | hid
      · exact hrow.log id hid
      · exact (hrefs id (mem_filter.mp hid).1).2 }

end FreshCycle

/-- References that a cycle does not know yet. -/
structure NewRefs (row : FreshCycle) (refs : List String) : Prop where
  unknown : ∀ ref ∈ refs, ref ∉ row.knownRefs
  readable : ∀ ref ∈ refs, ref ≠ "" ∧ trim ref = ref
  nodup : refs.Nodup

/-- What one operation does to the evidence of a cycle: the references that it
absorbs and the attempt ids that it gives. -/
inductive FreshnessMove (row : FreshCycle) :
    List String → List String → FreshCycle → Prop
  | still : FreshnessMove row [] [] row
  | marked (state : CycleState) (disposition : Option String) (nowMs : Int) :
      FreshnessMove row [] []
        { row with
          pendingQueue := some row.queue, state, disposition
          updatedAtMs := nowMs }
  | initialized (basis : AttemptInputBasis) (attemptId : String) (nowMs : Int)
      (hidle : named row.attemptId = false) :
      FreshnessMove row [] ((some attemptId).filter (· ≠ "")).toList
        { row with
          attemptId := some attemptId, attemptInputBasis := some basis
          pendingQueue := some row.queue, updatedAtMs := nowMs }
  | started (basis : AttemptInputBasis) (refs : List String)
      (disposition : Option String) (nowMs : Int)
      (hidle : named row.attemptId = false) (hnew : NewRefs row refs)
      (hbasis : basis.orderedRefs = row.knownRefs ++ refs) :
      FreshnessMove row refs [attemptIdFor row.cycleId 1]
        { row with
          attemptId := some (attemptIdFor row.cycleId 1)
          attemptInputBasis := some basis, pendingQueue := some row.queue
          composeLogIds :=
            (row.composeLogIds ++ refs.filter (· ≠ "")).eraseDups
          state := .thinking, disposition, updatedAtMs := nowMs }
  | queued (refs : List String) (nowMs : Int)
      (hnamed : named row.attemptId = true) (hused : 2 ≤ row.supersessionsUsed)
      (hnew : NewRefs row refs) :
      FreshnessMove row refs []
        { row with
          pendingQueue := some (queueWith row.queue refs)
          updatedAtMs := nowMs }
  | superseded (basis : AttemptInputBasis) (refs : List String)
      (disposition : Option String) (nowMs : Int)
      (hnamed : named row.attemptId = true) (hused : row.supersessionsUsed < 2)
      (hnew : NewRefs row refs)
      (hbasis : basis.orderedRefs = row.knownRefs ++ refs) :
      FreshnessMove row refs [nextAttemptId row.cycleId row.attemptId]
        { row with
          attemptId := some (nextAttemptId row.cycleId row.attemptId)
          attemptInputBasis := some basis
          supersessionsUsed := row.supersessionsUsed + 1
          pendingQueue := some row.queue
          composeLogIds :=
            (row.composeLogIds ++ refs.filter (· ≠ "")).eraseDups
          state := .thinking, disposition, updatedAtMs := nowMs }
  | resumed (disposition : Option String) (nowMs : Int)
      (hbasis : row.attemptInputBasis.isSome = true) :
      FreshnessMove row [] [nextAttemptId row.cycleId row.attemptId]
        { row with
          attemptId := some (nextAttemptId row.cycleId row.attemptId)
          pendingQueue := some row.queue, state := .thinking, disposition
          updatedAtMs := nowMs }

section Operations

variable {row row' : FreshCycle} {result : FreshnessAttemptResult}

theorem getCycle_ok {cycle : FreshCycle} (hcycle : getCycle row = .ok cycle) :
    row = cycle ∧ named row.wakeId = true := by
  obtain ⟨hwake, hcycle⟩ := of_require hcycle
  exact ⟨of_pure hcycle, hwake⟩

variable {nowMs : Int}

variable {recordsCancellation : Bool}

theorem hardInvalidateInTransaction_move (hrow : row.Readable)
    {reason : Option String}
    (hok : hardInvalidateInTransaction row reason recordsCancellation nowMs =
      .ok (result, row')) :
    result.kind = .hardInvalidated ∧ FreshnessMove row [] [] row' := by
  obtain ⟨_, hcycle, hok⟩ := of_bind hok
  obtain ⟨rfl, _⟩ := getCycle_ok hcycle
  replace hok := passed hok
  obtain ⟨_, hwrite, hok⟩ := of_bind hok
  obtain ⟨_, hcycle', hok⟩ := of_bind hok
  obtain ⟨rfl, _⟩ := getCycle_ok hcycle'
  cases of_pure hok
  obtain ⟨rfl, _⟩ := hrow.written hwrite
  exact ⟨rfl, .marked _ _ _⟩

theorem preemptExternalAttemptInTransaction_move (hrow : row.Readable)
    (hok : preemptExternalAttemptInTransaction row recordsCancellation nowMs =
      .ok (result, row')) :
    result.kind = .ownerPreempted ∧ FreshnessMove row [] [] row' := by
  obtain ⟨_, hcycle, hok⟩ := of_bind hok
  obtain ⟨rfl, _⟩ := getCycle_ok hcycle
  replace hok := passed hok
  replace hok := passed hok
  obtain ⟨_, hwrite, hok⟩ := of_bind hok
  obtain ⟨_, hcycle', hok⟩ := of_bind hok
  obtain ⟨rfl, _⟩ := getCycle_ok hcycle'
  cases of_pure hok
  obtain ⟨rfl, _⟩ := hrow.written hwrite
  exact ⟨rfl, .marked _ _ _⟩

theorem resumeExternalAttempt_move (hrow : row.Readable)
    (hok : resumeExternalAttempt row nowMs = .ok (result, row')) :
    FreshnessMove row [] (begunBy (.ok (result, row'))) row' := by
  obtain ⟨_, hcycle, hok⟩ := of_bind hok
  obtain ⟨rfl, _⟩ := getCycle_ok hcycle
  replace hok := passed hok
  rw [hrow.read] at hok
  dsimp only at hok
  split at hok
  · cases of_pure hok
    exact .still
  · rename_i hbasis
    obtain ⟨_, hwrite, hok⟩ := of_bind hok
    obtain ⟨_, hcycle', hok⟩ := of_bind hok
    obtain ⟨rfl, _⟩ := getCycle_ok hcycle'
    cases of_pure hok
    obtain ⟨rfl, _⟩ := hrow.written hwrite
    refine .resumed _ _ ?_
    cases hstored : row.attemptInputBasis with
    | none => simp [hstored] at hbasis
    | some => rfl

variable [Host]
variable {basis : AttemptInputBasis} {evidence : String → Option EvidenceFacts}
variable {rows : List FreshEvidenceRow}

theorem initializeAttemptInputBasis_move (hrow : row.Readable)
    {attemptId : Option String} {stored : Bool}
    (hok : initializeAttemptInputBasis row basis attemptId nowMs =
      .ok (stored, row')) :
    FreshnessMove row [] (if stored then
      (row'.attemptId.filter (· ≠ "")).toList else []) row' := by
  obtain ⟨_, _, hok⟩ := of_bind hok
  rw [hrow.read] at hok
  dsimp only at hok
  split at hok
  · obtain ⟨_, _, hok⟩ := of_bind hok
    replace hok := passed hok
    cases of_pure hok
    exact .still
  · rename_i hnone
    obtain ⟨_, hwrite, hok⟩ := of_bind hok
    cases of_pure hok
    have hidle : named row.attemptId = false := by
      by_contra hnamed
      rw [Bool.not_eq_false] at hnamed
      obtain ⟨_, hold⟩ := Option.isSome_iff_exists.mp (hrow.basis hnamed)
      rw [hold, hnamed] at hnone
      simp at hnone
    obtain ⟨rfl, _⟩ := hrow.written hwrite
    exact .initialized basis _ nowMs hidle

omit [Host] in
/-- The references that an absorption finds new are not known. -/
theorem freshRefs_new (row : FreshCycle) (rows : List FreshEvidenceRow) :
    NewRefs row (freshRefs ((row.attemptInputBasis.map (·.orderedRefs)).getD
      row.composeLogIds) rows) where
  unknown := by
    intro _ href hknown
    refine (mem_freshRefs href).1 ?_
    unfold FreshCycle.knownRefs at hknown
    cases hstored : row.attemptInputBasis with
    | some =>
      rw [hstored] at hknown
      exact hknown
    | none =>
      rw [hstored] at hknown
      exact (mem_filter.mp hknown).1
  readable := fun _ href => (mem_freshRefs href).2
  nodup := freshRefs_nodup _ rows

/-- The references of a basis that an absorption builds. -/
theorem absorbed_basis (hrow : row.Readable) (hwake : named row.wakeId = true)
    {projectionVersion : Option String}
    (hbasis : appendAttemptBasis row evidence (uniqueFreshEvidenceRows
      ((row.attemptInputBasis.map (·.orderedRefs)).getD row.composeLogIds)
      rows) projectionVersion = .ok basis) :
    basis.orderedRefs = row.knownRefs ++
      freshRefs ((row.attemptInputBasis.map (·.orderedRefs)).getD
        row.composeLogIds) rows := by
  refine appendAttemptBasis_refs hwake hrow.log (fun _ hknown => ?_) hbasis
  unfold FreshCycle.knownRefs at hknown
  cases hstored : row.attemptInputBasis with
  | some =>
    rw [hstored] at hknown
    exact hknown
  | none =>
    rw [hstored] at hknown
    exact (mem_filter.mp hknown).1

omit [Host] in
theorem appendCycleLogIds_ok {logIds : List String}
    (hok : appendCycleLogIds row logIds nowMs = .ok row') :
    row' = { row with
      composeLogIds := (row.composeLogIds ++ logIds.filter (· ≠ "")).eraseDups
      updatedAtMs := nowMs } := by
  obtain ⟨_, hcycle, hok⟩ := of_bind hok
  obtain ⟨rfl, _⟩ := getCycle_ok hcycle
  exact (of_pure hok).symm

/-- The first attempt reads the new evidence, the next two replace it, and then
the evidence waits. -/
theorem absorbFreshMessagesInTransaction_move (hrow : row.Readable)
    {options : FreshnessAbsorbOptions}
    (hok : absorbFreshMessagesInTransaction row evidence rows options =
      .ok (result, row')) :
    FreshnessMove row
      (if result.kind = .hardInvalidated then []
        else freshRefs ((row.attemptInputBasis.map (·.orderedRefs)).getD
          row.composeLogIds) rows)
      (begunBy (.ok (result, row'))) row' := by
  obtain ⟨_, hcycle, hok⟩ := of_bind hok
  obtain ⟨rfl, hwake⟩ := getCycle_ok hcycle
  cases hinvalid : options.hardInvalidation with
  | some =>
    rw [hinvalid] at hok
    obtain ⟨hkind, hmove⟩ := hardInvalidateInTransaction_move hrow hok
    rw [if_pos hkind]
    have hbegun : begunBy (.ok (result, row')) = [] := by
      rw [begunBy, hkind]
      rfl
    rw [hbegun]
    exact hmove
  | none =>
  rw [hinvalid, hrow.read] at hok
  dsimp only at hok
  replace hok := passed hok
  replace hok := passed hok
  have hnew := freshRefs_new row rows
  split at hok
  · rename_i hidle
    obtain ⟨basis, hbasis, hok⟩ := of_bind hok
    obtain ⟨_, hwrite, hok⟩ := of_bind hok
    obtain ⟨_, hlog, hok⟩ := of_bind hok
    cases of_pure hok
    obtain ⟨rfl, _⟩ := hrow.written hwrite
    cases appendCycleLogIds_ok hlog
    exact .started basis _ _ _ hidle hnew (absorbed_basis hrow hwake hbasis)
  rename_i hnamed
  rw [Bool.not_eq_false] at hnamed
  split at hok
  · rename_i hmissing
    have hsome := hrow.basis hnamed
    rcases hmissing with hnone | hmissing
    · rw [Option.isNone_iff_eq_none] at hnone
      rw [hnone] at hsome
      cases hsome
    · cases hmissing
  simp only [reduceCtorEq, if_false] at hok
  split at hok
  · rename_i hused
    obtain ⟨_, hwrite, hok⟩ := of_bind hok
    cases of_pure hok
    obtain ⟨rfl, _⟩ := hrow.written hwrite
    exact .queued _ _ hnamed hused hnew
  · obtain ⟨basis, hbasis, hok⟩ := of_bind hok
    obtain ⟨_, hlog, hok⟩ := of_bind hok
    obtain ⟨_, hwrite, hok⟩ := of_bind hok
    cases of_pure hok
    cases appendCycleLogIds_ok hlog
    obtain ⟨rfl, _⟩ := (hrow.logged hnew.readable).written hwrite
    exact .superseded basis _ _ _ hnamed (by omega) hnew
      (absorbed_basis hrow hwake hbasis)

/-- Every operation makes one such move. -/
theorem freshnessStep_move (hrow : row.Readable) (op : FreshnessOp) :
    FreshnessMove row (op.absorbs row) (op.begins row)
      (freshnessStep op row) := by
  cases op with
  | initializeBasis basis attemptId nowMs =>
    unfold FreshnessOp.absorbs FreshnessOp.begins freshnessStep
    dsimp only
    cases hok : initializeAttemptInputBasis row basis attemptId nowMs with
    | error => exact .still
    | ok answer =>
      obtain ⟨stored, _⟩ := answer
      have hmove := initializeAttemptInputBasis_move hrow hok
      cases stored <;> exact hmove
  | absorb evidence rows options =>
    unfold FreshnessOp.absorbs FreshnessOp.begins freshnessStep
    dsimp only
    cases hok : absorbFreshMessagesInTransaction row evidence rows options with
    | error => exact .still
    | ok => exact absorbFreshMessagesInTransaction_move hrow hok
  | preempt recordsCancellation nowMs =>
    unfold FreshnessOp.absorbs FreshnessOp.begins freshnessStep
    dsimp only
    cases hok : preemptExternalAttemptInTransaction row recordsCancellation
        nowMs with
    | error => exact .still
    | ok =>
      obtain ⟨hkind, hmove⟩ :=
        preemptExternalAttemptInTransaction_move hrow hok
      rw [begunBy, hkind]
      exact hmove
  | resume nowMs =>
    unfold FreshnessOp.absorbs FreshnessOp.begins freshnessStep
    dsimp only
    cases hok : resumeExternalAttempt row nowMs with
    | error => exact .still
    | ok => exact resumeExternalAttempt_move hrow hok
  | hardInvalidate reason recordsCancellation nowMs =>
    unfold FreshnessOp.absorbs FreshnessOp.begins freshnessStep
    dsimp only
    cases hok : hardInvalidateInTransaction row reason recordsCancellation
        nowMs with
    | error => exact .still
    | ok =>
      obtain ⟨hkind, hmove⟩ := hardInvalidateInTransaction_move hrow hok
      rw [begunBy, hkind]
      exact hmove

end Operations

end CognitiveSidecar.Freshness
