/-
Runs of the freshness operations on one cycle: where absorbed evidence is, and
which attempt ids the cycle takes.
-/
import CognitiveSidecar.FreshnessMoves
import CognitiveSidecar.Lib.Order
import CognitiveSidecar.Lib.Run

namespace CognitiveSidecar.Freshness

variable {row : FreshCycle}

open List Relational

theorem eraseDups_of_nodup {refs : List String} (hnodup : refs.Nodup) :
    refs.eraseDups = refs := by
  induction refs with
  | nil => rfl
  | cons ref rest ih =>
    obtain ⟨hnew, hrest⟩ := nodup_cons.mp hnodup
    have hkept : rest.filter (fun other => !other == ref) = rest := by
      refine filter_eq_self.mpr fun other hother => ?_
      have hne : other ≠ ref := fun heq => hnew (heq ▸ hother)
      simpa using hne
    rw [eraseDups_cons, hkept, ih hrest]

theorem named_attemptIdFor (cycleId : String) (ordinal : Nat) :
    named (some (attemptIdFor cycleId ordinal)) = true := by
  have hne : attemptIdFor cycleId ordinal ≠ "" := by
    intro heq
    have hlength := congrArg String.length heq
    rw [attemptIdFor, String.length_append, String.length_append,
      String.length_append] at hlength
    have hfixed : ("attempt:" : String).length = 8 := by decide
    have hempty : ("" : String).length = 0 := by decide
    omega
  simpa [named] using hne

/-- Where the evidence that was absorbed so far is: after what the first
attempt started from, each reference once, in the order of absorption. -/
structure Conserves (taken : List String) (row : FreshCycle) : Prop where
  readable : row.Readable
  idle : named row.attemptId = false → taken = [] ∧ row.queue = []
  waiting : row.queue ≠ [] → row.supersessionsUsed = 2
  evidence : ∃ base, (∀ ref ∈ taken, ref ∉ base) ∧
    (∀ ref ∈ base, ref ∈ row.basisRefs) ∧
    row.basisRefs ++ row.queue = base ++ taken.eraseDups

section Conservation

variable {row row' : FreshCycle} {taken refs ids : List String}

theorem FreshCycle.Readable.knownRefs_eq (hrow : row.Readable)
    (hnamed : named row.attemptId = true) : row.knownRefs = row.basisRefs := by
  obtain ⟨_, hbasis⟩ := Option.isSome_iff_exists.mp (hrow.basis hnamed)
  rw [FreshCycle.knownRefs, FreshCycle.basisRefs, hbasis]
  rfl

theorem mem_queueWith {queue : List String} {ref : String}
    (href : ref ∈ queueWith queue refs) : ref ∈ queue ∨ ref ∈ refs := by
  rcases mem_append.mp href with hqueue | hrefs
  · exact .inl hqueue
  · exact .inr (mem_filter.mp hrefs).1

theorem FreshnessMove.readable (hmove : FreshnessMove row refs ids row')
    (hrow : row.Readable) : row'.Readable := by
  cases hmove with
  | still => exact hrow
  | marked =>
    exact ⟨hrow.counter, rfl, hrow.queued, hrow.log, hrow.basis⟩
  | initialized =>
    exact ⟨hrow.counter, rfl, hrow.queued, hrow.log, fun _ => rfl⟩
  | started _ refs _ nowMs _ hnew =>
    exact ⟨hrow.counter, rfl, hrow.queued,
      (@FreshCycle.Readable.logged row hrow refs hnew.readable nowMs).log,
      fun _ => rfl⟩
  | queued _ _ _ _ hnew =>
    refine ⟨hrow.counter, rfl, fun item hitem => ?_, hrow.log, hrow.basis⟩
    rcases mem_queueWith hitem with hold | hadded
    · exact hrow.queued item hold
    · exact hnew.readable item hadded
  | superseded _ refs _ nowMs _ _ hnew =>
    have hcounter := hrow.counter
    refine ⟨?_, rfl, hrow.queued,
      (@FreshCycle.Readable.logged row hrow refs hnew.readable nowMs).log,
      fun _ => rfl⟩
    simp only [counterValid, Bool.and_eq_true, decide_eq_true_eq]
      at hcounter ⊢
    omega
  | resumed _ _ hbasis =>
    exact ⟨hrow.counter, rfl, hrow.queued, hrow.log, fun _ => hbasis⟩

/-- The budget that is used never decreases. -/
theorem FreshnessMove.counter_le (hmove : FreshnessMove row refs ids row') :
    row.supersessionsUsed ≤ row'.supersessionsUsed := by
  cases hmove with
  | superseded =>
    exact Int.le_add_one (Int.le_refl _)
  | still | marked | initialized | started | queued | resumed =>
    exact Int.le_refl _

/-- References that were not taken follow those that were. -/
theorem eraseDups_append_new (hnew : ∀ ref ∈ refs, ref ∉ taken)
    (hnodup : refs.Nodup) :
    (taken ++ refs).eraseDups = taken.eraseDups ++ refs := by
  have hkept : refs.removeAll taken = refs := by
    refine filter_eq_self.mpr fun ref href => ?_
    simpa using hnew ref href
  rw [eraseDups_append, hkept, eraseDups_of_nodup hnodup]

theorem FreshnessMove.conserves (hmove : FreshnessMove row refs ids row')
    (hrow : Conserves taken row) : Conserves (taken ++ refs) row' := by
  have hreadable := hmove.readable hrow.readable
  obtain ⟨base, hapart, hbase, hevidence⟩ := hrow.evidence
  cases hmove with
  | still =>
    rw [append_nil]
    exact hrow
  | marked state disposition nowMs =>
    rw [append_nil]
    exact ⟨hreadable, hrow.idle, hrow.waiting, base, hapart, hbase, hevidence⟩
  | initialized basis attemptId nowMs hidle =>
    obtain ⟨rfl, hqueue⟩ := hrow.idle hidle
    refine ⟨hreadable, fun _ => ⟨rfl, hqueue⟩, hrow.waiting,
      basis.orderedRefs, fun _ href => absurd href not_mem_nil,
      fun _ href => href, ?_⟩
    exact congrArg (basis.orderedRefs ++ ·) hqueue
  | started basis refs disposition nowMs hidle hnew hbasis =>
    obtain ⟨rfl, hqueue⟩ := hrow.idle hidle
    refine ⟨hreadable, fun hother => ?_, hrow.waiting, row.knownRefs,
      hnew.unknown, fun ref href => ?_, ?_⟩
    · cases hother
    · change ref ∈ basis.orderedRefs
      rw [hbasis]
      exact mem_append_left _ href
    · change basis.orderedRefs ++ row.queue = _
      rw [hqueue, hbasis, append_nil, nil_append,
        eraseDups_of_nodup hnew.nodup]
  | queued refs nowMs hnamed hused hnew =>
    have hknown := hrow.readable.knownRefs_eq hnamed
    refine ⟨hreadable, fun hother => ?_, fun _ => ?_, base, ?_, hbase, ?_⟩
    · rw [show named row.attemptId = false from hother] at hnamed
      cases hnamed
    · have hcounter := hrow.readable.counter
      simp only [counterValid, Bool.and_eq_true, decide_eq_true_eq]
        at hcounter
      exact Int.le_antisymm hcounter.2 hused
    · intro ref href hmem
      rcases mem_append.mp href with hold | hadded
      · exact hapart ref hold hmem
      · exact hnew.unknown ref hadded (hknown ▸ hbase ref hmem)
    · -- What is new and was taken before waits in the queue already.
      have htaken : ∀ ref ∈ refs, (ref ∈ taken ↔ ref ∈ row.queue) := by
        intro ref href
        have hother : ref ∉ row.basisRefs := hknown ▸ hnew.unknown ref href
        have hsame : ref ∈ row.basisRefs ++ row.queue ↔
            ref ∈ base ++ taken.eraseDups := by rw [hevidence]
        rw [mem_append, mem_append, mem_eraseDups] at hsame
        constructor
        · intro hmem
          exact (hsame.mpr (.inr hmem)).resolve_left hother
        · intro hmem
          exact (hsame.mp (.inr hmem)).resolve_left
            fun hbased => hother (hbase ref hbased)
      have hadded : refs.removeAll taken =
          refs.filter (· ∉ row.queue) := by
        refine filter_congr fun ref href => ?_
        simp [htaken ref href]
      change row.basisRefs ++ (row.queue ++ refs.filter (· ∉ row.queue)) = _
      rw [eraseDups_append, hadded, eraseDups_of_nodup
        (hnew.nodup.sublist filter_sublist), ← append_assoc,
        hevidence, append_assoc]
  | superseded basis refs disposition nowMs hnamed hused hnew hbasis =>
    have hqueue : row.queue = [] := by
      by_contra hwaiting
      have hspent := hrow.waiting hwaiting
      omega
    have hknown := hrow.readable.knownRefs_eq hnamed
    have hread : row.basisRefs = base ++ taken.eraseDups := by
      rw [← hevidence, hqueue, append_nil]
    rw [hknown] at hbasis
    refine ⟨hreadable, fun hother => ?_, fun hwaiting => ?_, base, ?_, ?_, ?_⟩
    · cases hother
    · exact absurd hqueue hwaiting
    · intro ref href hmem
      rcases mem_append.mp href with hold | hadded
      · exact hapart ref hold hmem
      · exact hnew.unknown ref hadded (hknown ▸ hbase ref hmem)
    · intro ref hmem
      change ref ∈ basis.orderedRefs
      rw [hbasis]
      exact mem_append_left _ (hbase ref hmem)
    · have hadded : ∀ ref ∈ refs, ref ∉ taken := by
        intro ref href hmem
        refine hnew.unknown ref href ?_
        rw [hknown, hread]
        exact mem_append_right _ (mem_eraseDups.mpr hmem)
      change basis.orderedRefs ++ row.queue = _
      rw [eraseDups_append_new hadded hnew.nodup, hqueue, hbasis, hread,
        append_nil, append_assoc]
  | resumed disposition nowMs hbasis =>
    rw [append_nil]
    refine ⟨hreadable, fun hother => ?_, hrow.waiting, base, hapart, hbase,
      hevidence⟩
    cases hother

/-- What a run absorbs is conserved at its end. -/
theorem run_conserves [Host] (ops : List FreshnessOp)
    (hrow : Conserves taken row) :
    Conserves (taken ++ absorbedRefs row ops) (run freshnessStep row ops) := by
  induction ops generalizing row taken with
  | nil =>
    rw [absorbedRefs, append_nil]
    exact hrow
  | cons op _ ih =>
    rw [absorbedRefs, ← append_assoc]
    exact ih ((freshnessStep_move hrow.readable op).conserves hrow)

theorem run_counter_le [Host] (ops : List FreshnessOp) (hrow : row.Readable) :
    row.supersessionsUsed ≤ (run freshnessStep row ops).supersessionsUsed := by
  induction ops generalizing row with
  | nil => exact Int.le_refl _
  | cons op _ ih =>
    have hmove := freshnessStep_move hrow op
    exact Int.le_trans hmove.counter_le (ih (hmove.readable hrow))

end Conservation

section Attempts

/-- The ordinal of an attempt id is read back. -/
theorem attemptOrdinal_attemptIdFor (cycleId : String) (ordinal : Nat) :
    attemptOrdinal (attemptIdFor cycleId ordinal) = some ordinal := by
  have hdigits : ∀ c ∈ (Nat.toDigits 10 ordinal).reverse, c.isDigit = true :=
    fun c hc => Nat.isDigit_of_mem_toDigits (by decide) (by decide)
      (mem_reverse.mp hc)
  have hchars : (attemptIdFor cycleId ordinal).toList.reverse =
      (Nat.toDigits 10 ordinal).reverse ++
        ':' :: ("attempt:" ++ cycleId).toList.reverse := by
    rw [attemptIdFor, String.toList_append, String.toList_append,
      reverse_append, reverse_append]
    rw [show (toString ordinal).toList = Nat.toDigits 10 ordinal from
      Nat.toList_repr]
    rfl
  have htake : List.takeWhile (·.isDigit)
      (attemptIdFor cycleId ordinal).toList.reverse =
        (Nat.toDigits 10 ordinal).reverse := by
    rw [hchars, takeWhile_append_of_pos hdigits]
    exact append_nil _
  have hdrop : List.dropWhile (·.isDigit)
      (attemptIdFor cycleId ordinal).toList.reverse =
        ':' :: ("attempt:" ++ cycleId).toList.reverse := by
    rw [hchars, dropWhile_append_of_pos hdigits]
    rfl
  unfold attemptOrdinal
  dsimp only
  rw [htake, hdrop, if_pos ⟨by simp [Nat.toDigits_ne_nil], rfl⟩,
    reverse_reverse, Nat.ofDigitChars_ten_toDigits]

variable {cycleId : String}

variable {second : Nat}

theorem attemptIdFor_injective {first : Nat}
    (hsame : attemptIdFor cycleId first = attemptIdFor cycleId second) :
    first = second := by
  have hordinal := congrArg attemptOrdinal hsame
  rw [attemptOrdinal_attemptIdFor, attemptOrdinal_attemptIdFor] at hordinal
  exact Option.some.inj hordinal

/-- The ordinal that is reached from another one after some attempts. -/
def rotated (ordinal count : Nat) : Nat :=
  (ordinal - 1 + count) % maxSafeInteger + 1

theorem nextOrdinal_range (previous : Option Nat) :
    1 ≤ nextOrdinal previous ∧ nextOrdinal previous ≤ maxSafeInteger := by
  have hsafe : 1 ≤ maxSafeInteger := by decide
  cases previous with
  | none => exact ⟨Nat.le_refl 1, hsafe⟩
  | some =>
    unfold nextOrdinal
    dsimp only
    split
    · rename_i hnext
      exact ⟨Nat.le_add_left _ _, hnext⟩
    · exact ⟨Nat.le_refl 1, hsafe⟩

variable {ordinal : Nat}

theorem rotated_zero (hpos : 1 ≤ ordinal) (hsafe : ordinal ≤ maxSafeInteger) :
    rotated ordinal 0 = ordinal := by
  unfold rotated
  rw [Nat.mod_eq_of_lt (by omega)]
  omega

/-- An attempt takes the ordinal after the last one. -/
theorem nextOrdinal_rotated (ordinal count : Nat) :
    nextOrdinal (some (rotated ordinal count)) =
      rotated ordinal (count + 1) := by
  unfold nextOrdinal rotated
  dsimp only
  by_cases hsafe : (ordinal - 1 + count) % maxSafeInteger + 1 + 1 ≤
      maxSafeInteger
  · rw [if_pos hsafe]
    simp only [maxSafeInteger] at hsafe ⊢
    omega
  · rw [if_neg hsafe]
    simp only [maxSafeInteger] at hsafe ⊢
    omega

theorem rotated_injective {first : Nat} (hfirst : first < maxSafeInteger)
    (hsecond : second < maxSafeInteger)
    (hsame : rotated ordinal first = rotated ordinal second) :
    first = second := by
  unfold rotated at hsame
  simp only [maxSafeInteger] at hsame hfirst hsecond
  omega

/-- The first attempt id of a cycle and those that follow it. -/
def issuedIds (cycleId first : String) (count : Nat) : List String :=
  first :: (List.range count).map fun index =>
    attemptIdFor cycleId (rotated (nextOrdinal (attemptOrdinal first)) index)

theorem issued_succ (cycleId first : String) (count : Nat) :
    issuedIds cycleId first (count + 1) = issuedIds cycleId first count ++
      [attemptIdFor cycleId
        (rotated (nextOrdinal (attemptOrdinal first)) count)] := by
  simp [issuedIds, range_succ]

/-- The attempt id after the last one that was issued. -/
theorem nextAttemptId_issued (cycleId first : String) (count : Nat) :
    nextAttemptId cycleId (issuedIds cycleId first count).getLast? =
      attemptIdFor cycleId
        (rotated (nextOrdinal (attemptOrdinal first)) count) := by
  unfold nextAttemptId
  cases count with
  | zero =>
    obtain ⟨hpos, hsafe⟩ := nextOrdinal_range (attemptOrdinal first)
    rw [rotated_zero hpos hsafe]
    rfl
  | succ =>
    rw [issued_succ, List.getLast?_concat, Option.bind_some,
      attemptOrdinal_attemptIdFor, nextOrdinal_rotated]

variable {first : String}

variable {count : Nat}

/-- No two of the attempt ids are the same while the ordinals do not come
round. -/
theorem issued_nodup (hcount : count + 1 ≤ maxSafeInteger) :
    (issuedIds cycleId first count).Nodup := by
  refine nodup_cons.mpr ⟨?_, ?_⟩
  · intro hmem
    obtain ⟨index, hindex, hsame⟩ := mem_map.mp hmem
    rw [mem_range] at hindex
    -- The first id would be followed by its own successor.
    have hordinal : attemptOrdinal first =
        some (rotated (nextOrdinal (attemptOrdinal first)) index) := by
      rw [← attemptOrdinal_attemptIdFor cycleId, hsame]
    have hnext := congrArg nextOrdinal hordinal
    rw [nextOrdinal_rotated] at hnext
    obtain ⟨hpos, hsafe⟩ := nextOrdinal_range (attemptOrdinal first)
    have hzero := rotated_zero hpos hsafe
    have hback : rotated (nextOrdinal (attemptOrdinal first)) 0 =
        rotated (nextOrdinal (attemptOrdinal first)) (index + 1) :=
      hzero.trans hnext
    have himpossible := rotated_injective (by omega) (by omega) hback
    omega
  · refine List.Nodup.map_on ?_ nodup_range
    intro i hi j hj hsame
    rw [mem_range] at hi hj
    exact rotated_injective (by omega) (by omega) (attemptIdFor_injective hsame)

/-- The attempt ids that a cycle took so far. -/
inductive Numbered (row : FreshCycle) : List String → Prop
  | none (hidle : named row.attemptId = false) : Numbered row []
  | issued (first : String) (count : Nat) (hfirst : first ≠ "")
      (hlast : row.attemptId = (issuedIds row.cycleId first count).getLast?) :
      Numbered row (issuedIds row.cycleId first count)

variable {row row' : FreshCycle} {taken refs ids : List String}
variable {before : List String}

/-- An unnamed attempt is followed by the first one. -/
theorem nextAttemptId_idle (cycleId : String) {attemptId : Option String}
    (hidle : named attemptId = false) :
    nextAttemptId cycleId attemptId = attemptIdFor cycleId 1 := by
  cases attemptId with
  | none => rfl
  | some attemptId =>
    have hempty : attemptId = "" := by simpa [named] using hidle
    rw [hempty]
    rfl

theorem issued_getLast?_named (hfirst : first ≠ "") :
    named (issuedIds cycleId first count).getLast? = true := by
  cases count with
  | zero => simpa [issuedIds, named] using hfirst
  | succ =>
    rw [issued_succ, List.getLast?_concat]
    exact named_attemptIdFor _ _

/-- A cycle that goes on takes the next id. -/
theorem Numbered.next (hrow : Numbered row ids)
    (hcycle : row'.cycleId = row.cycleId)
    (hid : row'.attemptId = some (nextAttemptId row.cycleId row.attemptId)) :
    Numbered row' (ids ++ [nextAttemptId row.cycleId row.attemptId]) := by
  cases hrow with
  | none hidle =>
    have hfirst : attemptIdFor row.cycleId 1 ≠ "" := by
      have hname := named_attemptIdFor row.cycleId 1
      simpa [named] using hname
    rw [nextAttemptId_idle _ hidle] at hid ⊢
    exact .issued _ 0 hfirst hid
  | issued first count hfirst hlast =>
    rw [hlast, nextAttemptId_issued] at hid ⊢
    rw [← issued_succ, ← hcycle]
    refine .issued first (count + 1) hfirst ?_
    rw [issued_succ, List.getLast?_concat, hid, hcycle]

theorem Numbered.idle (hrow : Numbered row ids)
    (hidle : named row.attemptId = false) : ids = [] := by
  cases hrow with
  | none _ => rfl
  | issued _ _ hfirst hlast =>
    rw [hlast, issued_getLast?_named hfirst] at hidle
    cases hidle

theorem Numbered.same (hrow : Numbered row ids)
    (hcycle : row'.cycleId = row.cycleId)
    (hid : row'.attemptId = row.attemptId) : Numbered row' ids := by
  cases hrow with
  | none hidle => exact .none (hid ▸ hidle)
  | issued first count hfirst hlast =>
    rw [← hcycle]
    exact .issued first count hfirst (by rw [hid, hlast, hcycle])

theorem FreshnessMove.numbered (hmove : FreshnessMove row refs ids row')
    (hrow : Numbered row before) :
    Numbered row' (before ++ ids) := by
  cases hmove with
  | still =>
    rw [append_nil]
    exact hrow
  | marked | queued =>
    rw [append_nil]
    exact hrow.same rfl rfl
  | initialized _ attemptId _ hidle =>
    rw [hrow.idle hidle]
    by_cases hempty : attemptId = ""
    · subst hempty
      exact .none rfl
    · rw [Option.filter_some, if_pos (by simpa using hempty)]
      exact .issued attemptId 0 hempty rfl
  | started basis refs disposition nowMs hidle =>
    have hnext := @Numbered.next row
      { row with
        attemptId := some (attemptIdFor row.cycleId 1)
        attemptInputBasis := some basis, pendingQueue := some row.queue
        composeLogIds :=
          (row.composeLogIds ++ refs.filter (· ≠ "")).eraseDups
        state := .thinking, disposition, updatedAtMs := nowMs } before hrow rfl
      (by rw [nextAttemptId_idle _ hidle])
    rwa [nextAttemptId_idle _ hidle] at hnext
  | superseded | resumed =>
    exact hrow.next rfl rfl

theorem Numbered.eq_issued {rest : List String}
    (hrow : Numbered row (first :: rest)) :
    first :: rest = issuedIds row.cycleId first rest.length := by
  generalize hids : first :: rest = ids at hrow
  cases hrow with
  | none _ => cases hids
  | issued _ count =>
    have hlength := congrArg List.length hids
    obtain ⟨rfl, _⟩ := List.cons.inj hids
    have hcount : rest.length = count := by simpa [issuedIds] using hlength
    rw [hcount]

/-- After as many attempts as there are safe integers the first id is taken
again. -/
theorem issued_repeats (hpos : 1 ≤ ordinal) (hsafe : ordinal ≤ maxSafeInteger) :
    ¬ (issuedIds cycleId (attemptIdFor cycleId ordinal) maxSafeInteger).Nodup := by
  intro hnodup
  refine (nodup_cons.mp hnodup).1 (mem_map.mpr
    ⟨maxSafeInteger - 1, mem_range.mpr (by decide), ?_⟩)
  have hround : rotated (rotated ordinal 1) (maxSafeInteger - 1) = ordinal := by
    unfold rotated
    simp only [maxSafeInteger] at hsafe ⊢
    omega
  have hnext := nextOrdinal_rotated ordinal 0
  rw [rotated_zero hpos hsafe] at hnext
  rw [attemptOrdinal_attemptIdFor, hnext, hround]

theorem FreshnessMove.cycleId_eq (hmove : FreshnessMove row refs ids row') :
    row'.cycleId = row.cycleId := by
  cases hmove <;> rfl

theorem run_cycleId [Host] (ops : List FreshnessOp) (hrow : row.Readable) :
    (run freshnessStep row ops).cycleId = row.cycleId := by
  induction ops generalizing row with
  | nil => rfl
  | cons op _ ih =>
    have hmove := freshnessStep_move hrow op
    exact (ih (hmove.readable hrow)).trans hmove.cycleId_eq

theorem run_numbered [Host] (ops : List FreshnessOp) (hreadable : row.Readable)
    (hrow : Numbered row before) :
    Numbered (run freshnessStep row ops) (before ++ attemptIds row ops) := by
  induction ops generalizing row before with
  | nil =>
    rw [attemptIds, append_nil]
    exact hrow
  | cons op _ ih =>
    have hmove := freshnessStep_move hreadable op
    rw [attemptIds, ← append_assoc]
    exact ih (hmove.readable hreadable) (hmove.numbered hrow)

end Attempts

/-- A cycle as it is admitted: no attempt, an unused budget, an empty queue, and
a compose log of trimmed references. -/
structure FreshCycle.Admitted (row : FreshCycle) : Prop where
  attemptId : row.attemptId = none
  basis : row.attemptInputBasis = none
  counter : row.supersessionsUsed = 0
  queue : row.pendingQueue = some []
  log : ∀ id ∈ row.composeLogIds, trim id = id

theorem FreshCycle.Admitted.conserves (hrow : row.Admitted) :
    Conserves [] row := by
  have hqueue : row.queue = [] := by
    rw [FreshCycle.queue, hrow.queue]
    rfl
  have hnamed : named row.attemptId = false := by
    rw [hrow.attemptId]
    rfl
  refine ⟨⟨?_, ?_, ?_, hrow.log, ?_⟩, fun _ => ⟨rfl, hqueue⟩, ?_, [], ?_, ?_, ?_⟩
  · rw [hrow.counter]
    rfl
  · rw [hrow.queue, hqueue]
  · rw [hqueue]
    exact fun _ hitem => absurd hitem not_mem_nil
  · intro hother
    rw [hnamed] at hother
    cases hother
  · exact fun hwaiting => absurd hqueue hwaiting
  · exact fun _ href => absurd href not_mem_nil
  · exact fun _ href => absurd href not_mem_nil
  · rw [hqueue, FreshCycle.basisRefs, hrow.basis]
    rfl

/-- In every run on an admitted cycle: the budget that is used does not decrease
and is at most two, no attempt id is taken again while the ordinals are safe
integers, and what was absorbed is in the basis or in the queue exactly once, in
the order of absorption. -/
theorem freshness_conserves_evidence [Host] {row : FreshCycle}
    (hrow : row.Admitted) (ops later : List FreshnessOp) :
    (run freshnessStep row ops).supersessionsUsed ≤
      (run freshnessStep row (ops ++ later)).supersessionsUsed ∧
    (run freshnessStep row ops).supersessionsUsed ≤ 2 ∧
    ((attemptIds row ops).length ≤ maxSafeInteger →
      (attemptIds row ops).Nodup) ∧
    (∀ ref ∈ absorbedRefs row ops,
      ((run freshnessStep row ops).basisRefs ++
        (run freshnessStep row ops).queue).count ref = 1) ∧
    ((run freshnessStep row ops).basisRefs ++
        (run freshnessStep row ops).queue).filter
      (· ∈ absorbedRefs row ops) = (absorbedRefs row ops).eraseDups := by
  have hadmitted := hrow.conserves
  have hend := run_conserves ops hadmitted
  rw [List.nil_append] at hend
  obtain ⟨base, hapart, _, hevidence⟩ := hend.evidence
  refine ⟨?_, ?_, fun hbound => ?_, fun ref href => ?_, ?_⟩
  · rw [run_append]
    exact run_counter_le later hend.readable
  · have hcounter := hend.readable.counter
    simp only [counterValid, Bool.and_eq_true, decide_eq_true_eq] at hcounter
    exact hcounter.2
  · have hidle : named row.attemptId = false := by
      rw [hrow.attemptId]
      rfl
    have hnumbered := run_numbered ops hadmitted.readable (.none hidle)
    generalize attemptIds row ops = ids at hbound hnumbered ⊢
    cases hnumbered with
    | none _ => exact List.nodup_nil
    | issued =>
      refine issued_nodup ?_
      simpa [issuedIds] using hbound
  · rw [hevidence, List.count_append,
      List.count_eq_zero_of_not_mem (hapart ref href), Nat.zero_add]
    exact List.count_eq_one_of_mem (nodup_eraseDups _)
      (List.mem_eraseDups.mpr href)
  · have hbase : base.filter (· ∈ absorbedRefs row ops) = [] := by
      refine List.filter_eq_nil_iff.mpr fun ref hmem => ?_
      simpa using fun href => hapart ref href hmem
    have htaken : (absorbedRefs row ops).eraseDups.filter
        (· ∈ absorbedRefs row ops) = (absorbedRefs row ops).eraseDups := by
      refine List.filter_eq_self.mpr fun _ hmem => ?_
      simpa using List.mem_eraseDups.mp hmem
    rw [hevidence, List.filter_append, hbase, htaken, List.nil_append]

/-- A social attempt with a basis is resumed under the next attempt id. -/
theorem resume_begins [Host] (hrow : row.Readable)
    (hwake : named row.wakeId = true) (hsocial : socialCycle row = true)
    (hbasis : row.attemptInputBasis.isSome = true) (nowMs : Int) :
    (FreshnessOp.resume nowMs).begins row =
      [nextAttemptId row.cycleId row.attemptId] ∧
    named (freshnessStep (.resume nowMs) row).wakeId = true ∧
    socialCycle (freshnessStep (.resume nowMs) row) = true ∧
    (freshnessStep (.resume nowMs) row).attemptInputBasis.isSome = true := by
  obtain ⟨basis, hstored⟩ := Option.isSome_iff_exists.mp hbasis
  have hqueued : row.queue.all (fun item => trim item ≠ "") = true := by
    rw [all_eq_true]
    intro item hitem
    obtain ⟨hblank, htrimmed⟩ := hrow.queued item hitem
    simpa [htrimmed] using hblank
  have hread : ∀ after : FreshCycle, after.wakeId = row.wakeId →
      getCycle after = .ok after := by
    intro _ hsame
    exact require_bind_ok.mpr ⟨hsame ▸ hwake, rfl⟩
  have hresume : ∃ after : FreshCycle, resumeExternalAttempt row nowMs =
      .ok ({ kind := .resumed, previousAttemptId := row.attemptId }, after) ∧
      after.attemptId = some (nextAttemptId row.cycleId row.attemptId) ∧
      after.wakeId = row.wakeId ∧
      after.conversationId = row.conversationId ∧
      after.triggerKind = row.triggerKind ∧
      after.attemptInputBasis = some basis := by
    refine ⟨{ row with
      attemptId := some (nextAttemptId row.cycleId row.attemptId)
      pendingQueue := some row.queue, state := .thinking, disposition := none
      updatedAtMs := nowMs }, ?_, rfl, rfl, rfl, rfl, hstored⟩
    unfold resumeExternalAttempt
    rw [hread row rfl]
    refine require_bind_ok.mpr ⟨hsocial, ?_⟩
    dsimp only
    unfold writeFreshnessStateInTransaction
    rw [hrow.read, hstored]
    rw [bind_assoc]
    refine require_bind_ok.mpr ⟨hrow.counter, ?_⟩
    rw [bind_assoc]
    refine require_bind_ok.mpr ⟨hqueued, ?_⟩
    rw [bind_assoc]
    refine require_bind_ok.mpr ⟨fun _ => .inl rfl, ?_⟩
    rw [pure_bind]
    exact bind_ok.mpr ⟨_, hread _ rfl, rfl⟩
  obtain ⟨after, hok, hid, hsame, hconversation, htrigger, hafter⟩ := hresume
  have hstep : freshnessStep (.resume nowMs) row = after := by
    unfold freshnessStep
    dsimp only
    rw [hok]
    rfl
  rw [hstep]
  refine ⟨?_, hsame ▸ hwake, ?_, by rw [hafter]; rfl⟩
  · unfold FreshnessOp.begins
    dsimp only
    rw [hok]
    change after.attemptId.toList = _
    rw [hid]
    rfl
  · unfold socialCycle at hsocial ⊢
    rw [hconversation, htrigger]
    exact hsocial

theorem attemptIds_resumes [Host] (hrow : row.Readable)
    (hwake : named row.wakeId = true) (hsocial : socialCycle row = true)
    (hbasis : row.attemptInputBasis.isSome = true) (nowMs : Int) (count : Nat) :
    (attemptIds row (List.replicate count (.resume nowMs))).length = count := by
  induction count generalizing row with
  | zero => rfl
  | succ count ih =>
    obtain ⟨hbegins, hwake', hsocial', hbasis'⟩ :=
      resume_begins hrow hwake hsocial hbasis nowMs
    have hmove := freshnessStep_move hrow (.resume nowMs)
    rw [replicate_succ, attemptIds, hbegins, length_append,
      ih (hmove.readable hrow) hwake' hsocial' hbasis']
    exact Nat.add_comm 1 count

section Plain

attribute [local instance] plainHost

/-- A cycle of a room, as it is admitted. -/
def roomCycle : FreshCycle where
  cycleId := "c"
  conversationId := "room:r"
  wakeId := some "w"
  triggerKind := .externalMessage

def absorbRefs (refs : List String) : FreshnessOp :=
  .absorb (fun _ => none) (refs.map FreshEvidenceRow.ofRef) { nowMs := 1 }

theorem roomCycle_admitted : roomCycle.Admitted :=
  ⟨rfl, rfl, rfl, rfl, fun _ hid => absurd hid not_mem_nil⟩

/-- The worked example of the budget: two supersessions, then the queue. -/
def workedExample : List FreshnessOp :=
  [absorbRefs ["1"], absorbRefs ["2"], absorbRefs ["3", "1"],
    absorbRefs ["4", "5"], .preempt true 2, .resume 3, absorbRefs ["5", "6"]]

theorem workedExample_conserves_evidence :
    (run freshnessStep roomCycle workedExample).basisRefs = ["1", "2", "3"] ∧
    (run freshnessStep roomCycle workedExample).queue = ["4", "5", "6"] ∧
    ((run freshnessStep roomCycle workedExample).basisRefs ++
        (run freshnessStep roomCycle workedExample).queue).filter
      (· ∈ absorbedRefs roomCycle workedExample) =
        (absorbedRefs roomCycle workedExample).eraseDups :=
  ⟨by decide +kernel, by decide +kernel,
    (freshness_conserves_evidence roomCycle_admitted workedExample
      []).2.2.2.2⟩

/-- An attempt that is resumed once for each safe integer gets its first id
again. -/
theorem resumed_attempt_id_reused :
    ¬ (attemptIds roomCycle (absorbRefs ["1"] ::
      List.replicate maxSafeInteger (.resume 2))).Nodup := by
  have hreadable := roomCycle_admitted.conserves.readable
  have hstart : (freshnessStep (absorbRefs ["1"]) roomCycle).Readable :=
    (freshnessStep_move hreadable (absorbRefs ["1"])).readable hreadable
  have hnumbered := run_numbered
    (absorbRefs ["1"] :: List.replicate maxSafeInteger (.resume 2)) hreadable
    (.none rfl)
  have hlength := attemptIds_resumes hstart (by decide +kernel)
    (by decide +kernel) (by decide +kernel) 2 maxSafeInteger
  have hids : attemptIds roomCycle (absorbRefs ["1"] ::
      List.replicate maxSafeInteger (.resume 2)) = "attempt:c:1" ::
        attemptIds (freshnessStep (absorbRefs ["1"]) roomCycle)
          (List.replicate maxSafeInteger (.resume 2)) := by
    rfl
  have hcycle := run_cycleId (absorbRefs ["1"] ::
    List.replicate maxSafeInteger (.resume 2)) hreadable
  rw [hids] at hnumbered ⊢
  rw [hnumbered.eq_issued, hlength, hcycle]
  have hone : "attempt:c:1" = attemptIdFor roomCycle.cycleId 1 := by decide
  rw [hone]
  exact issued_repeats (Nat.le_refl 1) (by decide)

end Plain

end CognitiveSidecar.Freshness
