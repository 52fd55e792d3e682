/-
The deadline decision of an admission: from where and in which steps it looks
for room, and when the request it ends could still have been dispatched.
-/
import CognitiveSidecar.AttentionQuota

namespace CognitiveSidecar

open Option List Relational

section Search

variable {db : AttentionDb} {quotaBucket : String} {rpsLimit : Nat}
variable {oldest : Int}
variable {now later : Int}

/-- The instants at which dispatches of a bucket started. -/
def AttentionDb.startTimes (db : AttentionDb) (quotaBucket : String) :
    Finset Int :=
  ((db.requests.rows.filter (·.quotaBucket = quotaBucket)).filterMap
    (·.dispatchStartedAt)).toFinset

theorem mem_startTimes {started : Int} :
    started ∈ db.startTimes quotaBucket ↔
      ∃ row ∈ db.requests.rows, row.quotaBucket = quotaBucket ∧
        row.dispatchStartedAt = some started := by
  unfold AttentionDb.startTimes
  simp [and_assoc]

/-- The starts in the window of one instant that have left it at another. -/
def AttentionDb.startsLeaving (db : AttentionDb) (quotaBucket : String)
    (now later : Int) : Finset Int :=
  (db.startTimes quotaBucket).filter fun started =>
    now - rpsWindowMs < started ∧ started ≤ later - rpsWindowMs

/-- The instants, from a given one on, that have a free start in their second,
or by which so many starts have left the window. -/
def searchStarts (db : AttentionDb) (quotaBucket : String) (rpsLimit turns : Nat)
    (now : Int) : Set Int :=
  { later | now ≤ later ∧
    (rpsStartsInWindow db (later - rpsWindowMs + 1) quotaBucket < rpsLimit ∨
      turns ≤ (db.startsLeaving quotaBucket now later).card) }

theorem oldestStartInWindow_some {windowStart : Int}
    (holdest : oldestStartInWindow db windowStart quotaBucket = some oldest) :
    oldest ∈ db.startTimes quotaBucket ∧ windowStart ≤ oldest ∧
      ∀ started ∈ db.startTimes quotaBucket, windowStart ≤ started →
        oldest ≤ started := by
  obtain ⟨hmem, hleast⟩ := List.min?_eq_some_iff.mp holdest
  obtain ⟨row, hrow, hstarted⟩ := mem_filterMap.mp hmem
  obtain ⟨hstarted, hge⟩ := filter_eq_some_iff.mp hstarted
  obtain ⟨hrow, hbucket⟩ := mem_filter.mp hrow
  refine ⟨mem_startTimes.mpr ⟨row, hrow, by simpa using hbucket, hstarted⟩,
    by simpa using hge, fun started hin hlate => ?_⟩
  obtain ⟨other, hother, hsame, hat⟩ := mem_startTimes.mp hin
  refine hleast started (mem_filterMap.mpr ⟨other, ?_, ?_⟩)
  · exact mem_filter.mpr ⟨hother, by simpa using hsame⟩
  · exact filter_eq_some_iff.mpr ⟨hat, by simpa using hlate⟩

/-- No start is lost between two windows when none stands between them. -/
theorem rpsStartsInWindow_le {first second : Int}
    (hbetween : ∀ started ∈ db.startTimes quotaBucket, first ≤ started →
      second ≤ started) :
    rpsStartsInWindow db first quotaBucket ≤
      rpsStartsInWindow db second quotaBucket := by
  refine countP_mono_left fun row hrow hcounted => ?_
  simp only [Bool.and_eq_true, decide_eq_true_eq] at hcounted ⊢
  obtain ⟨⟨hstart, hbucket⟩, hstate⟩ := hcounted
  obtain ⟨started, hstarted, hge⟩ := any_eq_true _ _ |>.mp hstart
  have hin : started ∈ db.startTimes quotaBucket :=
    mem_startTimes.mpr ⟨row, hrow, hbucket, hstarted⟩
  refine ⟨⟨?_, hbucket⟩, hstate⟩
  rw [hstarted]
  simpa using hbetween started hin (by simpa using hge)

/-- Until the oldest start leaves the window, none leaves it. -/
theorem startsLeaving_before (holdest : ∀ started ∈ db.startTimes quotaBucket,
      now - rpsWindowMs + 1 ≤ started → oldest ≤ started)
    (hbefore : later < oldest + rpsWindowMs) :
    db.startsLeaving quotaBucket now later = ∅ := by
  refine Finset.filter_eq_empty_iff.mpr fun started hin _ => ?_
  have hle := holdest started hin (by omega)
  omega

/-- From then on, the oldest has left it, and those that leave the window of
that instant. -/
theorem startsLeaving_after (hin : oldest ∈ db.startTimes quotaBucket)
    (hge : now - rpsWindowMs + 1 ≤ oldest)
    (holdest : ∀ started ∈ db.startTimes quotaBucket,
      now - rpsWindowMs + 1 ≤ started → oldest ≤ started)
    (hafter : oldest + rpsWindowMs ≤ later) :
    (db.startsLeaving quotaBucket now later).card =
      (db.startsLeaving quotaBucket (oldest + rpsWindowMs) later).card + 1 := by
  have hinsert : db.startsLeaving quotaBucket now later =
      insert oldest
        (db.startsLeaving quotaBucket (oldest + rpsWindowMs) later) := by
    ext started
    unfold AttentionDb.startsLeaving
    rw [Finset.mem_insert, Finset.mem_filter, Finset.mem_filter]
    constructor
    · rintro ⟨hstarted, _, hleft⟩
      have hle := holdest started hstarted (by omega)
      rcases eq_or_lt_of_le hle with hsame | _
      · exact .inl hsame.symm
      · exact .inr ⟨hstarted, by omega, hleft⟩
    · rintro (rfl | ⟨hstarted, _, hleft⟩)
      · exact ⟨hin, by omega, by omega⟩
      · exact ⟨hstarted, by omega, hleft⟩
  rw [hinsert, Finset.card_insert_of_notMem]
  unfold AttentionDb.startsLeaving
  rw [Finset.mem_filter]
  omega

/-- The first loop ends at the first instant with a free start in its second,
or when as many starts as it has turns have left the window. -/
theorem rpsCandidate_isLeast (hpos : 0 < rpsLimit) (turns : Nat) (now : Int) :
    IsLeast (searchStarts db quotaBucket rpsLimit turns now)
      (rpsCandidate db quotaBucket rpsLimit turns now) := by
  induction turns generalizing now with
  | zero => exact ⟨⟨le_refl _, .inr (Nat.zero_le _)⟩, fun later hlater => hlater.1⟩
  | succ _ ih =>
    unfold rpsCandidate
    dsimp only
    split
    · rename_i hfree
      exact ⟨⟨le_refl _, .inl hfree⟩, fun _ hlater => hlater.1⟩
    · cases hoption : oldestStartInWindow db (now - rpsWindowMs + 1)
          quotaBucket with
      | none =>
        have hzero := oldestStartInWindow_none hoption
        omega
      | some oldest =>
        obtain ⟨hin, hge, holdest⟩ := oldestStartInWindow_some hoption
        obtain ⟨⟨hle, hends⟩, hleast⟩ := ih (oldest + rpsWindowMs)
        dsimp only
        refine ⟨⟨by omega, ?_⟩, fun later hlater => ?_⟩
        · rw [startsLeaving_after hin hge holdest hle]
          exact hends.imp_right Nat.succ_le_succ
        · obtain ⟨_, hlater⟩ := hlater
          by_cases hbefore : later < oldest + rpsWindowMs
          · rw [startsLeaving_before holdest hbefore] at hlater
            rcases hlater with _ | hturns
            · have hcount := @rpsStartsInWindow_le db quotaBucket
                (now - rpsWindowMs + 1) (later - rpsWindowMs + 1)
                (fun started hstarted hlate => by
                  have hle' := holdest started hstarted hlate
                  omega)
              omega
            · simp at hturns
          · have hafter : oldest + rpsWindowMs ≤ later := by omega
            rw [startsLeaving_after hin hge holdest hafter] at hlater
            exact hleast ⟨hafter, hlater.imp_right Nat.le_of_succ_le_succ⟩

end Search

section Deadline

variable [AttentionHost] {db : AttentionDb} {row : AttentionRequest}
variable {quotaBucket : String} {demandTokens now : Int}

/-- The demand of a request fits into the minute that ends at an instant. -/
def HasTokenRoom (db : AttentionDb) (quotaBucket : String)
    (demandTokens : Int) (instant : Int) : Prop :=
  tokensInWindow db (instant - tpmWindowMs + 1) instant quotaBucket +
    demandTokens ≤ (AttentionHost.quotaContractFor quotaBucket).tpm

/-- Both limits of the bucket admit the demand at an instant. -/
def IsLegalDispatch (db : AttentionDb) (quotaBucket : String)
    (demandTokens : Int) (instant : Int) : Prop :=
  rpsStartsInWindow db (instant - rpsWindowMs + 1) quotaBucket <
      (AttentionHost.quotaContractFor quotaBucket).rps ∧
    HasTokenRoom db quotaBucket demandTokens instant

/-- The second loop ends after the first whole number of seconds with room for
the demand, or after all its turns. -/
theorem tpmCandidate_spec {quotaBucket : String} {demandTokens : Int}
    (turns : Nat) (start : Int) :
    ∃ steps ≤ turns,
      tpmCandidate db quotaBucket
        (AttentionHost.quotaContractFor quotaBucket).tpm demandTokens turns
        start = start + 1000 * steps ∧
      (steps = turns ∨
        HasTokenRoom db quotaBucket demandTokens (start + 1000 * steps)) ∧
      ∀ earlier < steps,
        ¬ HasTokenRoom db quotaBucket demandTokens (start + 1000 * earlier) := by
  induction turns generalizing start with
  | zero =>
    exact ⟨0, le_refl _, by simp [tpmCandidate], .inl rfl,
      fun _ hlt => absurd hlt (Nat.not_lt_zero _)⟩
  | succ _ ih =>
    unfold tpmCandidate
    split
    · rename_i hroom
      refine ⟨0, Nat.zero_le _, by simp, .inr ?_,
        fun _ hlt => absurd hlt (Nat.not_lt_zero _)⟩
      simpa [HasTokenRoom] using hroom
    · rename_i hfull
      obtain ⟨steps, _, hresult, hends, hearlier⟩ := ih (start + 1000)
      have hshift : ∀ count : Nat,
          start + 1000 + 1000 * (count : Int) =
            start + 1000 * ((count + 1 : Nat) : Int) := by
        intro _
        push_cast
        ring
      refine ⟨steps + 1, by omega, ?_, ?_, fun earlier _ => ?_⟩
      · rw [hresult, hshift]
      · rw [← hshift]
        exact hends.imp_left (congrArg (· + 1))
      · cases earlier with
        | zero => simpa [HasTokenRoom] using hfull
        | succ earlier =>
          rw [← hshift]
          exact hearlier earlier (by omega)

/-- Where the search starts, and how many seconds it goes on. -/
structure SearchedFor (db : AttentionDb) (quotaBucket : String)
    (demandTokens now start : Int) (steps : Nat) : Prop where
  least : IsLeast (searchStarts db quotaBucket
    (AttentionHost.quotaContractFor quotaBucket).rps 8 now) start
  bounded : steps ≤ 60
  ends : steps = 60 ∨
    HasTokenRoom db quotaBucket demandTokens (start + 1000 * steps)

theorem earliestLegalDispatchMs_ok {earliest : Int}
    (hok : earliestLegalDispatchMs db demandTokens now quotaBucket =
      .ok earliest) :
    demandTokens ≤ (AttentionHost.quotaContractFor quotaBucket).tpm ∧
    ∃ start steps, SearchedFor db quotaBucket demandTokens now start steps ∧
      earliest = start + 1000 * (steps : Nat) ∧
      ∀ earlier < steps,
        ¬ HasTokenRoom db quotaBucket demandTokens (start + 1000 * earlier) := by
  unfold earliestLegalDispatchMs at hok
  dsimp only at hok
  split at hok
  · cases hok
  · rename_i hdemand
    injection hok with hok
    have hleast := @rpsCandidate_isLeast db quotaBucket _
      (AttentionHost.quotaContractFor quotaBucket).rps_pos 8 now
    obtain ⟨steps, hle, hresult, hends, hearlier⟩ :=
      @tpmCandidate_spec _ db quotaBucket demandTokens 60
        (rpsCandidate db quotaBucket
          (AttentionHost.quotaContractFor quotaBucket).rps 8 now)
    exact ⟨not_lt.mp hdemand, _, steps, ⟨hleast, hle, hends⟩,
      hok.symm.trans hresult, hearlier⟩

/-- A number of seconds at which the search may stop is not before the one at
which it does. -/
theorem SearchedFor.le {start other : Int} {steps count : Nat}
    (hsearched : SearchedFor db quotaBucket demandTokens now start steps)
    (hearlier : ∀ earlier < steps,
      ¬ HasTokenRoom db quotaBucket demandTokens (start + 1000 * earlier))
    (hother : SearchedFor db quotaBucket demandTokens now other count) :
    other = start ∧ steps ≤ count := by
  have hsame : other = start := hother.least.unique hsearched.least
  subst hsame
  by_contra hlt
  rcases hother.ends with _ | hroom
  · have hle := hsearched.bounded
    omega
  · exact hearlier count (by omega) hroom

/-- When the request is ended for its deadline, neither limit would have let it
through before the deadline.  `clock` are the readings of the admission. -/
def TimedOutRightly (db : AttentionDb) (row : AttentionRequest)
    (maximumOciSequence : Nat) (clock : Nat → Int) (deadline : Int) : Prop :=
  ∀ earliest, (tryAdmitRequest db row.id maximumOciSequence clock).1 =
      .ok (.deadline earliest) →
    ∀ instant, clock 0 ≤ instant → clock 2 ≤ instant → instant < deadline →
      ¬ IsLegalDispatch db row.quotaBucket row.demand instant

/-- The request is not the next one, asks for more than a minute allows, has
no legal instant before its deadline, or finds room in time on the seconds at
which the search looks. -/
def DeadlineCondition (db : AttentionDb) (row : AttentionRequest)
    (clock : Nat → Int) (deadline : Int) : Prop :=
  selectNextEligibleRequestId db (clock 1) ≠ some row.id ∨
  (AttentionHost.quotaContractFor row.quotaBucket).tpm < row.demand ∨
  (∀ instant, clock 0 ≤ instant → clock 2 ≤ instant → instant < deadline →
    ¬ IsLegalDispatch db row.quotaBucket row.demand instant) ∨
  ∃ start steps, SearchedFor db row.quotaBucket row.demand (clock 2) start
    steps ∧ start + 1000 * (steps : Nat) < deadline

theorem tryAdmitRequest_queued {maximumOciSequence : Nat} {clock : Nat → Int}
    {deadline : Int} (hrow : db.requests.get? row.id = some row)
    (hqueued : row.state = .queued)
    (hdeadline : row.deadlineAt = some deadline) :
    (∃ earliest, (tryAdmitRequest db row.id maximumOciSequence clock).1 =
        .ok (.deadline earliest)) ↔
      deadline ≤ clock 0 ∨
      selectNextEligibleRequestId db (clock 1) = some row.id ∧
        ∃ earliest, earliestLegalDispatchMs db row.demand (clock 2)
          row.quotaBucket = .ok earliest ∧ deadline ≤ earliest := by
  have hfilter : (db.requests.get? row.id).filter
      (fun row => row.state = AttentionState.queued) = some row := by
    rw [hrow]
    exact filter_eq_some_iff.mpr ⟨rfl, by simpa using hqueued⟩
  unfold tryAdmitRequest
  rw [hfilter]
  dsimp only
  rw [hdeadline]
  simp only [any_some, decide_eq_true_eq]
  by_cases hpast : deadline ≤ clock 0
  · rw [if_pos hpast]
    exact ⟨fun _ => .inl hpast, fun _ => ⟨none, rfl⟩⟩
  rw [if_neg hpast]
  by_cases hnext : selectNextEligibleRequestId db (clock 1) = some row.id
  · rw [if_neg (not_not_intro hnext)]
    cases hearliest : earliestLegalDispatchMs db row.demand (clock 2)
        row.quotaBucket with
    | error =>
      constructor
      · rintro ⟨_, hanswer⟩
        cases hanswer
      · rintro (hpast' | ⟨_, _, hok, _⟩)
        · exact absurd hpast' hpast
        · cases hok
    | ok earliest =>
      dsimp only
      by_cases hlate : deadline ≤ earliest
      · rw [if_pos hlate]
        exact ⟨fun _ => .inr ⟨hnext, earliest, rfl, hlate⟩,
          fun _ => ⟨some earliest, rfl⟩⟩
      · rw [if_neg hlate]
        constructor
        · rintro ⟨_, hanswer⟩
          split at hanswer <;> cases hanswer
        · rintro (hpast' | ⟨_, _, hok, hle⟩)
          · exact absurd hpast' hpast
          · injection hok with hok
            exact absurd (hok ▸ hle) hlate
  · rw [if_pos hnext]
    constructor
    · rintro ⟨_, hanswer⟩
      cases hanswer
    · rintro (hpast' | ⟨hnext', _⟩)
      · exact absurd hpast' hpast
      · exact absurd hnext' hnext

/-- A queued request is ended for its deadline rightly exactly on the condition
above, and the search returns the least legal instant exactly when that one
stands on the seconds at which it looks and no earlier second has room for the
demand. -/
theorem timedOutRightly_iff (db : AttentionDb) (row : AttentionRequest)
    (maximumOciSequence : Nat) (clock : Nat → Int) (deadline : Int)
    (hrow : db.requests.get? row.id = some row) (hqueued : row.state = .queued)
    (hdeadline : row.deadlineAt = some deadline) :
    (TimedOutRightly db row maximumOciSequence clock deadline ↔
      DeadlineCondition db row clock deadline) ∧
    ∀ quotaBucket demandTokens now earliest least,
      earliestLegalDispatchMs db demandTokens now quotaBucket = .ok earliest →
      IsLeast { instant | now ≤ instant ∧
        IsLegalDispatch db quotaBucket demandTokens instant } least →
      (earliest = least ↔
        ∃ start steps, SearchedFor db quotaBucket demandTokens now start steps ∧
          least = start + 1000 * (steps : Nat) ∧
          ∀ earlier < steps, ¬ HasTokenRoom db quotaBucket demandTokens
            (start + 1000 * earlier)) := by
  have hanswers := @tryAdmitRequest_queued _ db row maximumOciSequence clock
    deadline hrow hqueued hdeadline
  refine ⟨⟨fun hrightly => ?_, fun hcondition => ?_⟩, ?_⟩
  · unfold DeadlineCondition
    by_contra hfails
    push Not at hfails
    obtain ⟨hnext, hdemand, ⟨instant, hfirst, hthird, hbefore, hlegal⟩, hsearch⟩ :=
      hfails
    have hearliest : ∃ earliest, earliestLegalDispatchMs db row.demand (clock 2)
        row.quotaBucket = .ok earliest := by
      unfold earliestLegalDispatchMs
      rw [if_neg (not_lt.mpr hdemand)]
      exact ⟨_, rfl⟩
    obtain ⟨_, hearliest⟩ := hearliest
    obtain ⟨_, start, steps, hsearched, rfl, _⟩ :=
      earliestLegalDispatchMs_ok hearliest
    have hlate := hsearch start steps hsearched
    obtain ⟨answer, hanswer⟩ := hanswers.mpr
      (.inr ⟨hnext, _, hearliest, hlate⟩)
    exact hrightly answer hanswer instant hfirst hthird hbefore hlegal
  · intro answer hanswer instant hfirst hthird hbefore hlegal
    rcases hanswers.mp ⟨answer, hanswer⟩ with
      _ | ⟨hnext, _, hearliest, _⟩
    · omega
    obtain ⟨_, _, _, hsearched, rfl, hearlier⟩ :=
        earliestLegalDispatchMs_ok hearliest
    rcases hcondition with hother | _ | hnone | ⟨_, _, hfinds, _⟩
    · exact hother hnext
    · omega
    · exact hnone instant hfirst hthird hbefore hlegal
    · obtain ⟨rfl, _⟩ := hsearched.le hearlier hfinds
      omega
  · intro _ _ _ _ _ hok _
    obtain ⟨_, start, steps, hsearched, rfl, hearlier⟩ :=
      earliestLegalDispatchMs_ok hok
    constructor
    · exact fun hsame => ⟨start, steps, hsearched, hsame.symm, hearlier⟩
    · rintro ⟨_, count, hfinds, rfl, hnone⟩
      obtain ⟨rfl, _⟩ := hsearched.le hearlier hfinds
      obtain ⟨_, _⟩ := hfinds.le hnone hsearched
      have hcount : count = steps := by omega
      rw [hcount]

end Deadline

section Example

attribute [local instance] plainAttentionHost

/-- A request that took the whole minute up, half a second short of a minute
ago. -/
def fillingRequest : AttentionRequest where
  id := 1
  lane := .interactive
  purpose := .expression
  modelAlias := "m"
  providerId := "mistral"
  routeAlias := none
  quotaBucket := "mistral:m"
  state := .running
  queuedAt := -59500
  eligibleAt := -59500
  ageOriginAt := -59500
  deadlineAt := none
  reservedAt := some (-59500)
  dispatchStartedAt := some (-59500)
  estimatedInputTokens := 25000
  estimatedOutputTokens := 0
  reservedInputTokens := 25000

/-- A small request that waits behind it until a deadline. -/
def waitingRequest (deadline : Int) : AttentionRequest where
  id := 2
  lane := .interactive
  purpose := .expression
  modelAlias := "m"
  providerId := "mistral"
  routeAlias := none
  quotaBucket := "mistral:m"
  queuedAt := 0
  eligibleAt := 0
  ageOriginAt := 0
  deadlineAt := some deadline
  estimatedInputTokens := 1
  estimatedOutputTokens := 0

def filledLedger (deadline : Int) : AttentionDb where
  requests := (Table.empty.insertNew fillingRequest).insertNew
    (waitingRequest deadline)
  nextId := 3
  nextSeq := 2

/-- The request is ended for a deadline at 800, although it could have been
dispatched at 500. -/
theorem ended_before_deadline :
    (tryAdmitRequest (filledLedger 800) 2 0 (fun _ => 0)).1 =
      .ok (.deadline (some 1000)) ∧
    IsLegalDispatch (filledLedger 800) "mistral:m" 1 500 ∧
    ¬ TimedOutRightly (filledLedger 800) (waitingRequest 800) 0 (fun _ => 0)
      800 := by
  have hanswer : (tryAdmitRequest (filledLedger 800) 2 0 (fun _ => 0)).1 =
      .ok (.deadline (some 1000)) := by
    decide +kernel
  have hlegal : IsLegalDispatch (filledLedger 800) "mistral:m" 1 500 := by
    unfold IsLegalDispatch HasTokenRoom
    decide +kernel
  exact ⟨hanswer, hlegal, fun hrightly =>
    hrightly _ hanswer 500 (by decide) (by decide) (by decide) hlegal⟩

theorem searched_one_second :
    SearchedFor (filledLedger 1500) "mistral:m" 1 0 0 1 where
  least := ⟨⟨le_refl _, .inl (by decide +kernel)⟩, fun _ hlater => hlater.1⟩
  bounded := by decide
  ends := .inr (by unfold HasTokenRoom; decide +kernel)

/-- With a deadline at 1500 it is not ended. -/
theorem kept_before_deadline :
    TimedOutRightly (filledLedger 1500) (waitingRequest 1500) 0 (fun _ => 0)
      1500 :=
  (timedOutRightly_iff (filledLedger 1500) (waitingRequest 1500) 0
    (fun _ => 0) 1500 (by decide +kernel) rfl rfl).1.mpr
    (.inr (.inr (.inr ⟨0, 1, searched_one_second, by decide⟩)))

end Example

end CognitiveSidecar
