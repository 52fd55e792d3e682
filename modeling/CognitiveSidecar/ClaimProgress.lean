/-
When a claim succeeds: exactly which wakes can be leased, which events can be
granted, and on which states the next claim returns an attempt.
-/
import CognitiveSidecar.SweepRetirement
import CognitiveSidecar.Stranding

namespace CognitiveSidecar

open Option List Relational

/-- The wake can be leased: it is pending, or its lease has run out and leaves
no effect in doubt. -/
def Wake.isGrantable (wake : Wake) (db : Sidecar) (nowMs : Int) : Bool :=
  match wake.state with
  | .pending => true
  | .claimed => !wake.leaseRuns nowMs
  | .authorized => wake.leaseRanOut nowMs && !hasAmbiguousEffect db wake.wakeId
  | _ => false

section Grants

variable [Host] {db after : Sidecar} {nowMs leaseMs : Int}
variable {wakeId : String}
variable {wake : Wake} {workerId token : String}

/-- The state in which an expired authorization has fallen back to pending. -/
def lapseAuthorization (db : Sidecar) (wakeId : String) (wake : Wake)
    (nowMs : Int) : Sidecar :=
  db.updateWake wakeId
    (fun row => wake.state = .authorized && row.state = .authorized)
    (·.released .pending nowMs) (Wake.released_key .pending nowMs)

theorem lapseAuthorization_token (hdrawn : Drawn db) :
    ∀ row ∈ (lapseAuthorization db wakeId wake nowMs).wakes.rows,
      row.leaseToken ≠
        some ("wake-lease:" ++ Host.randomUUID db.uuidsDrawn) := by
  intro _ hrow
  have hstored := get?_key hrow
  rw [lapseAuthorization, Sidecar.get?_updateWake, map_eq_some_iff]
    at hstored
  obtain ⟨old, hold, heq⟩ := hstored
  rw [← heq]
  split
  · simp
  · exact hdrawn.token _ old db.uuidsDrawn hold (Nat.le_refl _)

omit [Host] in
/-- The states in which a wake can be leased. -/
theorem Wake.isGrantable_iff :
    wake.isGrantable db nowMs = true ↔
      wake.state ≠ .terminal ∧ wake.state ≠ .reconciling ∧
      wake.state ≠ .consequencePending ∧
      (wake.state = .authorized → wake.leaseRanOut nowMs = true) ∧
      (wake.state = .authorized →
        ¬ hasAmbiguousEffect db wake.wakeId = true) ∧
      ¬ (wake.state = .claimed ∧ wake.leaseRuns nowMs = true) := by
  unfold Wake.isGrantable
  cases wake.state <;> simp

omit [Host] in
theorem lapseAuthorization_claimable (hwake : db.wakes.get? wakeId = some wake)
    (hgrantable : wake.isGrantable db nowMs = true) :
    ∃ lapsed, (lapseAuthorization db wakeId wake nowMs).wakes.get? wakeId =
      some lapsed ∧ lapsed.isClaimable nowMs = true := by
  rw [lapseAuthorization, Sidecar.get?_updateWake, hwake, map_some]
  refine ⟨_, rfl, ?_⟩
  by_cases hstate : wake.state = .authorized
  · rw [if_pos ⟨rfl, by simp [hstate]⟩]
    rfl
  · obtain ⟨_, _⟩ := Wake.isGrantable_iff.mp hgrantable
    unfold Wake.isClaimable
    cases hcase : wake.state <;> simp_all

/-- A claim of a wake that can be leased takes it under a fresh token. -/
theorem claimWakeInTransaction_grants {wakeId workerId : String} {wake : Wake}
    (hdrawn : Drawn db) (hwake : db.wakes.get? wakeId = some wake)
    (hgrantable : wake.isGrantable db nowMs = true) :
    ∃ token after claimed,
      claimWakeInTransaction db wakeId workerId nowMs leaseMs =
        .ok (token, after) ∧
      after = { db with
        wakes := after.wakes, uuidsDrawn := db.uuidsDrawn + 1 } ∧
      after.wakes.get? wakeId = some claimed ∧ claimed.state = .claimed ∧
      claimed.leaseToken = some token ∧
      claimed.leaseExpiresAtMs = some (nowMs + leaseMs) := by
  have hid : wake.wakeId = wakeId := key_of_get? hwake
  obtain ⟨hopen, hsettled, hidle, hranOut, hsafe, hfree⟩ :=
    Wake.isGrantable_iff.mp hgrantable
  rw [hid] at hsafe
  obtain ⟨lapsed, hlapsed, hclaimable⟩ :=
    lapseAuthorization_claimable hwake hgrantable
  have hstored : (getWake (lapseAuthorization db wakeId wake nowMs).drew
      wakeId).any (·.isClaimable nowMs) = true := by
    have hread : getWake (lapseAuthorization db wakeId wake nowMs).drew wakeId =
        some lapsed := hlapsed
    rw [hread]
    exact hclaimable
  refine ⟨"wake-lease:" ++ Host.randomUUID db.uuidsDrawn,
    (lapseAuthorization db wakeId wake nowMs).drew.updateWake wakeId
      (·.isClaimable nowMs) fun row => row.leased workerId
        ("wake-lease:" ++ Host.randomUUID db.uuidsDrawn) leaseMs nowMs,
    lapsed.leased workerId ("wake-lease:" ++ Host.randomUUID db.uuidsDrawn)
      leaseMs nowMs, ?_, rfl, ?_, rfl, rfl, rfl⟩
  · unfold claimWakeInTransaction
    rw [getWakeRequired, getWake, hwake, orFault_some, ok_bind,
      require_pos hopen, require_pos ⟨hsettled, hidle⟩, require_pos hranOut,
      require_pos hsafe, require_pos hfree]
    change (require ((getWake (lapseAuthorization db wakeId wake nowMs).drew
      wakeId).any (·.isClaimable nowMs) = true) Fault.wakeClaimLost >>= _) = _
    rw [require_pos hstored]
    change (require (∀ row ∈
      (lapseAuthorization db wakeId wake nowMs).wakes.rows, row.leaseToken ≠
        some ("wake-lease:" ++ Host.randomUUID db.uuidsDrawn))
      Fault.uniqueConstraint >>= _) = _
    rw [require_pos (lapseAuthorization_token hdrawn)]
    rfl
  · rw [Sidecar.get?_updateWake]
    change Option.map _ ((lapseAuthorization db wakeId wake nowMs).wakes.get?
      wakeId) = _
    rw [hlapsed, map_some, if_pos ⟨rfl, hclaimable⟩]

/-- A granted lease was on a wake that can be leased. -/
theorem claimWakeInTransaction_grantable
    (hok : claimWakeInTransaction db wakeId workerId nowMs leaseMs =
      .ok (token, after)) :
    ∃ wake, db.wakes.get? wakeId = some wake ∧
      wake.isGrantable db nowMs = true := by
  obtain ⟨wake, hwake, hok⟩ := of_bind hok
  obtain ⟨hopen, hok⟩ := of_require hok
  obtain ⟨⟨hsettled, hidle⟩, hok⟩ := of_require hok
  obtain ⟨hranOut, hok⟩ := of_require hok
  obtain ⟨hsafe, hok⟩ := of_require hok
  obtain ⟨hfree, _⟩ := of_require hok
  have hstored := getWakeRequired_ok.mp hwake
  have hid : wake.wakeId = wakeId := key_of_get? hstored
  exact ⟨wake, hstored, Wake.isGrantable_iff.mpr
    ⟨hopen, hsettled, hidle, hranOut, by rw [hid]; exact hsafe, hfree⟩⟩

omit [Host] in
/-- A wake just claimed is authorized under its token. -/
theorem authorizeWakeInTransaction_grants {claimed : Wake}
    (hclaimed : db.wakes.get? wakeId = some claimed)
    (hstate : claimed.state = .claimed)
    (htoken : claimed.leaseToken = some token)
    (hexpiry : claimed.leaseExpiresAtMs = some (nowMs + leaseMs))
    (hlease : 0 < leaseMs) :
    ∃ wake after, authorizeWakeInTransaction db wakeId token nowMs =
        .ok (wake, after) ∧
      after = { db with wakes := after.wakes } ∧
      wake.leaseToken = some token := by
  have hruns : ¬ claimed.leaseRanOut nowMs = true := by
    rw [Wake.leaseRanOut, hexpiry, any_some, decide_eq_true_eq]
    omega
  have hguard : (claimed.state = .claimed && claimed.leaseToken = some token &&
      !claimed.leaseRanOut nowMs) = true := by
    simp [hstate, htoken, hruns]
  have hread : getWakeRequired (db.updateWake wakeId
      (fun row => row.state = .claimed && row.leaseToken = some token &&
        !row.leaseRanOut nowMs)
      fun row => { row with state := .authorized, updatedAtMs := nowMs })
      wakeId = .ok
        { claimed with state := .authorized, updatedAtMs := nowMs } := by
    rw [getWakeRequired_ok, Sidecar.get?_updateWake, hclaimed, map_some,
      if_pos ⟨rfl, hguard⟩]
  refine ⟨{ claimed with state := .authorized, updatedAtMs := nowMs },
    db.updateWake wakeId
      (fun row => row.state = .claimed && row.leaseToken = some token &&
        !row.leaseRanOut nowMs)
      fun row => { row with state := .authorized, updatedAtMs := nowMs },
    ?_, rfl, htoken⟩
  unfold authorizeWakeInTransaction
  rw [getWakeRequired_ok.mpr hclaimed, ok_bind,
    require_pos (by rw [hstate]; decide), require_pos ⟨hstate, htoken⟩,
    require_pos hruns]
  simp only [hread, ok_bind]
  rfl

/-- No event of the conversation lane is leased. -/
def LaneFree (db : Sidecar) (event : InboxEvent) : Prop :=
  ∀ row ∈ db.events.rows, row.state = .leased →
    ¬ (row.conversationId = event.conversationId ∧ row.lane = event.lane)

/-- An event in a free lane can always be given its next attempt. -/
theorem recordAttempt_grants {current : InboxEvent}
    {wakeId claimToken workerId : String} (htallied : Tallied db)
    (hdrawn : Drawn db) (hcurrent : db.events.get? current.id = some current)
    (hfree : LaneFree db current) :
    ∃ attempt after, recordAttempt db current wakeId claimToken workerId nowMs
      leaseMs = .ok (attempt, after) := by
  cases hrun : recordAttempt db current wakeId claimToken workerId nowMs
      leaseMs with
  | ok granted => exact ⟨granted.1, granted.2, rfl⟩
  | error =>
    rcases require_bind_error.mp hrun with ⟨hheld, _⟩ | ⟨_, hrun⟩
    · exact absurd (fun row hrow hleased _ => hfree row hrow hleased) hheld
    rcases require_bind_error.mp hrun with ⟨hnumbered, _⟩ | ⟨_, hrun⟩
    · refine absurd ?_ hnumbered
      rintro row hrow ⟨howner, _⟩
      obtain ⟨_, hevent, _⟩ :=
          htallied.counted row.attemptId row (get?_key hrow)
      rw [howner, hcurrent] at hevent
      cases hevent
      omega
    rcases orFault_bind_error.mp hrun with ⟨hused, _⟩ | ⟨_, _, hrun⟩
    · have hunused : db.attempts.get?
          ("attempt:" ++ Host.randomUUID db.uuidsDrawn) = none := by
        cases hrow : db.attempts.get?
            ("attempt:" ++ Host.randomUUID db.uuidsDrawn) with
        | none => rfl
        | some row =>
          exact absurd (key_of_get? hrow)
            (hdrawn.attempt _ row db.uuidsDrawn hrow (Nat.le_refl _))
      obtain ⟨_, hattempts⟩ := @exists_insert? Attempt String
        _ _ db.attempts
        { attemptId := "attempt:" ++ Host.randomUUID db.uuidsDrawn
          eventId := current.id, wakeId := some wakeId
          ordinal := current.attemptCount + 1, workerId
          startedAtMs := nowMs, finishedAtMs := none
          dispatchTruth := .notStarted, failureClass := none
          errorCode := none } hunused
      exact absurd (hused.symm.trans hattempts) (by simp)
    · cases hrun

omit [Host] in
theorem recordLaneServed_total {lane conversationId : String} :
    ∃ after, recordLaneServed db lane conversationId nowMs = .ok after := by
  unfold recordLaneServed
  simp only
  split
  · exact ⟨_, rfl⟩
  · rename_i hnone
    obtain ⟨fairness, hfairness⟩ := exists_insert?
      (not_isSome_iff_eq_none.mp hnone)
    exact ⟨{ db with fairness }, by rw [hfairness]; rfl⟩

omit [Host] in
/-- A pending event is within its bounds when its attempts and its age are. -/
theorem InboxEvent.isBounded_of_pending {row : InboxEvent}
    (hpending : row.state = .pending) (howner : row.wakeId = some wakeId) :
    row.isBounded nowMs = false ↔ row.attemptCount + 1 ≤ maxAttempts ∧
      nowMs < row.firstAttemptAtMs.getD nowMs + maxRetryAgeMs := by
  unfold isBounded isClaimableContinuation
  rw [howner, hpending]
  cases row.firstAttemptAtMs with
  | none =>
    have hage : (0 : Int) < maxRetryAgeMs := by decide
    simp only [isSome_some, decide_true, Bool.true_or, Bool.true_and,
      any_none, Bool.or_false, decide_eq_false_iff_not,
      getD_none]
    constructor
    · intro _
      exact ⟨by omega, by omega⟩
    · omega
  | some =>
    simp only [isSome_some, decide_true, Bool.true_or, Bool.true_and,
      any_some, Bool.or_eq_false_iff, decide_eq_false_iff_not,
      getD_some]
    constructor
    · rintro ⟨_, _⟩
      exact ⟨by omega, by omega⟩
    · rintro ⟨_, _⟩
      exact ⟨by omega, by omega⟩

/-- An eligible event in a free lane is granted exactly to a named worker,
within the bounds of the event and on a wake that can be leased. -/
theorem claimCandidateInTransaction_ok_iff {current : InboxEvent}
    (hsound : Sound db) (hcurrent : db.events.get? current.id = some current)
    (hpending : current.state = .pending)
    (heligible : current.nextEligibleAtMs.all (· ≤ nowMs) = true)
    (hfree : LaneFree db current) (hlease : 0 < leaseMs)
    (howner : current.wakeId = some wakeId)
    (hwake : db.wakes.get? wakeId = some wake) :
    (∃ granted after, claimCandidateInTransaction db current workerId nowMs
      leaseMs = .ok (granted, after)) ↔
      blank workerId = false ∧ current.isBounded nowMs = false ∧
        wake.isGrantable db nowMs = true := by
  obtain ⟨_, _, howner', hnamed, _, hlineage⟩ :=
      ensureWakeLineage_of_linked hsound.linked hcurrent
  cases howner.symm.trans howner'
  rw [InboxEvent.isBounded_of_pending hpending howner]
  constructor
  · rintro ⟨_, _, hok⟩
    obtain ⟨hworker, hok⟩ := of_require hok
    replace hok := passed hok
    replace hok := passed hok
    obtain ⟨_, _, hok⟩ := of_bind hok
    obtain ⟨_, htarget, hok⟩ := of_orFault hok
    cases hnamed.symm.trans htarget
    replace hok := passed hok
    obtain ⟨hcount, hok⟩ := of_require hok
    obtain ⟨hage, hok⟩ := of_require hok
    obtain ⟨⟨_, _⟩, hclaim, _⟩ := of_bind hok
    obtain ⟨_, hstored, hgrantable⟩ := claimWakeInTransaction_grantable hclaim
    cases hwake.symm.trans hstored
    exact ⟨by simpa using hworker, ⟨hcount, hage⟩, hgrantable⟩
  · rintro ⟨hworker, ⟨hcount, hage⟩, hgrantable⟩
    obtain ⟨token, claimedDb, _, hclaim, hframe, hclaimed, hstate, htoken,
      hexpiry⟩ := @claimWakeInTransaction_grants _ db nowMs leaseMs
        wakeId workerId wake hsound.drawn hwake hgrantable
    obtain ⟨granted, authorizedDb, hauthorize, hframe', htoken'⟩ :=
      authorizeWakeInTransaction_grants hclaimed hstate htoken hexpiry hlease
    have hcomposable : (getWake db wakeId).any isComposableWake = true := by
      obtain ⟨hopen, hsettled, hidle, _⟩ := Wake.isGrantable_iff.mp hgrantable
      rw [getWake, hwake]
      simp [isComposableWake, hopen, hsettled, hidle]
    have hevents : authorizedDb.events = db.events := by
      rw [hframe', hframe]
    have hsound' : Sound authorizedDb := by
      have htrace : Trace .lenient db authorizedDb :=
        (claimWakeInTransaction_trace hclaim).trans
          (authorizeWakeInTransaction_cases hauthorize).1
      exact hsound.trace htrace
    obtain ⟨attempt, recordedDb, hrecord⟩ := @recordAttempt_grants _
      authorizedDb nowMs leaseMs current wakeId token workerId hsound'.tallied
      hsound'.drawn (by rw [hevents]; exact hcurrent)
      (by unfold LaneFree; rw [hevents]; exact hfree)
    obtain ⟨servedDb, hserved⟩ := @recordLaneServed_total recordedDb nowMs
      current.lane current.conversationId
    refine ⟨⟨attempt.attemptId, current.id, some wakeId, attempt.ordinal, token,
      .notStarted, workerId, nowMs, current.lane, current.priority⟩, servedDb,
      ?_⟩
    unfold claimCandidateInTransaction
    rw [require_pos (by rw [hworker]; rfl), ok_bind, require_pos hpending,
      ok_bind, require_pos heligible, ok_bind, hlineage, ok_bind, hnamed,
      orFault_some, ok_bind, require_pos hcomposable, ok_bind,
      require_pos hcount, ok_bind, require_pos hage, ok_bind]
    refine bind_ok.mpr ⟨(token, claimedDb), hclaim, ?_⟩
    refine bind_ok.mpr ⟨(granted, authorizedDb), hauthorize, ?_⟩
    refine require_bind_ok.mpr ⟨htoken', ?_⟩
    refine bind_ok.mpr ⟨(attempt, recordedDb), hrecord, ?_⟩
    exact bind_ok.mpr ⟨servedDb, hserved, rfl⟩

end Grants

section Head

variable [Host] {db : Sidecar} {input : ClaimDurableWorkInput} {nowMs : Int}
variable {row event : InboxEvent}

/-- An absent or empty text filters nothing. -/
def ClaimDurableWorkInput.isUnfiltered (input : ClaimDurableWorkInput) : Bool :=
  input.conversationId.all (· = "") && input.eventId.all (· = "") &&
    input.lane.all (· = "") && input.excludeConversationPrefix.all (· = "")

omit [Host] in
theorem InboxEvent.isCandidate_of_unfiltered
    (hclear : input.isUnfiltered = true) : row.isCandidate input =
      (row.wakeId.isSome && (row.state = .pending || row.state = .leased)) := by
  simp only [ClaimDurableWorkInput.isUnfiltered, Bool.and_eq_true] at hclear
  obtain ⟨⟨⟨hconversation, hevent⟩, hlane⟩, hprefix⟩ := hclear
  have hmatches : ∀ (filter : Option String) (value : String),
      filter.all (· = "") = true → matchesFilter filter value = true := by
    intro filter _ hempty
    cases filter with
    | none => rfl
    | some wanted =>
      have hwanted : wanted = "" := by simpa using hempty
      simp [matchesFilter, hwanted]
  have hexcluded : (input.excludeConversationPrefix.all fun excluded =>
      excluded = "" || !(excluded.toList.isPrefixOf
        row.conversationId.toList)) = true := by
    cases hcase : input.excludeConversationPrefix with
    | none => rfl
    | some excluded =>
      rw [hcase] at hprefix
      have hempty : excluded = "" := by simpa using hprefix
      simp [hempty]
  simp only [isCandidate, hmatches _ _ hconversation, hmatches _ _ hevent,
    hmatches _ _ hlane, hexcluded, Bool.and_true]

omit [Host] in
theorem mem_candidates {candidate : FairWorkCandidate}
    (hclear : input.isUnfiltered = true) :
    candidate ∈ candidates db input ↔ ∃ row ∈ db.events.rows,
      row.wakeId.isSome = true ∧
      (row.state = .pending ∨ row.state = .leased) ∧
      fairCandidate db row = candidate := by
  simp only [candidates, List.mem_map, mem_insertionSort, mem_filter,
    InboxEvent.isCandidate_of_unfiltered hclear, Bool.and_eq_true,
    Bool.or_eq_true, decide_eq_true_eq]
  constructor
  · rintro ⟨row, ⟨hrow, howned, hstate⟩, heq⟩
    exact ⟨row, hrow, howned, hstate, heq⟩
  · rintro ⟨row, hrow, howned, hstate, heq⟩
    exact ⟨row, ⟨hrow, howned, hstate⟩, heq⟩

/-- The event can be selected: it is pending, eligible by now, and in a free
conversation lane. -/
structure Selectable (db : Sidecar) (nowMs : Int) (event : InboxEvent) :
    Prop where
  stored : db.events.get? event.id = some event
  pending : event.state = .pending
  eligible : event.nextEligibleAtMs.all (· ≤ nowMs) = true
  free : LaneFree db event

omit [Host] in
theorem isEligibleAmong_iff (hlinked : Linked db)
    (hclear : input.isUnfiltered = true)
    (hstored : db.events.get? row.id = some row) :
    (fairCandidate db row).isEligibleAmong (candidates db input) nowMs =
      true ↔ Selectable db nowMs row := by
  have hfree : ((candidates db input).all fun other =>
      !(other.state = .leased && other.lane = (fairCandidate db row).lane &&
        other.conversationId = (fairCandidate db row).conversationId)) = true ↔
      LaneFree db row := by
    simp only [List.all_eq_true, mem_candidates hclear, Bool.not_eq_true',
      Bool.and_eq_false_iff, decide_eq_false_iff_not, LaneFree, not_and]
    constructor
    · intro hall other hother hleased hconversation hlane
      obtain ⟨_, _, _, howner, _⟩ :=
          hlinked.eventWake other.id other (get?_key hother)
      rcases hall (fairCandidate db other) ⟨other, hother, by simp [howner],
        .inr hleased, rfl⟩ with (hno | hno) | hno
      · exact hno hleased
      · exact hno hlane
      · exact hno hconversation
    · rintro hall _ ⟨other, hother, _, _, rfl⟩
      by_cases hleased : other.state = .leased
      · by_cases hlane : other.lane = row.lane
        · exact .inr fun hconversation =>
            hall other hother hleased hconversation hlane
        · exact .inl (.inr hlane)
      · exact .inl (.inl hleased)
  unfold FairWorkCandidate.isEligibleAmong
  rw [Bool.and_eq_true, Bool.and_eq_true, hfree, decide_eq_true_eq]
  exact ⟨fun hall => ⟨hstored, hall.1.1, hall.1.2, hall.2⟩,
    fun hselectable => ⟨⟨hselectable.pending, hselectable.eligible⟩,
      hselectable.free⟩⟩

/-- The scheduler's head is a selectable event. -/
theorem selectFairEligibleHead_selectable {selected : FairWorkCandidate}
    (hlinked : Linked db) (hclear : input.isUnfiltered = true)
    (hselected : selectFairEligibleHead (candidates db input) nowMs =
      some selected) :
    ∃ row, row.id = selected.eventId ∧ Selectable db nowMs row := by
  have hmem := mem_of_firstBy hselected
  obtain ⟨hcandidate, heligible⟩ := mem_filter.mp hmem
  obtain ⟨row, hrow, _, _, rfl⟩ := (mem_candidates hclear).mp hcandidate
  exact ⟨row, rfl, (isEligibleAmong_iff hlinked hclear
    (get?_key hrow)).mp heligible⟩

/-- A selectable event leaves the scheduler a head. -/
theorem exists_fairEligibleHead (hlinked : Linked db)
    (hclear : input.isUnfiltered = true)
    (hselectable : Selectable db nowMs event) :
    ∃ selected, selectFairEligibleHead (candidates db input) nowMs =
      some selected := by
  obtain ⟨_, _, _, howner, _⟩ :=
      hlinked.eventWake event.id event hselectable.stored
  refine exists_firstBy (mem_filter.mpr ⟨(mem_candidates hclear).mpr
    ⟨event, mem_of_get? hselectable.stored, by simp [howner],
      .inl hselectable.pending, rfl⟩, ?_⟩)
  exact (isEligibleAmong_iff hlinked hclear hselectable.stored).mpr hselectable

/-- The inbox as the sweep leaves it. -/
def sweptSidecar (db : Sidecar) (nowMs : Int) : Sidecar :=
  { db with events := sweptEvents db nowMs none }

/-- The event that a claim selects once its sweep has run. -/
def fairHead (db : Sidecar) (input : ClaimDurableWorkInput) :
    Option FairWorkCandidate :=
  selectFairEligibleHead (candidates (sweptSidecar db input.nowMs) input)
    input.nowMs

omit [Host] in
theorem candidates_congr {db' : Sidecar} (hevents : db'.events = db.events)
    (hfairness : db'.fairness = db.fairness) :
    candidates db' input = candidates db input := by
  have hfair : fairCandidate db' = fairCandidate db := by
    funext row
    simp only [fairCandidate, lastServedAtMs, hfairness]
  rw [candidates, candidates, hevents, hfair]

/-- An event that waits to be worked on and may be: pending and eligible by
now, within its bounds, on a pending wake of a valid lineage, in a conversation
lane where nothing is leased. -/
structure Workable (db : Sidecar) (nowMs : Int) (event : InboxEvent) :
    Prop where
  selectable : Selectable db nowMs event
  bounded : event.isBounded nowMs = false
  lineage : ∃ cycleId, ensureWakeLineage db event = .ok cycleId
  wake : ∃ wakeId wake, event.wakeId = some wakeId ∧
    db.wakes.get? wakeId = some wake ∧ wake.state = .pending

/-- The event that the claim selects is within its bounds, on a wake that can
be leased once recovery has run. -/
def HeadGrantable (db : Sidecar) (input : ClaimDurableWorkInput) : Prop :=
  ∀ selected row wakeId wake, fairHead db input = some selected →
    (sweptSidecar db input.nowMs).events.get? selected.eventId = some row →
    row.wakeId = some wakeId → db.wakes.get? wakeId = some wake →
    row.isBounded input.nowMs = false ∧
      (wake.recovered db input.nowMs none).isGrantable db input.nowMs = true

omit [Host] in
/-- The sweep leaves a workable event selectable. -/
theorem Workable.swept (hworkable : Workable db nowMs event) :
    Selectable (sweptSidecar db nowMs) nowMs event := by
  have hkept : event.swept db nowMs none = event :=
    InboxEvent.swept_of_pending hworkable.selectable.pending hworkable.bounded
  refine ⟨?_, hworkable.selectable.pending, hworkable.selectable.eligible, ?_⟩
  · rw [sweptSidecar, sweptEvents, get?_update,
      hworkable.selectable.stored, map_some, if_pos rfl, hkept]
  · intro _ hrow hleased hsame
    simp only [sweptSidecar, sweptEvents] at hrow
    rw [Table.mem_update_iff] at hrow
    obtain ⟨old, hold, hswept⟩ := hrow
    rw [if_pos rfl] at hswept
    rw [← hswept] at hleased hsame
    have hkeeps := (old.swept_same db nowMs none).2
    rw [hkeeps.conversationId, hkeeps.lane] at hsame
    exact hworkable.selectable.free old hold
      (InboxEvent.leased_of_swept hleased) hsame

/-- In every reachable state where some event is workable, a claim without
filters returns an attempt exactly when it names its worker, its sweep meets no
conflict, and the event it selects can be granted. -/
theorem claim_returns_attempt_iff (hreached : Reached db)
    (hclear : input.isUnfiltered = true) {event : InboxEvent}
    (hworkable : Workable db input.nowMs event) :
    (∃ granted after,
      claimNextDurableWork db input = .ok (some granted, after)) ↔
      blank input.workerId = false ∧
        (∀ wakeId, ¬ SweepConflict db input.nowMs none wakeId) ∧
        HeadGrantable db input := by
  have hsound := hreached.sound
  obtain ⟨hsweepOk, hsweepSpec⟩ :=
    @sweepDurableWork_spec _ db input.nowMs none hsound
  -- What the claim does after its sweep, in terms of the state before it.
  have hafter : ∀ swept, sweepDurableWork db input.nowMs none = .ok swept →
      ((∃ granted after,
        claimNextDurableWork db input = .ok (some granted, after)) ↔
        blank input.workerId = false ∧ HeadGrantable db input) := by
    intro swept hsweep
    obtain ⟨hsweeps, hsweptSound⟩ := hsweepSpec swept hsweep
    have hevents : swept.events = (sweptSidecar db input.nowMs).events :=
      hsweeps.events
    have hfairness : swept.fairness =
        (sweptSidecar db input.nowMs).fairness := by
      rw [hsweeps.frame]
      rfl
    have heffects : swept.effects = db.effects := by
      rw [hsweeps.frame]
    have hcandidates : candidates swept input =
        candidates (sweptSidecar db input.nowMs) input :=
      candidates_congr hevents hfairness
    have hselectable : Selectable swept input.nowMs event := by
      obtain ⟨hstored, hpending, heligible, hfree⟩ := hworkable.swept
      refine ⟨by rw [hevents]; exact hstored, hpending, heligible, ?_⟩
      unfold LaneFree
      rw [hevents]
      exact hfree
    obtain ⟨selected, hselected⟩ :=
      exists_fairEligibleHead hsweptSound.linked hclear hselectable
    have hhead : fairHead db input = some selected := by
      rw [fairHead, ← hcandidates]
      exact hselected
    obtain ⟨row, hid, hrow⟩ := selectFairEligibleHead_selectable
      hsweptSound.linked hclear hselected
    obtain ⟨_, wakeId, wake', howner, hwake', _⟩ :=
      hsweptSound.linked.eventWake row.id row hrow.stored
    have hdurable : row.isDurableContinuation = true := by
      simp [InboxEvent.isDurableContinuation, hrow.pending]
    have hwakes := hsweeps.wakes row.id row wakeId hrow.stored hdurable howner
    rw [hwake'] at hwakes
    obtain ⟨wake, hwake, hrecovered⟩ := Option.map_eq_some_iff.mp hwakes.symm
    have hgrantable : wake'.isGrantable swept input.nowMs =
        (wake.recovered db input.nowMs none).isGrantable db input.nowMs := by
      rw [hrecovered]
      simp only [Wake.isGrantable, hasAmbiguousEffect,
        getUnresolvedInFlightForWake, heffects]
    have hlease : 0 < boundedLeaseMs input.leaseMs := by
      unfold boundedLeaseMs
      omega
    have hclaim : (∃ granted after,
        claimNextDurableWork db input = .ok (some granted, after)) ↔
        ∃ granted after, claimCandidateInTransaction swept row input.workerId
          input.nowMs (boundedLeaseMs input.leaseMs) = .ok (granted, after) := by
      have hread : eventRow swept selected.eventId = .ok row := by
        rw [eventRow, ← hid, hrow.stored, orFault_some]
      unfold claimNextDurableWork
      rw [hsweep]
      simp only [hselected, hread, ok_bind]
      constructor
      · rintro ⟨_, _, hok⟩
        obtain ⟨⟨attempt, claimed⟩, hclaimed, _⟩ := of_bind hok
        exact ⟨attempt, claimed, hclaimed⟩
      · rintro ⟨granted, after, hok⟩
        exact ⟨granted, after, bind_ok.mpr ⟨(granted, after), hok, rfl⟩⟩
    rw [hclaim, claimCandidateInTransaction_ok_iff hsweptSound hrow.stored
      hrow.pending hrow.eligible hrow.free hlease howner hwake', hgrantable]
    refine and_congr_right fun _ => ⟨?_, ?_⟩
    · rintro ⟨hbounded, hleasable⟩ _ _ _ _ hother hfound hfoundOwner hstored
      cases hhead.symm.trans hother
      rw [← hevents, ← hid, hrow.stored] at hfound
      cases hfound
      cases howner.symm.trans hfoundOwner
      cases hwake.symm.trans hstored
      exact ⟨hbounded, hleasable⟩
    · intro hall
      refine hall selected row wakeId wake hhead ?_ howner hwake
      rw [← hevents, ← hid]
      exact hrow.stored
  constructor
  · rintro ⟨granted, after, hok⟩
    have hsweep : ∃ swept, sweepDurableWork db input.nowMs none =
        .ok swept := by
      obtain ⟨swept, hsweep, _⟩ := of_bind hok
      exact ⟨swept, hsweep⟩
    obtain ⟨swept, hswept⟩ := hsweep
    obtain ⟨hworker, hgrant⟩ := (hafter swept hswept).mp ⟨granted, after, hok⟩
    exact ⟨hworker, hsweepOk.mp ⟨swept, hswept⟩, hgrant⟩
  · rintro ⟨hworker, hquiet, hgrant⟩
    obtain ⟨swept, hswept⟩ := hsweepOk.mpr hquiet
    exact (hafter swept hswept).mpr ⟨hworker, hgrant⟩

end Head

section Plain

attribute [local instance] plainHost

/-- A message in a conversation of its own. -/
def messageInOtherConversation : List Op :=
  [.appendInboxEvent
    { conversationId := "d", kind := "owner_message", createdAtMs := 3 }
    (some "e")]

/-- A matured trigger, and then a message elsewhere. -/
def maturedAndMessage : List Op :=
  matured ++ messageInOtherConversation

/-- The same, with the trigger cancelled in between: its wake is closed over
its pending event. -/
def cancelledAndMessage : List Op :=
  matured ++ [.cancelTrigger "t" 2] ++ messageInOtherConversation

/-- An event that passes these tests is workable. -/
theorem workable_of_reached {db : Sidecar} {id : String} {nowMs : Int}
    (hreached : Reached db)
    (hevent : (db.events.get? id).any (fun event =>
      event.state = .pending && event.nextEligibleAtMs.all (· ≤ nowMs) &&
        !event.isBounded nowMs && event.wakeId.any fun wakeId =>
          (db.wakes.get? wakeId).any (·.state = .pending)) = true)
    (hidle : db.events.rows.all (·.state ≠ .leased) = true) :
    ∃ event, db.events.get? id = some event ∧ Workable db nowMs event := by
  obtain ⟨event, hstored, htests⟩ := (Option.any_eq_true _ _).mp hevent
  simp only [Bool.and_eq_true, decide_eq_true_eq, Bool.not_eq_true',
    Option.any_eq_true] at htests
  obtain ⟨⟨⟨hpending, heligible⟩, hbounded⟩, wakeId, howner, wake, hwake,
    hwaiting⟩ := htests
  have hid : event.id = id := key_of_get? hstored
  obtain ⟨_, found, _, _, _, hlineage⟩ :=
    ensureWakeLineage_of_linked hreached.sound.linked hstored
  refine ⟨event, hstored, ⟨by rw [hid]; exact hstored, hpending, heligible, ?_⟩,
    hbounded, ⟨found.cycleId, hlineage⟩,
    ⟨wakeId, wake, howner, hwake, hwaiting⟩⟩
  intro row hrow hleased
  have hnot := List.all_eq_true.mp hidle row hrow
  simp [hleased] at hnot

/-- With both wakes open the claim returns an attempt. -/
theorem claim_returns_attempt_iff_matured :
    blank "w" = false ∧
      (∀ wakeId, ¬ SweepConflict (run step {} maturedAndMessage) 4 none
        wakeId) ∧
      HeadGrantable (run step {} maturedAndMessage)
        { workerId := "w", nowMs := 4 } := by
  obtain ⟨_, _, hworkable⟩ := @workable_of_reached
    (run step {} maturedAndMessage) "e" 4 ⟨maturedAndMessage, rfl⟩
    (by decide +kernel) (by decide +kernel)
  have hclear : ({ workerId := "w", nowMs := 4 } :
      ClaimDurableWorkInput).isUnfiltered = true := rfl
  refine (claim_returns_attempt_iff ⟨maturedAndMessage, rfl⟩ hclear
    hworkable).mp ?_
  have hclaims : ((claimNextDurableWork (run step {} maturedAndMessage)
      { workerId := "w", nowMs := 4 }).toOption.bind Prod.fst).isSome =
        true := by decide +kernel
  cases hrun : claimNextDurableWork (run step {} maturedAndMessage)
      { workerId := "w", nowMs := 4 } with
  | error =>
    rw [hrun] at hclaims
    cases hclaims
  | ok result =>
    obtain ⟨granted, after⟩ := result
    rw [hrun] at hclaims
    obtain ⟨attempt, hattempt⟩ := Option.isSome_iff_exists.mp hclaims
    have hgranted : granted = some attempt := hattempt
    exact ⟨attempt, after, by rw [hgranted]⟩

/-- The event that the cancelled trigger left behind is selected before the
message, and the claim faults on its closed wake. -/
theorem stranded_head_blocks_claim :
    ∃ event, (run step {} cancelledAndMessage).events.get? "e" = some event ∧
      Workable (run step {} cancelledAndMessage) 4 event ∧
      ∀ granted after, claimNextDurableWork (run step {} cancelledAndMessage)
        { workerId := "w", nowMs := 4 } ≠ .ok (some granted, after) := by
  obtain ⟨event, hevent, hworkable⟩ := @workable_of_reached
    (run step {} cancelledAndMessage) "e" 4 ⟨cancelledAndMessage, rfl⟩
    (by decide +kernel) (by decide +kernel)
  refine ⟨event, hevent, hworkable, ?_⟩
  intro _ _ hok
  have hfault : (claimNextDurableWork (run step {} cancelledAndMessage)
      { workerId := "w", nowMs := 4 }).toOption.isSome = false := by
    decide +kernel
  rw [hok] at hfault
  cases hfault

end Plain

end CognitiveSidecar
