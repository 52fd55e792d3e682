/-
The limits of a bucket over whole runs: how many dispatches start in a second,
and what is charged in a minute.
-/
import CognitiveSidecar.AttentionRuns
import CognitiveSidecar.Lib.Window
import Mathlib

namespace CognitiveSidecar

variable {now : Int} {row : AttentionRequest}
variable {row' : AttentionRequest}

open Option List Relational

section Limits

variable {db : AttentionDb} {quotaBucket : String}
variable {windowStart candidate : Int} {turns : Nat}

theorem oldestStartInWindow_ge {oldest : Int}
    (holdest : oldestStartInWindow db windowStart quotaBucket = some oldest) :
    windowStart ≤ oldest := by
  have hmem := List.min?_mem holdest
  obtain ⟨_, _, hrow⟩ := mem_filterMap.mp hmem
  simpa using (filter_eq_some_iff.mp hrow).2

/-- Without an oldest start there is none in the window. -/
theorem oldestStartInWindow_none
    (hnone : oldestStartInWindow db windowStart quotaBucket = none) :
    rpsStartsInWindow db windowStart quotaBucket = 0 := by
  have hempty := List.min?_eq_none_iff.mp hnone
  refine countP_eq_zero.mpr fun row hmem hrow => ?_
  simp only [Bool.and_eq_true, decide_eq_true_eq] at hrow
  obtain ⟨⟨hstart, hbucket⟩, _⟩ := hrow
  obtain ⟨started, hstarted, hge⟩ := any_eq_true _ _ |>.mp hstart
  have hin : started ∈ (db.requests.rows.filter
      (·.quotaBucket = quotaBucket)).filterMap fun row =>
        row.dispatchStartedAt.filter (windowStart ≤ ·) := by
    refine mem_filterMap.mpr ⟨row, ?_, ?_⟩
    · simpa using ⟨hmem, hbucket⟩
    · rw [hstarted]
      exact filter_eq_some_iff.mpr ⟨rfl, hge⟩
  rw [hempty] at hin
  cases hin

theorem le_rpsCandidate {rpsLimit turns : Nat} {candidate : Int} :
    candidate ≤ rpsCandidate db quotaBucket rpsLimit turns candidate := by
  induction turns generalizing candidate with
  | zero => exact le_refl candidate
  | succ _ ih =>
    unfold rpsCandidate
    dsimp only
    split
    · exact le_refl candidate
    · split
      · exact le_refl candidate
      · rename_i oldest holdest
        have hge := oldestStartInWindow_ge holdest
        have hle := @ih (oldest + rpsWindowMs)
        omega

/-- A full window has an oldest start, so its candidate is later. -/
theorem rps_room {rpsLimit : Nat} (hpos : 0 < rpsLimit)
    (hnow : rpsCandidate db quotaBucket rpsLimit (turns + 1) candidate ≤
      candidate) :
    rpsStartsInWindow db (candidate - rpsWindowMs + 1) quotaBucket <
      rpsLimit := by
  unfold rpsCandidate at hnow
  dsimp only at hnow
  split at hnow
  · assumption
  · split at hnow
    · rename_i hnone
      have hempty := oldestStartInWindow_none hnone
      omega
    · rename_i oldest holdest
      have hge := oldestStartInWindow_ge holdest
      have hle := @le_rpsCandidate db quotaBucket rpsLimit turns
        (oldest + rpsWindowMs)
      omega

theorem le_tpmCandidate {tpmLimit demandTokens : Int} {turns : Nat}
    {candidate : Int} :
    candidate ≤
      tpmCandidate db quotaBucket tpmLimit demandTokens turns candidate := by
  induction turns generalizing candidate with
  | zero => exact le_refl candidate
  | succ _ ih =>
    unfold tpmCandidate
    split
    · exact le_refl candidate
    · have hle := @ih (candidate + 1000)
      omega

theorem tpm_room {tpmLimit demandTokens : Int}
    (hnow : tpmCandidate db quotaBucket tpmLimit demandTokens (turns + 1)
      candidate ≤ candidate) :
    tokensInWindow db (candidate - tpmWindowMs + 1) candidate quotaBucket +
      demandTokens ≤ tpmLimit := by
  unfold tpmCandidate at hnow
  split at hnow
  · assumption
  · have hle := @le_tpmCandidate db quotaBucket tpmLimit demandTokens turns
      (candidate + 1000)
    omega

/-- A request that may be dispatched at once, by a reading that is not before
its admission, finds room under both limits. -/
theorem WithinLimits.room [AttentionHost] {computed : Int}
    (hlimits : WithinLimits db row now computed) (hle : now ≤ computed) :
    now = computed ∧
      rpsStartsInWindow db (computed - rpsWindowMs + 1) row.quotaBucket <
        (AttentionHost.quotaContractFor row.quotaBucket).rps ∧
      tokensInWindow db (computed - tpmWindowMs + 1) computed row.quotaBucket +
        row.demand ≤ (AttentionHost.quotaContractFor row.quotaBucket).tpm := by
  obtain ⟨earliest, hearliest, _⟩ := hlimits
  unfold earliestLegalDispatchMs at hearliest
  dsimp only at hearliest
  split at hearliest
  · cases hearliest
  · injection hearliest with hearliest
    generalize hcandidate : rpsCandidate db row.quotaBucket
      (AttentionHost.quotaContractFor row.quotaBucket).rps 8 computed =
        candidate at hearliest
    have hrps : computed ≤ candidate := hcandidate ▸ le_rpsCandidate
    have htpm : candidate ≤ earliest := hearliest ▸ le_tpmCandidate
    have hcomputed : candidate = computed := by omega
    subst hcomputed
    refine ⟨by omega, ?_, ?_⟩
    · exact rps_room (AttentionHost.quotaContractFor row.quotaBucket).rps_pos
        (le_of_eq hcandidate)
    · exact tpm_room (hearliest.le.trans (by omega))

end Limits

/-- What the columns of a request are at one time: a request that waits is
idle, one that runs holds its estimate, and one that is over left one of the
charges. -/
inductive Accounted (now : Int) (row : AttentionRequest) : Prop
  | waiting (hstate : row.state = .queued) (hidle : row.Idle)
  | running (reserved started : Int) (hstate : row.state = .running)
      (hreserved : row.reservedAt = some reserved)
      (hstarted : row.dispatchStartedAt = some started)
      (hreservedPast : reserved ≤ now) (hstartedPast : started ≤ now)
      (hinput : row.reservedInputTokens = row.estimatedInputTokens)
      (houtput : row.reservedOutputTokens = row.estimatedOutputTokens)
  | reported (started : Int) (hstate : row.state = .terminal)
      (hactual : row.actualInputTokens.isSome = true)
      (hretain : row.budgetRetainUntil = none)
      (hstarted : row.dispatchStartedAt = some started)
      (hstartedPast : started ≤ now)
  | retained (reserved : Int) (hstate : row.state = .terminal)
      (hactual : row.actualInputTokens = none)
      (hretain : row.budgetRetainUntil = some (reserved + tpmWindowMs))
      (hreserved : row.reservedAt = some reserved)
      (hreservedPast : reserved ≤ now)
      (hinput : row.reservedInputTokens = row.estimatedInputTokens)
      (houtput : row.reservedOutputTokens = row.estimatedOutputTokens)
  | uncharged (hstate : row.state = .terminal)
      (hactual : row.actualInputTokens = none)
      (hretain : row.budgetRetainUntil = none)

theorem Accounted.idle (haccounted : Accounted now row)
    (hstate : row.state = .queued) :
    row.Idle := by
  cases haccounted with
  | waiting _ hidle => exact hidle
  | running _ _ hother | reported _ hother | retained _ hother
  | uncharged hother => rw [hstate] at hother; cases hother

/-- A running request has been reserved and started. -/
theorem Accounted.of_running (haccounted : Accounted now row)
    (hstate : row.state = .running) :
    ∃ reserved started, row.reservedAt = some reserved ∧
      row.dispatchStartedAt = some started := by
  cases haccounted with
  | running reserved started _ hreserved hstarted =>
    exact ⟨reserved, started, hreserved, hstarted⟩
  | waiting hother | reported _ hother | retained _ hother | uncharged hother =>
    rw [hstate] at hother; cases hother

theorem Accounted.mono {later : Int} (haccounted : Accounted now row)
    (hle : now ≤ later) :
    Accounted later row := by
  cases haccounted with
  | waiting hstate hidle => exact .waiting hstate hidle
  | running reserved started hstate hreserved hstarted hpast hpast' hinput
      houtput =>
    exact .running reserved started hstate hreserved hstarted
      (hpast.trans hle) (hpast'.trans hle) hinput houtput
  | reported started hstate hactual hretain hstarted hpast =>
    exact .reported started hstate hactual hretain hstarted (hpast.trans hle)
  | retained reserved hstate hactual hretain hreserved hpast hinput houtput =>
    exact .retained reserved hstate hactual hretain hreserved
      (hpast.trans hle) hinput houtput
  | uncharged hstate hactual hretain => exact .uncharged hstate hactual hretain

theorem StartedAs.accounted {reserved started : Int}
    (hstarted : StartedAs row reserved started row')
    (hreserved : reserved ≤ now) (hpast : started ≤ now) :
    Accounted now row' := by
  refine .running reserved started hstarted.state hstarted.reservedAt
    hstarted.dispatchStartedAt hreserved hpast ?_ ?_
  · rw [hstarted.reservedInputTokens, hstarted.estimatedInputTokens]
  · rw [hstarted.reservedOutputTokens, hstarted.estimatedOutputTokens]

theorem FinishedAs.accounted (hfinished : FinishedAs row row')
    (hstate : row.state = .running) (haccounted : Accounted now row) :
    Accounted now row' := by
  cases haccounted with
  | waiting hother | reported _ hother | retained _ hother | uncharged hother =>
    rw [hstate] at hother; cases hother
  | running reserved started _ hreserved hstarted hpast hpast' hinput
      houtput =>
    have hsome : row.reservedAt ≠ none := by rw [hreserved]; simp
    cases hfinished.charge hsome with
    | reported hactual hretain =>
      exact .reported started hfinished.state hactual hretain
        (hfinished.dispatchStartedAt.trans hstarted) hpast'
    | retained _ hkept hactual hretain hkeptInput hkeptOutput =>
      rw [hreserved] at hkept
      cases hkept
      refine .retained reserved hfinished.state hactual hretain
        (hfinished.reservedAt.trans hreserved) hpast ?_ ?_
      · rw [hkeptInput, hinput, hfinished.estimatedInputTokens]
      · rw [hkeptOutput, houtput, hfinished.estimatedOutputTokens]
    | uncounted hactual hretain =>
      exact .uncharged hfinished.state hactual hretain

theorem ClosedAs.accounted (hclosed : ClosedAs row row') (hidle : row.Idle) :
    Accounted now row' :=
  .uncharged hclosed.state (hclosed.idle hidle).actualInputTokens
    (hclosed.idle hidle).budgetRetainUntil

/-- Every request of the ledger is accounted for. -/
def AllAccounted (now : Int) (s : AttentionSystem) : Prop :=
  ∀ id row, s.db.requests.get? id = some row → Accounted now row

section Steps

variable [AttentionHost] {clock : Nat → Int} {s s' : AttentionSystem}
  {op : AttentionOp}

theorem CallMove.accounted {row' : AttentionRequest} {phase phase' : CallPhase}
    (hmono : Monotone clock)
    (hmove : CallMove s.db row (s.clockFrom clock) phase phase' row')
    (haccounted : Accounted (clock s.reads) row) :
    Accounted (clock (s.reads + 8)) row' := by
  have hlater : ∀ k, k ≤ 8 → s.clockFrom clock k ≤ clock (s.reads + 8) :=
    fun k _ => hmono (by omega)
  have hpast : clock s.reads ≤ clock (s.reads + 8) := hmono (by omega)
  cases hmove with
  | attempt _ hstate hmove =>
    cases hmove with
    | waits => exact haccounted.mono hpast
    | closes hclosed => exact hclosed.accounted (haccounted.idle hstate)
    | starts _ hstarted =>
      exact hstarted.accounted (hlater 1 (by omega)) (hlater 4 (by omega))
    | refuses _ hstarted hfinished =>
      exact hfinished.accounted hstarted.state
        (hstarted.accounted (hlater 1 (by omega)) (hlater 4 (by omega)))
  | settle _ hstate hfinished =>
    exact hfinished.accounted hstate (haccounted.mono hpast)

theorem SystemMove.allAccounted (hmono : Monotone clock)
    (hmove : SystemMove clock op s s')
    (haccounted : AllAccounted (clock s.reads) s) :
    AllAccounted (clock (s.reads + 8)) s' := by
  have hpast : clock s.reads ≤ clock (s.reads + 8) := hmono (by omega)
  intro other stored hstored
  cases hmove with
  | refused hdb | signalled _ hdb =>
    rw [hdb] at hstored
    exact (haccounted other stored hstored).mono hpast
  | queued _ _ hstate hidle _ _ _ hinsert =>
    rw [get?_insert hinsert] at hstored
    split at hstored
    · cases hstored
      exact .waiting hstate hidle
    · exact (haccounted other stored hstored).mono hpast
  | moved id _ row _ _ _ hrow htouches hrow' _ hmove =>
    by_cases hother : other = id
    · subst hother
      rw [hrow'] at hstored
      cases hstored
      exact hmove.accounted hmono (haccounted other row hrow)
    · rw [htouches.others other hother] at hstored
      exact (haccounted other stored hstored).mono hpast

/-- What every run with such a clock keeps. -/
structure QuotaKept (clock : Nat → Int) (s : AttentionSystem) : Prop where
  attended : Attended s
  accounted : AllAccounted (clock s.reads) s

theorem run_quotaKept (hmono : Monotone clock) (ops : List AttentionOp) :
    QuotaKept clock (run (attentionStep clock) {} ops) := by
  refine run_preserves (P := QuotaKept clock) ?_ ?_ ops
  · intro op s hs
    have hmove := @attentionStep_move _ clock s op hs.attended
    exact ⟨hmove.attended hs.attended,
      hmove.allAccounted hmono hs.accounted⟩
  · refine ⟨emptyAttention_attended, ?_⟩
    intro _ _ hrow
    cases hrow

end Steps

section Starts

/-- The dispatch start of a request, for the bucket it belongs to. -/
def AttentionRequest.startIn (row : AttentionRequest) (quotaBucket : String) :
    Option Int :=
  if row.quotaBucket = quotaBucket then row.dispatchStartedAt else none

/-- The dispatch starts of a bucket. -/
def bucketStarts (db : AttentionDb) (quotaBucket : String) :
    List (Option Int) :=
  db.requests.rows.map (·.startIn quotaBucket)

theorem AttentionRequest.Idle.startIn {row : AttentionRequest}
    (hidle : row.Idle) (quotaBucket : String) :
    row.startIn quotaBucket = none := by
  unfold AttentionRequest.startIn
  rw [hidle.dispatchStartedAt, ite_self]

variable {quotaBucket : String}

theorem startIn_congr {row' : AttentionRequest}
    (hbucket : row'.quotaBucket = row.quotaBucket)
    (hstart : row'.dispatchStartedAt = row.dispatchStartedAt) :
    row'.startIn quotaBucket = row.startIn quotaBucket := by
  unfold AttentionRequest.startIn
  rw [hbucket, hstart]

/-- The starts that the admission counts are the starts of the bucket. -/
theorem rpsStartsInWindow_eq {s : AttentionSystem} {now windowStart : Int}
    {quotaBucket : String} (haccounted : AllAccounted now s) :
    rpsStartsInWindow s.db windowStart quotaBucket =
      (bucketStarts s.db quotaBucket).countP (Window.since windowStart) := by
  unfold rpsStartsInWindow bucketStarts
  rw [countP_map]
  apply countP_congr
  intro row hmem
  have hrow := haccounted _ row (get?_key hmem)
  simp only [Function.comp_apply, Window.since, AttentionRequest.startIn,
    AttentionRequest.isInFlight, Bool.and_eq_true, decide_eq_true_eq,
    Bool.or_eq_true]
  by_cases hbucket : row.quotaBucket = quotaBucket
  · rw [if_pos hbucket]
    constructor
    · intro hcounted
      exact hcounted.1.1
    · intro hstart
      refine ⟨⟨hstart, hbucket⟩, ?_⟩
      cases hstate : row.state with
      | queued =>
        rw [(hrow.idle hstate).dispatchStartedAt] at hstart
        cases hstart
      | reserved | running | terminal => simp
  · simp [hbucket]

variable [AttentionHost] {clock : Nat → Int} {s s' : AttentionSystem}
  {op : AttentionOp}

/-- The start of the request stays as it is, or it is admitted and starts. -/
theorem CallMove.startIn {db : AttentionDb} {row row' : AttentionRequest}
    {readings : Nat → Int} {phase phase' : CallPhase} {quotaBucket : String}
    (hmove : CallMove db row readings phase phase' row')
    (hidle : row.state = .queued → row.Idle) :
    row'.startIn quotaBucket = row.startIn quotaBucket ∨
      (row.quotaBucket = quotaBucket ∧
        WithinLimits db row (readings 1) (readings 3) ∧
        row.startIn quotaBucket = none ∧
        row'.startIn quotaBucket = some (readings 4)) := by
  have hstarts : ∀ mid, row.state = .queued →
      WithinLimits db row (readings 1) (readings 3) →
      StartedAs row (readings 1) (readings 4) mid →
      mid.startIn quotaBucket = row.startIn quotaBucket ∨
        (row.quotaBucket = quotaBucket ∧
          WithinLimits db row (readings 1) (readings 3) ∧
          row.startIn quotaBucket = none ∧
          mid.startIn quotaBucket = some (readings 4)) := by
    intro _ hstate hlimits hstarted
    by_cases hbucket : row.quotaBucket = quotaBucket
    · refine .inr ⟨hbucket, hlimits, (hidle hstate).startIn quotaBucket, ?_⟩
      unfold AttentionRequest.startIn
      rw [hstarted.quotaBucket, if_pos hbucket, hstarted.dispatchStartedAt]
    · refine .inl ?_
      unfold AttentionRequest.startIn
      rw [hstarted.quotaBucket, if_neg hbucket, if_neg hbucket]
  cases hmove with
  | attempt _ hstate hmove =>
    cases hmove with
    | waits => exact .inl rfl
    | closes hclosed =>
      refine .inl ?_
      rw [(hclosed.idle (hidle hstate)).startIn,
        (hidle hstate).startIn]
    | starts hlimits hstarted => exact hstarts row' hstate hlimits hstarted
    | @refuses _ mid _ hlimits hstarted hfinished _ =>
      rw [startIn_congr hfinished.quotaBucket hfinished.dispatchStartedAt]
      exact hstarts mid hstate hlimits hstarted
  | settle _ _ hfinished =>
    exact .inl
      (startIn_congr hfinished.quotaBucket hfinished.dispatchStartedAt)

theorem SystemMove.startsBounded (hmono : Monotone clock)
    (hmove : SystemMove clock op s s')
    (haccounted : AllAccounted (clock s.reads) s)
    (hbounded : Window.Bounded rpsWindowMs
      (AttentionHost.quotaContractFor quotaBucket).rps
      (bucketStarts s.db quotaBucket)) :
    Window.Bounded rpsWindowMs
      (AttentionHost.quotaContractFor quotaBucket).rps
      (bucketStarts s'.db quotaBucket) := by
  cases hmove with
  | refused hdb | signalled _ hdb =>
    rw [hdb]
    exact hbounded
  | queued _ _ _ hidle _ _ _ hinsert =>
    unfold bucketStarts
    rw [(insert?_eq_some hinsert).2, map_append, map_singleton,
      hidle.startIn]
    exact hbounded.append_none
  | moved id _ row row' _ _ hrow htouches hrow' _ hmove =>
    obtain ⟨_, _, hrows, hrows'⟩ := Table.exists_replaced
      htouches.keys htouches.others hrow hrow'
    have hidle := fun hstate => (haccounted id row hrow).idle hstate
    have hroom := @rpsStartsInWindow_eq s _
      (s.clockFrom clock 3 - rpsWindowMs + 1) quotaBucket haccounted
    unfold bucketStarts at hbounded hroom ⊢
    rw [hrows, map_append, map_cons] at hbounded hroom
    rw [hrows', map_append, map_cons]
    rcases @CallMove.startIn _ s.db row row' _ _ _ quotaBucket hmove hidle with
      hsame | ⟨hbucket, hlimits, hnone, hstarted⟩
    · rw [hsame]
      exact hbounded
    · subst hbucket
      obtain ⟨_, hrps, _⟩ := hlimits.room (hmono (by omega))
      rw [hnone] at hbounded hroom
      rw [hstarted]
      exact hbounded.fill (hmono (by omega)) (hroom ▸ hrps)

/-- In every run with a clock that does not go back, however the calls
interleave, no window of a second holds more dispatch starts of a bucket than
its limit. -/
theorem rps_bounded (clock : Nat → Int) (hmono : Monotone clock)
    (ops : List AttentionOp) (quotaBucket : String) :
    Window.Bounded rpsWindowMs
      (AttentionHost.quotaContractFor quotaBucket).rps
      (bucketStarts (run (attentionStep clock) {} ops).db quotaBucket) := by
  have hkept := run_preserves (P := fun s => QuotaKept clock s ∧
      Window.Bounded rpsWindowMs
        (AttentionHost.quotaContractFor quotaBucket).rps
        (bucketStarts s.db quotaBucket))
    (fun op s hs => by
      have hmove := @attentionStep_move _ clock s op hs.1.attended
      exact ⟨⟨hmove.attended hs.1.attended,
        hmove.allAccounted hmono hs.1.accounted⟩,
        hmove.startsBounded hmono hs.1.accounted hs.2⟩)
    ⟨run_quotaKept hmono [], Window.bounded_nil⟩ ops
  exact hkept.2

end Starts

section Charges

/-- When a request is charged and how many tokens: its reported usage from its
dispatch start on once it is reported, and its estimate from its reservation on
while it runs and when nothing was reported. -/
def AttentionRequest.charge (row : AttentionRequest) : Option (Int × Int) :=
  match row.state with
  | .queued => none
  | .terminal =>
    match row.actualInputTokens with
    | some input =>
      row.dispatchStartedAt.map (·, input + row.actualOutputTokens.getD 0)
    | none =>
      if row.budgetRetainUntil.isSome then
        row.reservedAt.map (·, row.demand)
      else none
  | _ => row.reservedAt.map (·, row.demand)

/-- The tokens of a charge that lies in the window that ends at `now`. -/
def AttentionRequest.chargedAt (row : AttentionRequest) (now : Int) : Int :=
  match row.charge with
  | some (placed, tokens) =>
    if now - tpmWindowMs < placed ∧ placed ≤ now then tokens else 0
  | none => 0

/-- The charges of the other requests of a bucket in the window that ends at
`now`. -/
def othersCharged (db : AttentionDb) (requestId : Nat) (quotaBucket : String)
    (now : Int) : Int :=
  ((db.requests.rows.filter fun row =>
    row.id ≠ requestId ∧ row.quotaBucket = quotaBucket).map
      (·.chargedAt now)).sum

variable {row : AttentionRequest} {now : Int}

/-- The tokens that the admission counts for a request are its charge. -/
theorem Accounted.tokens (haccounted : Accounted now row) (quotaBucket : String) :
    (if row.inTokenWindow (now - tpmWindowMs + 1) now quotaBucket = true then
      row.tokens (now - tpmWindowMs + 1) now else 0) =
      if row.quotaBucket = quotaBucket then row.chargedAt now else 0 := by
  by_cases hbucket : row.quotaBucket = quotaBucket
  swap
  · simp [AttentionRequest.inTokenWindow, hbucket]
  unfold AttentionRequest.chargedAt AttentionRequest.charge
    AttentionRequest.inTokenWindow AttentionRequest.tokens
    AttentionRequest.isInFlight AttentionRequest.demand
  cases haccounted with
  | waiting hstate => simp [hstate]
  | running reserved _ hstate hreserved _ hpast _ hinput houtput =>
    by_cases hin : now - tpmWindowMs < reserved
    · simp [hstate, hreserved, hbucket, hinput, houtput, hin, hpast]
    · simp [hstate, hreserved, hin]
  | reported started hstate hactual hretain hstarted hpast =>
    obtain ⟨_, hinput⟩ := isSome_iff_exists.mp hactual
    by_cases hin : now - tpmWindowMs < started
    · simp [hstate, hstarted, hbucket, hinput, hin, hpast]
    · simp [hstate, hstarted, hinput, hretain, hin]
  | retained reserved hstate hactual hretain hreserved hpast hinput houtput =>
    by_cases hin : now - tpmWindowMs < reserved
    · have hkept : now < reserved + tpmWindowMs := by omega
      simp [hstate, hreserved, hretain, hactual, hbucket, hinput, houtput,
        hin, hpast, hkept]
    · have hgone : ¬ now < reserved + tpmWindowMs := by omega
      simp [hstate, hreserved, hretain, hactual, hin, hgone]
  | uncharged hstate hactual hretain => simp [hstate, hactual, hretain]

theorem sum_filter_map {α : Type} (p : α → Bool) (f : α → Int)
    (rows : List α) :
    ((rows.filter p).map f).sum =
      (rows.map fun row => if p row = true then f row else 0).sum := by
  induction rows with
  | nil => rfl
  | cons row _ ih =>
    rw [filter_cons, map_cons, sum_cons, ← ih]
    by_cases hp : p row = true
    · rw [if_pos hp, if_pos hp, map_cons, sum_cons]
    · rw [if_neg hp, if_neg hp, Int.zero_add]

/-- The tokens in the window are the charges of the requests that have one. -/
theorem tokensInWindow_eq {requestId : Nat} {quotaBucket : String}
    (haccounted : AllAccounted now s)
    (hrow : s.db.requests.get? requestId = some row)
    (hstate : row.state = .queued) :
    tokensInWindow s.db (now - tpmWindowMs + 1) now quotaBucket =
      othersCharged s.db requestId quotaBucket now := by
  unfold tokensInWindow othersCharged
  rw [sum_filter_map, sum_filter_map]
  apply congrArg
  apply map_congr_left
  intro other hmem
  have hstored := get?_key hmem
  rw [(haccounted _ other hstored).tokens quotaBucket]
  by_cases hbucket : other.quotaBucket = quotaBucket
  · rw [if_pos hbucket]
    by_cases hid : other.id = requestId
    · have hsame : s.db.requests.get? other.id = some other := hstored
      rw [hid, hrow] at hsame
      cases hsame
      simp [AttentionRequest.chargedAt, AttentionRequest.charge, hstate]
    · rw [if_pos (by simp [hid, hbucket])]
  · rw [if_neg hbucket, if_neg (by simp [hbucket])]

variable [AttentionHost] {clock : Nat → Int} {s : AttentionSystem}

/-- A queued request that a step reserves is admitted at that reading, with
room for its demand. -/
theorem SystemMove.admitted {s' : AttentionSystem} {op : AttentionOp} {id : Nat}
    {row' : AttentionRequest} {t : Int} (hmono : Monotone clock)
    (hmove : SystemMove clock op s s')
    (haccounted : AllAccounted (clock s.reads) s)
    (hrow : s.db.requests.get? id = some row) (hqueued : row.state = .queued)
    (hrow' : s'.db.requests.get? id = some row')
    (hreserved : row'.reservedAt = some t) :
    row.demand + othersCharged s.db id row.quotaBucket t ≤
        (AttentionHost.quotaContractFor row.quotaBucket).tpm ∧
      row'.charge = some (t, row.demand) := by
  have hidle := (haccounted id row hrow).idle hqueued
  have hroom : ∀ mid, WithinLimits s.db row (s.clockFrom clock 1)
      (s.clockFrom clock 3) →
      StartedAs row (s.clockFrom clock 1) (s.clockFrom clock 4) mid →
      mid.reservedAt = some t → row.demand +
        othersCharged s.db id row.quotaBucket t ≤
          (AttentionHost.quotaContractFor row.quotaBucket).tpm := by
    intro mid hlimits hstarted hmid
    obtain ⟨hnow, _, htpm⟩ := hlimits.room (hmono (by omega))
    rw [hstarted.reservedAt, some.injEq] at hmid
    have ht : s.clockFrom clock 3 = t := hnow.symm.trans hmid
    have hpast : clock s.reads ≤ t := ht ▸ hmono (by omega)
    have haccountedNow : AllAccounted t s := fun other stored hstored =>
      (haccounted other stored hstored).mono hpast
    rw [ht, tokensInWindow_eq haccountedNow hrow hqueued] at htpm
    omega
  have hsame : ∀ other : AttentionRequest, other.Idle → other.reservedAt ≠ some t := by
    intro other hother hsome
    rw [hother.reservedAt] at hsome
    cases hsome
  cases hmove with
  | refused hdb | signalled _ hdb =>
    rw [hdb, hrow] at hrow'
    cases hrow'
    exact absurd hreserved (hsame row hidle)
  | queued _ _ _ _ _ _ _ hinsert =>
    rw [get?_insert_of_some hinsert hrow] at hrow'
    cases hrow'
    exact absurd hreserved (hsame row hidle)
  | moved moved _ _ _ _ _ hbefore htouches hafter _ hmove =>
    by_cases hother : id = moved
    swap
    · rw [htouches.others id hother, hrow] at hrow'
      cases hrow'
      exact absurd hreserved (hsame row hidle)
    subst hother
    rw [hrow] at hbefore
    cases hbefore
    rw [hrow'] at hafter
    cases hafter
    cases hmove with
    | settle _ hrunning =>
      rw [hqueued] at hrunning
      cases hrunning
    | attempt _ _ hmove =>
      cases hmove with
      | waits => exact absurd hreserved (hsame row hidle)
      | closes hclosed =>
        exact absurd hreserved (hsame row' (hclosed.idle hidle))
      | starts hlimits hstarted =>
        refine ⟨hroom row' hlimits hstarted hreserved, ?_⟩
        simp [AttentionRequest.charge, hstarted.state, hreserved,
          AttentionRequest.demand, hstarted.estimatedInputTokens,
          hstarted.estimatedOutputTokens]
      | @refuses _ mid _ hlimits hstarted hfinished hreports =>
        have hmid : mid.reservedAt = some t :=
          hfinished.reservedAt.symm.trans hreserved
        have hretain : row'.budgetRetainUntil.isSome = true :=
          hreports.retain
        have hactual : row'.actualInputTokens = none := hreports.input
        refine ⟨hroom mid hlimits hstarted hmid, ?_⟩
        simp [AttentionRequest.charge, hfinished.state, hactual, hretain,
          hreserved, AttentionRequest.demand,
          hfinished.estimatedInputTokens, hstarted.estimatedInputTokens,
          hfinished.estimatedOutputTokens,
          hstarted.estimatedOutputTokens]

/-- What a settled dispatch leaves of its request. -/
theorem settle_reports {id seq : Nat} {call : DispatchCall}
    {row : AttentionRequest} {answer : ProviderAnswer} (hattended : Attended s)
    (hcall : s.calls.get? id = some call) (hphase : call.phase = .dispatching seq)
    (hrow : s.db.requests.get? id = some row) :
    row.state = .running ∧
      ∃ row', (attentionStep clock (.settle id answer) s).db.requests.get? id =
        some row' ∧ FinishedAs row row' ∧ Reports answer.usage row' := by
  have hid : call.requestId = id := key_of_get? hcall
  obtain ⟨_, hstored, hadmits⟩ := hattended.row_of_call hcall
  rw [hrow] at hstored
  cases hstored
  rw [hphase] at hadmits
  have hrunning : row.state = .running := hadmits
  subst hid
  obtain ⟨_, row', hrow', hfinished, hreports⟩ :=
    @settleDispatch_move _ s.db call row (s.clockFrom clock) s.continuity seq
      answer hrow hrunning
  refine ⟨hrunning, row', ?_, hfinished, hreports⟩
  unfold attentionStep
  dsimp only
  rw [hcall]
  dsimp only
  rw [hphase]
  exact hrow'

/-- A request that is over is not changed any more. -/
theorem SystemMove.terminal {s' : AttentionSystem} {op : AttentionOp} {id : Nat}
    {row : AttentionRequest} (hmove : SystemMove clock op s s')
    (hrow : s.db.requests.get? id = some row) (hterminal : row.state = .terminal) :
    s'.db.requests.get? id = some row := by
  cases hmove with
  | refused hdb | signalled _ hdb => rw [hdb, hrow]
  | queued _ _ _ _ _ _ _ hinsert =>
    exact get?_insert_of_some hinsert hrow
  | moved moved _ _ _ _ _ hbefore htouches _ _ hmove =>
    by_cases hother : id = moved
    · subst hother
      rw [hrow] at hbefore
      cases hbefore
      cases hmove with
      | attempt _ hstate => rw [hterminal] at hstate; cases hstate
      | settle _ hstate => rw [hterminal] at hstate; cases hstate
    · rw [htouches.others id hother, hrow]

/-- How requests are charged: an admission finds room for its demand beside the
charges of the others, and from then on the request is charged its estimate,
until it is settled with a report of its usage. -/
structure TokensCharged (clock : Nat → Int) (s : AttentionSystem) : Prop where
  admitted : ∀ op id t row row', s.db.requests.get? id = some row →
    row.state = .queued →
    (attentionStep clock op s).db.requests.get? id = some row' →
    row'.reservedAt = some t →
    row.demand + othersCharged s.db id row.quotaBucket t ≤
        (AttentionHost.quotaContractFor row.quotaBucket).tpm ∧
      row'.charge = some (t, row.demand)
  running : ∀ id row, s.db.requests.get? id = some row →
    row.state = .running → ∃ reserved, row.reservedAt = some reserved ∧
      row.charge = some (reserved, row.demand)
  reported : ∀ id call seq row answer input output,
    s.calls.get? id = some call → call.phase = .dispatching seq →
    s.db.requests.get? id = some row →
    answer.usage = some ⟨some input, output⟩ →
    ∃ started row', row.dispatchStartedAt = some started ∧
      (attentionStep clock (.settle id answer) s).db.requests.get? id =
        some row' ∧ row'.charge = some (started, input + output.getD 0)
  unknown : ∀ id call seq row answer, s.calls.get? id = some call →
    call.phase = .dispatching seq → s.db.requests.get? id = some row →
    answer.usage = none →
    ∃ row', (attentionStep clock (.settle id answer) s).db.requests.get? id =
      some row' ∧ row'.charge = row.charge
  kept : ∀ op id row, s.db.requests.get? id = some row →
    row.state = .terminal →
    (attentionStep clock op s).db.requests.get? id = some row

/-- In every run with a clock that does not go back, however the calls
interleave, requests are charged so. -/
theorem tokens_charged (clock : Nat → Int) (hmono : Monotone clock)
    (ops : List AttentionOp) :
    TokensCharged clock (run (attentionStep clock) {} ops) := by
  have hkept := run_quotaKept hmono ops
  generalize run (attentionStep clock) {} ops = s at hkept
  obtain ⟨hattended, haccounted⟩ := hkept
  constructor
  · intro _ _ t _ _ hrow hqueued hrow' hreserved
    exact (attentionStep_move hattended).admitted hmono haccounted hrow hqueued
      hrow' hreserved
  · intro id row hrow hrunning
    obtain ⟨_, _, hreserved, _⟩ := (haccounted id row hrow).of_running hrunning
    simp [AttentionRequest.charge, hrunning, hreserved]
  · intro id call seq row answer input output hcall hphase hrow husage
    obtain ⟨hrunning, row', hrow', hfinished, hreports⟩ :=
      @settle_reports _ clock s id seq call row answer hattended hcall hphase
        hrow
    obtain ⟨_, started, _, hstarted⟩ :=
      (haccounted id row hrow).of_running hrunning
    rw [husage] at hreports
    have hactual : row'.actualInputTokens = some input := hreports.input
    have houtput : row'.actualOutputTokens = output := hreports.output
    refine ⟨started, row', hstarted, hrow', ?_⟩
    simp [AttentionRequest.charge, hfinished.state, hactual, houtput,
      hfinished.dispatchStartedAt, hstarted]
  · intro id call seq row answer hcall hphase hrow husage
    obtain ⟨hrunning, row', hrow', hfinished, hreports⟩ :=
      @settle_reports _ clock s id seq call row answer hattended hcall hphase
        hrow
    rw [husage] at hreports
    have hactual : row'.actualInputTokens = none := hreports.input
    have hretain : row'.budgetRetainUntil.isSome = true := hreports.retain
    refine ⟨row', hrow', ?_⟩
    simp [AttentionRequest.charge, hfinished.state, hactual, hretain, hrunning,
      hfinished.reservedAt, AttentionRequest.demand,
      hfinished.estimatedInputTokens, hfinished.estimatedOutputTokens]
  · intro op _ _ hrow hterminal
    exact @SystemMove.terminal _ clock s _ op _ _ (attentionStep_move hattended)
      hrow hterminal

end Charges

section Plain

attribute [local instance] plainAttentionHost

theorem stepClock_monotone : Monotone stepClock := by
  intro _ _ hle
  unfold stepClock
  exact_mod_cast Nat.mul_le_mul_right 100 (Nat.div_le_div_right hle)

theorem rps_bounded_two :
    Monotone stepClock ∧ Window.Bounded rpsWindowMs 1
      (bucketStarts (run (attentionStep stepClock) {} twoDispatches).db
        "mistral:m") :=
  ⟨stepClock_monotone,
    rps_bounded stepClock stepClock_monotone twoDispatches "mistral:m"⟩

theorem tokens_charged_two :
    Monotone stepClock ∧ TokensCharged stepClock
      (run (attentionStep stepClock) {} twoDispatches) :=
  ⟨stepClock_monotone,
    tokens_charged stepClock stepClock_monotone twoDispatches⟩

/-- The first dispatch starts a millisecond after its reservation, and runs
for a minute. -/
def lateClock (reading : Nat) : Int :=
  if reading < 12 then 0 else if reading < 16 then 1 else 60000

theorem lateClock_monotone : Monotone lateClock := by
  intro _ _ _
  unfold lateClock
  split_ifs <;> omega

def longDispatch : AttentionDispatchInput :=
  { messages := [], purpose := .thought, maxTokens := some 24000 }

def minuteLater : AttentionSystem :=
  run (attentionStep lateClock) {}
    [.call longDispatch, .attempt 1 0, .call longDispatch]

/-- A request that still runs, and started in the window, is not charged any
more once its reservation has left the window. -/
theorem late_start_uncharged :
    Monotone lateClock ∧ ∃ other row row',
      minuteLater.db.requests.get? 1 = some other ∧
      minuteLater.db.requests.get? 2 = some row ∧
      (attentionStep lateClock (.attempt 2 0) minuteLater).db.requests.get? 2 =
        some row' ∧
      row'.reservedAt = some 60000 ∧ other.state = .running ∧
      other.dispatchStartedAt = some (60000 - tpmWindowMs + 1) ∧
      other.quotaBucket = row.quotaBucket ∧
      (AttentionHost.quotaContractFor row.quotaBucket).tpm <
        row.demand + other.demand := by
  refine ⟨lateClock_monotone, ?_⟩
  have hother : (minuteLater.db.requests.get? 1).map (fun other =>
      (other.state, other.dispatchStartedAt, other.quotaBucket,
        other.demand)) =
      some (.running, some 1, "mistral:m", 24064) := by decide +kernel
  have hrow : (minuteLater.db.requests.get? 2).map (fun row =>
      (row.quotaBucket, row.demand)) = some ("mistral:m", 24064) := by
    decide +kernel
  have hrow' : ((attentionStep lateClock (.attempt 2 0)
      minuteLater).db.requests.get? 2).map AttentionRequest.reservedAt =
        some (some 60000) := by decide +kernel
  obtain ⟨other, hother, hfacts⟩ := Option.map_eq_some_iff.mp hother
  obtain ⟨row, hrow, hdemand⟩ := Option.map_eq_some_iff.mp hrow
  obtain ⟨row', hrow', hreserved⟩ := Option.map_eq_some_iff.mp hrow'
  simp only [Prod.mk.injEq] at hfacts hdemand
  obtain ⟨hstate, hstarted, hbucket, hcharge⟩ := hfacts
  refine ⟨other, row, row', hother, hrow, hrow', hreserved, hstate, hstarted,
    hbucket.trans hdemand.1.symm, ?_⟩
  change (25000 : Int) < row.demand + other.demand
  rw [hcharge, hdemand.2]
  decide

end Plain

end CognitiveSidecar
