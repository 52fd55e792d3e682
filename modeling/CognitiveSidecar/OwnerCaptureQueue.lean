/-
The waiting list of the Owner's captures.  A capture that fails waits behind the
earlier ones and is tried again; captures are awaited, and submissions, retries
and drains interleave at the awaited calls.
-/
import CognitiveSidecar.Lib.Run
import Mathlib.Tactic.Ring

namespace CognitiveSidecar.OwnerCapture

open Option List Relational

class PendingOwnerCapture (T : Type) where
  discordMessageId : T → String

export PendingOwnerCapture (discordMessageId)

/-- What a failed capture raises; only the status is read. -/
structure CaptureError where
  status : Option Nat := none

/-- A 4xx other than a timeout or a rate limit will not succeed on retry. -/
def isPermanentRefusal (error : CaptureError) : Bool :=
  match error.status with
  | none => false
  | some status =>
    decide (400 ≤ status ∧ status < 500 ∧ status ≠ 408 ∧ status ≠ 429)

/-- How an awaited capture settles. -/
abbrev Settled := Except CaptureError Unit

/-- A submitted item.  The ticket is its place in the order of submission, which
the code does not keep. -/
structure Submission (T : Type) where
  ticket : Nat
  item : T
deriving DecidableEq

/-- A drain that awaits the capture of an item. -/
structure Drain (T : Type) where
  next : Submission T
  progressed : Bool

/-- The queue, the drains behind it and the captures that are awaited.  `direct`
are the submissions that found the list empty; `succeeded` are the submissions
whose capture succeeded, in order. -/
structure CaptureQueue (T : Type) where
  limit : Nat
  items : List (Submission T)
  failures : Nat := 0
  retryScheduled : Option Nat := none
  chained : Nat := 0
  drain : Option (Drain T) := none
  direct : List (Submission T) := []
  drained : Nat := 0
  tickets : Nat
  succeeded : List (Submission T) := []

variable {T : Type}

/-- The loaded items, in the order of the file. -/
def numbered (ticket : Nat) : List T → List (Submission T)
  | [] => []
  | item :: rest => ⟨ticket, item⟩ :: numbered (ticket + 1) rest

/-- `list.slice(-limit)`, which keeps all for a limit of zero. -/
def sliceLast (limit : Nat) (list : List T) : List T :=
  if limit = 0 then list else list.drop (list.length - limit)

/-- A queue over what the store holds when it is first read. -/
def createOwnerCaptureQueue (limit : Nat) (loaded : List T) : CaptureQueue T :=
  { limit
    items := numbered 0 (sliceLast limit loaded)
    tickets := (sliceLast limit loaded).length }

def retryMinMs : Nat := 1000

def retryMaxMs : Nat := 60000

namespace CaptureQueue

/-- `list.shift()`. -/
def shift (queue : CaptureQueue T) : CaptureQueue T :=
  { queue with items := queue.items.drop 1 }

/-- An item of the list has the identifier. -/
def holds [PendingOwnerCapture T] (queue : CaptureQueue T) (item : T) : Bool :=
  queue.items.any fun existing =>
    discordMessageId existing.item = discordMessageId item

/-- A full list drops its oldest item. -/
def enqueue [PendingOwnerCapture T] (queue : CaptureQueue T)
    (submission : Submission T) : CaptureQueue T :=
  if queue.holds submission.item then queue
  else
    let queue := { queue with items := queue.items ++ [submission] }
    if queue.limit < queue.items.length then queue.shift else queue

def scheduleRetry (queue : CaptureQueue T) : CaptureQueue T :=
  if queue.retryScheduled.isSome ∨ queue.items = [] then queue
  else { queue with
    retryScheduled :=
      some (min retryMaxMs (retryMinMs * 2 ^ min queue.failures 6)) }

/-- A drain up to its next awaited capture, or to its end. -/
def drainOn (queue : CaptureQueue T) (progressed : Bool) : CaptureQueue T :=
  match queue.items with
  | next :: _ => { queue with drain := some { next, progressed } }
  | [] => { queue with
      drain := none
      drained := if progressed then queue.drained + 1 else queue.drained }

variable {queue : CaptureQueue T}

theorem drainOn_cons {next : Submission T} {rest : List (Submission T)}
    (hitems : queue.items = next :: rest) (progressed : Bool) :
    queue.drainOn progressed =
      { queue with drain := some { next, progressed } } := by
  unfold drainOn
  rw [hitems]

theorem drainOn_nil (hitems : queue.items = []) (progressed : Bool) :
    queue.drainOn progressed = { queue with
      drain := none
      drained := if progressed then queue.drained + 1 else queue.drained } := by
  unfold drainOn
  rw [hitems]

/-- Drains run one after another. -/
def flush (queue : CaptureQueue T) : CaptureQueue T :=
  { queue with chained := queue.chained + 1 }

/-- The next drain of the chain begins. -/
def beginDrain (queue : CaptureQueue T) : CaptureQueue T :=
  match queue.drain, queue.chained with
  | none, left + 1 => { queue with chained := left }.drainOn false
  | _, _ => queue

/-- The awaited capture of the drain settles. -/
def settleDrain (queue : CaptureQueue T) (settled : Settled) : CaptureQueue T :=
  match queue.drain with
  | none => queue
  | some drain =>
    match settled with
    | .ok () =>
      { queue with
        failures := 0
        succeeded := queue.succeeded ++ [drain.next] }.shift.drainOn true
    | .error error =>
      if isPermanentRefusal error then
        queue.shift.drainOn drain.progressed
      else
        { queue with failures := queue.failures + 1, drain := none }.scheduleRetry

/-- The timer of a scheduled retry fires. -/
def retry (queue : CaptureQueue T) : CaptureQueue T :=
  if queue.retryScheduled.isSome then
    { queue with retryScheduled := none }.flush
  else queue

/-- A submission that finds the list empty is captured at once; any other queues
behind the earlier ones. -/
def submit [PendingOwnerCapture T] (queue : CaptureQueue T) (item : T) :
    CaptureQueue T :=
  let submission : Submission T := ⟨queue.tickets, item⟩
  let queue := { queue with tickets := queue.tickets + 1 }
  if queue.items = [] then
    { queue with direct := queue.direct ++ [submission] }
  else (queue.enqueue submission).flush

/-- The direct capture of a submission that is awaited. -/
def awaited (queue : CaptureQueue T) (ticket : Nat) : Option (Submission T) :=
  queue.direct.find? (·.ticket = ticket)

/-- An awaited direct capture settles. -/
def settleDirect [PendingOwnerCapture T] (queue : CaptureQueue T) (ticket : Nat)
    (settled : Settled) : CaptureQueue T :=
  match queue.awaited ticket with
  | none => queue
  | some submission =>
    let queue := { queue with
      direct := queue.direct.filter (·.ticket ≠ ticket) }
    match settled with
    | .ok () =>
      { queue with failures := 0, succeeded := queue.succeeded ++ [submission] }
    | .error error =>
      if isPermanentRefusal error then queue
      else
        ({ queue with failures := queue.failures + 1 }.enqueue
          submission).scheduleRetry

end CaptureQueue

/-- What happens between two awaited calls. -/
inductive CaptureInput (T : Type)
  | submit (item : T)
  | settleDirect (ticket : Nat) (settled : Settled)
  | flush
  | retry
  | beginDrain
  | settleDrain (settled : Settled)

def captureStep [PendingOwnerCapture T] (input : CaptureInput T)
    (queue : CaptureQueue T) : CaptureQueue T :=
  match input with
  | .submit item => queue.submit item
  | .settleDirect ticket settled => queue.settleDirect ticket settled
  | .flush => queue.flush
  | .retry => queue.retry
  | .beginDrain => queue.beginDrain
  | .settleDrain settled => queue.settleDrain settled

/-! What the queue is for. -/

/-- The submission that an input pushes onto the list. -/
def CaptureQueue.pushes (queue : CaptureQueue T) :
    CaptureInput T → Option (Submission T)
  | .submit item =>
    if queue.items = [] then none else some ⟨queue.tickets, item⟩
  | .settleDirect ticket (.error error) =>
    if isPermanentRefusal error then none else queue.awaited ticket
  | _ => none

/-- The input pushes a new item onto a full list. -/
def CaptureQueue.overflows [PendingOwnerCapture T] (queue : CaptureQueue T)
    (input : CaptureInput T) : Bool :=
  (queue.pushes input).any fun submission =>
    !queue.holds submission.item && decide (queue.limit ≤ queue.items.length)

theorem CaptureQueue.overflows_of_pushes [PendingOwnerCapture T]
    {queue : CaptureQueue T} {input : CaptureInput T} {submission : Submission T}
    (hpushes : queue.pushes input = some submission)
    (hfresh : queue.holds submission.item = false)
    (hfull : queue.limit ≤ queue.items.length) :
    queue.overflows input = true := by
  unfold overflows
  rw [hpushes, any_some, hfresh, decide_eq_true hfull]
  rfl

/-- A submission finds the list empty while another awaits its capture. -/
def CaptureQueue.overtakes (queue : CaptureQueue T) : CaptureInput T → Bool
  | .submit _ => queue.items.isEmpty && !queue.direct.isEmpty
  | _ => false

/-- The input settles the capture of the submission, for good. -/
def CaptureQueue.SettlesFor (queue : CaptureQueue T) (input : CaptureInput T)
    (submission : Submission T) : Prop :=
  ∃ drain settled, queue.drain = some drain ∧ drain.next = submission ∧
    input = .settleDrain settled ∧
    ∀ error, settled = .error error → isPermanentRefusal error = true

/-- An item leaves the list only because its own capture succeeded or was
refused for good, or because it was the oldest of a list that overflows. -/
def LeavesRightly [PendingOwnerCapture T] (queue : CaptureQueue T)
    (input : CaptureInput T) : Prop :=
  ∀ submission ∈ queue.items, submission ∉ (captureStep input queue).items →
    queue.SettlesFor input submission ∨
      (queue.overflows input = true ∧ queue.items.head? = some submission)

/-- The captures of submissions succeeded in the order of submission. -/
def InSubmissionOrder (queue : CaptureQueue T) : Prop :=
  (queue.succeeded.map Submission.ticket).Pairwise (· < ·)

/-- Nothing is lost or reordered along a run. -/
def Lossless [PendingOwnerCapture T] (limit : Nat) (loaded : List T)
    (inputs : List (CaptureInput T)) : Prop :=
  let start := createOwnerCaptureQueue limit loaded
  (∀ before input after, inputs = before ++ input :: after →
    LeavesRightly (run captureStep start before) input) ∧
  InSubmissionOrder (run captureStep start inputs)

/-- The list does not overflow while a drain awaits a capture, and no submission
finds the list empty while another awaits its direct capture. -/
def Undisturbed [PendingOwnerCapture T] (input : CaptureInput T)
    (queue : CaptureQueue T) : Prop :=
  ¬ (queue.drain.isSome = true ∧ queue.overflows input = true) ∧
    queue.overtakes input = false

/-! The invariant of undisturbed runs. -/

/-- All submissions of the queue in order. -/
def CaptureQueue.line (queue : CaptureQueue T) : List (Submission T) :=
  queue.succeeded ++ queue.items ++ queue.direct

structure Orderly (queue : CaptureQueue T) : Prop where
  ordered : (queue.line.map Submission.ticket).Pairwise (· < ·)
  issued : ∀ submission ∈ queue.line, submission.ticket < queue.tickets
  alone : queue.direct.length ≤ 1
  bypass : queue.direct ≠ [] → queue.items = []
  oldest : ∀ drain, queue.drain = some drain →
    queue.items.head? = some drain.next

namespace Orderly

variable {queue after : CaptureQueue T} {submission : Submission T}

/-- A queue whose line is part of an orderly one. -/
theorem ordered_of_sublist (hqueue : Orderly queue)
    (hline : after.line.Sublist queue.line)
    (htickets : queue.tickets ≤ after.tickets) :
    (after.line.map Submission.ticket).Pairwise (· < ·) ∧
      ∀ submission ∈ after.line, submission.ticket < after.tickets := by
  constructor
  · exact hqueue.ordered.sublist (hline.map _)
  · intro submission hsubmission
    have hissued := hqueue.issued submission (hline.subset hsubmission)
    exact Nat.lt_of_lt_of_le hissued htickets

/-- Only what the invariant does not read differs. -/
theorem congr (hqueue : Orderly queue) (hitems : after.items = queue.items)
    (hdirect : after.direct = queue.direct)
    (hsucceeded : after.succeeded = queue.succeeded)
    (htickets : queue.tickets ≤ after.tickets)
    (hdrain : after.drain = queue.drain ∨ after.drain = none) :
    Orderly after := by
  have hline : after.line = queue.line := by
    unfold CaptureQueue.line
    rw [hitems, hdirect, hsucceeded]
  obtain ⟨hordered, hissued⟩ :=
    hqueue.ordered_of_sublist (hline ▸ List.Sublist.refl _) htickets
  refine ⟨hordered, hissued, ?_, ?_, ?_⟩
  · rw [hdirect]
    exact hqueue.alone
  · rw [hdirect, hitems]
    exact hqueue.bypass
  · intro drain hsome
    rcases hdrain with hsame | hnone
    · rw [hitems]
      exact hqueue.oldest drain (hsame ▸ hsome)
    · rw [hnone] at hsome
      cases hsome

/-- The oldest item leaves a list that no drain works on. -/
theorem shift (hqueue : Orderly queue) (hdrain : queue.drain = none) :
    Orderly queue.shift := by
  have hline : queue.shift.line.Sublist queue.line :=
    ((List.Sublist.refl _).append (drop_sublist 1 _)).append
      (List.Sublist.refl _)
  obtain ⟨hordered, hissued⟩ := hqueue.ordered_of_sublist hline (Nat.le_refl _)
  refine ⟨hordered, hissued, hqueue.alone, ?_, ?_⟩
  · intro hdirect
    show queue.items.drop 1 = []
    rw [hqueue.bypass hdirect, drop_nil]
  · intro _ hsome
    rw [show queue.shift.drain = queue.drain from rfl, hdrain] at hsome
    cases hsome

/-- A submission queues behind the others. -/
theorem push (hqueue : Orderly queue) (hdirect : queue.direct = [])
    (hbehind : ∀ other ∈ queue.line, other.ticket < submission.ticket)
    (hissued : submission.ticket < queue.tickets) :
    Orderly { queue with items := queue.items ++ [submission] } := by
  have hline : ({ queue with
      items := queue.items ++ [submission] } : CaptureQueue T).line =
        queue.line ++ [submission] := by
    simp [CaptureQueue.line, hdirect]
  refine ⟨?_, ?_, hqueue.alone, fun hne => absurd hdirect hne, ?_⟩
  · rw [hline, map_append, pairwise_append]
    refine ⟨hqueue.ordered, pairwise_singleton _ _, ?_⟩
    intro _ hticket _ hlast
    obtain ⟨other, hother, rfl⟩ := mem_map.mp hticket
    rw [mem_singleton.mp hlast]
    exact hbehind other hother
  · rw [hline]
    intro other hother
    rcases mem_append.mp hother with hold | hnew
    · exact hqueue.issued other hold
    · rw [mem_singleton.mp hnew]
      exact hissued
  · intro drain hsome
    rw [List.head?_append, hqueue.oldest drain hsome, some_or]

variable [PendingOwnerCapture T]

theorem enqueue (hqueue : Orderly queue) (hdirect : queue.direct = [])
    (hbehind : ∀ other ∈ queue.line, other.ticket < submission.ticket)
    (hissued : submission.ticket < queue.tickets)
    (hroom : queue.holds submission.item = false →
      queue.limit ≤ queue.items.length → queue.drain = none) :
    Orderly (queue.enqueue submission) := by
  unfold CaptureQueue.enqueue
  by_cases hholds : queue.holds submission.item = true
  · rw [if_pos hholds]
    exact hqueue
  · rw [if_neg hholds]
    have hpushed := hqueue.push hdirect hbehind hissued
    by_cases hfull : queue.limit < (queue.items ++ [submission]).length
    · rw [if_pos hfull]
      refine hpushed.shift (hroom (Bool.eq_false_iff.mpr hholds) ?_)
      rw [length_append] at hfull
      exact Nat.lt_succ_iff.mp hfull
    · rw [if_neg hfull]
      exact hpushed

omit [PendingOwnerCapture T] in
theorem scheduleRetry (hqueue : Orderly queue) :
    Orderly queue.scheduleRetry := by
  unfold CaptureQueue.scheduleRetry
  split
  · exact hqueue
  · exact hqueue.congr rfl rfl rfl (Nat.le_refl _) (.inl rfl)

omit [PendingOwnerCapture T] in
/-- A drain takes up the oldest item. -/
theorem drainOn (hqueue : Orderly queue) (progressed : Bool) :
    Orderly (queue.drainOn progressed) := by
  cases hitems : queue.items with
  | nil =>
    rw [CaptureQueue.drainOn_nil hitems]
    exact hqueue.congr rfl rfl rfl (Nat.le_refl _) (.inr rfl)
  | cons next rest =>
    rw [CaptureQueue.drainOn_cons hitems]
    refine ⟨hqueue.ordered, hqueue.issued, hqueue.alone, hqueue.bypass, ?_⟩
    rintro drain ⟨⟩
    rw [hitems, List.head?_cons]

theorem submit (hqueue : Orderly queue) {item : T}
    (hundisturbed : Undisturbed (.submit item) queue) :
    Orderly (queue.submit item) := by
  have hticket : Orderly { queue with tickets := queue.tickets + 1 } :=
    hqueue.congr rfl rfl rfl (Nat.le_succ _) (.inl rfl)
  unfold CaptureQueue.submit
  by_cases hempty : queue.items = []
  · rw [if_pos hempty]
    have hdirect : queue.direct = [] := by
      have halone := hundisturbed.2
      simpa [CaptureQueue.overtakes, hempty] using halone
    have hline : ({ queue with
        tickets := queue.tickets + 1
        direct := queue.direct ++ [⟨queue.tickets, item⟩] }
          : CaptureQueue T).line =
          queue.line ++ [⟨queue.tickets, item⟩] := by
      simp [CaptureQueue.line, hdirect]
    refine ⟨?_, ?_, ?_, fun _ => hempty, hqueue.oldest⟩
    · rw [hline, map_append, pairwise_append]
      refine ⟨hqueue.ordered, pairwise_singleton _ _, ?_⟩
      intro _ hin _ hlast
      obtain ⟨other, hother, rfl⟩ := mem_map.mp hin
      rw [mem_singleton.mp hlast]
      exact hqueue.issued other hother
    · rw [hline]
      intro other hother
      rcases mem_append.mp hother with hold | hnew
      · exact Nat.lt_succ_of_lt (hqueue.issued other hold)
      · rw [mem_singleton.mp hnew]
        exact Nat.lt_succ_self _
    · rw [hdirect]
      exact (Nat.le_refl _)
  · rw [if_neg hempty]
    have hdirect : queue.direct = [] := by
      by_contra hne
      exact hempty (hqueue.bypass hne)
    refine @congr T (CaptureQueue.enqueue _ _) _ ?_ rfl rfl rfl
      (Nat.le_refl _) (.inl rfl)
    refine hticket.enqueue hdirect hqueue.issued (Nat.lt_succ_self _) ?_
    intro hfresh hfull
    by_contra hdrain
    refine hundisturbed.1 ⟨isSome_iff_ne_none.mpr hdrain, ?_⟩
    exact queue.overflows_of_pushes (if_neg hempty) hfresh hfull

theorem settleDirect (hqueue : Orderly queue) {ticket : Nat} {settled : Settled}
    (hundisturbed : Undisturbed (.settleDirect ticket settled) queue) :
    Orderly (queue.settleDirect ticket settled) := by
  unfold CaptureQueue.settleDirect
  cases hawaited : queue.awaited ticket with
  | none => exact hqueue
  | some submission =>
    -- it is the only direct capture, and the list is empty
    have hin := mem_of_find?_eq_some hawaited
    have hticket : submission.ticket = ticket := by
      simpa using List.find?_some hawaited
    have hdirect : queue.direct = [submission] := by
      have hone := hqueue.alone
      match hlist : queue.direct, hin, hone with
      | [other], hin, _ => rw [mem_singleton.mp hin]
    have hempty : queue.items = [] :=
      hqueue.bypass (by rw [hdirect]; exact cons_ne_nil _ _)
    have hrest : queue.direct.filter (·.ticket ≠ ticket) = [] := by
      rw [hdirect, ← hticket]
      simp
    have hline : queue.line = queue.succeeded ++ [submission] := by
      simp [CaptureQueue.line, hempty, hdirect]
    have hordered := hqueue.ordered
    rw [hline] at hordered
    have hissued := hqueue.issued
    rw [hline] at hissued
    rw [hrest]
    cases settled with
    | ok =>
      refine ⟨?_, ?_, Nat.zero_le _, fun hne => absurd rfl hne, ?_⟩
      · simpa [CaptureQueue.line, hempty] using hordered
      · simpa [CaptureQueue.line, hempty] using hissued
      · exact hqueue.oldest
    | error error =>
      have hidle : queue.drain = none := by
        by_contra hne
        obtain ⟨drain, hsome⟩ := ne_none_iff_exists'.mp hne
        have hhead := hqueue.oldest drain hsome
        rw [hempty] at hhead
        cases hhead
      have hcleared : Orderly { queue with direct := [] } := by
        have hsub : ({ queue with
            direct := [] } : CaptureQueue T).line.Sublist queue.line := by
          simp [CaptureQueue.line, hempty]
        obtain ⟨hordered, hissued⟩ := hqueue.ordered_of_sublist hsub (Nat.le_refl _)
        exact ⟨hordered, hissued, Nat.zero_le _, fun hne => absurd rfl hne,
          hqueue.oldest⟩
      dsimp only
      by_cases hrefused : isPermanentRefusal error = true
      · rw [if_pos hrefused]
        exact hcleared
      · rw [if_neg hrefused]
        refine scheduleRetry (enqueue ?_ rfl ?_ ?_ fun _ _ => hidle)
        · exact hcleared.congr rfl rfl rfl (Nat.le_refl _) (.inl rfl)
        · intro other hother
          have hmem : other ∈ queue.succeeded := by
            simpa [CaptureQueue.line, hempty] using hother
          rw [map_append, pairwise_append] at hordered
          exact hordered.2.2 _ (mem_map_of_mem hmem) _
            (mem_singleton_self _)
        · exact hissued submission (mem_append_right _
            (mem_singleton_self _))

omit [PendingOwnerCapture T] in
theorem settleDrain (hqueue : Orderly queue) (settled : Settled) :
    Orderly (queue.settleDrain settled) := by
  unfold CaptureQueue.settleDrain
  cases hdrain : queue.drain with
  | none => exact hqueue
  | some drain =>
    have hhead := hqueue.oldest drain hdrain
    obtain ⟨rest, hitems⟩ := List.head?_eq_some_iff.mp hhead
    have hdirect : queue.direct = [] := by
      by_contra hne
      rw [hqueue.bypass hne] at hitems
      cases hitems
    have hstopped : Orderly { queue with drain := none } :=
      hqueue.congr rfl rfl rfl (Nat.le_refl _) (.inr rfl)
    cases settled with
    | ok =>
      -- the item moves from the front of the list to the end of the line
      have hline : ({ queue with
          items := rest
          succeeded := queue.succeeded ++ [drain.next] }
            : CaptureQueue T).line = queue.line := by
        simp [CaptureQueue.line, hitems]
      have hmoved : Orderly { queue with
          drain := none, failures := 0
          items := rest
          succeeded := queue.succeeded ++ [drain.next] } := by
        refine ⟨?_, ?_, hqueue.alone, fun hne => absurd hdirect hne, ?_⟩
        · exact hline ▸ hqueue.ordered
        · exact hline ▸ hqueue.issued
        · exact fun _ hsome => nomatch hsome
      rw [hitems]
      exact hmoved.drainOn true
    | error error =>
      dsimp only
      by_cases hrefused : isPermanentRefusal error = true
      · rw [if_pos hrefused]
        exact (hstopped.shift rfl).drainOn drain.progressed
      · rw [if_neg hrefused]
        refine scheduleRetry ?_
        exact hstopped.congr rfl rfl rfl (Nat.le_refl _) (.inl rfl)

theorem step (hqueue : Orderly queue) {input : CaptureInput T}
    (hundisturbed : Undisturbed input queue) :
    Orderly (captureStep input queue) := by
  cases input with
  | submit => exact hqueue.submit hundisturbed
  | settleDirect => exact hqueue.settleDirect hundisturbed
  | flush => exact hqueue.congr rfl rfl rfl (Nat.le_refl _) (.inl rfl)
  | retry =>
    unfold captureStep CaptureQueue.retry
    dsimp only
    split
    · exact @congr T queue _ hqueue rfl rfl rfl (Nat.le_refl _) (.inl rfl)
    · exact hqueue
  | beginDrain =>
    unfold captureStep CaptureQueue.beginDrain
    dsimp only
    split
    · refine drainOn ?_ false
      exact hqueue.congr rfl rfl rfl (Nat.le_refl _) (.inl rfl)
    · exact hqueue
  | settleDrain settled => exact hqueue.settleDrain settled

end Orderly

/-! What leaves the list. -/

section Leaving

variable {queue : CaptureQueue T} {submission : Submission T}

theorem numbered_ordered (ticket : Nat) (list : List T) :
    ((numbered ticket list).map Submission.ticket).Pairwise (· < ·) ∧
      ∀ submission ∈ numbered ticket list, ticket ≤ submission.ticket ∧
        submission.ticket < ticket + list.length := by
  induction list generalizing ticket with
  | nil => exact ⟨List.Pairwise.nil, fun _ hin => nomatch hin⟩
  | cons _ _ ih =>
    obtain ⟨hordered, hbounds⟩ := ih (ticket + 1)
    constructor
    · refine List.Pairwise.cons ?_ hordered
      intro _ hlater
      obtain ⟨other, hother, rfl⟩ := mem_map.mp hlater
      exact (hbounds other hother).1
    · intro other hother
      rcases mem_cons.mp hother with rfl | hother
      · simp
      · have hbound := hbounds other hother
        rw [length_cons]
        omega

theorem orderly_start (limit : Nat) (loaded : List T) :
    Orderly (createOwnerCaptureQueue limit loaded) := by
  obtain ⟨hordered, hbounds⟩ := numbered_ordered 0 (sliceLast limit loaded)
  have hline : (createOwnerCaptureQueue limit loaded).line =
      numbered 0 (sliceLast limit loaded) := by
    simp [CaptureQueue.line, createOwnerCaptureQueue]
  refine ⟨hline ▸ hordered, ?_, Nat.zero_le _, fun hne => absurd rfl hne,
    fun _ hsome => nomatch hsome⟩
  intro submission hin
  rw [hline] at hin
  have hbound := (hbounds submission hin).2
  rw [Nat.zero_add] at hbound
  exact hbound

variable [PendingOwnerCapture T]

/-- An item that a push drops was the oldest of a full list. -/
theorem of_not_mem_enqueue {pushed : Submission T}
    (hin : submission ∈ queue.items)
    (hout : submission ∉ (queue.enqueue pushed).items) :
    queue.holds pushed.item = false ∧ queue.limit ≤ queue.items.length ∧
      queue.items.head? = some submission := by
  unfold CaptureQueue.enqueue at hout
  by_cases hholds : queue.holds pushed.item = true
  · rw [if_pos hholds] at hout
    exact absurd hin hout
  · rw [if_neg hholds] at hout
    refine ⟨Bool.eq_false_iff.mpr hholds, ?_⟩
    by_cases hfull : queue.limit < (queue.items ++ [pushed]).length
    · rw [if_pos hfull] at hout
      rw [length_append] at hfull
      refine ⟨Nat.lt_succ_iff.mp hfull, ?_⟩
      cases hitems : queue.items with
      | nil =>
        rw [hitems] at hin
        cases hin
      | cons =>
        rw [hitems] at hin
        rcases mem_cons.mp hin with rfl | hrest
        · rfl
        · refine absurd (mem_append_left [pushed] hrest) ?_
          simpa [CaptureQueue.shift, hitems] using hout
    · rw [if_neg hfull] at hout
      exact absurd (mem_append_left _ hin) hout

omit [PendingOwnerCapture T] in
@[simp] theorem items_scheduleRetry :
    queue.scheduleRetry.items = queue.items := by
  unfold CaptureQueue.scheduleRetry
  split <;> rfl

omit [PendingOwnerCapture T] in
@[simp] theorem items_drainOn (progressed : Bool) :
    (queue.drainOn progressed).items = queue.items := by
  unfold CaptureQueue.drainOn
  split <;> rfl

/-- A step loses nothing of an orderly queue. -/
theorem leaves_rightly (hqueue : Orderly queue) (input : CaptureInput T) :
    LeavesRightly queue input := by
  intro submission hin hout
  unfold captureStep at hout
  cases input with
  | submit =>
    right
    have hne : queue.items ≠ [] := ne_nil_of_mem hin
    unfold CaptureQueue.submit at hout
    dsimp only at hout
    rw [if_neg hne] at hout
    obtain ⟨hfresh, hfull, hhead⟩ :=
      @of_not_mem_enqueue T { queue with
        tickets := queue.tickets + 1 } _ _ _ hin hout
    exact ⟨queue.overflows_of_pushes (if_neg hne) hfresh hfull, hhead⟩
  | settleDirect ticket settled =>
    right
    dsimp only at hout
    unfold CaptureQueue.settleDirect at hout
    cases hawaited : queue.awaited ticket with
    | none =>
      rw [hawaited] at hout
      exact absurd hin hout
    | some pushed =>
      rw [hawaited] at hout
      cases settled with
      | ok => exact absurd hin hout
      | error error =>
        dsimp only at hout
        by_cases hrefused : isPermanentRefusal error = true
        · rw [if_pos hrefused] at hout
          exact absurd hin hout
        · rw [if_neg hrefused, items_scheduleRetry] at hout
          obtain ⟨hfresh, hfull, hhead⟩ :=
            @of_not_mem_enqueue T { queue with
              failures := queue.failures + 1
              direct := queue.direct.filter (·.ticket ≠ ticket) } _ _ _
              hin hout
          refine ⟨queue.overflows_of_pushes ?_ hfresh hfull, hhead⟩
          show (if isPermanentRefusal error = true then none
            else queue.awaited ticket) = some pushed
          rw [if_neg hrefused, hawaited]
  | flush => exact absurd hin hout
  | retry =>
    dsimp only at hout
    unfold CaptureQueue.retry at hout
    split at hout <;> exact absurd hin hout
  | beginDrain =>
    dsimp only at hout
    unfold CaptureQueue.beginDrain at hout
    split at hout
    · rw [items_drainOn] at hout
      exact absurd hin hout
    · exact absurd hin hout
  | settleDrain settled =>
    left
    unfold CaptureQueue.settleDrain at hout
    cases hdrain : queue.drain with
    | none =>
      rw [hdrain] at hout
      exact absurd hin hout
    | some drain =>
      -- what leaves is the oldest item, and the drain awaits that one
      have hoff : submission ∉ queue.items.drop 1 →
          drain.next = submission := by
        intro hdropped
        obtain ⟨_, hitems⟩ :=
            List.head?_eq_some_iff.mp (hqueue.oldest drain hdrain)
        rw [hitems] at hin hdropped
        exact ((mem_cons.mp hin).resolve_right hdropped).symm
      rw [hdrain] at hout
      cases settled with
      | ok value =>
        rw [items_drainOn] at hout
        refine ⟨drain, .ok value, hdrain, hoff hout, rfl, ?_⟩
        exact fun _ hraised => nomatch hraised
      | error error =>
        dsimp only at hout
        by_cases hrefused : isPermanentRefusal error = true
        · rw [if_pos hrefused, items_drainOn] at hout
          refine ⟨drain, .error error, hdrain, hoff hout, rfl, ?_⟩
          rintro _ ⟨⟩
          exact hrefused
        · rw [if_neg hrefused, items_scheduleRetry] at hout
          exact absurd hin hout

/-- When no list overflows under a drain and no submission overtakes an awaited
one, an item leaves the list only for its own outcome or as the oldest of a full
list, and the captures succeed in the order of submission. -/
theorem undisturbed_lossless (limit : Nat) (loaded : List T)
    (inputs : List (CaptureInput T))
    (hundisturbed : Meets captureStep Undisturbed
      (createOwnerCaptureQueue limit loaded) inputs) :
    Lossless limit loaded inputs := by
  have hkept (before : List (CaptureInput T))
      (hmeets : Meets captureStep Undisturbed
        (createOwnerCaptureQueue limit loaded) before) :
      Orderly (run captureStep (createOwnerCaptureQueue limit loaded) before) :=
    meets_preserves (fun _ _ hinput hqueue => hqueue.step hinput)
      (orderly_start limit loaded) hmeets
  constructor
  · rintro before input _ rfl
    exact leaves_rightly (hkept before (meets_append.mp hundisturbed).1) input
  · have hordered := (hkept inputs hundisturbed).ordered
    unfold CaptureQueue.line at hordered
    rw [List.append_assoc, List.map_append] at hordered
    exact (List.pairwise_append.mp hordered).1

end Leaving

section Plain

/-- A message that is told by its number. -/
local instance : PendingOwnerCapture Nat := ⟨toString⟩

/-- A failed capture waits, the next one behind it, and a retry captures both. -/
theorem retried_lossless :
    Lossless 2 ([] : List Nat)
      [.submit 7, .settleDirect 0 (.error {}), .submit 8, .beginDrain,
        .settleDrain (.ok ()), .settleDrain (.ok ())] :=
  undisturbed_lossless 2 [] _ (by
    simp only [Meets, Undisturbed]
    decide)

/-- The list overflows while its oldest item is being captured, and the second
oldest leaves in its place; and a submission overtakes an awaited one. -/
theorem capture_loses_and_reorders :
    ¬ Lossless 2 [1, 2]
        [.flush, .beginDrain, .submit 3, .settleDrain (.ok ())] ∧
      ¬ Lossless 2 ([] : List Nat)
        [.submit 1, .submit 2, .settleDirect 1 (.ok ()),
          .settleDirect 0 (.ok ())] := by
  constructor
  · intro hlossless
    have hleaves := hlossless.1 [.flush, .beginDrain, .submit 3]
      (.settleDrain (.ok ())) [] rfl
    rcases hleaves ⟨1, 2⟩ (by decide) (by decide) with hown | hfull
    · obtain ⟨_, _, hdrain, hnext, _⟩ := hown
      revert hnext
      rw [← Option.some.inj hdrain]
      decide
    · exact absurd hfull.1 (by decide)
  · intro hlossless
    have hordered := hlossless.2
    revert hordered
    unfold InSubmissionOrder
    decide

end Plain

end CognitiveSidecar.OwnerCapture
