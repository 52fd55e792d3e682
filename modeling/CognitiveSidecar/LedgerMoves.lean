/-
What one operation may do to the ledgers, said once.  A move rewrites the rows
of the wake, event, attempt and cycle tables as the relations below allow,
admits a wake with its cycle, appends an event, or grants a lease.  Operations
are traces of moves, and every invariant is a fact about moves.
-/
import CognitiveSidecar.RetryLedger

namespace CognitiveSidecar

variable {after : Sidecar} {old new : InboxEvent}

open Relational

/-- An event that holds its wake: leased, or fenced by an unknown outcome. -/
def InboxEvent.isBusy (row : InboxEvent) : Bool :=
  row.state = .leased || row.state = .reconciling

/-- An event whose work has ended. -/
def InboxEvent.isClosed (row : InboxEvent) : Bool :=
  row.state = .terminal || row.state = .quarantined

/-- No event of the wake satisfies `p`. -/
def NoEventOn (db : Sidecar) (p : InboxEvent → Bool) (wakeId : String) : Prop :=
  ∀ id event, db.events.get? id = some event → event.wakeId = some wakeId →
    p event = false

/-- The wake, where it is stored, satisfies `P`. -/
def WakeIs (db : Sidecar) (P : Wake → Prop) (wakeId : Option String) : Prop :=
  ∀ id wake, wakeId = some id → db.wakes.get? id = some wake → P wake

/-- Admits no claim: reconciling or terminal. -/
def Wake.isFenced (row : Wake) : Prop :=
  row.state = .reconciling ∨ row.state = .terminal

/-- A terminal reason is stored exactly on a terminal wake. -/
def Wake.WellEnded (row : Wake) : Prop :=
  row.state = .terminal ↔ row.terminalReason.isSome = true

/-- A lease is held under a token, and a pending wake has none. -/
def Wake.LeaseNamed (row : Wake) : Prop :=
  ((row.state = .claimed ∨ row.state = .authorized) →
    row.leaseToken.any (· ≠ "") = true) ∧
  (row.state = .pending → row.leaseToken = none)

/-- What an operation promises (`tidy`: it strands no claimable event on a
closed wake; `orderly`: it closes no wake under a busy event), the events that
it may take out of reconciliation, the wakes that it may admit, and whether it
stands for another subsystem, which may write the outbox as it likes. -/
structure Permit where
  tidy : Prop
  orderly : Prop
  resumes : String → Prop
  admits : Wake → Prop
  outside : Prop := False

/-- The permit that promises nothing. -/
def Permit.lenient : Permit where
  tidy := False
  orderly := False
  resumes := fun _ => True
  admits := fun _ => True

/-- The permit that promises nothing but which wakes it admits. -/
def Permit.admitting (admits : Wake → Prop) : Permit :=
  { Permit.lenient with admits }

/-- The columns of an event that no operation rewrites. -/
structure SameEvent (old new : InboxEvent) : Prop where
  conversationId : new.conversationId = old.conversationId
  kind : new.kind = old.kind
  payload : new.payload = old.payload
  createdAtMs : new.createdAtMs = old.createdAtMs
  lane : new.lane = old.lane
  wakeId : new.wakeId = old.wakeId

theorem SameEvent.refl (row : InboxEvent) : SameEvent row row :=
  ⟨rfl, rfl, rfl, rfl, rfl, rfl⟩

theorem SameEvent.trans {a b c : InboxEvent} (hab : SameEvent a b)
    (hbc : SameEvent b c) : SameEvent a c where
  conversationId := hbc.conversationId.trans hab.conversationId
  kind := hbc.kind.trans hab.kind
  payload := hbc.payload.trans hab.payload
  createdAtMs := hbc.createdAtMs.trans hab.createdAtMs
  lane := hbc.lane.trans hab.lane
  wakeId := hbc.wakeId.trans hab.wakeId

/-- How an event may change without being leased. -/
structure EventChange (permit : Permit) (after : Sidecar)
    (old new : InboxEvent) : Prop where
  same : SameEvent old new
  attemptCount : new.attemptCount = old.attemptCount
  firstAttemptAtMs : new.firstAttemptAtMs = old.firstAttemptAtMs
  closed : old.isClosed = true → new.isClosed = true
  leased : new.state = .leased → old.state = .leased
  fenced : new.state = .reconciling → old.state = .reconciling ∨
    (old.state = .leased ∧ WakeIs after Wake.isFenced old.wakeId)
  resumed : old.state = .reconciling → new.state = .reconciling ∨
    new.isClosed = true ∨ (permit.resumes old.id ∧ new.state = .pending)
  tidy : permit.tidy → new.isClaimableContinuation = true →
    old.isClaimableContinuation = true ∨
      WakeIs after (·.state ≠ .terminal) old.wakeId

theorem EventChange.refl (permit : Permit) (after : Sidecar)
    (row : InboxEvent) : EventChange permit after row row where
  same := .refl row
  attemptCount := rfl
  firstAttemptAtMs := rfl
  closed := id
  leased := id
  fenced := .inl
  resumed := .inl
  tidy := fun _ => .inl

variable {permit : Permit}

/-- An event may be closed from any state. -/
theorem EventChange.close (hsame : SameEvent old new)
    (hcount : new.attemptCount = old.attemptCount)
    (hfirst : new.firstAttemptAtMs = old.firstAttemptAtMs)
    (hclosed : new.isClosed = true) : EventChange permit after old new := by
  have hstate : new.state = .terminal ∨ new.state = .quarantined := by
    simpa [InboxEvent.isClosed] using hclosed
  refine ⟨hsame, hcount, hfirst, fun _ => hclosed, ?_, ?_,
    fun _ => .inr (.inl hclosed), ?_⟩
  · intro hleased
    rcases hstate with hstate | hstate <;> rw [hleased] at hstate <;>
      cases hstate
  · intro hrec
    rcases hstate with hstate | hstate <;> rw [hrec] at hstate <;> cases hstate
  · intro _ hclaimable
    rcases hstate with hstate | hstate <;>
      simp [InboxEvent.isClaimableContinuation, hstate] at hclaimable

/-- A leased or waiting event may be given back, on an open wake. -/
theorem EventChange.giveBack (hsame : SameEvent old new)
    (hcount : new.attemptCount = old.attemptCount)
    (hfirst : new.firstAttemptAtMs = old.firstAttemptAtMs)
    (hclaimable : new.state = .pending ∨ new.state = .retryWait)
    (hold : old.state = .leased ∨ old.state = .retryWait)
    (hopen : permit.tidy → old.state = .leased →
      WakeIs after (·.state ≠ .terminal) old.wakeId) :
    EventChange permit after old new := by
  refine ⟨hsame, hcount, hfirst, ?_, ?_, ?_, ?_, ?_⟩
  · intro hclosed
    rcases hold with hold | hold <;>
      simp [InboxEvent.isClosed, hold] at hclosed
  · intro hleased
    rcases hclaimable with hstate | hstate <;> rw [hleased] at hstate <;>
      cases hstate
  · intro hrec
    rcases hclaimable with hstate | hstate <;> rw [hrec] at hstate <;>
      cases hstate
  · intro hrec
    rcases hold with hold | hold <;> rw [hrec] at hold <;> cases hold
  · intro htidy _
    rcases hold with hold | hold
    · exact .inr (hopen htidy hold)
    · exact .inl (by simp [InboxEvent.isClaimableContinuation, hold])

/-- A leased event may be fenced under a fenced wake. -/
theorem EventChange.fence (hsame : SameEvent old new)
    (hcount : new.attemptCount = old.attemptCount)
    (hfirst : new.firstAttemptAtMs = old.firstAttemptAtMs)
    (hnew : new.state = .reconciling) (hold : old.state = .leased)
    (hfenced : WakeIs after Wake.isFenced old.wakeId) :
    EventChange permit after old new := by
  refine ⟨hsame, hcount, hfirst, ?_, ?_, fun _ => .inr ⟨hold, hfenced⟩,
    fun _ => .inl hnew, ?_⟩
  · intro hclosed
    simp [InboxEvent.isClosed, hold] at hclosed
  · intro hleased
    rw [hnew] at hleased
    cases hleased
  · intro _ hclaimable
    simp [InboxEvent.isClaimableContinuation, hnew] at hclaimable

/-- How an attempt may change: an open one is settled once, and a settled one
keeps its record up to a missing error code. -/
structure AttemptChange (after : Sidecar) (old new : Attempt) : Prop where
  eventId : new.eventId = old.eventId
  ordinal : new.ordinal = old.ordinal
  stays : old.finishedAtMs.isSome = true →
    new.finishedAtMs = old.finishedAtMs ∧
      new.dispatchTruth = old.dispatchTruth ∧
      new.failureClass = old.failureClass ∧
      (old.errorCode.isSome = true → new.errorCode = old.errorCode)
  settled : old.finishedAtMs = none → new = old ∨
    (new.finishedAtMs.isSome = true ∧ ∀ event,
      after.events.get? old.eventId = some event → event.state ≠ .leased)

theorem AttemptChange.refl (after : Sidecar) (row : Attempt) :
    AttemptChange after row row where
  eventId := rfl
  ordinal := rfl
  stays := fun _ => ⟨rfl, rfl, rfl, fun _ => rfl⟩
  settled := fun _ => .inl rfl

/-- A compose log names each evidence row once. -/
def ProperLog (log : List String) : Prop := log.Nodup ∧ "" ∉ log

/-- How a cycle may change. -/
structure CycleChange (old new : Cycle) : Prop where
  conversationId : new.conversationId = old.conversationId
  wakeId : new.wakeId = old.wakeId
  generation : new.generation = old.generation
  triggerRef : new.triggerRef = old.triggerRef
  composeLogIds : old.composeLogIds ⊆ new.composeLogIds
  proper : ProperLog old.composeLogIds → ProperLog new.composeLogIds

theorem CycleChange.refl (row : Cycle) : CycleChange row row :=
  ⟨rfl, rfl, rfl, rfl, List.Subset.refl _, id⟩

theorem CycleChange.trans {a b c : Cycle} (hab : CycleChange a b)
    (hbc : CycleChange b c) : CycleChange a c where
  conversationId := hbc.conversationId.trans hab.conversationId
  wakeId := hbc.wakeId.trans hab.wakeId
  generation := hbc.generation.trans hab.generation
  triggerRef := hbc.triggerRef.trans hab.triggerRef
  composeLogIds := fun _ hmem => hbc.composeLogIds (hab.composeLogIds hmem)
  proper := fun hlog => hbc.proper (hab.proper hlog)

/-- How a speech row may change: delivery moves it on, and what has been
suppressed stays suppressed. -/
structure OutboxChange (old new : OutboxRow) : Prop where
  settlementId : new.settlementId = old.settlementId
  cycleId : new.cycleId = old.cycleId
  generation : new.generation = old.generation
  conversationId : new.conversationId = old.conversationId
  licensedText : new.licensedText = old.licensedText
  suppressed : old.suppressed = true → new.suppressed = true

theorem OutboxChange.refl (row : OutboxRow) : OutboxChange row row :=
  ⟨rfl, rfl, rfl, rfl, rfl, id⟩

theorem OutboxChange.trans {a b c : OutboxRow} (hab : OutboxChange a b)
    (hbc : OutboxChange b c) : OutboxChange a c where
  settlementId := hbc.settlementId.trans hab.settlementId
  cycleId := hbc.cycleId.trans hab.cycleId
  generation := hbc.generation.trans hab.generation
  conversationId := hbc.conversationId.trans hab.conversationId
  licensedText := hbc.licensedText.trans hab.licensedText
  suppressed := fun hold => hbc.suppressed (hab.suppressed hold)

/-- The outbox after a move: its rows moved on by delivery, unless the move is
another subsystem's. -/
def OutboxKept (permit : Permit) (before after : Sidecar) : Prop :=
  permit.outside ∨
    Table.Rewrites OutboxChange before.outbox after.outbox

theorem OutboxKept.same {before : Sidecar}
    (houtbox : after.outbox = before.outbox) :
    OutboxKept permit before after := by
  refine .inr ?_
  rw [houtbox]
  exact Table.Rewrites.refl OutboxChange.refl _

section Host

variable [Host]

/-- How a wake may change. -/
structure WakeChange (permit : Permit) (after : Sidecar) (old new : Wake) :
    Prop where
  conversationId : new.conversationId = old.conversationId
  cycleId : new.cycleId = old.cycleId
  triggerRef : new.triggerRef = old.triggerRef
  terminal : old.state = .terminal → new = old
  ended : old.WellEnded → new.WellEnded
  named : old.LeaseNamed → new.LeaseNamed
  reopened : old.state = .reconciling → new.isFenced ∨
    NoEventOn after InboxEvent.isReconciling old.wakeId
  tidy : permit.tidy → new.state = .terminal → old.state = .terminal ∨
    NoEventOn after InboxEvent.isClaimableContinuation old.wakeId
  orderly : permit.orderly → new.state = .terminal → old.state = .terminal ∨
    NoEventOn after InboxEvent.isBusy old.wakeId
  token : ∀ k, after.uuidsDrawn ≤ k →
    new.leaseToken = some ("wake-lease:" ++ Host.randomUUID k) →
    old.leaseToken = new.leaseToken

theorem WakeChange.refl (permit : Permit) (after : Sidecar) (row : Wake) :
    WakeChange permit after row row where
  conversationId := rfl
  cycleId := rfl
  triggerRef := rfl
  terminal := fun _ => rfl
  ended := id
  named := id
  reopened := fun hstate => .inl (.inl hstate)
  tidy := fun _ => .inl
  orderly := fun _ => .inl
  token := fun _ _ _ => rfl

/-- The new wake of an admission, and its cycle. -/
structure Admits (before : Sidecar) (wake : Wake) (cycle : Cycle) : Prop where
  named : wake.wakeId ≠ ""
  pending : wake.state = .pending
  unended : wake.terminalReason = none
  unleased : wake.leaseToken = none
  cycleId : cycle.cycleId = wake.cycleId
  wakeId : cycle.wakeId = some wake.wakeId
  conversationId : cycle.conversationId = wake.conversationId
  unlogged : cycle.composeLogIds = []
  soleCycle : ∀ id row, before.cycles.get? id = some row →
    row.wakeId ≠ some wake.wakeId
  soleWake : ∀ id row, before.wakes.get? id = some row →
    row.cycleId ≠ wake.cycleId

/-- A new event on a stored wake. -/
structure Appends (permit : Permit) (before : Sidecar) (event : InboxEvent)
    (wake : Wake) : Prop where
  stored : before.wakes.get? wake.wakeId = some wake
  wakeId : event.wakeId = some wake.wakeId
  conversationId : event.conversationId = wake.conversationId
  lane : event.lane = "interactive"
  attemptCount : event.attemptCount = 0
  firstAttemptAtMs : event.firstAttemptAtMs = none
  state : event.state = .pending ∨ event.state = .terminal
  tidy : permit.tidy → event.state = .pending → wake.state ≠ .terminal

/-- The lease of a pending event, and the attempt that it opens. -/
structure Leases (before : Sidecar) (old new : InboxEvent)
    (attempt : Attempt) : Prop where
  stored : before.events.get? old.id = some old
  pending : old.state = .pending
  same : SameEvent old new
  leased : new.state = .leased
  attemptCount : new.attemptCount = old.attemptCount + 1
  bounded : old.attemptCount < maxAttempts
  firstAttemptAtMs : new.firstAttemptAtMs =
    some (old.firstAttemptAtMs.getD attempt.startedAtMs)
  eventId : attempt.eventId = old.id
  ordinal : attempt.ordinal = old.attemptCount + 1
  opened : attempt.finishedAtMs = none
  untouched : attempt.dispatchTruth = .notStarted ∧
    attempt.failureClass = none ∧ attempt.errorCode = none
  solo : ∀ wakeId, old.wakeId = some wakeId →
    NoEventOn before InboxEvent.isBusy wakeId
  awake : WakeIs before (fun wake => ¬ wake.isFenced) old.wakeId

/-- One move of the ledgers. -/
inductive Moved (permit : Permit) (before after : Sidecar) : Prop
  | shift
      (hdrawn : before.uuidsDrawn ≤ after.uuidsDrawn)
      (hwakes : Table.Rewrites (WakeChange permit after) before.wakes
        after.wakes)
      (hevents : Table.Rewrites (EventChange permit after) before.events
        after.events)
      (hattempts : Table.Rewrites (AttemptChange after) before.attempts
        after.attempts)
      (hcycles : Table.Rewrites CycleChange before.cycles after.cycles)
      (houtbox : OutboxKept permit before after)
  | admission (wake : Wake) (cycle : Cycle)
      (hdrawn : before.uuidsDrawn ≤ after.uuidsDrawn)
      (hadmits : Admits before wake cycle)
      (hpermitted : permit.admits wake)
      (hwakes : before.wakes.insert? wake = some after.wakes)
      (hcycles : before.cycles.insert? cycle = some after.cycles)
      (hevents : after.events = before.events)
      (hattempts : after.attempts = before.attempts)
      (houtbox : OutboxKept permit before after)
  | append (event : InboxEvent) (wake : Wake)
      (hdrawn : before.uuidsDrawn ≤ after.uuidsDrawn)
      (happends : Appends permit before event wake)
      (hevents : before.events.insert? event = some after.events)
      (hwakes : after.wakes = before.wakes)
      (hattempts : after.attempts = before.attempts)
      (hcycles : after.cycles = before.cycles)
      (houtbox : OutboxKept permit before after)
  | lease (old new : InboxEvent) (attempt : Attempt)
      (hdrawn : before.uuidsDrawn ≤ after.uuidsDrawn)
      (hleases : Leases before old new attempt)
      (hevents : ∀ k, after.events.get? k =
        if k = old.id then some new else before.events.get? k)
      (hattempts : before.attempts.insert? attempt = some after.attempts)
      (hfresh : ∀ k, after.uuidsDrawn ≤ k →
        attempt.attemptId ≠ "attempt:" ++ Host.randomUUID k)
      (hwakes : after.wakes = before.wakes)
      (hcycles : after.cycles = before.cycles)
      (houtbox : OutboxKept permit before after)

/-- Any number of moves. -/
def Trace (permit : Permit) : Sidecar → Sidecar → Prop :=
  Relation.ReflTransGen (Moved permit)

variable {permit : Permit} {before after last : Sidecar}
variable {f : InboxEvent → InboxEvent} {old : Wake}

theorem Trace.refl (db : Sidecar) : Trace permit db db :=
  Relation.ReflTransGen.refl

theorem Trace.trans (hfirst : Trace permit before after)
    (hsecond : Trace permit after last) : Trace permit before last :=
  Relation.ReflTransGen.trans hfirst hsecond

theorem Moved.trace (hmoved : Moved permit before after) :
    Trace permit before after :=
  Relation.ReflTransGen.single hmoved

theorem Trace.step (htrace : Trace permit before after)
    (hmoved : Moved permit after last) : Trace permit before last :=
  Relation.ReflTransGen.tail htrace hmoved

/-- A loop of traces is a trace. -/
theorem Trace.eachOf {ι : Type} {f : Sidecar → ι → Outcome Sidecar}
    {P : Sidecar → Prop}
    (hstep : ∀ s item s', f s item = .ok s' → P s →
      Trace permit s s' ∧ P s')
    {s s' : Sidecar} {items : List ι} (hrun : eachOf f s items = .ok s')
    (hs : P s) : Trace permit s s' := by
  induction items generalizing s with
  | nil =>
    cases hrun
    exact .refl _
  | cons item _ ih =>
    obtain ⟨mid, hhead, htail⟩ := of_bind hrun
    obtain ⟨htrace, hmid⟩ := hstep s item mid hhead hs
    exact htrace.trans (ih htail hmid)

/-- Every wake was there before, or was admitted as permitted; its trigger and
its cycle stay the same. -/
theorem Trace.wake_backward (htrace : Trace permit before after) {id : String}
    {wake : Wake} (hwake : after.wakes.get? id = some wake) :
    ∃ old, (before.wakes.get? id = some old ∨ permit.admits old) ∧
      wake.triggerRef = old.triggerRef ∧ wake.cycleId = old.cycleId := by
  induction htrace generalizing wake with
  | refl => exact ⟨wake, .inl hwake, rfl, rfl⟩
  | tail _ hmoved ih =>
    cases hmoved with
    | shift _ hwakes =>
      obtain ⟨_, hmid, hchange⟩ := hwakes.backward hwake
      obtain ⟨old, horigin, href, hcycle⟩ := ih hmid
      exact ⟨old, horigin, hchange.triggerRef.trans href,
        hchange.cycleId.trans hcycle⟩
    | admission _ _ _ _ hpermitted hwakes =>
      rw [get?_insert hwakes] at hwake
      split at hwake
      · cases hwake
        exact ⟨wake, .inr hpermitted, rfl, rfl⟩
      · exact ih hwake
    | append _ _ _ _ _ hwakes | lease _ _ _ _ _ _ _ _ hwakes =>
      rw [hwakes] at hwake
      exact ih hwake

theorem Moved.outboxKept (hmoved : Moved permit before after) :
    OutboxKept permit before after := by
  cases hmoved <;> assumption

/-- Inside the kernel, speech rows are only moved on by delivery. -/
theorem Trace.outbox_rewrites (hinside : ¬ permit.outside)
    (htrace : Trace permit before after) :
    Table.Rewrites OutboxChange before.outbox after.outbox := by
  induction htrace with
  | refl => exact Table.Rewrites.refl OutboxChange.refl _
  | tail _ hmoved ih =>
    have hstep := hmoved.outboxKept.resolve_left hinside
    exact ih.trans (fun _ _ _ hab hbc => hab.trans hbc) hstep

/-- Identifiers are only ever drawn. -/
theorem Trace.drawn_le (htrace : Trace permit before after) :
    before.uuidsDrawn ≤ after.uuidsDrawn := by
  induction htrace with
  | refl => exact Nat.le_refl _
  | tail _ hmoved => cases hmoved <;> omega

/-- The ledgers that the moves speak about are untouched. -/
theorem Moved.aside (hdrawn : before.uuidsDrawn ≤ after.uuidsDrawn)
    (hwakes : after.wakes = before.wakes)
    (hevents : after.events = before.events)
    (hattempts : after.attempts = before.attempts)
    (hcycles : after.cycles = before.cycles)
    (houtbox : OutboxKept permit before after := by exact .same rfl) :
    Moved permit before after := by
  refine .shift hdrawn ?_ ?_ ?_ ?_ houtbox
  · rw [hwakes]
    exact Table.Rewrites.refl (WakeChange.refl permit after) _
  · rw [hevents]
    exact Table.Rewrites.refl (EventChange.refl permit after) _
  · rw [hattempts]
    exact Table.Rewrites.refl (AttemptChange.refl after) _
  · rw [hcycles]
    exact Table.Rewrites.refl CycleChange.refl _

theorem Moved.drew : Moved permit before before.drew :=
  .aside (Nat.le_succ _) rfl rfl rfl rfl

theorem Moved.updateWake {wakeId : String} {guard : Wake → Bool}
    {f : Wake → Wake} {hkey : ∀ row, key (f row) = key row}
    (hchange : ∀ row, before.wakes.get? wakeId = some row → guard row = true →
      WakeChange permit before row (f row)) :
    Moved permit before (before.updateWake wakeId guard f hkey) := by
  refine .shift (Nat.le_refl _) ?_ (Table.Rewrites.refl (EventChange.refl _ _) _)
    (Table.Rewrites.refl (AttemptChange.refl _) _)
    (Table.Rewrites.refl CycleChange.refl _) (.same rfl)
  refine Table.rewrites_update hkey ?_ ?_
  · intro k row hrow hguard
    simp only [Bool.and_eq_true, decide_eq_true_eq] at hguard
    have hk : k = wakeId := (key_of_get? hrow).symm.trans hguard.1
    subst hk
    exact { hchange row hrow hguard.2 with }
  · exact WakeChange.refl permit _

/-- Several events may be rewritten together. -/
theorem Moved.updateEvents {p : InboxEvent → Bool}
    {hkey : ∀ row, key (f row) = key row}
    (hchange : ∀ id row, before.events.get? id = some row → p row = true →
      EventChange permit before row (f row)) :
    Moved permit before
      { before with events := before.events.update p f hkey } := by
  refine .shift (Nat.le_refl _) (Table.Rewrites.refl (WakeChange.refl _ _) _)
    ?_ (Table.Rewrites.refl (AttemptChange.refl _) _)
    (Table.Rewrites.refl CycleChange.refl _) (.same rfl)
  refine Table.rewrites_update hkey ?_ ?_
  · intro k row hrow hguard
    exact { hchange k row hrow hguard with }
  · exact EventChange.refl permit _

theorem Moved.updateEvent {eventId : String} {guard : InboxEvent → Bool}
    {hkey : ∀ row, key (f row) = key row}
    (hchange : ∀ row, before.events.get? eventId = some row →
      guard row = true → EventChange permit before row (f row)) :
    Moved permit before (before.updateEvent eventId guard f hkey) := by
  refine .updateEvents ?_
  intro id row hrow hguard
  simp only [Bool.and_eq_true, decide_eq_true_eq] at hguard
  have hid : id = eventId := (key_of_get? hrow).symm.trans hguard.1
  subst hid
  exact hchange row hrow hguard.2

theorem Moved.updateCycle {cycleId : String} {f : Cycle → Cycle}
    {hkey : ∀ row, key (f row) = key row}
    (hchange : ∀ row, before.cycles.get? cycleId = some row →
      CycleChange row (f row)) :
    Moved permit before (before.updateCycle cycleId f hkey) := by
  refine .shift (Nat.le_refl _) (Table.Rewrites.refl (WakeChange.refl _ _) _)
    (Table.Rewrites.refl (EventChange.refl _ _) _)
    (Table.Rewrites.refl (AttemptChange.refl _) _) ?_ (.same rfl)
  refine Table.rewrites_update hkey ?_ ?_
  · intro k row hrow hguard
    have hk : k = cycleId :=
      (key_of_get? hrow).symm.trans (of_decide_eq_true hguard)
    subst hk
    exact hchange row hrow
  · exact CycleChange.refl

/-- A wake that stays open may drop its lease or take a fresh one. -/
theorem WakeChange.stayOpen {new : Wake}
    (hconv : new.conversationId = old.conversationId)
    (hcycle : new.cycleId = old.cycleId)
    (htrigger : new.triggerRef = old.triggerRef) (hold : old.state ≠ .terminal)
    (hnew : new.state ≠ .terminal)
    (hreason : new.terminalReason = none ∨
      new.terminalReason = old.terminalReason)
    (hreopen : old.state = .reconciling → new.state = .reconciling ∨
      NoEventOn after InboxEvent.isReconciling old.wakeId)
    (htoken : new.leaseToken = none ∨ new.leaseToken = old.leaseToken ∨
      ∃ k, k < after.uuidsDrawn ∧
        new.leaseToken = some ("wake-lease:" ++ Host.randomUUID k))
    (hnamed : old.LeaseNamed → new.LeaseNamed) :
    WakeChange permit after old new where
  conversationId := hconv
  cycleId := hcycle
  triggerRef := htrigger
  terminal := fun hterminal => absurd hterminal hold
  ended := by
    intro hended
    have hnone : old.terminalReason = none := by
      cases hcase : old.terminalReason with
      | none => rfl
      | some => exact absurd (hended.mpr (by rw [hcase]; rfl)) hold
    have hnewNone : new.terminalReason = none := by
      rcases hreason with hreason | hreason
      · exact hreason
      · rw [hreason, hnone]
    simp [Wake.WellEnded, hnew, hnewNone]
  named := hnamed
  reopened := by
    intro hrec
    rcases hreopen hrec with hstill | hnone
    · exact .inl (.inl hstill)
    · exact .inr hnone
  tidy := fun _ hterminal => absurd hterminal hnew
  orderly := fun _ hterminal => absurd hterminal hnew
  token := by
    intro k _ hfuture
    rcases htoken with hnone | hsame | ⟨j, _, hdrawn⟩
    · rw [hnone] at hfuture
      cases hfuture
    · exact hsame.symm
    · rw [hdrawn, Option.some.injEq, String.append_right_inj] at hfuture
      have heq : j = k := Host.randomUUID_injective hfuture
      omega

/-- What closing a wake owes to the promises of its operation. -/
structure Closable (permit : Permit) (db : Sidecar) (wakeId : String) :
    Prop where
  tidy : permit.tidy → NoEventOn db InboxEvent.isClaimableContinuation wakeId
  orderly : permit.orderly → NoEventOn db InboxEvent.isBusy wakeId

omit [Host] in
/-- Closing a wake owes its promises only to the events. -/
theorem Closable.congr {wakeId : String} (hclosable : Closable permit db wakeId)
    (hevents : after.events = db.events) : Closable permit after wakeId := by
  refine ⟨fun htidy => ?_, fun horderly => ?_⟩
  · unfold NoEventOn
    rw [hevents]
    exact hclosable.tidy htidy
  · unfold NoEventOn
    rw [hevents]
    exact hclosable.orderly horderly

theorem WakeChange.close {reason : WakeTerminalReason} {nowMs : Int}
    (hold : old.state ≠ .terminal)
    (hclosable : Closable permit after old.wakeId) :
    WakeChange permit after old (old.closed reason nowMs) where
  conversationId := rfl
  cycleId := rfl
  triggerRef := rfl
  terminal := fun hterminal => absurd hterminal hold
  ended := fun _ => by simp [Wake.WellEnded]
  named := fun _ => by simp [Wake.LeaseNamed]
  reopened := fun _ => .inl (.inr rfl)
  tidy := fun htidy _ => .inr (hclosable.tidy htidy)
  orderly := fun horderly _ => .inr (hclosable.orderly horderly)
  token := fun _ _ hfuture => by simp at hfuture

end Host

end CognitiveSidecar
