/-
The periodic schedule: one row that holds the next eligible time and at most
one pending occurrence, the receipts that close occurrences, and the poll that
mints, binds, closes and expires them.
-/
import CognitiveSidecar.Lib.Process
import CognitiveSidecar.CycleInbox
import CognitiveSidecar.MindTables
import CognitiveSidecar.PrivateReservations

namespace CognitiveSidecar.Periodic

open Relational

def periodicScheduleId : String := "ashley-periodic-v1"

/-- Four hours. -/
def periodicCadenceMs : Int := 14400000

def periodicDueWindowMs : Int := 14400000

def periodicCuriosityMaxItems : Nat := 12

inductive PeriodicDisposition
  | admitted | admittedFailure | skippedEmpty | expired
  | admittedStaleSuppressed | authorityEpochAbandoned
deriving DecidableEq

/-- The row of `periodic_cognition_schedule`; its primary key is a constant. -/
structure PeriodicScheduleRow where
  (authorityEpoch nextEligibleAtMs : Int)
  (pendingOccurrenceId pendingWakeId : Option String)
  (pendingDueAtMs pendingExpiresAtMs : Option Int)
  updatedAtMs : Int
deriving DecidableEq

inductive ReceiptDetail
  | epoch (old new : Int)
  | terminal (reason : Option WakeTerminalReason)
  | noDispatchProof | noCandidate | empty | windowExpiry
deriving DecidableEq

/-- A row of `periodic_cognition_occurrence_receipts`. -/
structure PeriodicOccurrenceReceipt where
  scheduleOccurrenceId : String
  disposition : PeriodicDisposition
  wakeId : Option String
  (authorityEpoch eligibleAtMs closedAtMs : Int)
  detail : ReceiptDetail
deriving DecidableEq

instance : Keyed PeriodicOccurrenceReceipt String :=
  ⟨PeriodicOccurrenceReceipt.scheduleOccurrenceId⟩

/-- The tables that a poll reads and writes. -/
structure PeriodicDb where
  sidecar : Sidecar := {}
  budget : PrivateBudget
  schedule : Option PeriodicScheduleRow := none
  receipts : Table PeriodicOccurrenceReceipt := Table.empty

inductive PeriodicFault
  | kernel (fault : Fault)
  | budget (fault : BudgetFault)
  | scheduleMissing | notDue | bindingConflict | occurrenceMismatch
  | wakeAmbiguous | cycleMissing | reservationAmbiguous
  | observation | persistence
deriving DecidableEq

abbrev PeriodicOutcome (α : Type) := Except PeriodicFault α

/-- A poll in progress. -/
abbrev Poll (α : Type) := Process PeriodicDb PeriodicFault α

def ofKernel {α : Type} : Outcome α → PeriodicOutcome α
  | .ok value => .ok value
  | .error fault => .error (.kernel fault)

def ofBudget {α : Type} : BudgetOutcome α → PeriodicOutcome α
  | .ok value => .ok value
  | .error fault => .error (.budget fault)

/-! Identities. -/

section Identity

variable [Host]

/-- The epoch is part of the digest: the same eligible time under a new
authority epoch is a different occurrence. -/
def periodicScheduleOccurrenceId (authorityEpoch effectiveEligibleAtMs : Int) :
    String :=
  "periodic-occurrence:" ++ Host.sha256 [[periodicScheduleId],
    [toString authorityEpoch], [toString effectiveEligibleAtMs]]

end Identity

def periodicTriggerRef (scheduleOccurrenceId : String)
    (effectiveEligibleAtMs : Int) : String :=
  "periodic:" ++ scheduleOccurrenceId ++ ":" ++ toString effectiveEligibleAtMs

def periodicEventId (scheduleOccurrenceId : String) : String :=
  "periodic:" ++ scheduleOccurrenceId

/-! The transactions on the schedule. -/

def readSchedule (db : PeriodicDb) : Option PeriodicScheduleRow := db.schedule

def readReceipt (db : PeriodicDb) (scheduleOccurrenceId : String) :
    Option PeriodicOccurrenceReceipt :=
  db.receipts.get? scheduleOccurrenceId

/-- The first activation sets the next eligible time and nothing else. -/
def createSchedule (authorityEpoch nowMs : Int) (db : PeriodicDb) :
    PeriodicOutcome (PeriodicScheduleRow × PeriodicDb) :=
  match db.schedule with
  | some schedule => pure (schedule, db)
  | none =>
    let schedule : PeriodicScheduleRow :=
      { authorityEpoch, nextEligibleAtMs := nowMs + periodicCadenceMs
        pendingOccurrenceId := none, pendingWakeId := none
        pendingDueAtMs := none, pendingExpiresAtMs := none
        updatedAtMs := nowMs }
    pure (schedule, { db with schedule := some schedule })

/-- A missed full period collapses to the current time, and a time inside the
window keeps the eligible one. -/
def effectiveEligibleAtMs (schedule : PeriodicScheduleRow) (nowMs : Int) : Int :=
  if periodicDueWindowMs ≤ nowMs - schedule.nextEligibleAtMs then nowMs
  else schedule.nextEligibleAtMs

section Mint

variable [Host]

/-- The schedule with its occurrence pending. -/
def PeriodicScheduleRow.minted (schedule : PeriodicScheduleRow) (nowMs : Int) :
    PeriodicScheduleRow :=
  let dueAtMs := effectiveEligibleAtMs schedule nowMs
  { schedule with
    pendingOccurrenceId :=
      some (periodicScheduleOccurrenceId schedule.authorityEpoch dueAtMs)
    pendingDueAtMs := some dueAtMs
    pendingExpiresAtMs := some (dueAtMs + periodicDueWindowMs)
    updatedAtMs := nowMs }

/-- Mint the pending occurrence, or reuse the one that is pending. -/
def mintPendingOccurrence (nowMs : Int) (db : PeriodicDb) :
    PeriodicOutcome (PeriodicScheduleRow × PeriodicDb) := do
  let schedule ← orFault db.schedule .scheduleMissing
  if schedule.pendingOccurrenceId.isSome then pure (schedule, db)
  else do
    require (schedule.nextEligibleAtMs ≤ nowMs) .notDue
    let schedule := schedule.minted nowMs
    pure (schedule, { db with schedule := some schedule })

end Mint

structure FreezeBindingInput where
  (occurrenceId triggerRef conversationId occupantId : String)
  (authorityEpoch nowMs : Int)
  observations : Option (Option PeriodicFault) := none

inductive FreezeBindingResult
  | bound (wake : Wake)
  | cancelled
  | stale

/-- Admit the wake of the occurrence and bind it, together or not at all. -/
def freezeBinding [Host] (input : FreezeBindingInput) (db : PeriodicDb) :
    PeriodicOutcome (FreezeBindingResult × PeriodicDb) := do
  let (admission, sidecar) ← ofKernel (admitWakeInTransaction db.sidecar
    { occurrenceId := occurrenceIdFor .idle input.triggerRef
        input.conversationId
      triggerRef := input.triggerRef, sourceKind := .idle
      conversationId := input.conversationId
      triggerKind := some .idleOpportunity, occupantId := some input.occupantId
      authorityEpoch := input.authorityEpoch, nowMs := input.nowMs })
  match admission.kind with
  | .cancelled => pure (.cancelled, db)
  | .stale => pure (.stale, db)
  | _ => do
    let wake := admission.wake
    let schedule ← orFault (db.schedule.filter fun row =>
      row.pendingOccurrenceId = some input.occurrenceId &&
        (row.pendingWakeId = none ||
          row.pendingWakeId = some wake.wakeId)) .bindingConflict
    match input.observations with
    | none => pure ()
    | some persisted => do
      require ((sidecar.cycles.get? wake.cycleId).any
        (·.wakeId = some wake.wakeId)) .cycleMissing
      -- The observations are bound to the cycle in the same transaction.
      match persisted with
      | none => pure ()
      | some fault => .error fault
    pure (.bound wake,
      { db with
        sidecar
        schedule := some
          { schedule with
            pendingWakeId := some wake.wakeId
            updatedAtMs := input.nowMs } })

structure CloseInput where
  occurrenceId : String
  disposition : PeriodicDisposition
  wakeId : Option String
  (eventMs nowMs : Int)
  detail : ReceiptDetail

/-- The receipt that closes the pending occurrence. -/
def CloseInput.receipt (input : CloseInput) (schedule : PeriodicScheduleRow) :
    PeriodicOccurrenceReceipt :=
  { scheduleOccurrenceId := input.occurrenceId, disposition := input.disposition
    wakeId := input.wakeId, authorityEpoch := schedule.authorityEpoch
    eligibleAtMs := schedule.pendingDueAtMs.getD schedule.nextEligibleAtMs
    closedAtMs := input.nowMs, detail := input.detail }

/-- Nothing is pending, and the next time is a cadence after the event. -/
def PeriodicScheduleRow.advanced (schedule : PeriodicScheduleRow)
    (eventMs nowMs : Int) : PeriodicScheduleRow :=
  { schedule with
    pendingOccurrenceId := none, pendingWakeId := none
    pendingDueAtMs := none, pendingExpiresAtMs := none
    nextEligibleAtMs :=
      max eventMs schedule.nextEligibleAtMs + periodicCadenceMs
    updatedAtMs := nowMs }

/-- Write the receipt, clear the pending occurrence and advance; a replay
answers with the receipt that exists. -/
def clearPendingAndAdvance (input : CloseInput) (db : PeriodicDb) :
    PeriodicOutcome (PeriodicOccurrenceReceipt × PeriodicDb) :=
  match readReceipt db input.occurrenceId with
  | some existing => pure (existing, db)
  | none => do
    let schedule ← orFault db.schedule .scheduleMissing
    require (schedule.pendingOccurrenceId = some input.occurrenceId)
      .occurrenceMismatch
    let receipt := input.receipt schedule
    pure (receipt,
      { db with
        receipts := db.receipts.insertNew receipt
        schedule := some (schedule.advanced input.eventMs input.nowMs) })

def adoptAuthorityEpoch (authorityEpoch nowMs : Int) (db : PeriodicDb) :
    PeriodicOutcome (PeriodicScheduleRow × PeriodicDb) := do
  let schedule ← orFault db.schedule .scheduleMissing
  let schedule := { schedule with authorityEpoch, updatedAtMs := nowMs }
  pure (schedule, { db with schedule := some schedule })

/-- The wake already admitted under the trigger of the occurrence. -/
def findUnboundWake (db : PeriodicDb) (occurrenceId : String) (dueAtMs : Int) :
    PeriodicOutcome (Option Wake) :=
  match db.sidecar.wakes.rows.filter
      (·.triggerRef = periodicTriggerRef occurrenceId dueAtMs) with
  | [] => pure none
  | [wake] => pure (some wake)
  | _ => .error .wakeAmbiguous

/-! What is known of a bound wake. -/

def terminalDispositionForWake (wake : Wake) : PeriodicDisposition :=
  if wake.terminalReason = some .completed ∨
      wake.terminalReason = some .noAction then .admitted
  else .admittedFailure

def getPrivateReservationForWake (b : PrivateBudget) (wakeId : String) :
    PeriodicOutcome (Option PrivateBudgetReservation) :=
  match b.reservations.rows.filter (·.wakeId = wakeId) with
  | [] => pure none
  | [row] => pure (some row)
  | _ => .error .reservationAmbiguous

/-- The attempts of a reservation whose dispatch began or may have. -/
def listPrivateAttemptHistory (b : PrivateBudget) (reservationId : String) :
    List PrivateDispatchTruth :=
  ((b.reservations.get? reservationId).toList.filter fun row =>
      row.invocationId.isSome && row.attemptId.isSome &&
        row.dispatchTruth ≠ .notBound).map (·.dispatchTruth) ++
    (b.bindings.rows.filter (·.reservationId = reservationId)).map
      (·.dispatchTruth)

/-- The reservation was released with proof, and no attempt of it ever
started. -/
def hasDurableNoDispatchProof (b : PrivateBudget) (reservationId : String) :
    Bool :=
  (b.reservations.get? reservationId).any fun row =>
    row.state = .released && row.releaseProofRef.any (· ≠ "") &&
      row.dispatchTruth = .notStarted &&
      (listPrivateAttemptHistory b reservationId).all (· = .notStarted)

def liveEventExists (db : PeriodicDb) (occurrenceId : String) : Bool :=
  (db.sidecar.events.get? (periodicEventId occurrenceId)).any fun event =>
    event.state ≠ .terminal && event.state ≠ .quarantined

/-- The cycle of the wake belongs to it and to its conversation. -/
def hasOwnCycle (db : PeriodicDb) (wake : Wake) : Bool :=
  (db.sidecar.cycles.get? wake.cycleId).any fun cycle =>
    cycle.wakeId = some wake.wakeId &&
      cycle.conversationId = wake.conversationId

/-! The input of a poll. -/

/-- What the work of others keeps: the schedule and its receipts, every wake
under its trigger, and the end of a wake; it admits no periodic wake. -/
structure Others (before after : PeriodicDb) : Prop where
  schedule : after.schedule = before.schedule
  receipts : after.receipts = before.receipts
  kept : ∀ id wake, before.sidecar.wakes.get? id = some wake →
    ∃ wake', after.sidecar.wakes.get? id = some wake' ∧
      wake'.triggerRef = wake.triggerRef ∧
      (wake.state = .terminal → wake'.state = .terminal)
  admitted : ∀ id wake', after.sidecar.wakes.get? id = some wake' →
    (∃ wake, before.sidecar.wakes.get? id = some wake ∧
      wake.triggerRef = wake'.triggerRef) ∨
    ∀ occurrenceId dueAtMs,
      wake'.triggerRef ≠ periodicTriggerRef occurrenceId dueAtMs

/-- Work of others, with what it keeps. -/
structure OtherWork where
  run : PeriodicDb → PeriodicDb
  keeps : ∀ db, Others db (run db)

theorem Others.refl (db : PeriodicDb) : Others db db where
  schedule := rfl
  receipts := rfl
  kept := fun _ wake hwake => ⟨wake, hwake, rfl, id⟩
  admitted := fun _ wake hwake => .inl ⟨wake, hwake, rfl⟩

/-- Nobody else works. -/
def OtherWork.none : OtherWork := ⟨id, Others.refl⟩

inductive ProjectedClock
  | stable | clockReconciliation | migrationEpochRequired

/-- `projection` is absent when the budget cannot be read, `recovered` when no
observation binding can be; `persisted` is the fault that binding the
observations raises. -/
structure PeriodicPollInput where
  scopeConversationId : Option String := none
  occupantId : String := "private"
  authorityEpoch : Int := 1
  nowMs : Int
  enabled : Bool := true
  policyId : String
  dueTriggerFired : Bool := false
  occupancy : List MindOccupancy := []
  projection : Option (ProjectedClock × Int) := some (.stable, 1)
  recovered : Option (List String) := none
  matched : List String := []
  acquired : List String := []
  persisted : Option PeriodicFault := none
  polling : OtherWork := .none
  acquiring : OtherWork := .none

inductive PendingReason
  | boundWakeMissing | boundWakeConversationMismatch | reservationAmbiguous
  | committedRecovery | eventLive | dispatchDeferred
  | observationBindingConflict | reserveRefused
  | budgetUnreadable | clockReconciliation | budgetExhausted | activeFrontier

structure PeriodicRunnable where
  (occurrenceId wakeId conversationId reservationId triggerRef : String)
  observations : List String

inductive EpochCase
  | c3a | c3b

inductive PeriodicPollDecision
  | noScheduleDisabled
  | scheduleCreated
  | notDue
  | disabledRetained
  | epochBlocked (epochCase : EpochCase)
  | pendingRetained (occurrenceId : String) (reason : PendingReason)
  | boundRunnable (runnable : PeriodicRunnable)
  | admitRunnable (runnable : PeriodicRunnable)
  | admissionUnavailable (occurrenceId : String) (cancelled : Bool)
  | terminalObserved (receipt : PeriodicOccurrenceReceipt)
  | staleClosed (receipt : PeriodicOccurrenceReceipt)
  | skippedEmpty (receipt : PeriodicOccurrenceReceipt)
  | expired (receipt : PeriodicOccurrenceReceipt)
  | epochAbandoned (receipt : PeriodicOccurrenceReceipt)

def isGrounded (row : MindOccupancy) : Bool :=
  row.status = .active || row.status = .investigating ||
    row.status = .waitingForEvidence

def groundedOccupancy (occupancy : List MindOccupancy)
    (conversationId : String) : List MindOccupancy :=
  occupancy.filter fun row =>
    row.conversationId = conversationId && isGrounded row

/-- `SELECT DISTINCT … ORDER BY conversation_id ASC`. -/
def occupancyConversations (occupancy : List MindOccupancy) : List String :=
  ((((occupancy.filter isGrounded).map MindOccupancy.conversationId).eraseDups
    ).insertionSort (· ≤ ·)).filter (· ≠ "")

/-- The scope when it is occupied, then the occupied conversations in order,
then the scope for acquisition only. -/
def PeriodicPollInput.candidate (input : PeriodicPollInput) : Option String :=
  let scope := input.scopeConversationId.filter (· ≠ "")
  ((scope.toList ++ occupancyConversations input.occupancy).find?
    fun conversationId =>
      groundedOccupancy input.occupancy conversationId ≠ []).or scope

/-- Why new work has to wait. -/
def deferCheck (db : PeriodicDb) (input : PeriodicPollInput)
    (conversationId : String) (needsCapacity : Bool) : Option PendingReason :=
  let capacity : Option PendingReason :=
    match input.projection with
    | none => some .budgetUnreadable
    | some (.clockReconciliation, _) => some .clockReconciliation
    | some (_, remaining) =>
      if remaining ≤ 0 then some .budgetExhausted else none
  match if needsCapacity then capacity else none with
  | some reason => some reason
  | none =>
    if (getActiveDeferredFrontier db.sidecar conversationId).isSome then
      some .activeFrontier
    else none

/-! The poll. -/

section Poll

variable [Host]

/-- Reserve the Thought of a wake, in its own transaction. -/
def reserveWake (wake : Wake) (conversationId : String)
    (input : PeriodicPollInput) (db : PeriodicDb) :
    PeriodicOutcome (PrivateBudgetAdmission × PeriodicDb) := do
  let (admission, budget) ← ofBudget (reservePrivateThought db.budget db.sidecar
    { admissionId := "private-thought:" ++ wake.wakeId, wakeId := wake.wakeId
      conversationId, policyId := input.policyId
      wallClockNowMs := input.nowMs })
  pure (admission, { db with budget })

/-- The reservation that an admission holds. -/
def heldReservation : PrivateBudgetAdmission → Option PrivateBudgetReservation
  | .existing reservation _ =>
    if reservation.state = .held then some reservation else none
  | .reserved reservation _ =>
    if reservation.state = .held then some reservation else none
  | .refused _ => none

omit [Host] in
/-- The close of a bound occurrence. -/
def closeBound (occurrenceId : String) (wake : Wake)
    (disposition : PeriodicDisposition) (detail : ReceiptDetail)
    (nowMs : Int) : Poll PeriodicOccurrenceReceipt :=
  Process.commit (clearPendingAndAdvance
    { occurrenceId, disposition, wakeId := some wake.wakeId
      eventMs := nowMs, nowMs, detail })

omit [Host] in
/-- The close of an occurrence that has no wake. -/
def closeUnbound (occurrenceId : String) (disposition : PeriodicDisposition)
    (detail : ReceiptDetail) (nowMs : Int) : Poll PeriodicOccurrenceReceipt :=
  Process.commit (clearPendingAndAdvance
    { occurrenceId, disposition, wakeId := none
      eventMs := nowMs, nowMs, detail })

omit [Host] in
/-- The open wake of the occurrence never came to a dispatch, as proved. -/
def isProvenUndispatched (db : PeriodicDb) (wakeId : String) :
    PeriodicOutcome Bool := do
  let reservation ← getPrivateReservationForWake db.budget wakeId
  pure (reservation.any fun row =>
    hasDurableNoDispatchProof db.budget row.reservationId)

/-- Go on with the open wake of a bound occurrence. -/
def continueBound (input : PeriodicPollInput) (occurrenceId : String)
    (wake : Wake) (dispatchAllowed : Bool) : Poll PeriodicPollDecision := do
  let db ← Process.read
  match getPrivateReservationForWake db.budget wake.wakeId with
  | .error _ => pure (.pendingRetained occurrenceId .reservationAmbiguous)
  | .ok reservation =>
    if reservation.any (·.state = .committed) then
      pure (.pendingRetained occurrenceId .committedRecovery)
    else if liveEventExists db occurrenceId then
      pure (.pendingRetained occurrenceId .eventLive)
    else if !dispatchAllowed then
      pure (.pendingRetained occurrenceId .dispatchDeferred)
    else match input.recovered with
      | none =>
        pure (.pendingRetained occurrenceId .observationBindingConflict)
      | some observations =>
        match deferCheck db input wake.conversationId
            reservation.isNone with
        | some reason => pure (.pendingRetained occurrenceId reason)
        | none => do
          let admission ← Process.commit
            (reserveWake wake wake.conversationId input)
          match heldReservation admission with
          | none => pure (.pendingRetained occurrenceId .reserveRefused)
          | some held => pure (.boundRunnable
              { occurrenceId, wakeId := wake.wakeId
                conversationId := wake.conversationId
                reservationId := held.reservationId
                triggerRef := wake.triggerRef, observations })

def evaluateBoundOccurrence (input : PeriodicPollInput)
    (occurrenceId wakeId : String) (dispatchAllowed : Bool) :
    Poll PeriodicPollDecision := do
  let db ← Process.read
  match getWake db.sidecar wakeId with
  | none => pure (.pendingRetained occurrenceId .boundWakeMissing)
  | some wake =>
    if !hasOwnCycle db wake then
      pure (.pendingRetained occurrenceId .boundWakeConversationMismatch)
    else if wake.state = .terminal then do
      let receipt ← closeBound occurrenceId wake
        (terminalDispositionForWake wake) (.terminal wake.terminalReason)
        input.nowMs
      pure (.terminalObserved receipt)
    else if liveEventExists db occurrenceId then
      continueBound input occurrenceId wake dispatchAllowed
    else
      match isProvenUndispatched db wake.wakeId with
      | .error _ => pure (.pendingRetained occurrenceId .reservationAmbiguous)
      | .ok false => continueBound input occurrenceId wake dispatchAllowed
      | .ok true =>
        Process.orElse (fun _ => true)
          (do
            let receipt ← closeBound occurrenceId wake
              .admittedStaleSuppressed .noDispatchProof input.nowMs
            pure (.staleClosed receipt))
          (pure (.pendingRetained occurrenceId .reservationAmbiguous))

/-- Admit, bind and reserve the occurrence in its conversation. -/
def admitOccurrence (input : PeriodicPollInput) (occurrenceId : String)
    (dueAtMs : Int) (candidate : String) (observations : List String) :
    Poll PeriodicPollDecision := do
  let triggerRef := periodicTriggerRef occurrenceId dueAtMs
  -- An observation conflict rolls the admission back and is answered.
  let frozen ← Process.orElse (· = .observation)
    (do
      let frozen ← Process.commit (freezeBinding
        { occurrenceId, triggerRef, conversationId := candidate
          occupantId := input.occupantId, authorityEpoch := input.authorityEpoch
          nowMs := input.nowMs, observations := some input.persisted })
      pure (some frozen))
    (pure none)
  match frozen with
  | none => pure (.pendingRetained occurrenceId .observationBindingConflict)
  | some .cancelled => pure (.admissionUnavailable occurrenceId true)
  | some .stale => pure (.admissionUnavailable occurrenceId false)
  | some (.bound wake) => do
    let admission ← Process.commit (reserveWake wake candidate input)
    match heldReservation admission with
    | none => pure (.pendingRetained occurrenceId .reserveRefused)
    | some held => pure (.admitRunnable
        { occurrenceId, wakeId := wake.wakeId, conversationId := candidate
          reservationId := held.reservationId, triggerRef, observations })

/-- Acquire what is new, and admit the occurrence unless all is empty. -/
def acquireAndAdmit (input : PeriodicPollInput) (occurrenceId : String)
    (dueAtMs : Int) (candidate : String) : Poll PeriodicPollDecision := do
  Process.await input.acquiring.run
  let acquired := input.acquired.take periodicCuriosityMaxItems
  if groundedOccupancy input.occupancy candidate = [] ∧ input.matched = [] ∧
      acquired = [] then do
    let receipt ← closeUnbound occurrenceId .skippedEmpty .empty input.nowMs
    pure (.skippedEmpty receipt)
  else
    admitOccurrence input occurrenceId dueAtMs candidate
      (input.matched ++ acquired)

/-- A wake already admitted under the trigger of the occurrence is bound. -/
def adoptOrphan (input : PeriodicPollInput) (occurrenceId : String)
    (orphan : Wake) (dispatchAllowed : Bool) : Poll PeriodicPollDecision := do
  let frozen ← Process.commit (freezeBinding
    { occurrenceId, triggerRef := orphan.triggerRef
      conversationId := orphan.conversationId, occupantId := input.occupantId
      authorityEpoch := input.authorityEpoch, nowMs := input.nowMs })
  match frozen with
  | .cancelled => pure (.admissionUnavailable occurrenceId true)
  | .stale => pure (.admissionUnavailable occurrenceId false)
  | .bound wake =>
    evaluateBoundOccurrence input occurrenceId wake.wakeId dispatchAllowed

def evaluateUnboundOccurrence (input : PeriodicPollInput)
    (occurrenceId : String) (dueAtMs : Int) (dispatchAllowed : Bool) :
    Poll PeriodicPollDecision := do
  let db ← Process.read
  let orphan ← Process.ofExcept (findUnboundWake db occurrenceId dueAtMs)
  match orphan with
  | some orphan => adoptOrphan input occurrenceId orphan dispatchAllowed
  | none =>
    match input.candidate with
    | none => do
      let receipt ← closeUnbound occurrenceId .skippedEmpty .noCandidate
        input.nowMs
      pure (.skippedEmpty receipt)
    | some candidate =>
      if !dispatchAllowed then
        pure (.pendingRetained occurrenceId .dispatchDeferred)
      else match deferCheck db input candidate true with
        | some reason => pure (.pendingRetained occurrenceId reason)
        | none => acquireAndAdmit input occurrenceId dueAtMs candidate

/-- How the poll goes on after the authority epoch was looked at. -/
inductive EpochTransition
  | ready (schedule : PeriodicScheduleRow)
  | decided (decision : PeriodicPollDecision)

/-- Close what is pending under the old epoch, then adopt the new one. -/
def closeAndAdopt (close : Poll PeriodicOccurrenceReceipt)
    (decision : PeriodicOccurrenceReceipt → PeriodicPollDecision)
    (input : PeriodicPollInput) : Poll EpochTransition := do
  let receipt ← close
  let _ ← Process.commit (adoptAuthorityEpoch input.authorityEpoch input.nowMs)
  pure (.decided (decision receipt))

/-- A mismatched epoch never continues the old occurrence. -/
def evaluateAuthorityEpochTransition (input : PeriodicPollInput)
    (schedule : PeriodicScheduleRow) : Poll EpochTransition := do
  if schedule.authorityEpoch = input.authorityEpoch then
    pure (.ready schedule)
  else match schedule.pendingOccurrenceId, schedule.pendingWakeId with
    | none, _ => do
      let schedule ← Process.commit
        (adoptAuthorityEpoch input.authorityEpoch input.nowMs)
      pure (.ready schedule)
    | some occurrenceId, none =>
      closeAndAdopt (closeUnbound occurrenceId .authorityEpochAbandoned
        (.epoch schedule.authorityEpoch input.authorityEpoch) input.nowMs)
        .epochAbandoned input
    | some occurrenceId, some wakeId => do
      let db ← Process.read
      match getWake db.sidecar wakeId with
      | none => pure (.decided (.epochBlocked .c3b))
      | some wake =>
        if wake.state = .terminal then
          closeAndAdopt (closeBound occurrenceId wake
            (terminalDispositionForWake wake)
            (.terminal wake.terminalReason) input.nowMs)
            .terminalObserved input
        else
          match getPrivateReservationForWake db.budget wake.wakeId with
          | .error _ => pure (.decided (.epochBlocked .c3b))
          | .ok reservation =>
            if reservation.any (·.state = .committed) then
              pure (.decided (.epochBlocked .c3a))
            else if reservation.any fun row =>
                hasDurableNoDispatchProof db.budget row.reservationId then
              Process.orElse (fun _ => true)
                (closeAndAdopt (closeBound occurrenceId wake
                  .admittedStaleSuppressed .noDispatchProof input.nowMs)
                  .staleClosed input)
                (pure (.decided (.epochBlocked .c3b)))
            else pure (.decided (.epochBlocked .c3b))

/-- Expire, admit or go on with the pending occurrence. -/
def evaluatePending (input : PeriodicPollInput)
    (schedule : PeriodicScheduleRow) : Poll PeriodicPollDecision :=
  match schedule.pendingOccurrenceId with
  | none => pure .notDue
  | some occurrenceId =>
    let dueAtMs := schedule.pendingDueAtMs.getD schedule.nextEligibleAtMs
    let expiresAtMs :=
      schedule.pendingExpiresAtMs.getD (dueAtMs + periodicDueWindowMs)
    match schedule.pendingWakeId with
    | some wakeId => evaluateBoundOccurrence input occurrenceId wakeId
        (!input.dueTriggerFired)
    | none =>
      if expiresAtMs < input.nowMs then do
        let receipt ← closeUnbound occurrenceId .expired .windowExpiry
          input.nowMs
        pure (.expired receipt)
      else evaluateUnboundOccurrence input occurrenceId dueAtMs
        (!input.dueTriggerFired)

/-- Mint the occurrence that is due, and evaluate the one that is pending. -/
def evaluateDue (input : PeriodicPollInput) (schedule : PeriodicScheduleRow) :
    Poll PeriodicPollDecision := do
  if schedule.pendingOccurrenceId.isSome then evaluatePending input schedule
  else if input.nowMs < schedule.nextEligibleAtMs then pure .notDue
  else do
    let schedule ← Process.commit (mintPendingOccurrence input.nowMs)
    evaluatePending input schedule

/-- While disabled a bound occurrence only observes its own truth. -/
def evaluateDisabled (input : PeriodicPollInput)
    (schedule : PeriodicScheduleRow) : Poll PeriodicPollDecision :=
  match schedule.pendingOccurrenceId, schedule.pendingWakeId with
  | some occurrenceId, some wakeId =>
    evaluateBoundOccurrence input occurrenceId wakeId false
  | _, _ => pure .disabledRetained

/-- The poll once the watches have been polled. -/
def evaluateSchedule (input : PeriodicPollInput) : Poll PeriodicPollDecision := do
  let db ← Process.read
  match readSchedule db with
  | none =>
    if !input.enabled then pure .noScheduleDisabled
    else do
      let _ ← Process.commit (createSchedule input.authorityEpoch input.nowMs)
      pure .scheduleCreated
  | some schedule =>
    if !input.enabled then evaluateDisabled input schedule
    else do
      let transition ← evaluateAuthorityEpochTransition input schedule
      match transition with
      | .decided decision => pure decision
      | .ready schedule => evaluateDue input schedule

/-- One evaluation of the schedule. -/
def evaluatePeriodicPoll (input : PeriodicPollInput) :
    Poll PeriodicPollDecision := do
  Process.await input.polling.run
  evaluateSchedule input

end Poll

end CognitiveSidecar.Periodic
