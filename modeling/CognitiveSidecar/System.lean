/-
The sidecar as a state machine: one input for each operation that writes the
tables, executed as a transaction, and the invariant of every state that any
order of inputs can reach.
-/
import CognitiveSidecar.IngressMoves
import CognitiveSidecar.Lib.Run
import CognitiveSidecar.ReconcileMoves
import CognitiveSidecar.SettlementMoves
import CognitiveSidecar.TriggerMoves

namespace CognitiveSidecar

open Relational

variable [Host]
variable {db : Sidecar}

/-- The tables that subsystems outside the kernel write. -/
structure ForeignTables where
  effects : Table InFlightEffect
  receipts : Table EffectReceipt
  reservations : Table PrivateReservation
  bindings : Table PrivateAttemptBinding
  outbox : Table OutboxRow
  undertakings : Table OwnerUndertaking

/-- Another subsystem writes its tables and draws identifiers. -/
def Sidecar.withForeign (db : Sidecar) (tables : ForeignTables)
    (drawn : Nat) : Sidecar :=
  { db with
    effects := tables.effects, receipts := tables.receipts
    reservations := tables.reservations, bindings := tables.bindings
    outbox := tables.outbox, undertakings := tables.undertakings
    uuidsDrawn := db.uuidsDrawn + drawn }

/-- An operation on the sidecar with its arguments. -/
inductive Op
  | appendInboxEvent (input : AppendInboxEventInput) (id : Option String)
  | admitWake (input : WakeAdmissionInput)
  | ingress (input : CognitiveIngressInput)
  | appendEvidence (role : EvidenceRole) (input : AppendEvidenceInput)
  | composeOrPreempt (input : ComposeOrPreemptInput)
  | preemptExternal (cycleId : String) (nowMs : Int)
  | updateCycleState (cycleId : String) (state : CycleState) (nowMs : Int)
  | appendCycleLogIds (cycleId : String) (logIds : List String) (nowMs : Int)
  | scheduleTrigger (input : ScheduleFutureTriggerInput)
  | matureTrigger (triggerId : String) (nowMs : Int)
      (stale : Option TriggerStaleVerdict)
      (capturedTriggerGeneration : Option Int)
      (capturedAuthorityRevision : Int)
  | cancelTrigger (triggerId : String) (nowMs : Int)
  | claimWake (wakeId workerId : String) (nowMs leaseMs : Int)
  | renewWakeLease (input : RenewWakeLeaseInput)
  | authorizeWake (wakeId leaseToken : String) (nowMs : Int)
  | beginConsequence (wakeId leaseToken : String) (semanticPass nowMs : Int)
  | finishWake (wakeId : String) (leaseToken : Option String)
      (reason : WakeTerminalReason) (nowMs : Int)
  | recordCancellation (wakeId : String) (cancellationId : Option String)
      (nowMs : Int)
  | reconcileWake (wakeId : String) (nowMs : Int)
  | cancelWake (wakeId : String) (cancellationId : Option String) (nowMs : Int)
  | recoverWakes (nowMs : Int)
  | startAttempt (input : StartDurableAttemptInput)
  | claimNext (input : ClaimDurableWorkInput)
  | recoverDurable (nowMs : Int)
  | renewDurable (input : RenewDurableWorkClaimInput)
  | settle (input : SettleDurableAttemptInput)
  | reconcileUnknown (input : ReconcileOutcomeUnknownInput)
  | createRepair (input : CreateRepairEventInput)
  | insertFrontier (input : CreateDeferredFrontierInput)
  | claimFrontier (frontierId claimToken : String) (leaseMs nowMs : Int)
  | resolveFrontier (frontierId : String) (nowMs : Int)
  | exhaustFrontier (frontierId : String) (nowMs : Int)
      (terminalReason : Option String)
  | rescheduleFrontier (frontierId : String) (nextEligibleAtMs nowMs : Int)
  | outside (tables : ForeignTables) (drawn : Nat)

/-- The transaction of an operation: its final state, or the fault that rolls
it back. -/
def perform (op : Op) (db : Sidecar) : Outcome Sidecar :=
  match op with
  | .appendInboxEvent input id => Prod.snd <$> appendInboxEvent db input id
  | .admitWake input => Prod.snd <$> admitWakeInTransaction db input
  | .ingress input => Prod.snd <$> admitCognitiveIngress db input
  | .appendEvidence role input =>
    Prod.snd <$> appendEvidenceInTransaction db role input
  | .composeOrPreempt input =>
    Prod.snd <$> composeOrPreemptInTransaction db input
  | .preemptExternal cycleId nowMs =>
    preemptExternalAttemptInTransaction db nowMs cycleId
  | .updateCycleState cycleId state nowMs =>
    updateCycleState db cycleId state nowMs
  | .appendCycleLogIds cycleId logIds nowMs =>
    Prod.snd <$> appendCycleLogIds db cycleId logIds nowMs
  | .scheduleTrigger input => Prod.snd <$> scheduleFutureTrigger db input
  | .matureTrigger triggerId nowMs stale generation revision =>
    Prod.snd <$> matureFutureTriggerToWake db triggerId nowMs stale generation
      revision
  | .cancelTrigger triggerId nowMs =>
    Prod.snd <$> cancelFutureTrigger db triggerId nowMs
  | .claimWake wakeId workerId nowMs leaseMs =>
    Prod.snd <$> claimWake db wakeId workerId nowMs leaseMs
  | .renewWakeLease input => .ok (renewWakeLeaseInTransaction db input).2
  | .authorizeWake wakeId leaseToken nowMs =>
    Prod.snd <$> authorizeWakeInTransaction db wakeId leaseToken nowMs
  | .beginConsequence wakeId leaseToken semanticPass nowMs =>
    Prod.snd <$>
      beginConsequenceInTransaction db wakeId leaseToken semanticPass nowMs
  | .finishWake wakeId leaseToken reason nowMs =>
    finishWakeInTransaction db wakeId leaseToken reason nowMs
  | .recordCancellation wakeId cancellationId nowMs =>
    Prod.snd <$>
      recordWakeCancellationInTransaction db wakeId cancellationId nowMs
  | .reconcileWake wakeId nowMs => reconcileWakeInTransaction db wakeId nowMs
  | .cancelWake wakeId cancellationId nowMs =>
    cancelWake db wakeId cancellationId nowMs
  | .recoverWakes nowMs => .ok (recoverWakes db nowMs).2
  | .startAttempt input => Prod.snd <$> startDurableAttempt db input
  | .claimNext input => Prod.snd <$> claimNextDurableWork db input
  | .recoverDurable nowMs => Prod.snd <$> recoverDurableWork db nowMs
  | .renewDurable input => .ok (renewDurableWorkClaimInTransaction db input).2
  | .settle input => Prod.snd <$> settleDurableAttempt db input
  | .reconcileUnknown input => Prod.snd <$> reconcileOutcomeUnknown db input
  | .createRepair input => Prod.snd <$> createRepairEvent db input
  | .insertFrontier input => Prod.snd <$> insertDeferredFrontierRecord db input
  | .claimFrontier frontierId claimToken leaseMs nowMs =>
    .ok (claimDueDeferredFrontier db frontierId claimToken leaseMs nowMs).2
  | .resolveFrontier frontierId nowMs =>
    .ok (resolveDeferredFrontier db frontierId nowMs)
  | .exhaustFrontier frontierId nowMs terminalReason =>
    .ok (exhaustDeferredFrontier db frontierId nowMs terminalReason)
  | .rescheduleFrontier frontierId nextEligibleAtMs nowMs =>
    Prod.snd <$>
      rescheduleDeferredFrontier db frontierId nextEligibleAtMs nowMs
  | .outside tables drawn => .ok (db.withForeign tables drawn)

/-- A faulting operation rolls back. -/
def step (op : Op) (db : Sidecar) : Sidecar := commit db (perform op db)

/-- The condition on the state before an operation under which it leaves no
claimable event on a wake that it closes. -/
def Op.Tidy (op : Op) (db : Sidecar) : Prop :=
  match op with
  | .ingress input => IngressTidy db input
  | .composeOrPreempt input =>
    ∀ current wakeId wake,
      getCurrentCycle db input.conversationId = some current →
      current.wakeId = some wakeId → db.wakes.get? wakeId = some wake →
      wake.isCancellable = true →
      preemptsByFinishing db input current wakeId = true →
      NoEventOn db InboxEvent.isClaimableContinuation wakeId
  | .matureTrigger triggerId _ stale _ _ =>
    ∀ trigger wake, getFutureTrigger db triggerId = some trigger →
      isTriggerOpen trigger = true → stale = some .other →
      wakeOfOccurrence db trigger.occurrenceId = some wake →
      ¬ wake.isFenced →
      NoEventOn db InboxEvent.isClaimableContinuation wake.wakeId
  | .cancelTrigger triggerId _ =>
    ∀ wakeId, cancellationFinishes db triggerId wakeId →
      NoEventOn db InboxEvent.isClaimableContinuation wakeId
  | .finishWake wakeId _ _ _ =>
    ∀ wake, db.wakes.get? wakeId = some wake → ¬ wake.isFenced →
      NoEventOn db InboxEvent.isClaimableContinuation wakeId
  | .cancelWake wakeId _ _ =>
    ∀ wake, db.wakes.get? wakeId = some wake → wake.isCancellable = true →
      NoEventOn db InboxEvent.isClaimableContinuation wakeId
  | .startAttempt input => ExpiriesTidy db input.nowMs (some input.eventId)
  | .claimNext input => ExpiriesTidy db input.nowMs none
  | .recoverDurable nowMs => ExpiriesTidy db nowMs none
  | .settle input => SettlementTidy db input
  | .reconcileUnknown input => ReconciliationTidy db input
  | .createRepair input => RepairTidy db input
  | _ => True

/-- Operations that close no wake under a busy event: those of the durable-work
ledger, of admission and of the other tables. -/
def Op.isOrderly (op : Op) : Bool :=
  match op with
  | .ingress _ | .composeOrPreempt _ | .matureTrigger .. | .cancelTrigger ..
  | .finishWake .. | .cancelWake .. => false
  | _ => true

/-- The event that a reconciliation may return to pending, on its evidence. -/
def Op.Resumes (op : Op) (db : Sidecar) (eventId : String) : Prop :=
  match op with
  | .reconcileUnknown input => eventId = input.eventId ∧
      ∃ wakeId current, Unresolved db eventId wakeId current ∧
        SafeToRetry db input wakeId
  | _ => False

/-- The operation stands for another subsystem. -/
def Op.isOutside (op : Op) : Bool :=
  match op with
  | .outside .. => true
  | _ => false

def Op.permit (op : Op) (db : Sidecar) : Permit where
  tidy := op.Tidy db
  orderly := op.isOrderly = true
  resumes := op.Resumes db
  admits := fun _ => True
  outside := op.isOutside = true

section Perform

variable {op : Op} {db after : Sidecar}

/-- Every operation is a trace of permitted moves. -/
theorem perform_trace (hsound : Sound db) (hok : perform op db = .ok after) :
    Trace (op.permit db) db after := by
  have hlinked := hsound.linked
  cases op with
  | appendInboxEvent =>
    obtain ⟨_, hok⟩ := snd_ok.mp hok
    exact appendInboxEvent_trace hlinked (fun _ => trivial) hok
  | admitWake =>
    obtain ⟨_, hok⟩ := snd_ok.mp hok
    exact admitWakeInTransaction_trace hlinked (fun _ _ _ => trivial) hok
  | ingress =>
    obtain ⟨_, hok⟩ := snd_ok.mp hok
    exact admitCognitiveIngress_trace hlinked (fun _ => trivial)
      Bool.false_ne_true id hok
  | appendEvidence =>
    obtain ⟨_, hok⟩ := snd_ok.mp hok
    rcases appendEvidenceInTransaction_cases hok with ⟨rfl, _⟩ | hrecorded
    · exact .refl _
    · exact hrecorded.moved.trace
  | composeOrPreempt =>
    obtain ⟨_, hok⟩ := snd_ok.mp hok
    refine composeOrPreemptInTransaction_trace hlinked (fun _ _ _ => trivial)
      hok ?_
    intro current wakeId wake hcurrent howner hwake hcancellable hfinishes
    exact ⟨fun htidy => htidy current wakeId wake hcurrent howner hwake
      hcancellable hfinishes, fun horderly => by cases horderly⟩
  | preemptExternal =>
    exact (preemptExternalAttemptInTransaction_cases hok).1
  | updateCycleState => exact updateCycleState_trace hok
  | appendCycleLogIds =>
    obtain ⟨_, hok⟩ := snd_ok.mp hok
    exact (appendCycleLogIds_cases hok).1
  | scheduleTrigger =>
    obtain ⟨_, hok⟩ := snd_ok.mp hok
    exact scheduleFutureTrigger_trace hok
  | matureTrigger =>
    obtain ⟨_, hok⟩ := snd_ok.mp hok
    refine matureFutureTriggerToWake_trace hlinked (fun _ => trivial) hok ?_
    intro trigger wake htrigger hopen hstale hfound hfenced
    exact ⟨fun htidy => htidy trigger wake htrigger hopen hstale hfound
      hfenced, fun horderly => by cases horderly⟩
  | cancelTrigger =>
    obtain ⟨_, hok⟩ := snd_ok.mp hok
    refine cancelFutureTrigger_trace hok ?_
    intro wakeId hfinishes
    exact ⟨fun htidy => htidy wakeId hfinishes,
      fun horderly => by cases horderly⟩
  | claimWake =>
    obtain ⟨_, hok⟩ := snd_ok.mp hok
    exact claimWake_trace hok
  | renewWakeLease input =>
    cases hok
    exact renewWakeLeaseInTransaction_trace input
  | authorizeWake =>
    obtain ⟨_, hok⟩ := snd_ok.mp hok
    exact (authorizeWakeInTransaction_cases hok).1
  | beginConsequence =>
    obtain ⟨_, hok⟩ := snd_ok.mp hok
    exact beginConsequenceInTransaction_trace hok
  | finishWake =>
    refine finishWakeInTransaction_trace hok ?_
    intro wake hwake hfenced
    exact ⟨fun htidy => htidy wake hwake hfenced,
      fun horderly => by cases horderly⟩
  | recordCancellation =>
    obtain ⟨_, hok⟩ := snd_ok.mp hok
    exact (recordWakeCancellationInTransaction_cases hok).1
  | reconcileWake => exact reconcileWakeInTransaction_trace hok
  | cancelWake =>
    refine cancelWake_trace hok ?_
    intro wake hwake hcancellable
    exact ⟨fun htidy => htidy wake hwake hcancellable,
      fun horderly => by cases horderly⟩
  | recoverWakes =>
    cases hok
    exact recoverWakes_trace hlinked
  | startAttempt =>
    obtain ⟨_, hok⟩ := snd_ok.mp hok
    exact startDurableAttempt_trace hsound hok id
  | claimNext =>
    obtain ⟨_, hok⟩ := snd_ok.mp hok
    exact claimNextDurableWork_trace hsound hok id
  | recoverDurable =>
    obtain ⟨_, hok⟩ := snd_ok.mp hok
    exact recoverExpiredDurableWorkInTransaction_trace hsound hok id
  | renewDurable input =>
    cases hok
    exact renewDurableWorkClaimInTransaction_trace input
  | settle =>
    obtain ⟨_, hok⟩ := snd_ok.mp hok
    exact settleDurableAttempt_trace hlinked hsound.fenced id hok
  | reconcileUnknown =>
    obtain ⟨_, hok⟩ := snd_ok.mp hok
    refine reconcileOutcomeUnknown_trace hsound.fenced id ?_ hok
    intro wakeId current hunresolved hsafe
    exact ⟨rfl, wakeId, current, hunresolved, hsafe⟩
  | createRepair =>
    obtain ⟨_, hok⟩ := snd_ok.mp hok
    exact createRepairEvent_trace hlinked (fun _ => trivial) id hok
  | insertFrontier =>
    obtain ⟨_, hok⟩ := snd_ok.mp hok
    exact insertDeferredFrontierRecord_trace hok
  | claimFrontier =>
    cases hok
    unfold claimDueDeferredFrontier
    split
    · exact updateFrontier_moved.trace
    · exact .refl _
  | resolveFrontier | exhaustFrontier =>
    cases hok
    exact updateFrontier_moved.trace
  | rescheduleFrontier =>
    obtain ⟨_, hok⟩ := snd_ok.mp hok
    exact rescheduleDeferredFrontier_trace hok
  | outside =>
    cases hok
    exact Moved.trace
      (.aside (Nat.le_add_right _ _) rfl rfl rfl rfl (.inl rfl))

/-- A step commits a trace of permitted moves, or changes nothing. -/
theorem step_trace (hsound : Sound db) : Trace (op.permit db) db (step op db) :=
  commit_preserves (.refl db) fun _ hok => perform_trace hsound hok

theorem step_sound (hsound : Sound db) : Sound (step op db) :=
  hsound.trace (step_trace hsound)

end Perform

/-- A state that some run of operations from the empty tables ends in. -/
abbrev Reached (db : Sidecar) : Prop := Reachable step {} db

theorem sound_empty : Sound {} := by
  refine ⟨⟨?_, ?_, ?_, ?_⟩, ⟨?_, ?_⟩, ⟨?_, ?_, ?_, ?_, ?_, ?_, ?_, ?_⟩, ⟨?_, ?_⟩⟩ <;>
    simp

/-- Every reachable state is sound. -/
theorem Reached.sound (hreached : Reached db) : Sound db :=
  hreached.invariant sound_empty fun _ _ => step_sound

theorem run_sound (hsound : Sound db) (ops : List Op) :
    Sound (run step db ops) :=
  run_preserves (P := Sound) (fun _ _ => step_sound) hsound ops

end CognitiveSidecar
