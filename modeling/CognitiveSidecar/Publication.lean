/-
The publication of a settlement: one transaction, fenced before and after the
deltas, that records the settlement with its speech and its ledger row and moves
the cycle on.
-/
import CognitiveSidecar.MindDeltas
import CognitiveSidecar.OwnerCoverage

namespace CognitiveSidecar

open Relational

/-! The authority barrier, as read from its own database. -/

structure AuthorityVersionVector where
  (nuclear continuity cognitiveSidecar : Int)
deriving DecidableEq

inductive AuthorityBarrierState
  | stable | transitioning | reconciling
deriving DecidableEq

structure AuthorityBarrier where
  state : AuthorityBarrierState
  (epoch revision : Int)
  vector : AuthorityVersionVector

structure AuthorityBinding where
  (barrierEpoch barrierRevision : Int)
  ownerVersions : AuthorityVersionVector

/-! The settlement and the rows that its publication writes. -/

inductive SpeechMode
  | none | draft

structure PublishedSpeech where
  mode : SpeechMode
  surfaceDraft : Option String := .none
  finalLicensedText : Option String := .none

structure SettlementOperations where
  observationsConsumed : List String := []
  retrievalRefsUsed : Option (List String) := none
  sourceRefsUsed : Option (List String) := none
  effectsCompleted : List String := []

/-- A settlement as Thought authored it; `other` is the text of the keys that
publication stores unread. -/
structure PublishedSettlement where
  (settlementId cycleId : String)
  generation : Int
  wakeId : Option String := none
  (occupantId triggerRef : String)
  authorityEpoch : Int
  architectureEpoch : String
  speech : PublishedSpeech
  commitmentBindings : List String := []
  workingContextDelta : List WorkingContextDelta := []
  deskDeltas : List DeskDelta := []
  concernDeltas : List ConcernDelta := []
  occupancyDelta : List OccupancyDelta := []
  futureTriggers : List FutureTriggerDelta := []
  subscriptions : List SubscriptionDelta := []
  durableNominations : List DurableNomination := []
  operations : SettlementOperations := {}
  objectionsApplied : List String := []
  initiativeStance : Option String := none
  other : String := ""

/-- A row of `settlements`; only a legacy row lacks its wake and pass, and a
redacted payload is absent. -/
structure SettlementRow where
  (settlementId cycleId : String)
  generation : Int
  wakeId : Option String
  semanticPass : Option Int
  payload : Option PublishedSettlement

instance : Keyed SettlementRow String := ⟨SettlementRow.settlementId⟩

inductive PublicationFidelity
  | passed | rejected | skipped

/-- The ledger's account of one publication. -/
structure PublicationLedgerPayload where
  settlementId : String
  triggerKind : CycleTriggerKind
  occupantId : String
  authorityEpoch : Int
  observationIds : List String
  (retrievalRefsUsed sourceRefsUsed : Option (List String))
  (effectIds authorityCodes nominationIds : List String)
  outboxId : Option Nat
  fidelity : PublicationFidelity
  thoughtUnavailable : Bool
  architectureEpoch : String
  initiativeStance : Option String

inductive CausalLedgerPayload
  | publication (payload : PublicationLedgerPayload)
  | triggerNeedsReview (triggerId concernId : String) (atMs : Int)
  | other (text : String)

/-- A row of `causal_ledger`, to which publication appends. -/
structure CausalLedgerRow where
  cycleId : String
  generation : Int
  payload : CausalLedgerPayload

/-- A row of `settlement_aftermath`. -/
structure AftermathRow where
  (settlementId cycleId context : String)
  recorded : Bool
  createdAtMs : Int

instance : Keyed AftermathRow String := ⟨AftermathRow.settlementId⟩

/-- A parsed JSON document. -/
inductive JsonValue
  | null
  | bool (value : Bool)
  | number (text : String)
  | text (value : String)
  | array (items : List JsonValue)
  | object (fields : List (String × JsonValue))

mutual

/-- The document was redacted, or holds a redacted part. -/
def containsRedactionMarker : JsonValue → Bool
  | .text value => value = "[redacted]"
  | .array items => anyRedacted items
  | .object fields => anyFieldRedacted fields
  | _ => false

def anyRedacted : List JsonValue → Bool
  | [] => false
  | item :: rest => containsRedactionMarker item || anyRedacted rest

def anyFieldRedacted : List (String × JsonValue) → Bool
  | [] => false
  | (name, value) :: rest =>
    (match value with
      | .bool true => name = "redacted"
      | _ => false) ||
      containsRedactionMarker value || anyFieldRedacted rest

end

/-- A row of `observations`; an unreadable payload is absent. -/
structure Observation where
  observationId : String
  payload : Option JsonValue

instance : Keyed Observation String := ⟨Observation.observationId⟩

/-- A row of `cognition_claims`. -/
structure CognitionClaim where
  conversationId : String
  cycleId : Option String
  claimToken : String
  leaseExpiresAtMs : Int

instance : Keyed CognitionClaim String := ⟨CognitionClaim.conversationId⟩

/-- The tables that publication reads and writes. -/
structure PublicationDb where
  sidecar : Sidecar := {}
  mind : Mind := {}
  observations : Table Observation := Table.empty
  claims : Table CognitionClaim := Table.empty
  settlements : Table SettlementRow := Table.empty
  aftermath : Table AftermathRow := Table.empty
  causalLedger : List CausalLedgerRow := []

inductive PublicationRejectionReason
  | staleGeneration | authorityTransition | authorityVectorStale
  | sourceCurrentnessStale | wakeMissing | wakeTerminal
  | wakeReconciliationRequired | consequenceExists
  | futureTriggerSnapshotConflict
deriving DecidableEq

structure PublicationResult where
  (published replayed : Bool)
  reason : Option PublicationRejectionReason
  settlementId : Option String
  outboxId : Option Nat
deriving DecidableEq

/-- The witness of the sources that a Thought read, as its check against the
tables: it refuses a stale source, and marks the items that lost a source. -/
abbrev SourceCurrentness : Type :=
  PublicationDb → Except (Option MindFault) (Table WorkingContextRow)

/-- `authorityDb` is the barrier that the authority database holds, absent
inside when it cannot be read; `clockMs` is what the clock shows. -/
structure PublicationOptions where
  origin : OutboxOrigin := .live
  deliveryIntent : Option DeliveryIntent := none
  nowMs : Option Int := none
  clockMs : Int
  triggerKind : CycleTriggerKind := .ownerMessage
  fidelity : PublicationFidelity := .skipped
  thoughtUnavailable : Bool := false
  authorityDb : Option (Option AuthorityBarrier) := none
  expectedCurrentness : Option AuthorityBinding := none
  sourceCurrentness : Option SourceCurrentness := none
  wakeId : Option String := none
  wakeLeaseToken : Option String := none
  semanticPass : Int := 1
  allowQueuedDetachedCompletion : Bool := false
  aftermath : Option String := none
  ownerAnswerEvent : Option AnsweringEvent := none

/-- `options.nowMs ?? Date.now()`. -/
def PublicationOptions.now (options : PublicationOptions) : Int :=
  options.nowMs.getD options.clockMs

/-- How a call leaves its transaction. -/
inductive PublicationExit
  | committed (result : PublicationResult) (after : PublicationDb)
  | rolledBack (result : PublicationResult)
  | thrown (fault : MindFault)

/-- A part of the transaction, which may leave it. -/
abbrev Publishing (α : Type) := Except PublicationExit α

def rejected (reason : PublicationRejectionReason) : PublicationResult :=
  ⟨false, false, some reason, none, none⟩

/-- Roll back and answer that nothing was published. -/
def refused (reason : PublicationRejectionReason) : PublicationExit :=
  .rolledBack (rejected reason)

/-- A fault rolls back and is thrown, but for the snapshot conflict of a future
trigger, which is answered. -/
def MindFault.exit : MindFault → PublicationExit
  | .futureTriggerSnapshotConflict => refused .futureTriggerSnapshotConflict
  | fault => .thrown fault

def orThrow {α : Type} : Minded α → Publishing α
  | .ok value => .ok value
  | .error fault => .error fault.exit

/-! The fences. -/

def authorityFenceReason (options : PublicationOptions) :
    Option PublicationRejectionReason :=
  match options.authorityDb, options.expectedCurrentness with
  | none, none => none
  | some (some barrier), some expected =>
    if barrier.state ≠ .stable then some .authorityTransition
    else if barrier.epoch ≠ expected.barrierEpoch ∨
        barrier.revision ≠ expected.barrierRevision ∨
        barrier.vector ≠ expected.ownerVersions then
      some .authorityVectorStale
    else none
  | _, _ => some .authorityVectorStale

def requireAuthority (options : PublicationOptions) : Publishing Unit :=
  match authorityFenceReason options with
  | none => pure ()
  | some reason => .error (refused reason)

def getWakeForCycle (db : Sidecar) (cycleId : String) : Option Wake :=
  db.wakes.rows.find? (·.cycleId = cycleId)

/-- `MAX(generation)` over the cycles of a conversation. -/
def currentGeneration (db : Sidecar) (conversationId : String) : Option Int :=
  ((db.cycles.rows.filter (·.conversationId = conversationId)).map
    Cycle.generation).max?

/-- The newest cycle of the conversation is a queued completion of a detached
operation, and the claim on cognition still names the older cycle. -/
def activeThoughtMayFinishWhileDetachedCompletionQueued (db : PublicationDb)
    (conversationId cycleId : String) (generation nowMs : Int) : Bool :=
  conversationId ≠ "" && cycleId ≠ "" && isSafeInteger generation &&
    0 ≤ generation && isSafeInteger nowMs && 0 ≤ nowMs &&
    (db.claims.get? conversationId).any (fun claim =>
      claim.cycleId = some cycleId && nowMs < claim.leaseExpiresAtMs) &&
    (firstBy Cycle.newerThan (db.sidecar.cycles.rows.filter
      (·.conversationId = conversationId))).any fun current =>
        current.cycleId ≠ "" && isSafeInteger current.generation &&
          generation < current.generation && current.cycleId ≠ cycleId &&
          current.triggerKind = .observationOrReceipt &&
          current.wakeId.any (fun wakeId => wakeId ≠ "" &&
            db.sidecar.events.rows.any fun row => row.wakeId = some wakeId &&
              row.isPendingCompletion row.conversationId)

/-- The settlement is that of its cycle as stored. -/
def isExactCycle (db : Sidecar) (settlement : PublishedSettlement) : Bool :=
  (db.cycles.get? settlement.cycleId).any fun cycle =>
    cycle.generation = settlement.generation &&
      cycle.authorityEpoch = settlement.authorityEpoch &&
      settlement.wakeId.all fun wakeId =>
        wakeId = "" || cycle.wakeId.getD "" = wakeId

def publicationFence (db : PublicationDb) (settlement : PublishedSettlement)
    (conversationId : String) (options : PublicationOptions) : Bool :=
  isExactCycle db.sidecar settlement &&
    (currentGeneration db.sidecar conversationId = some settlement.generation ||
      options.allowQueuedDetachedCompletion &&
        activeThoughtMayFinishWhileDetachedCompletionQueued db conversationId
          settlement.cycleId settlement.generation options.now)

/-- The conversation of the cycle, or the trigger when the cycle is missing. -/
def awaitlessConversation (db : Sidecar) (settlement : PublishedSettlement) :
    String :=
  ((db.cycles.get? settlement.cycleId).map Cycle.conversationId).getD
    settlement.triggerRef

def consumedObservationsAreAvailable (db : PublicationDb)
    (observationIds : List String) : Bool :=
  observationIds.all fun observationId =>
    ((db.observations.get? observationId).bind Observation.payload).any
      (!containsRedactionMarker ·)

/-! The deltas that touch the future triggers. -/

/-- Create a trigger, or put an open one back on schedule. -/
def upsertTrigger (db : Sidecar) (draft : FutureTriggerDraft) : Sidecar :=
  { db with
    triggers := db.triggers.upsert
      { triggerId := draft.triggerId, conversationId := draft.conversationId
        concernId := draft.concernId, snapshotHash := draft.snapshotHash
        dueAtMs := draft.dueAtMs, status := .scheduled, wakeId := none }
      fun row =>
        { row with
          dueAtMs := draft.dueAtMs, snapshotHash := draft.snapshotHash
          status := .scheduled } }

def applyFutureTriggerDelta [Host] (nowMs : Int) (db : PublicationDb)
    (delta : FutureTriggerDelta) : Minded PublicationDb :=
  match delta with
  | .cancel triggerId => do
    let (_, sidecar) ← ofKernel (cancelFutureTrigger db.sidecar triggerId nowMs)
    pure { db with sidecar }
  | .create draft => do
    let concern ← orFault (getConcern db.mind draft.concernId)
      .futureTriggerConcernMissing
    require (concern.snapshotHash = draft.snapshotHash)
      .futureTriggerSnapshotConflict
    require (∀ existing ∈ getFutureTrigger db.sidecar draft.triggerId,
      isTriggerOpen existing = true) .futureTriggerTerminal
    pure { db with sidecar := upsertTrigger db.sidecar draft }

/-- `ORDER BY priority DESC, updated_generation DESC, concern_id ASC`. -/
def MindOccupancy.before (left right : MindOccupancy) : Prop :=
  right.priority < left.priority ∨
    (left.priority = right.priority ∧
      (right.updatedGeneration < left.updatedGeneration ∨
        (left.updatedGeneration = right.updatedGeneration ∧
          left.concernId ≤ right.concernId)))

instance : DecidableRel MindOccupancy.before := fun _ _ =>
  inferInstanceAs (Decidable (_ ∨ _))

def listOccupancy (mind : Mind) (conversationId : String) :
    List MindOccupancy :=
  ((mind.occupancy.rows.filter
    (·.conversationId = conversationId)).insertionSort
      MindOccupancy.before).take 1000

def isTriggerLive (row : FutureTrigger) : Bool :=
  row.status = .scheduled || row.status = .fired

/-- Ask for a review of a live trigger, and account for it in the ledger. -/
def markFutureTriggerNeedsReview (db : PublicationDb) (triggerId : String)
    (nowMs : Int) : PublicationDb :=
  match (getFutureTrigger db.sidecar triggerId).filter isTriggerLive with
  | none => db
  | some trigger =>
    { db with
      sidecar := updateTrigger db.sidecar triggerId isTriggerLive fun row =>
        { row with status := .needsReview }
      causalLedger := db.causalLedger ++
        [{ cycleId := "future-trigger:" ++ trigger.triggerId
           generation := (((listOccupancy db.mind
             trigger.conversationId).find?
               (·.concernId = trigger.concernId)).map
                 MindOccupancy.updatedGeneration).getD 0
           payload := .triggerNeedsReview trigger.triggerId trigger.concernId
             nowMs }] }

/-- The concerns that the settlement leaves open. -/
def PublishedSettlement.changedConcernIds (settlement : PublishedSettlement) :
    List String :=
  (settlement.concernDeltas.filterMap fun
    | .upsert record =>
      if record.status ≠ some .resolved then some record.concernId else none
    | .resolve _ => none).eraseDups

def PublishedSettlement.reaffirmedTriggerIds
    (settlement : PublishedSettlement) : List String :=
  settlement.futureTriggers.filterMap fun
    | .create trigger => some trigger.triggerId
    | .cancel _ => none

/-- Live triggers that watch an older snapshot of a changed concern. -/
def unreaffirmedTriggers (db : PublicationDb)
    (settlement : PublishedSettlement) (concernId : String) : List String :=
  match (getConcern db.mind concernId).filter fun concern =>
      concern.quarantineKind = none && concern.status ≠ some .resolved with
  | none => []
  | some concern =>
    (db.sidecar.triggers.rows.filter fun row =>
      row.conversationId = concern.conversationId &&
        row.concernId = concernId && isTriggerLive row &&
        row.triggerId ∉ settlement.reaffirmedTriggerIds &&
        row.snapshotHash ≠ concern.snapshotHash).map FutureTrigger.triggerId

def markUnreaffirmedFutureTriggers (db : PublicationDb)
    (settlement : PublishedSettlement) (nowMs : Int) : PublicationDb :=
  settlement.changedConcernIds.foldl
    (fun db concernId =>
      (unreaffirmedTriggers db settlement concernId).foldl
        (fun db triggerId => markFutureTriggerNeedsReview db triggerId nowMs) db)
    db

/-! The transaction. -/

def existingSettlementForCycleGeneration (db : PublicationDb)
    (cycleId : String) (generation : Int) : Option SettlementRow :=
  db.settlements.rows.find? fun row =>
    row.cycleId = cycleId && row.generation = generation

def getSpeechOutboxBySettlement (db : Sidecar) (settlementId : String) :
    Option OutboxRow :=
  db.outbox.rows.find? (·.settlementId = settlementId)

def getSpeechOutboxBySettlementUnsafe (db : Sidecar) (settlementId : String) :
    Option Nat :=
  (getSpeechOutboxBySettlement db settlementId).map OutboxRow.outboxId

/-- The wake that the call names, ready for a consequence. -/
def publishableWake (db : Sidecar) (settlement : PublishedSettlement)
    (options : PublicationOptions) : Publishing Wake := do
  let wake ← orFault (getWakeForCycle db settlement.cycleId)
    (refused .wakeMissing)
  let wakeId := (options.wakeId.or settlement.wakeId).getD wake.wakeId
  require (wakeId ≠ "" ∧ wake.wakeId = wakeId) (refused .wakeMissing)
  require (wake.state ≠ .terminal) (refused .wakeTerminal)
  require (wake.state ≠ .reconciling) (refused .wakeReconciliationRequired)
  pure wake

/-- The pass that would answer Owner events still holds them. -/
def requireOwnerAnswerHold (db : Sidecar) (options : PublicationOptions) :
    Publishing Unit :=
  match options.ownerAnswerEvent with
  | none => pure ()
  | some event => do
    let loss ← orThrow (ofKernel (assessOwnerAnswerHold db event))
    require (loss = none) (refused .staleGeneration)

/-- A held wake begins its consequence, whose chain the delivery then names. -/
def openConsequence [Host] (db : PublicationDb) (wakeId : String)
    (options : PublicationOptions) :
    Publishing (Option DeliveryIntent × PublicationDb) := do
  require (1 ≤ options.semanticPass) (refused .consequenceExists)
  let current ← orFault (getWake db.sidecar wakeId) (refused .wakeTerminal)
  require (current.state ≠ .terminal) (refused .wakeTerminal)
  match options.wakeLeaseToken.filter (· ≠ "") with
  | some leaseToken =>
    if current.state = .authorized ∨ current.state = .consequencePending then do
      let (chainId, sidecar) ← orThrow (ofKernel
        (beginConsequenceInTransaction db.sidecar wakeId leaseToken
          options.semanticPass options.now))
      pure (options.deliveryIntent.map fun intent =>
        { intent with
          socialLifecycle := intent.socialLifecycle.map fun lifecycle =>
            { lifecycle with consequenceChainId := chainId } },
        { db with sidecar })
    else pure (options.deliveryIntent, db)
  | none => do
    require (current.state ≠ .consequencePending) (refused .consequenceExists)
    pure (options.deliveryIntent, db)

/-- The sources that the Thought read are those of now. -/
def requireCurrentSources (db : PublicationDb) (options : PublicationOptions) :
    Publishing PublicationDb :=
  match options.sourceCurrentness with
  | none => pure db
  | some currentness =>
    match currentness db with
    | .ok workingContext =>
      pure { db with mind := { db.mind with workingContext } }
    | .error none => .error (refused .sourceCurrentnessStale)
    | .error (some fault) => .error fault.exit

/-- The sources that the settlement rests on can still be read. -/
def requireSources (db : PublicationDb) (settlement : PublishedSettlement)
    (options : PublicationOptions) : Publishing PublicationDb := do
  let db ← requireCurrentSources db options
  require (consumedObservationsAreAvailable db
    settlement.operations.observationsConsumed)
    (refused .sourceCurrentnessStale)
  match assertPairedConcernOccupancyCoherence db.mind settlement.concernDeltas
      settlement.occupancyDelta with
  | .ok _ => pure db
  | .error _ => .error (refused .sourceCurrentnessStale)

/-- The deltas on the tables of the mind, in their order. -/
def applyMindDeltas (reads : MindReads) (mind : Mind)
    (settlement : PublishedSettlement) (context : DeltaContext)
    (clockMs : Int) : Minded Mind := do
  let mind ← eachOf (applyWorkingContextDelta reads context) mind
    settlement.workingContextDelta
  let mind ← eachOf (applyOneDeskDelta reads { context with nowMs := clockMs })
    mind settlement.deskDeltas
  let mind ← eachOf (applyConcernDelta reads context) mind
    settlement.concernDeltas
  let mind := settlement.occupancyDelta.foldl (applyOccupancyDelta context) mind
  let mind := reconcileConcernOccupancyCoherence context mind
    settlement.concernDeltas settlement.occupancyDelta
  let _ ← assertSubscriptionCapacity reads mind settlement.subscriptions
  pure mind

/-- Every semantic delta of the settlement. -/
def applySemanticDeltas [Host] (reads : MindReads) (db : PublicationDb)
    (settlement : PublishedSettlement) (conversationId : String)
    (options : PublicationOptions) : Minded PublicationDb := do
  let context : DeltaContext :=
    { cycleId := settlement.cycleId, generation := settlement.generation
      conversationId, nowMs := options.now }
  let mind ← applyMindDeltas reads db.mind settlement context options.clockMs
  let db ← eachOf (applyFutureTriggerDelta options.now) { db with mind }
    settlement.futureTriggers
  let db := markUnreaffirmedFutureTriggers db settlement options.now
  let mind ← eachOf (applySubscriptionDelta reads) db.mind
    settlement.subscriptions
  let mind ← eachOf enqueueDurableNomination mind settlement.durableNominations
  pure { db with mind }

def defaultIntent (intent : Option DeliveryIntent) (conversationId : String)
    (commitmentBindings : List String) : DeliveryIntent :=
  let intent := intent.getD
    { ownerId := "unknown", channel := "discord", threadId := conversationId
      conversationId, trigger := .ownerMessageReactive
      deliveryLane := .reactive, purpose := .licensedSpeech }
  if commitmentBindings ≠ [] then { intent with commitmentBindings } else intent

/-- The identifier that the next speech row gets. -/
def nextOutboxId (db : Sidecar) : Nat :=
  (db.outbox.rows.map OutboxRow.outboxId).max?.getD 0 + 1

/-- The fresh speech row of a settlement. -/
def pendingOutboxRow (outboxId : Nat) (settlement : PublishedSettlement)
    (conversationId : String) (intent : Option DeliveryIntent)
    (origin : OutboxOrigin) : OutboxRow :=
  { outboxId, settlementId := settlement.settlementId
    projectionKey := "speech:" ++ toString outboxId
    conversationId, cycleId := settlement.cycleId
    generation := settlement.generation
    licensedText := (settlement.speech.finalLicensedText.or
      settlement.speech.surfaceDraft).getD ""
    sendStatus := if origin = .shadow then .suppressedShadow else .pending
    nuclearReservationId := none, discordMessageIds := []
    suppressed := origin = .shadow, origin
    deliveryIntent := defaultIntent intent conversationId
      settlement.commitmentBindings
    finalizationReason := none }

/-- A settlement has one speech row; the projection key is provisional, under a
fresh identifier, until the row has its number. -/
def insertOutboxPending (db : Sidecar) (settlement : PublishedSettlement)
    (conversationId : String) (intent : Option DeliveryIntent)
    (origin : OutboxOrigin) : Outcome (OutboxRow × Sidecar) :=
  match getSpeechOutboxBySettlement db settlement.settlementId with
  | some existing => pure (existing, db)
  | none => do
    let row := pendingOutboxRow (nextOutboxId db) settlement conversationId
      intent origin
    require (∀ old ∈ db.outbox.rows, old.projectionKey ≠ row.projectionKey)
      .uniqueConstraint
    let outbox ← orFault (db.outbox.insert? row) .uniqueConstraint
    pure (row, { db.drew with outbox })

/-- The settlement row; a cycle generation settles once, and so does a pass of
a wake. -/
def insertSettlement (db : PublicationDb) (row : SettlementRow) :
    Outcome PublicationDb := do
  require (∀ old ∈ db.settlements.rows,
    (old.cycleId ≠ row.cycleId ∨ old.generation ≠ row.generation) ∧
      (old.wakeId ≠ row.wakeId ∨ old.semanticPass ≠ row.semanticPass))
    .uniqueConstraint
  let settlements ← orFault (db.settlements.insert? row) .uniqueConstraint
  pure { db with settlements }

def recordAftermathPending (db : PublicationDb)
    (settlement : PublishedSettlement) (options : PublicationOptions) :
    PublicationDb :=
  match options.aftermath with
  | none => db
  | some context =>
    { db with
      aftermath := db.aftermath.insertNew
        { settlementId := settlement.settlementId
          cycleId := settlement.cycleId, context, recorded := false
          createdAtMs := options.now } }

def publicationLedgerRow (settlement : PublishedSettlement)
    (options : PublicationOptions) (outboxId : Option Nat) : CausalLedgerRow :=
  { cycleId := settlement.cycleId, generation := settlement.generation
    payload := .publication
      { settlementId := settlement.settlementId
        triggerKind := options.triggerKind, occupantId := settlement.occupantId
        authorityEpoch := settlement.authorityEpoch
        observationIds := settlement.operations.observationsConsumed
        retrievalRefsUsed := settlement.operations.retrievalRefsUsed
        sourceRefsUsed := settlement.operations.sourceRefsUsed
        effectIds := settlement.operations.effectsCompleted
        authorityCodes := settlement.objectionsApplied
        nominationIds := settlement.durableNominations.map
          DurableNomination.nominationId
        outboxId, fidelity := options.fidelity
        thoughtUnavailable := options.thoughtUnavailable
        architectureEpoch := settlement.architectureEpoch
        initiativeStance := settlement.initiativeStance } }

/-- The cycle goes silent, or waits for its speech to be sent. -/
def settleCycle (db : Sidecar) (settlement : PublishedSettlement)
    (outboxId : Option Nat) (nowMs : Int) : Sidecar :=
  { db with
    cycles := db.cycles.update
      (fun row => row.cycleId = settlement.cycleId &&
        row.generation = settlement.generation)
      fun row =>
        { row with
          state := if outboxId = none then .silent else .sending
          updatedAtMs := nowMs } }

/-- The speech row of a settlement that drafts one. -/
def recordSpeech (db : Sidecar) (settlement : PublishedSettlement)
    (conversationId : String) (intent : Option DeliveryIntent)
    (origin : OutboxOrigin) : Outcome (Option Nat × Sidecar) :=
  match settlement.speech.mode with
  | .none => pure (none, db)
  | .draft => do
    let (row, db) ← insertOutboxPending db settlement conversationId intent
      origin
    pure (some row.outboxId, db)

/-- The row of a settlement that its wake publishes. -/
def settlementRow (settlement : PublishedSettlement) (wakeId : String)
    (semanticPass : Int) : SettlementRow :=
  { settlementId := settlement.settlementId, cycleId := settlement.cycleId
    generation := settlement.generation, wakeId := some wakeId
    semanticPass := some semanticPass
    payload := some { settlement with wakeId := some wakeId } }

/-- The rows of an accepted settlement. -/
def recordPublication (db : PublicationDb) (settlement : PublishedSettlement)
    (wakeId conversationId : String) (intent : Option DeliveryIntent)
    (options : PublicationOptions) :
    Outcome (PublicationResult × PublicationDb) := do
  let db ← insertSettlement db
    (settlementRow settlement wakeId options.semanticPass)
  let db := recordAftermathPending db settlement options
  let (outboxId, sidecar) ← recordSpeech db.sidecar settlement conversationId
    intent options.origin
  pure (⟨true, false, none, some settlement.settlementId, outboxId⟩,
    { db with
      sidecar := settleCycle sidecar settlement outboxId options.now
      causalLedger := db.causalLedger ++
        [publicationLedgerRow settlement options outboxId] })

/-- What is left to do when the generation has no settlement yet. -/
def publishFirst [Host] (reads : MindReads) (db : PublicationDb)
    (settlement : PublishedSettlement) (wakeId : String)
    (options : PublicationOptions) :
    Publishing (PublicationResult × PublicationDb) := do
  requireOwnerAnswerHold db.sidecar options
  let (intent, db) ← openConsequence db wakeId options
  let conversationId := awaitlessConversation db.sidecar settlement
  -- The refusal of the first fence keeps what the transaction has written.
  require (publicationFence db settlement conversationId options)
    (.committed (rejected .staleGeneration) db)
  let db ← requireSources db settlement options
  let db ← orThrow (applySemanticDeltas reads db settlement conversationId options)
  requireAuthority options
  require (publicationFence db settlement conversationId options)
    (refused .staleGeneration)
  orThrow (ofKernel
    (recordPublication db settlement wakeId conversationId intent options))

def publishing [Host] (reads : MindReads) (db : PublicationDb)
    (settlement : PublishedSettlement) (options : PublicationOptions) :
    Publishing (PublicationResult × PublicationDb) := do
  let wake ← publishableWake db.sidecar settlement options
  requireAuthority options
  match existingSettlementForCycleGeneration db settlement.cycleId
      settlement.generation with
  | some existing =>
    pure (⟨true, true, none, some existing.settlementId,
      getSpeechOutboxBySettlementUnsafe db.sidecar existing.settlementId⟩, db)
  | none => publishFirst reads db settlement wake.wakeId options

def publishSemanticTransaction [Host] (reads : MindReads) (db : PublicationDb)
    (settlement : PublishedSettlement) (options : PublicationOptions) :
    PublicationExit :=
  match publishing reads db settlement options with
  | .ok (result, after) => .committed result after
  | .error exit => exit

end CognitiveSidecar
