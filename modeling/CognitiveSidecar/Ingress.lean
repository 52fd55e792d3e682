/-
Owner ingress: one transaction records the evidence of a message, finds or
creates the cycle that will answer it, and appends its inbox event.
-/
import CognitiveSidecar.EvidenceLog
import CognitiveSidecar.Fence

namespace CognitiveSidecar

open Relational

variable [Host]

/-- The conversation is resolved from the user's active thread, or from the
room that an authorized room context names. -/
structure CognitiveIngressInput where
  (userId conversationId message : String)
  channel : String := "discord"
  discordMessageIds : List String := []
  sourceSentAtMs : Option Int := none
  nowMs : Int
  occupantId : Option String := none
  authorityEpoch : Int := 1

structure CognitiveIngressResult where
  (evidenceRowId inboxEventId conversationId cycleId : String)
  generation : Int
  action : FenceAction
  duplicate : Bool
  admittedAtMs : Int

/-- The inbox events that carry an evidence row, oldest first. -/
def eventsOfEvidence (db : Sidecar) (conversationId evidenceRowId : String) :
    List InboxEvent :=
  ((db.events.rows.filter fun row =>
      row.conversationId = conversationId &&
        row.payload.evidenceRowId = some evidenceRowId).insertionSort
    fun left right => left.createdAtMs ≤ right.createdAtMs).filter
      (·.wakeId.any (· ≠ ""))

/-- Find the inbox event and the cycle that a known message already has. -/
def resolveExistingWorkDisposition (db : Sidecar)
    (conversationId evidenceRowId : String) : Outcome (InboxEvent × Cycle) := do
  let matchedEvents := eventsOfEvidence db conversationId evidenceRowId
  let inbox ← orFault matchedEvents.head? .corruptDuplicateMissingInbox
  let cycleIds :=
    (matchedEvents.filterMap (·.payload.cycleId)).filter (· ≠ "")
  let targetCycleId ← orFault cycleIds.head? .corruptDuplicateMissingCycle
  require (∀ cycleId ∈ cycleIds, cycleId = targetCycleId)
    .corruptDuplicateConflictingCycles
  let cycle ← orFault (getCycle db targetCycleId) .corruptDuplicateCycleMissing
  require (cycle.triggerRef = evidenceRowId ∨
    evidenceRowId ∈ cycle.composeLogIds) .corruptDuplicateCycleInconsistent
  pure (inbox, cycle)

/-- The inbox event of an admitted Owner message. -/
def ownerUtteranceEvent (input : CognitiveIngressInput) (evidence : Evidence)
    (cycleId : String) (wakeId subsumedByFrontierId : Option String) :
    AppendInboxEventInput :=
  { wakeId
    conversationId := input.conversationId, kind := "owner_utterance"
    payload :=
      { cycleId := some cycleId, evidenceRowId := some evidence.rowId
        discordMessageIds := evidence.discordMessageIds
        ownerId := some input.userId, subsumedByFrontierId }
    createdAtMs := input.nowMs
    initialTerminalReason :=
      subsumedByFrontierId.map fun _ => "subsumed_by_frontier" }

/-- Replay of a message whose identifiers are already bound. -/
def answerDuplicate (db : Sidecar) (evidence : Evidence) :
    Outcome (CognitiveIngressResult × Sidecar) := do
  let (inbox, cycle) ← resolveExistingWorkDisposition db
    evidence.conversationId evidence.rowId
  pure (⟨evidence.rowId, inbox.id, evidence.conversationId, cycle.cycleId,
    cycle.generation, .compose, true, evidence.createdAtMs⟩, db)

/-- The message joins the frontier that owns its conversation; its own event
is written already terminal. -/
def subsumeIntoFrontier (db : Sidecar) (input : CognitiveIngressInput)
    (evidence : Evidence) (frontier : Frontier) :
    Outcome (CognitiveIngressResult × Sidecar) := do
  let db := advanceDeferredFrontierEvidence db frontier.frontierId
    evidence.rowId input.nowMs
  let (_, db) ← appendCycleLogIds db frontier.cycleId [evidence.rowId]
    input.nowMs
  let (eventId, db) := db.drawUUID
  let (inbox, db) ← appendInboxEventInTransaction db
    (ownerUtteranceEvent input evidence frontier.cycleId none
      (some frontier.frontierId)) eventId
  pure (⟨evidence.rowId, inbox.id, input.conversationId, frontier.cycleId,
    frontier.generation, .compose, false, evidence.createdAtMs⟩, db)

/-- What ingress asks of the composition fence. -/
def CognitiveIngressInput.fenceInput (input : CognitiveIngressInput)
    (evidenceRowId : String) : ComposeOrPreemptInput :=
  { conversationId := input.conversationId, evidenceRowIds := [evidenceRowId]
    triggerKind := .ownerMessage, triggerRef := some evidenceRowId
    occupantId := some (input.occupantId.getD input.userId)
    authorityEpoch := some input.authorityEpoch, nowMs := input.nowMs }

/-- The message composes into the current cycle or preempts it. -/
def composeIntoCycle (db : Sidecar) (input : CognitiveIngressInput)
    (evidence : Evidence) : Outcome (CognitiveIngressResult × Sidecar) := do
  let (fence, db) ← composeOrPreemptInTransaction db
    (input.fenceInput evidence.rowId)
  let (eventId, db) := db.drawUUID
  let (inbox, db) ← appendInboxEventInTransaction db
    (ownerUtteranceEvent input evidence fence.cycle.cycleId fence.cycle.wakeId
      none) eventId
  pure (⟨evidence.rowId, inbox.id, input.conversationId, fence.cycle.cycleId,
    fence.cycle.generation, fence.action, false, evidence.createdAtMs⟩, db)

def admitCognitiveIngress (db : Sidecar) (input : CognitiveIngressInput) :
    Outcome (CognitiveIngressResult × Sidecar) := do
  require (input.channel = "discord") .channelRetired
  require (!blank input.message) .messageRequired
  require (isSafeInteger (input.sourceSentAtMs.getD input.nowMs) ∧
    0 ≤ input.sourceSentAtMs.getD input.nowMs) .sourceSentAtInvalid
  let (appended, db) ← appendOwnerUtteranceInTransaction db
    { conversationId := input.conversationId, text := some (trim input.message)
      discordMessageIds := input.discordMessageIds, nowMs := input.nowMs }
  if appended.duplicate then answerDuplicate db appended.evidence
  else do
    let db ← preemptExternalRoomAttemptsInTransaction db input.nowMs
    match getActiveDeferredFrontier db input.conversationId with
    | some frontier => subsumeIntoFrontier db input appended.evidence frontier
    | none => composeIntoCycle db input appended.evidence

end CognitiveSidecar
