/-
The system of producers: each statement of a producer is a step of its own, a
producer may stop between two of them, and what every step keeps.
-/
import CognitiveSidecar.CompletionLedger

namespace CognitiveSidecar.Completions

open Relational

/-- The next statement of a producer that has read. -/
inductive ProducerStage
  | posting (event : CompletionEvent) (note : SystemEvidence)
  | noting (event : CompletionEvent) (note : SystemEvidence)
  | linking (isDetached : Bool) (eventId : String)
deriving DecidableEq

/-- A call of `produceOperationCompletion` under way. -/
structure Producer where
  pid : Nat
  operationId : String
  nowMs : Int
  stage : ProducerStage
deriving DecidableEq

instance : Keyed Producer Nat := ⟨Producer.pid⟩

def Producer.atStage (stage : ProducerStage) (producer : Producer) : Producer :=
  { producer with stage }

theorem Producer.atStage_key (stage : ProducerStage) (producer : Producer) :
    key (producer.atStage stage) = key producer := rfl

structure CompletionSystem where
  db : CompletionDb := {}
  producers : Table Producer := Table.empty

/-- The row that the detached ledger writes: it may change anything but the
names, a terminal state and the completion reference. -/
def rewrittenOperation (operation row : DetachedOperation) :
    DetachedOperation :=
  { operation with
    operationId := row.operationId
    conversationId := row.conversationId
    terminalState := row.terminalState.or operation.terminalState
    completionEventRef := row.completionEventRef }

theorem rewrittenOperation_key (operation row : DetachedOperation) :
    key (rewrittenOperation operation row) = key row := rfl

/-- The effect ids that are bound to a proposal. -/
def effectIdFor (uuid : String) : String := "effect:" ++ uuid

section Steps

variable [Host]

/-- Any write of the detached ledger. -/
def writeOperation (db : CompletionDb) (idempotencyKey : String)
    (operation : DetachedOperation) : CompletionDb :=
  let operationId := detachedOperationIdFor idempotencyKey
  match db.operations.insert?
      { operation with
        operationId, terminalState := none
        completionEventRef := none } with
  | some operations => { db with operations }
  | none => { db with
      operations := db.operations.update (·.operationId = operationId)
        (rewrittenOperation operation) (rewrittenOperation_key operation) }

inductive CompletionStep
  | operate (idempotencyKey : String) (operation : DetachedOperation)
  | effect (op : EffectOp)
  | accept (uuid : String) (reading : AcceptReading)
      (input : AcceptContinuationInput)
  | renew (effectId leaseToken : String) (nowMs leaseMs : Int)
  | finish (effectId leaseToken : String) (nowMs : Int)
  | recover (effectId : String) (nowMs : Int) (runtimeId : String)
  | begin (pid : Nat) (operationId : String) (nowMs : Int)
      (reading : CompletionReading)
  | advance (pid : Nat)
  | crash (pid : Nat)

/-- The stage that a plan starts at, when it writes. -/
def CompletionPlan.stage : CompletionPlan → Option ProducerStage
  | .refuse _ => none
  | .report _ => none
  | .relink eventId => some (.linking false eventId)
  | .post event note => some (.posting event note)

/-- The next statement of a producer, and its end after the last. -/
def advanceProducer (s : CompletionSystem) (producer : Producer) :
    CompletionSystem :=
  match producer.stage with
  | .posting event note =>
    { db := postEvent s.db event
      producers := s.producers.update (·.pid = producer.pid)
        (Producer.atStage (.noting event note))
        (Producer.atStage_key (.noting event note)) }
  | .noting event note =>
    { db := noteEvidence s.db note
      producers := s.producers.update (·.pid = producer.pid)
        (Producer.atStage (.linking event.payload.isDetached event.id))
        (Producer.atStage_key (.linking event.payload.isDetached event.id)) }
  | .linking isDetached eventId =>
    { db := linkCompletion s.db isDetached producer.operationId eventId
        producer.nowMs
      producers := s.producers.delete (·.pid = producer.pid) }

/-- One committed statement, or one whole operation of another table. -/
def completionStep (step : CompletionStep) (s : CompletionSystem) :
    CompletionSystem :=
  match step with
  | .operate idempotencyKey operation =>
    { s with db := writeOperation s.db idempotencyKey operation }
  | .effect op =>
    match keyedOp s.db.ledger op with
    | none => s
    | some op =>
      { s with db := { s.db with ledger := effectStep op s.db.ledger } }
  | .accept uuid reading input =>
    match acceptEffectContinuation s.db.continuations s.db.ledger reading
        { input with effectId := effectIdFor uuid } s.db.drawn with
    | .error _ => s
    | .ok (_, continuations) =>
      { s with db := { s.db with continuations, drawn := s.db.drawn + 1 } }
  | .renew effectId leaseToken nowMs leaseMs =>
    { s with
      db := { s.db with
        continuations := (renewEffectContinuationLease s.db.continuations
          effectId leaseToken nowMs leaseMs).2 } }
  | .finish effectId leaseToken nowMs =>
    match (getEffectReceipt s.db.ledger effectId).filter
        (·.outcome ≠ .inProgress) with
    | none => s
    | some receipt =>
      { s with
        db := { s.db with
          continuations := (finishFromReceipt s.db.continuations effectId
            leaseToken receipt nowMs).2 } }
  | .recover effectId nowMs runtimeId =>
    match (getEffectContinuation s.db.continuations effectId).filter
        (·.state = .running) with
    | none => s
    | some continuation =>
      { s with db := (recoverContinuation s.db nowMs runtimeId continuation).2 }
  | .begin pid operationId nowMs reading =>
    match (planCompletion s.db operationId nowMs reading).stage with
    | none => s
    | some stage =>
      { s with
        producers :=
          s.producers.insertNew { pid, operationId, nowMs, stage } }
  | .advance pid =>
    match s.producers.get? pid with
    | none => s
    | some producer => advanceProducer s producer
  | .crash pid => { s with producers := s.producers.delete (·.pid = pid) }

end Steps

section Soundness

variable [Host]

/-- A continuation after a step: its proposal stays, and so do its end and its
completion. -/
structure ContinuationKept (row row' : EffectContinuation) : Prop where
  fields : row' = { row with
    leaseExpiresAtMs := row'.leaseExpiresAtMs
    state := row'.state, terminalClass := row'.terminalClass
    effectTruth := row'.effectTruth
    completionEventRef := row'.completionEventRef
    updatedAtMs := row'.updatedAtMs }
  ended : row.state ≠ .running → row'.state = row.state ∧
    row'.terminalClass = row.terminalClass ∧
    row'.effectTruth = row.effectTruth
  linked : ∀ eventId, row.completionEventRef = some eventId →
    row'.completionEventRef = some eventId

omit [Host] in
theorem ContinuationKept.refl (row : EffectContinuation) :
    ContinuationKept row row :=
  ⟨rfl, fun _ => ⟨rfl, rfl, rfl⟩, fun _ hlinked => hlinked⟩

omit [Host] in
theorem ContinuationKept.trans {row middle row' : EffectContinuation}
    (hfirst : ContinuationKept row middle)
    (hsecond : ContinuationKept middle row') : ContinuationKept row row' := by
  refine ⟨?_, fun hended => ?_, fun eventId hlinked =>
    hsecond.linked eventId (hfirst.linked eventId hlinked)⟩
  · rw [hsecond.fields, hfirst.fields]
  · obtain ⟨hstate, hclass, htruth⟩ := hfirst.ended hended
    obtain ⟨hstate', hclass', htruth'⟩ :=
      hsecond.ended (by rw [hstate]; exact hended)
    exact ⟨hstate'.trans hstate, hclass'.trans hclass, htruth'.trans htruth⟩

/-- What a step keeps of the tables. -/
structure Grows (db db' : CompletionDb) : Prop where
  operations : ∀ id row, db.operations.get? id = some row →
    ∃ row', db'.operations.get? id = some row' ∧
      (row.terminalState ≠ none → row'.terminalState ≠ none)
  ledger : LedgerKept db.ledger db'.ledger
  continuations : ∀ id row, db.continuations.get? id = some row →
    ∃ row', db'.continuations.get? id = some row' ∧ ContinuationKept row row'
  inbox : ∀ id event, db.inbox.get? id = some event →
    db'.inbox.get? id = some event

/-- An event tells of an operation that has ended, under its id; that of an
effect tells its end and its final receipt. -/
def EventSound (db : CompletionDb) (event : CompletionEvent) : Prop :=
  event.id = completionEventIdFor event.payload.operationId ∧
  event.kind = "observation_or_receipt" ∧
  match event.payload with
  | .detached payload =>
    ∃ row, db.operations.get? payload.detachedOperationId = some row ∧
      row.terminalState ≠ none
  | .effect payload =>
    ∃ row receipt origin reading,
      db.continuations.get? payload.effectContinuationId = some row ∧
      row.state ≠ .running ∧
      db.ledger.receipts.get? payload.effectContinuationId = some receipt ∧
      receipt.outcome ≠ .inProgress ∧
      event.conversationId = row.conversationId ∧
      payload = effectCompletionPayload row.asRead origin receipt.receiptId
        reading

omit [Host] in
/-- A completion reference names the posted event of the operation. -/
def NamesEvent (db : CompletionDb) (operationId eventId : String) : Prop :=
  eventId = completionEventIdFor operationId ∧
    (db.inbox.get? (completionEventIdFor operationId)).isSome = true

structure OperationSound (db : CompletionDb) (row : DetachedOperation) : Prop
    where
  minted : ∃ idempotencyKey,
    row.operationId = detachedOperationIdFor idempotencyKey
  linked : ∀ eventId, row.completionEventRef = some eventId →
    row.terminalState ≠ none ∧ NamesEvent db row.operationId eventId

omit [Host] in
structure ContinuationSound (db : CompletionDb) (row : EffectContinuation) :
    Prop where
  minted : ∃ uuid, row.effectId = effectIdFor uuid
  named : row.conversationId ≠ "" ∧ row.cycleId ≠ "" ∧ row.runtimeId ≠ "" ∧
    row.leaseToken ≠ ""
  bound : ∃ inFlight, db.ledger.effects.get? row.effectId = some inFlight ∧
    inFlight.cycleId = row.cycleId ∧ inFlight.generation = row.generation
  ended : row.state ≠ .running → ∃ receipt,
    db.ledger.receipts.get? row.effectId = some receipt ∧
      receipt.outcome ≠ .inProgress
  linked : ∀ eventId, row.completionEventRef = some eventId →
    row.state ≠ .running ∧ NamesEvent db row.effectId eventId

omit [Host] in
/-- The operation of a producer has ended, in the table of its kind. -/
def HasEnded (db : CompletionDb) (isDetached : Bool) (operationId : String) :
    Prop :=
  if isDetached then
    ∃ row, db.operations.get? operationId = some row ∧ row.terminalState ≠ none
  else
    ∃ row, db.continuations.get? operationId = some row ∧ row.state ≠ .running

def ProducerSound (db : CompletionDb) (producer : Producer) : Prop :=
  match producer.stage with
  | .posting event note =>
    event.payload.operationId = producer.operationId ∧
      EventSound db event ∧ note.operationId = producer.operationId
  | .noting event note =>
    event.payload.operationId = producer.operationId ∧
      EventSound db event ∧ note.operationId = producer.operationId ∧
      (db.inbox.get? event.id).isSome = true
  | .linking isDetached eventId =>
    HasEnded db isDetached producer.operationId ∧
      NamesEvent db producer.operationId eventId

/-- What holds in every state. -/
structure Sound (s : CompletionSystem) : Prop where
  ledger : LedgerSound s.db.ledger
  operations : ∀ id row, s.db.operations.get? id = some row →
    OperationSound s.db row
  continuations : ∀ id row, s.db.continuations.get? id = some row →
    ContinuationSound s.db row
  events : ∀ id event, s.db.inbox.get? id = some event → EventSound s.db event
  producers : ∀ pid producer, s.producers.get? pid = some producer →
    ProducerSound s.db producer

end Soundness

section Keeping

variable [Host] {db db' : CompletionDb}
variable {operationId : String} {row : EffectContinuation}

omit [Host] in
theorem Grows.refl (db : CompletionDb) : Grows db db where
  operations := fun _ row hrow => ⟨row, hrow, fun hended => hended⟩
  ledger := .refl db.ledger
  continuations := fun _ row hrow => ⟨row, hrow, .refl row⟩
  inbox := fun _ _ hevent => hevent

omit [Host] in
theorem NamesEvent.mono {eventId : String} (hgrows : Grows db db')
    (hnames : NamesEvent db operationId eventId) :
    NamesEvent db' operationId eventId := by
  obtain ⟨heventId, hposted⟩ := hnames
  obtain ⟨event, hevent⟩ := Option.isSome_iff_exists.mp hposted
  exact ⟨heventId, by rw [hgrows.inbox _ event hevent]; rfl⟩

omit [Host] in
theorem HasEnded.mono {isDetached : Bool} (hgrows : Grows db db')
    (hended : HasEnded db isDetached operationId) :
    HasEnded db' isDetached operationId := by
  cases isDetached with
  | true =>
    obtain ⟨row, hrow, hterminal⟩ := hended
    obtain ⟨row', hrow', hkept⟩ := hgrows.operations _ row hrow
    exact ⟨row', hrow', hkept hterminal⟩
  | false =>
    obtain ⟨row, hrow, hterminal⟩ := hended
    obtain ⟨row', hrow', hkept⟩ := hgrows.continuations _ row hrow
    refine ⟨row', hrow', ?_⟩
    rw [(hkept.ended hterminal).1]
    exact hterminal

theorem OperationSound.mono {row : DetachedOperation}
    (hgrows : Grows db db') (hsound : OperationSound db row) :
    OperationSound db' row where
  minted := hsound.minted
  linked := fun eventId hlinked =>
    ⟨(hsound.linked eventId hlinked).1,
      (hsound.linked eventId hlinked).2.mono hgrows⟩

omit [Host] in
theorem ContinuationSound.mono (hgrows : Grows db db')
    (hsound : ContinuationSound db row) :
    ContinuationSound db' row where
  minted := hsound.minted
  named := hsound.named
  bound := by
    obtain ⟨inFlight, hinFlight, hcycle, hgeneration⟩ := hsound.bound
    obtain ⟨inFlight', hinFlight', hsame⟩ :=
      hgrows.ledger.bound _ inFlight hinFlight
    exact ⟨inFlight', hinFlight', hsame.cycleId.trans hcycle,
      hsame.generation.trans hgeneration⟩
  ended := by
    intro hended
    obtain ⟨receipt, hreceipt, hfinal⟩ := hsound.ended hended
    exact ⟨receipt, hgrows.ledger.final _ receipt hreceipt hfinal, hfinal⟩
  linked := fun eventId hlinked =>
    ⟨(hsound.linked eventId hlinked).1,
      (hsound.linked eventId hlinked).2.mono hgrows⟩

/-- The payload of an ended continuation does not change any more. -/
theorem effectCompletionPayload_kept {row' : EffectContinuation}
    (hkept : ContinuationKept row row') (hended : row.state ≠ .running)
    (origin receiptRef : String) (reading : CompletionReading) :
    effectCompletionPayload row'.asRead origin receiptRef reading =
      effectCompletionPayload row.asRead origin receiptRef reading := by
  obtain ⟨hstate, hclass, htruth⟩ := hkept.ended hended
  rw [hkept.fields, hstate, hclass, htruth]
  rfl

theorem EventSound.mono {event : CompletionEvent} (hgrows : Grows db db')
    (hsound : EventSound db event) : EventSound db' event := by
  obtain ⟨hid, hkind, hpayload⟩ := hsound
  refine ⟨hid, hkind, ?_⟩
  cases hevent : event.payload with
  | detached =>
    rw [hevent] at hpayload
    obtain ⟨row, hrow, hterminal⟩ := hpayload
    obtain ⟨row', hrow', hkept⟩ := hgrows.operations _ row hrow
    exact ⟨row', hrow', hkept hterminal⟩
  | effect =>
    rw [hevent] at hpayload
    obtain ⟨row, receipt, origin, reading, hrow, hended, hreceipt, hfinal,
      hconversation, hpayload⟩ := hpayload
    obtain ⟨row', hrow', hkept⟩ := hgrows.continuations _ row hrow
    refine ⟨row', receipt, origin, reading, hrow', ?_,
      hgrows.ledger.final _ receipt hreceipt hfinal, hfinal, ?_, ?_⟩
    · rw [(hkept.ended hended).1]
      exact hended
    · rw [hkept.fields]
      exact hconversation
    · rw [effectCompletionPayload_kept hkept hended]
      exact hpayload

theorem ProducerSound.mono {producer : Producer} (hgrows : Grows db db')
    (hsound : ProducerSound db producer) : ProducerSound db' producer := by
  unfold ProducerSound at hsound ⊢
  cases hstage : producer.stage with
  | posting =>
    rw [hstage] at hsound
    obtain ⟨habout, hevent, hnote⟩ := hsound
    exact ⟨habout, hevent.mono hgrows, hnote⟩
  | noting =>
    rw [hstage] at hsound
    obtain ⟨habout, hevent, hnote, hposted⟩ := hsound
    obtain ⟨stored, hstored⟩ := Option.isSome_iff_exists.mp hposted
    exact ⟨habout, hevent.mono hgrows, hnote,
      by rw [hgrows.inbox _ stored hstored]; rfl⟩
  | linking =>
    rw [hstage] at hsound
    exact ⟨hsound.1.mono hgrows, hsound.2.mono hgrows⟩

/-- A state is sound when what is new in it is. -/
theorem Sound.of_grows {s s' : CompletionSystem} (hsound : Sound s)
    (hgrows : Grows s.db s'.db) (hledger : LedgerSound s'.db.ledger)
    (hoperations : ∀ id row, s'.db.operations.get? id = some row →
      s.db.operations.get? id = some row ∨ OperationSound s'.db row)
    (hcontinuations : ∀ id row, s'.db.continuations.get? id = some row →
      s.db.continuations.get? id = some row ∨ ContinuationSound s'.db row)
    (hevents : ∀ id event, s'.db.inbox.get? id = some event →
      s.db.inbox.get? id = some event ∨ EventSound s'.db event)
    (hproducers : ∀ pid producer, s'.producers.get? pid = some producer →
      s.producers.get? pid = some producer ∨
        ProducerSound s'.db producer) : Sound s' where
  ledger := hledger
  operations := fun id row hrow =>
    (hoperations id row hrow).elim
      (fun hold => (hsound.operations id row hold).mono hgrows) fun hnew => hnew
  continuations := fun id row hrow =>
    (hcontinuations id row hrow).elim
      (fun hold => (hsound.continuations id row hold).mono hgrows)
      fun hnew => hnew
  events := fun id event hevent =>
    (hevents id event hevent).elim
      (fun hold => (hsound.events id event hold).mono hgrows) fun hnew => hnew
  producers := fun pid producer hproducer =>
    (hproducers pid producer hproducer).elim
      (fun hold => (hsound.producers pid producer hold).mono hgrows)
      fun hnew => hnew

end Keeping

end CognitiveSidecar.Completions
