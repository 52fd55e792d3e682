/-
A publication writes all of its rows or none: the rows of an accepted
settlement as one record, and every other exit with the tables it leaves.
-/
import CognitiveSidecar.PublicationMoves

namespace CognitiveSidecar

open Relational

/-- The speech of a settlement is on the outbox under the answered number. -/
inductive SpeechRecorded (before after : Table OutboxRow)
    (settlement : PublishedSettlement) (conversationId : String)
    (intent : Option DeliveryIntent) (origin : OutboxOrigin) :
    Option Nat → Prop
  | silent (hmode : settlement.speech.mode = .none) (hsame : after = before) :
      SpeechRecorded before after settlement conversationId intent origin none
  | drafted (row : OutboxRow) (hmode : settlement.speech.mode = .draft)
      (hrow : row = pendingOutboxRow row.outboxId settlement conversationId
        intent origin)
      (hunspoken : ∀ old ∈ before.rows,
        old.settlementId ≠ settlement.settlementId)
      (hinsert : before.insert? row = some after) :
      SpeechRecorded before after settlement conversationId intent origin
        (some row.outboxId)
  | known (row : OutboxRow) (hmode : settlement.speech.mode = .draft)
      (hrow : row ∈ before.rows)
      (hsettlement : row.settlementId = settlement.settlementId)
      (hsame : after = before) :
      SpeechRecorded before after settlement conversationId intent origin
        (some row.outboxId)

section Record

variable [Host]
variable {db : PublicationDb} {settlement : PublishedSettlement}
variable {options : PublicationOptions} {result : PublicationResult}
variable {reads : MindReads}
variable {after : PublicationDb} {conversationId : String}
variable {intent : Option DeliveryIntent} {wake : Wake}

/-- The rows that a publication writes, all together, over its deltas. -/
structure Recorded (prepared after : PublicationDb)
    (settlement : PublishedSettlement) (wakeId conversationId : String)
    (intent : Option DeliveryIntent) (options : PublicationOptions)
    (outboxId : Option Nat) : Prop where
  mind : after.mind = prepared.mind
  unsettled : ∀ old ∈ prepared.settlements.rows,
    old.cycleId ≠ settlement.cycleId ∨ old.generation ≠ settlement.generation
  settlements : prepared.settlements.insert?
    (settlementRow settlement wakeId options.semanticPass) =
      some after.settlements
  aftermath : after.aftermath =
    (recordAftermathPending prepared settlement options).aftermath
  speech : SpeechRecorded prepared.sidecar.outbox after.sidecar.outbox
    settlement conversationId intent options.origin outboxId
  ledger : after.causalLedger = prepared.causalLedger ++
    [publicationLedgerRow settlement options outboxId]
  sidecar : ∃ drawn, prepared.sidecar.uuidsDrawn ≤ drawn ∧
    after.sidecar = settleCycle
      { prepared.sidecar with
        outbox := after.sidecar.outbox, uuidsDrawn := drawn }
      settlement outboxId options.now

omit [Host] in
theorem recordSpeech_ok {db after : Sidecar} {origin : OutboxOrigin}
    {outboxId : Option Nat}
    (hok : recordSpeech db settlement conversationId intent origin =
      .ok (outboxId, after)) :
    SpeechRecorded db.outbox after.outbox settlement conversationId intent
        origin outboxId ∧
      ∃ drawn, db.uuidsDrawn ≤ drawn ∧
        after = { db with outbox := after.outbox, uuidsDrawn := drawn } := by
  unfold recordSpeech at hok
  split at hok
  · rename_i hmode
    obtain ⟨rfl, rfl⟩ := of_pure_pair hok
    exact ⟨.silent hmode rfl, db.uuidsDrawn, Nat.le_refl _, rfl⟩
  · rename_i hmode
    obtain ⟨⟨_, _⟩, hspoken, hok⟩ := of_bind hok
    obtain ⟨rfl, rfl⟩ := of_pure_pair hok
    unfold insertOutboxPending at hspoken
    split at hspoken
    · rename_i existing hexisting
      obtain ⟨rfl, rfl⟩ := of_pure_pair hspoken
      refine ⟨.known existing hmode (List.mem_of_find?_eq_some hexisting) ?_ rfl,
        db.uuidsDrawn, Nat.le_refl _, rfl⟩
      simpa using List.find?_some hexisting
    · rename_i hunspoken
      replace hspoken := passed hspoken
      obtain ⟨_, hinsert, hspoken⟩ := of_orFault hspoken
      obtain ⟨rfl, rfl⟩ := of_pure_pair hspoken
      refine ⟨.drafted _ hmode rfl ?_ hinsert, db.uuidsDrawn + 1,
        Nat.le_succ _, rfl⟩
      simpa [getSpeechOutboxBySettlement] using hunspoken

omit [Host] in
theorem recordPublication_ok {prepared : PublicationDb} {wakeId : String}
    (hok : recordPublication prepared settlement wakeId conversationId intent
      options = .ok (result, after)) :
    result = ⟨true, false, none, some settlement.settlementId,
        result.outboxId⟩ ∧
      Recorded prepared after settlement wakeId conversationId intent options
        result.outboxId := by
  obtain ⟨_, hsettled, hok⟩ := of_bind hok
  obtain ⟨⟨_, _⟩, hspeech, hok⟩ := of_bind hok
  obtain ⟨rfl, rfl⟩ := of_pure_pair hok
  obtain ⟨hunsettled, hsettled⟩ := of_require hsettled
  obtain ⟨settlements, hinsert, hsettled⟩ := of_orFault hsettled
  cases of_pure hsettled
  have hsidecar : (recordAftermathPending { prepared with settlements }
      settlement options).sidecar = prepared.sidecar := by
    unfold recordAftermathPending
    split <;> rfl
  rw [hsidecar] at hspeech
  obtain ⟨hrecorded, drawn, hdrawn, hframe⟩ := recordSpeech_ok hspeech
  refine ⟨rfl, ?_, ?_, ?_, ?_, ?_, ?_, ?_⟩
  · unfold recordAftermathPending
    split <;> rfl
  · intro old hold
    exact (hunsettled old hold).1
  · unfold recordAftermathPending
    split <;> exact hinsert
  · unfold recordAftermathPending
    split <;> rfl
  · exact hrecorded
  · unfold recordAftermathPending
    split <;> rfl
  · refine ⟨drawn, hdrawn, ?_⟩
    rw [hframe]
    rfl

/-- The accepted settlement: its consequence is open, its sources stand, all
of its deltas are applied, its cycle is current, and its rows are recorded. -/
def PublishedTogether (reads : MindReads) (db : PublicationDb)
    (settlement : PublishedSettlement) (options : PublicationOptions)
    (result : PublicationResult) (after : PublicationDb) : Prop :=
  ∃ wake intent begun sourced prepared,
    publishableWake db.sidecar settlement options = .ok wake ∧
    openConsequence db wake.wakeId options = .ok (intent, begun) ∧
    requireSources begun settlement options = .ok sourced ∧
    applySemanticDeltas reads sourced settlement
      (awaitlessConversation db.sidecar settlement) options = .ok prepared ∧
    publicationFence prepared settlement
      (awaitlessConversation db.sidecar settlement) options = true ∧
    result.settlementId = some settlement.settlementId ∧
    Recorded prepared after settlement wake.wakeId
      (awaitlessConversation db.sidecar settlement) intent options
      result.outboxId

/-- The first fence refuses a call that has begun the consequence of its
authorized wake. -/
def FirstFenceRefuses (db : PublicationDb) (settlement : PublishedSettlement)
    (options : PublicationOptions) : Prop :=
  publicationFence db settlement (awaitlessConversation db.sidecar settlement)
      options = false ∧
    ∃ wake, getWakeForCycle db.sidecar settlement.cycleId = some wake ∧
      wake.state = .authorized ∧ wake.leaseToken = options.wakeLeaseToken

/-- How a call ends. -/
inductive PublicationCase (reads : MindReads) (db : PublicationDb)
    (settlement : PublishedSettlement) (options : PublicationOptions) :
    PublicationExit → Prop
  | undone {exit : PublicationExit} (hundone : exit.Undone) :
      PublicationCase reads db settlement options exit
  | replayed (wake : Wake) (existing : SettlementRow)
      (hwake : publishableWake db.sidecar settlement options = .ok wake)
      (hauthority : authorityFenceReason options = none)
      (hexisting : existingSettlementForCycleGeneration db settlement.cycleId
        settlement.generation = some existing) :
      PublicationCase reads db settlement options
        (.committed ⟨true, true, none, some existing.settlementId,
          getSpeechOutboxBySettlementUnsafe db.sidecar existing.settlementId⟩
          db)
  | stale (begun : PublicationDb) (hprepared : PreparedFrom db begun)
      (hbegun : begun = db ∨ FirstFenceRefuses db settlement options) :
      PublicationCase reads db settlement options
        (.committed (rejected .staleGeneration) begun)
  | accepted (result : PublicationResult) (after : PublicationDb)
      (hresult : result = ⟨true, false, none, some settlement.settlementId,
        result.outboxId⟩)
      (hold : requireOwnerAnswerHold db.sidecar options = .ok ())
      (htogether : PublishedTogether reads db settlement options result after) :
      PublicationCase reads db settlement options (.committed result after)

theorem publishFirst_ok
    (hwake : publishableWake db.sidecar settlement options = .ok wake)
    (hok : publishFirst reads db settlement wake.wakeId options =
      .ok (result, after)) :
    result = ⟨true, false, none, some settlement.settlementId,
        result.outboxId⟩ ∧
      requireOwnerAnswerHold db.sidecar options = .ok () ∧
      PublishedTogether reads db settlement options result after := by
  obtain ⟨_, hold, hok⟩ := of_bind hok
  obtain ⟨⟨intent, begun⟩, hbegun, hok⟩ := of_bind hok
  have hconversation : awaitlessConversation begun.sidecar settlement =
      awaitlessConversation db.sidecar settlement := by
    rcases openConsequence_cases hbegun with
      rfl | ⟨_, _, rfl, _, hcycles, _⟩
    · rfl
    · unfold awaitlessConversation
      rw [hcycles]
  dsimp only at hok
  rw [hconversation] at hok
  replace hok := passed hok
  obtain ⟨sourced, hsourced, hok⟩ := of_bind hok
  obtain ⟨prepared, hprepared, hok⟩ := of_bind hok
  obtain ⟨_, _, hok⟩ := of_bind hok
  obtain ⟨hfence, hok⟩ := of_require hok
  obtain ⟨hresult, hrecorded⟩ :=
    recordPublication_ok (ofKernel_ok.mp (orThrow_ok.mp hok))
  refine ⟨hresult, hold, wake, intent, begun, sourced, prepared, hwake, hbegun,
    hsourced, orThrow_ok.mp hprepared, hfence, ?_, hrecorded⟩
  rw [hresult]

theorem publishFirst_error {exit : PublicationExit}
    (hwake : publishableWake db.sidecar settlement options = .ok wake)
    (herror : publishFirst reads db settlement wake.wakeId options =
      .error exit) : PublicationCase reads db settlement options exit := by
  rcases bind_error.mp herror with herror | ⟨_, _, herror⟩
  · exact .undone (requireOwnerAnswerHold_error herror)
  rcases bind_error.mp herror with herror | ⟨⟨_, begun⟩, hbegun, herror⟩
  · exact .undone (openConsequence_error herror)
  rcases require_bind_error.mp herror with ⟨hfence, rfl⟩ | ⟨_, herror⟩
  · refine .stale begun (openConsequence_prepared hbegun) ?_
    rcases openConsequence_cases hbegun with
      rfl | ⟨_, _, rfl, _, hcycles, hevents, hheld, hauthorized, htoken⟩
    · exact .inl rfl
    · refine .inr ⟨?_, wake, (publishableWake_ok hwake).1, ?_⟩
      · rw [publicationFence_congr hcycles hevents, Bool.not_eq_true] at hfence
        unfold awaitlessConversation at hfence ⊢
        rwa [hcycles] at hfence
      · have hstored : wake ∈ db.sidecar.wakes.rows :=
          List.mem_of_find?_eq_some (publishableWake_ok hwake).1
        cases (get?_key hstored).symm.trans hheld
        exact ⟨hauthorized, htoken⟩
  rcases bind_error.mp herror with herror | ⟨_, _, herror⟩
  · exact .undone (requireSources_error herror)
  rcases bind_error.mp herror with herror | ⟨_, _, herror⟩
  · exact .undone (orThrow_error herror)
  rcases bind_error.mp herror with herror | ⟨_, _, herror⟩
  · exact .undone (requireAuthority_error herror)
  rcases require_bind_error.mp herror with ⟨_, rfl⟩ | ⟨_, herror⟩
  · exact .undone (.refused _)
  · exact .undone (orThrow_error herror)

/-- Every exit of the call is one of the four. -/
theorem publishSemanticTransaction_case (reads : MindReads)
    (db : PublicationDb) (settlement : PublishedSettlement)
    (options : PublicationOptions) :
    PublicationCase reads db settlement options
      (publishSemanticTransaction reads db settlement options) := by
  unfold publishSemanticTransaction
  split
  · rename_i result after hok
    obtain ⟨wake, hwake, hok⟩ := of_bind hok
    obtain ⟨_, hauthority, hok⟩ := of_bind hok
    split at hok
    · rename_i existing hexisting
      obtain ⟨rfl, rfl⟩ := of_pure_pair hok
      exact .replayed wake existing hwake (requireAuthority_ok.mp hauthority)
        hexisting
    · obtain ⟨hresult, hold, htogether⟩ := publishFirst_ok hwake hok
      exact .accepted result after hresult hold htogether
  · rename_i herror
    rcases bind_error.mp herror with herror | ⟨_, hwake, herror⟩
    · exact .undone (publishableWake_error herror)
    rcases bind_error.mp herror with herror | ⟨_, _, herror⟩
    · exact .undone (requireAuthority_error herror)
    split at herror
    · cases herror
    · exact publishFirst_error hwake herror

/-- A call that does not publish afresh changes no table, unless the first
fence refuses it after its consequence has begun. -/
theorem publishSemanticTransaction_unchanged
    (hfence : ¬ FirstFenceRefuses db settlement options)
    (hnot : ∀ result, (publishSemanticTransaction reads db settlement
      options).result? = some result → result.published = true →
        result.replayed = true) :
    (publishSemanticTransaction reads db settlement options).state db = db := by
  have hcase := publishSemanticTransaction_case reads db settlement options
  generalize publishSemanticTransaction reads db settlement options = exit
    at hcase hnot
  cases hcase with
  | undone hundone => cases hundone <;> rfl
  | replayed => rfl
  | stale _ _ hbegun => exact hbegun.resolve_right hfence
  | accepted result _ hresult =>
    have hreplayed := hnot result rfl (by rw [hresult])
    rw [hresult] at hreplayed
    cases hreplayed

/-- A fresh publication records everything together. -/
theorem publishSemanticTransaction_together
    (hresult : (publishSemanticTransaction reads db settlement
      options).result? = some result) (hpublished : result.published = true)
    (hfresh : result.replayed = false) :
    PublishedTogether reads db settlement options result
      ((publishSemanticTransaction reads db settlement options).state db) := by
  have hcase := publishSemanticTransaction_case reads db settlement options
  generalize publishSemanticTransaction reads db settlement options = exit
    at hcase hresult
  cases hcase with
  | undone hundone =>
    cases hundone with
    | refused =>
      cases hresult
      cases hpublished
    | thrown => cases hresult
  | replayed =>
    cases hresult
    cases hfresh
  | stale =>
    cases hresult
    cases hpublished
  | accepted _ _ _ _ htogether =>
    cases hresult
    exact htogether

end Record

end CognitiveSidecar
