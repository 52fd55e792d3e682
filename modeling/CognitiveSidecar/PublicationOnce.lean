/-
One settlement and one speech for each generation of a cycle: the identity that
a repeated publication is answered with, and the atomicity of every call.
-/
import CognitiveSidecar.PublicationRuns

namespace CognitiveSidecar

open Option List Relational

section Once

variable [Host] {db : PublicationDb}
variable {id settlementId : String} {row : SettlementRow} {reads : MindReads}
variable {settlement : PublishedSettlement} {options : PublicationOptions}

/-- The stored settlement of a cycle generation is the one that is found. -/
theorem Published.existing_eq (hpublished : Published db)
    (hrow : db.settlements.get? id = some row) :
    existingSettlementForCycleGeneration db row.cycleId row.generation =
      some row := by
  unfold existingSettlementForCycleGeneration
  cases hfound : db.settlements.rows.find? fun other =>
      other.cycleId = row.cycleId && other.generation = row.generation with
  | none =>
    rw [List.find?_eq_none] at hfound
    exact absurd (by simp) (hfound row (mem_of_get? hrow))
  | some other =>
    have hmatches := List.find?_some hfound
    simp only [Bool.and_eq_true, decide_eq_true_eq] at hmatches
    have hother := get?_key (mem_of_find?_eq_some hfound)
    have hid := hpublished.once _ _ other row hother hrow hmatches.1 hmatches.2
    rw [hid, hrow] at hother
    exact hother.symm

/-- The speech that is found for a settlement is the one it has. -/
theorem Published.outboxId_eq_some_iff (hpublished : Published db)
    {number : Nat} :
    getSpeechOutboxBySettlementUnsafe db.sidecar settlementId = some number ↔
      ∃ row, db.sidecar.outbox.get? number = some row ∧
        row.settlementId = settlementId := by
  unfold getSpeechOutboxBySettlementUnsafe getSpeechOutboxBySettlement
  rw [map_eq_some_iff]
  constructor
  · rintro ⟨row, hfound, rfl⟩
    exact ⟨row, get?_key (mem_of_find?_eq_some hfound),
      by simpa using List.find?_some hfound⟩
  · rintro ⟨row, hrow, hsettlement⟩
    cases hfound : db.sidecar.outbox.rows.find?
        (·.settlementId = settlementId) with
    | none =>
      rw [List.find?_eq_none] at hfound
      exact absurd (by simpa using hsettlement)
        (hfound row (mem_of_get? hrow))
    | some other =>
      have hother := get?_key (mem_of_find?_eq_some hfound)
      have hsame : other.settlementId = settlementId := by
        simpa using List.find?_some hfound
      exact ⟨other, rfl, hpublished.aloud _ _ other row hother hrow
        (hsame.trans hsettlement.symm)⟩

/-- The speech of a stored settlement never changes its number, and a silent
settlement stays silent. -/
theorem Continues.outboxId_eq {before after : PublicationDb}
    (hcontinues : Continues before after) (hbefore : Published before)
    (hafter : Published after)
    (hsettled : before.settlements.get? settlementId ≠ none) :
    getSpeechOutboxBySettlementUnsafe after.sidecar settlementId =
      getSpeechOutboxBySettlementUnsafe before.sidecar settlementId := by
  refine Option.ext fun number => ?_
  rw [hafter.outboxId_eq_some_iff, hbefore.outboxId_eq_some_iff]
  constructor
  · rintro ⟨row, hrow, rfl⟩
    obtain ⟨old, hold, hsame⟩ := hcontinues.unspoken number row hrow hsettled
    exact ⟨old, hold, hsame.settlementId.symm⟩
  · rintro ⟨row, hrow, rfl⟩
    obtain ⟨new, hnew, hsame⟩ := hcontinues.outbox number row hrow
    exact ⟨new, hnew, hsame.settlementId⟩

/-- An answered publication names the stored settlement and its speech. -/
theorem publishSemanticTransaction_identity (hpublished : Published db)
    {result : PublicationResult}
    (hresult : (publishSemanticTransaction reads db settlement
      options).result? = some result) (hanswer : result.published = true) :
    ∃ id row,
      ((publishSemanticTransaction reads db settlement options).state
        db).settlements.get? id = some row ∧
      row.cycleId = settlement.cycleId ∧
      row.generation = settlement.generation ∧
      result.settlementId = some id ∧
      result.outboxId = getSpeechOutboxBySettlementUnsafe
        ((publishSemanticTransaction reads db settlement options).state
          db).sidecar id := by
  have hafter := (stepPublication_published
    (.publish reads settlement options) hpublished).1
  unfold stepPublication at hafter
  dsimp only at hafter
  have hcase := publishSemanticTransaction_case reads db settlement options
  generalize publishSemanticTransaction reads db settlement options = exit
    at hcase hresult hafter
  cases hcase with
  | undone hundone =>
    cases hundone with
    | refused =>
      cases hresult
      cases hanswer
    | thrown => cases hresult
  | replayed _ existing _ _ hexisting =>
    cases hresult
    have hmatches := List.find?_some hexisting
    simp only [Bool.and_eq_true, decide_eq_true_eq] at hmatches
    exact ⟨existing.settlementId, existing,
      get?_key (mem_of_find?_eq_some hexisting), hmatches.1,
      hmatches.2, rfl, rfl⟩
  | stale =>
    cases hresult
    cases hanswer
  | accepted _ after haccepted hold htogether =>
    cases hresult
    obtain ⟨_, wake, hpublishes⟩ := htogether.publishes
    obtain ⟨_, _, options, hrecorded⟩ := hpublishes.recorded
    have hmid := hpublished.carried hpublishes.deltas.carried
    have hinsert := hrecorded.settlements
    refine ⟨settlement.settlementId,
      settlementRow settlement wake.wakeId options.semanticPass, ?_, rfl, rfl,
      ?_, ?_⟩
    · change after.settlements.get? _ = _
      rw [get?_insert hinsert]
      exact if_pos rfl
    · rw [haccepted]
    · refine Option.ext fun number => ?_
      rw [hafter.outboxId_eq_some_iff]
      have hunsettled := (insert?_eq_some hinsert).1
      constructor
      · intro hnumber
        have hspeech := hrecorded.speech
        generalize result.outboxId = outboxId at hspeech hnumber
        cases hspeech with
        | silent => cases hnumber
        | drafted row _ hrow _ hadded =>
          cases hnumber
          refine ⟨row, ?_, ?_⟩
          · change after.sidecar.outbox.get? _ = _
            rw [get?_insert hadded]
            exact if_pos rfl
          · rw [hrow]
            rfl
        | known row _ hrow hsettlement =>
          obtain ⟨old, hold, _⟩ := hmid.spoken _ row (get?_key hrow)
          rw [hsettlement] at hold
          exact absurd (hold.symm.trans hunsettled) (some_ne_none old)
      · rintro ⟨row, hrow, hsettlement⟩
        rcases hrecorded.speech.get?_cases hrow with hold | ⟨_, hnumber, _, _⟩
        · obtain ⟨old, hstored, _⟩ := hmid.spoken number row hold
          rw [hsettlement] at hstored
          exact absurd (hstored.symm.trans hunsettled)
            (some_ne_none old)
        · exact hnumber

/-- A repeat names the wake of its cycle, the wake is neither terminal nor
reconciling, and the authority barrier is the expected one. -/
def RepeatAdmitted (db : PublicationDb) (settlement : PublishedSettlement)
    (options : PublicationOptions) : Prop :=
  authorityFenceReason options = none ∧
    ∃ wake ∈ getWakeForCycle db.sidecar settlement.cycleId,
      (options.wakeId.or settlement.wakeId).getD wake.wakeId = wake.wakeId ∧
        wake.state ≠ .terminal ∧ wake.state ≠ .reconciling

/-- An admitted repeat changes nothing, and answers the stored identity. -/
theorem publishSemanticTransaction_repeat (hpublished : Published db)
    (hrow : db.settlements.get? id = some row)
    (hcycle : row.cycleId = settlement.cycleId)
    (hgeneration : row.generation = settlement.generation)
    (hadmitted : RepeatAdmitted db settlement options) :
    publishSemanticTransaction reads db settlement options =
      .committed ⟨true, true, none, some id,
        getSpeechOutboxBySettlementUnsafe db.sidecar id⟩ db := by
  obtain ⟨hauthority, wake, hwake, hnamed, hopen, hsettled⟩ := hadmitted
  have hstored := get?_key (mem_of_find?_eq_some hwake)
  have hname := (hpublished.sound.linked.wakeCycle _ wake hstored).1
  have hfound : publishableWake db.sidecar settlement options = .ok wake := by
    unfold publishableWake
    rw [hwake, orFault_some, ok_bind, hnamed]
    dsimp only
    have hnamedWake : wake.wakeId ≠ "" ∧ wake.wakeId = wake.wakeId :=
      ⟨hname, rfl⟩
    rw [require_pos hnamedWake, require_pos hopen, require_pos hsettled]
    rfl
  have hexisting := hpublished.existing_eq hrow
  rw [hcycle, hgeneration] at hexisting
  have hid : row.settlementId = id := key_of_get? hrow
  unfold publishSemanticTransaction publishing
  rw [hfound, requireAuthority_ok.mpr hauthority, hexisting,
    ← hid]
  rfl

/-- No generation of a cycle has two settlements or two speech rows. -/
structure SinglePublications (db : PublicationDb) : Prop where
  settlements : ∀ row ∈ db.settlements.rows, ∀ row' ∈ db.settlements.rows,
    row.cycleId = row'.cycleId → row.generation = row'.generation → row = row'
  outbox : ∀ row ∈ db.sidecar.outbox.rows, ∀ row' ∈ db.sidecar.outbox.rows,
    row.cycleId = row'.cycleId → row.generation = row'.generation → row = row'

theorem Published.single (hpublished : Published db) :
    SinglePublications db where
  settlements := by
    intro row hrow row' hrow' hcycle hgeneration
    have hid := hpublished.once _ _ row row' (get?_key hrow)
      (get?_key hrow') hcycle hgeneration
    have hstored := get?_key hrow
    rw [hid, get?_key hrow'] at hstored
    exact (some.inj hstored).symm
  outbox := by
    intro row hrow row' hrow' hcycle hgeneration
    obtain ⟨settlement, hsettlement, hsame, hsameGeneration⟩ :=
      hpublished.spoken _ row (get?_key hrow)
    obtain ⟨settlement', hsettlement', hsame', hsameGeneration'⟩ :=
      hpublished.spoken _ row' (get?_key hrow')
    have hid := hpublished.once _ _ settlement settlement' hsettlement
      hsettlement' (by rw [hsame, hsame', hcycle])
      (by rw [hsameGeneration, hsameGeneration', hgeneration])
    have hnumber := hpublished.aloud _ _ row row' (get?_key hrow)
      (get?_key hrow') hid
    have hstored := get?_key hrow
    rw [hnumber, get?_key hrow'] at hstored
    exact (some.inj hstored).symm

/-- Publication writes everything together or nothing, a first fence that
refuses a begun consequence apart; and in every reachable state an admitted
repeat, after any further steps, changes nothing and answers the first
identity, and every generation has one settlement and one speech at most. -/
theorem publication_atomic (reads : MindReads) (db : PublicationDb)
    (settlement : PublishedSettlement) (options : PublicationOptions) :
    (∀ result, (publishSemanticTransaction reads db settlement
        options).result? = some result → result.published = true →
      result.replayed = false →
      PublishedTogether reads db settlement options result
        ((publishSemanticTransaction reads db settlement options).state db)) ∧
    ((∀ result, (publishSemanticTransaction reads db settlement
        options).result? = some result → result.published = true →
        result.replayed = true) →
      ¬ FirstFenceRefuses db settlement options →
      (publishSemanticTransaction reads db settlement options).state db = db) ∧
    (ReachedPublication db →
      (∀ result, (publishSemanticTransaction reads db settlement
          options).result? = some result → result.published = true →
        ∀ (ops : List PublicationOp) (later : PublicationDb)
          (reads' : MindReads) (settlement' : PublishedSettlement)
          (options' : PublicationOptions),
          later = run stepPublication
            ((publishSemanticTransaction reads db settlement options).state db)
            ops →
          settlement'.cycleId = settlement.cycleId →
          settlement'.generation = settlement.generation →
          RepeatAdmitted later settlement' options' →
          publishSemanticTransaction reads' later settlement' options' =
            .committed ⟨true, true, none, result.settlementId,
              result.outboxId⟩ later) ∧
      SinglePublications db) := by
  refine ⟨fun _ => publishSemanticTransaction_together,
    fun hnot hfence => publishSemanticTransaction_unchanged hfence hnot, ?_⟩
  intro hreached
  have hpublished := hreached.published
  refine ⟨?_, hpublished.single⟩
  intro _ hresult hanswer ops later _ _ _ hlater
    hcycle hgeneration hadmitted
  obtain ⟨id, row, hrow, hrowCycle, hrowGeneration, hid, houtbox⟩ :=
    publishSemanticTransaction_identity hpublished hresult hanswer
  have hafter := (stepPublication_published
    (.publish reads settlement options) hpublished).1
  obtain ⟨hlast, hcontinues⟩ := runPublication_published hafter ops
  rw [show run stepPublication (stepPublication (.publish reads settlement
    options) db) ops = later from hlater.symm] at hlast hcontinues
  obtain ⟨_, hrow', hsame⟩ := hcontinues.settlements id row hrow
  have hsettled : (stepPublication (.publish reads settlement options)
      db).settlements.get? id ≠ none := by
    rw [show (stepPublication (.publish reads settlement options)
      db).settlements.get? id = some row from hrow]
    exact Option.some_ne_none row
  have hspeech := hcontinues.outboxId_eq hafter hlast hsettled
  rw [publishSemanticTransaction_repeat hlast hrow'
    (hsame.cycleId.trans (hrowCycle.trans hcycle.symm))
    (hsame.generation.trans (hrowGeneration.trans hgeneration.symm)) hadmitted,
    hspeech, hid, houtbox]
  rfl

end Once

section Plain

attribute [local instance] plainHost

/-- Readers that resolve nothing. -/
def quietReads : MindReads where
  resolveSources := fun _ _ => .ok []
  isLiveAssertion := fun _ => false
  isFetchableUrl := fun _ => false
  concernSnapshotHash := fun _ => ""

/-- A settlement that answers in one word. -/
def reply : PublishedSettlement where
  settlementId := "settlement"
  cycleId := "cycle"
  generation := 1
  occupantId := "occupant"
  triggerRef := "message"
  authorityEpoch := 1
  architectureEpoch := "v0.2.1"
  speech := { mode := .draft, surfaceDraft := some "yes" }

/-- The admission of the wake whose cycle is to answer. -/
def replyAdmission : WakeAdmissionInput where
  occurrenceId := "occurrence"
  triggerRef := "message"
  sourceKind := .inbox
  conversationId := "room"
  cycleId := some "cycle"
  nowMs := 0

/-- The wake is admitted. -/
def awaitingReply : PublicationDb :=
  run stepPublication {} [.kernel (.admitWake replyAdmission)]

/-- The wake is admitted, claimed and authorized. -/
def authorizedReply : List PublicationOp :=
  [.kernel (.admitWake replyAdmission),
    .kernel (.claimWake "wake:occurrence" "worker" 2 1000),
    .kernel (.authorizeWake "wake:occurrence" "wake-lease:u" 3)]

theorem publication_atomic_replied :
    PublishedTogether quietReads awaitingReply reply { clockMs := 1 }
        ⟨true, false, none, some "settlement", some 1⟩
        (stepPublication (.publish quietReads reply { clockMs := 1 })
          awaitingReply) ∧
      ∀ later, later = run stepPublication
          (stepPublication (.publish quietReads reply { clockMs := 1 })
            awaitingReply)
          [.kernel (.claimWake "wake:occurrence" "worker" 2 1000)] →
        publishSemanticTransaction quietReads later reply { clockMs := 5 } =
          .committed ⟨true, true, none, some "settlement", some 1⟩ later := by
  obtain ⟨htogether, _, honce⟩ :=
    publication_atomic quietReads awaitingReply reply { clockMs := 1 }
  refine ⟨htogether _ (by decide +kernel) rfl rfl, ?_⟩
  intro later hlater
  refine (honce ⟨_, rfl⟩).1 ⟨true, false, none, some "settlement", some 1⟩
    (by decide +kernel) rfl _ later quietReads reply { clockMs := 5 } hlater rfl
    rfl ?_
  rw [hlater]
  exact ⟨rfl, by decide +kernel⟩

/-- A newer cycle of the room has overtaken the authorized one. -/
def overtakenReply : PublicationDb :=
  run stepPublication {} (authorizedReply ++
    [.kernel (.admitWake { replyAdmission with
      occurrenceId := "later", cycleId := some "newer" })])

/-- The late call of the authorized worker. -/
def lateReply : PublicationExit :=
  publishSemanticTransaction quietReads overtakenReply reply
    { clockMs := 5, wakeLeaseToken := some "wake-lease:u" }

/-- The reply is published, and its wake then comes to be reconciled. -/
def reconcilingReply : PublicationDb :=
  run stepPublication awaitingReply
    [.publish quietReads reply { clockMs := 1 },
      .kernel (.claimWake "wake:occurrence" "worker" 2 1000),
      .kernel (.authorizeWake "wake:occurrence" "wake-lease:u" 3),
      .kernel (.reconcileWake "wake:occurrence" 4)]

/-- A repeat is refused while its wake is reconciling, which is not terminal;
and a refusal of the first fence keeps the consequence that it began. -/
theorem reconciling_wake_refuses_repeat :
    ((reconcilingReply.settlements.get? "settlement").map
        SettlementRow.generation = some 1 ∧
      (reconcilingReply.sidecar.wakes.get? "wake:occurrence").map Wake.state =
        some .reconciling ∧
      (publishSemanticTransaction quietReads reconcilingReply reply
        { clockMs := 5 }).result? =
          some (rejected .wakeReconciliationRequired)) ∧
    (lateReply.result? = some (rejected .staleGeneration) ∧
      (overtakenReply.sidecar.wakes.get? "wake:occurrence").map Wake.state =
        some .authorized ∧
      ((lateReply.state overtakenReply).sidecar.wakes.get?
        "wake:occurrence").map Wake.state = some .consequencePending) := by
  decide +kernel

end Plain

end CognitiveSidecar
