/-
Moves of the system of producers: every step keeps what was written, and every
state of a run is sound.
-/
import CognitiveSidecar.CompletionSystem

namespace CognitiveSidecar.Completions

open Option Relational

section Moves

variable [Host] {s : CompletionSystem}
variable {reading : CompletionReading} {receipt : ReceiptRow}
variable {effectId operationId : String} {db : CompletionDb} {nowMs : Int}
variable {stage : ProducerStage} {producer : Producer} {event : CompletionEvent}
variable {row record continuation : EffectContinuation}
variable {continuations : Table EffectContinuation}
variable {input : AcceptContinuationInput} {id : String}

/-- A step keeps what was written, and its state is sound. -/
structure Kept (s s' : CompletionSystem) : Prop where
  grows : Grows s.db s'.db
  sound : Sound s'

theorem Kept.refl (hsound : Sound s) : Kept s s := ⟨.refl s.db, hsound⟩

/-- Producers that stop leave a sound state, and so do those that go on from a
sound stage. -/
theorem Sound.setProducers (hsound : Sound s) {producers : Table Producer}
    (hproducers : ∀ pid producer, producers.get? pid = some producer →
      s.producers.get? pid = some producer ∨ ProducerSound s.db producer) :
    Kept s { s with producers } :=
  ⟨.refl s.db, hsound.of_grows (.refl s.db) hsound.ledger
    (fun _ _ hrow => .inl hrow) (fun _ _ hrow => .inl hrow)
    (fun _ _ hevent => .inl hevent) hproducers⟩

theorem Sound.updateContinuations (hsound : Sound s)
    {p : EffectContinuation → Bool} {f : EffectContinuation → EffectContinuation}
    (hkey : ∀ row, key (f row) = key row)
    (hupdate : ∀ id row, s.db.continuations.get? id = some row → p row = true →
      ContinuationKept row (f row) ∧ ContinuationSound s.db (f row)) :
    Kept s { s with
      db := { s.db with
        continuations := s.db.continuations.update p f hkey } } := by
  have hgrows : Grows s.db { s.db with
      continuations := s.db.continuations.update p f hkey } := by
    refine ⟨fun _ row hrow => ⟨row, hrow, fun hended => hended⟩, .refl _,
      fun id row hrow => ?_, fun _ _ hevent => hevent⟩
    refine ⟨if p row then f row else row, ?_, ?_⟩
    · rw [get?_update, hrow, map_some]
    · split
      · rename_i hp
        exact (hupdate id row hrow hp).1
      · exact .refl row
  refine ⟨hgrows, hsound.of_grows hgrows hsound.ledger
    (fun _ _ hrow => .inl hrow) (fun id row' hrow' => ?_)
    (fun _ _ hevent => .inl hevent) (fun _ _ hproducer => .inl hproducer)⟩
  rw [get?_update] at hrow'
  obtain ⟨row, hrow, hrow'⟩ := map_eq_some_iff.mp hrow'
  split at hrow'
  · rename_i hp
    rw [← hrow']
    obtain ⟨_, hnew⟩ := hupdate id row hrow hp
    exact .inr ⟨hnew.minted, hnew.named, hnew.bound, hnew.ended, hnew.linked⟩
  · rw [← hrow']
    exact .inl hrow

theorem writeOperation_kept (hsound : Sound s) (idempotencyKey : String)
    (operation : DetachedOperation) :
    Kept s { s with db := writeOperation s.db idempotencyKey operation } := by
  unfold writeOperation
  dsimp only
  split
  · rename_i operations hinsert
    have hgrows : Grows s.db { s.db with operations } := by
      refine ⟨fun id row hrow => ⟨row, get?_insert_of_some hinsert hrow,
        fun hended => hended⟩, .refl _, fun _ row hrow => ⟨row, hrow, .refl row⟩,
        fun _ _ hevent => hevent⟩
    refine ⟨hgrows, hsound.of_grows hgrows hsound.ledger
      (fun id row hrow => ?_) (fun _ _ hrow => .inl hrow)
      (fun _ _ hevent => .inl hevent) (fun _ _ hproducer => .inl hproducer)⟩
    rw [get?_insert hinsert] at hrow
    split at hrow
    · rw [← some.inj hrow]
      refine .inr ⟨⟨idempotencyKey, rfl⟩, ?_⟩
      intro eventId hlinked
      cases hlinked
    · exact .inl hrow
  · have hgrows : Grows s.db { s.db with
        operations := s.db.operations.update
          (·.operationId = detachedOperationIdFor idempotencyKey)
          (rewrittenOperation operation)
          (rewrittenOperation_key operation) } := by
      refine ⟨fun id row hrow => ?_, .refl _,
        fun _ row hrow => ⟨row, hrow, .refl row⟩, fun _ _ hevent => hevent⟩
      refine ⟨_, by rw [get?_update, hrow, map_some], ?_⟩
      intro hended
      split
      · unfold rewrittenOperation
        obtain ⟨terminal, hterminal⟩ := ne_none_iff_exists'.mp hended
        rw [hterminal]
        exact some_ne_none terminal
      · exact hended
    refine ⟨hgrows, hsound.of_grows hgrows hsound.ledger
      (fun id row' hrow' => ?_) (fun _ _ hrow => .inl hrow)
      (fun _ _ hevent => .inl hevent) (fun _ _ hproducer => .inl hproducer)⟩
    rw [get?_update] at hrow'
    obtain ⟨row, hrow, hrow'⟩ := map_eq_some_iff.mp hrow'
    split at hrow'
    · rw [← hrow']
      have hold := hsound.operations id row hrow
      refine .inr ⟨hold.minted, fun eventId hlinked => ?_⟩
      obtain ⟨hended, hnames⟩ := hold.linked eventId hlinked
      obtain ⟨terminal, hterminal⟩ := ne_none_iff_exists'.mp hended
      refine ⟨?_, hnames.mono hgrows⟩
      unfold rewrittenOperation
      rw [hterminal]
      exact some_ne_none terminal
    · rw [← hrow']
      exact .inl hrow

theorem effect_kept (hsound : Sound s) {op keyed : EffectOp}
    (hkeyed : keyedOp s.db.ledger op = some keyed) :
    Kept s { s with
      db := { s.db with ledger := effectStep keyed s.db.ledger } } := by
  have hgrows : Grows s.db
      { s.db with ledger := effectStep keyed s.db.ledger } :=
    ⟨fun _ row hrow => ⟨row, hrow, fun hended => hended⟩,
      effectChange_kept (effectStep_change keyed hsound.ledger.effects),
      fun _ row hrow => ⟨row, hrow, .refl row⟩, fun _ _ hevent => hevent⟩
  exact ⟨hgrows, hsound.of_grows hgrows (hsound.ledger.step hkeyed)
    (fun _ _ hrow => .inl hrow) (fun _ _ hrow => .inl hrow)
    (fun _ _ hevent => .inl hevent) (fun _ _ hproducer => .inl hproducer)⟩

omit [Host] in
/-- A row that is read has its names. -/
theorem mapContinuation_some (hread : mapContinuation row = some record) :
    record = row.asRead ∧ row.conversationId ≠ "" ∧ row.cycleId ≠ "" ∧
      row.runtimeId ≠ "" ∧ row.leaseToken ≠ "" := by
  unfold mapContinuation at hread
  split at hread
  · cases hread
  · rename_i hnames
    simp only [not_or] at hnames
    exact ⟨(some.inj hread).symm, hnames.2.1, hnames.2.2.1,
      hnames.2.2.2.1, hnames.2.2.2.2⟩

/-- What an accepted continuation starts as. -/
theorem acceptEffectContinuation_ok {continuations' : Table EffectContinuation}
    {ledger : EffectLedger} {reading : AcceptReading} {drawn : Nat}
    (hok : acceptEffectContinuation continuations ledger reading input drawn =
      .ok (continuation, continuations')) :
    ∃ row inFlight, continuations.insert? row = some continuations' ∧
      row.effectId = input.effectId ∧ row.state = .running ∧
      row.completionEventRef = none ∧
      (row.conversationId ≠ "" ∧ row.cycleId ≠ "" ∧ row.runtimeId ≠ "" ∧
        row.leaseToken ≠ "") ∧
      ledger.effects.get? input.effectId = some inFlight ∧
      inFlight.cycleId = row.cycleId ∧
      inFlight.generation = row.generation := by
  replace hok := passed hok
  obtain ⟨hadmitted, hok⟩ := of_require hok
  replace hok := passed hok
  replace hok := passed hok
  replace hok := passed hok
  replace hok := passed hok
  replace hok := passed hok
  obtain ⟨_, hinsert, hok⟩ := of_orFault hok
  replace hok := passed hok
  obtain ⟨_, hread, hok⟩ := of_orFault hok
  obtain ⟨_, rfl⟩ := of_pure_pair hok
  obtain ⟨inFlight, hinFlight, hbound⟩ := (any_eq_true _ _).mp hadmitted
  unfold isDurablyAdmitted at hbound
  simp only [Bool.and_eq_true, decide_eq_true_eq] at hbound
  unfold getEffectContinuation at hread
  split at hread
  · cases hread
  · obtain ⟨_, hrow, hmapped⟩ := bind_eq_some_iff.mp hread
    rw [get?_insert hinsert] at hrow
    rw [if_pos (show input.effectId = key _ from rfl)] at hrow
    obtain ⟨_, hnames⟩ := mapContinuation_some hmapped
    rw [← some.inj hrow] at hnames
    exact ⟨_, inFlight, hinsert, rfl, rfl, rfl, hnames, hinFlight,
      hbound.1.1.2, hbound.1.2⟩

theorem accept_kept (hsound : Sound s) {uuid : String} {reading : AcceptReading}
    (drawn : Nat)
    (hok : acceptEffectContinuation s.db.continuations s.db.ledger reading
      { input with effectId := effectIdFor uuid } s.db.drawn =
        .ok (continuation, continuations)) :
    Kept s { s with db := { s.db with continuations, drawn } } := by
  obtain ⟨row, inFlight, hinsert, hid, hstate, hfree, hnames, hinFlight,
    hcycle, hgeneration⟩ := acceptEffectContinuation_ok hok
  have hgrows : Grows s.db { s.db with continuations, drawn } :=
    ⟨fun _ row hrow => ⟨row, hrow, fun hended => hended⟩, .refl _,
      fun _ row hrow => ⟨row, get?_insert_of_some hinsert hrow,
        .refl row⟩, fun _ _ hevent => hevent⟩
  refine ⟨hgrows, hsound.of_grows hgrows hsound.ledger
    (fun _ _ hrow => .inl hrow) (fun id other hother => ?_)
    (fun _ _ hevent => .inl hevent) (fun _ _ hproducer => .inl hproducer)⟩
  rw [get?_insert hinsert] at hother
  split at hother
  · rw [← some.inj hother]
    right
    refine ⟨⟨uuid, hid⟩, hnames, ⟨inFlight, ?_, hcycle, hgeneration⟩, ?_, ?_⟩
    · rw [hid]
      exact hinFlight
    · intro hended
      exact absurd hstate hended
    · intro eventId hlinked
      rw [hfree] at hlinked
      cases hlinked
  · exact .inl hother

theorem renew_kept (hsound : Sound s) (effectId leaseToken : String)
    (nowMs leaseMs : Int) :
    Kept s { s with
      db := { s.db with
        continuations := (renewEffectContinuationLease s.db.continuations
          effectId leaseToken nowMs leaseMs).2 } } := by
  unfold renewEffectContinuationLease
  split
  · exact .refl hsound
  · split
    · exact .refl hsound
    · refine hsound.updateContinuations (EffectContinuation.renewed_key _ _)
        fun id row hrow _ => ?_
      have hold := hsound.continuations id row hrow
      exact ⟨⟨rfl, fun _ => ⟨rfl, rfl, rfl⟩, fun _ hlinked => hlinked⟩,
        hold.minted, hold.named, hold.bound, hold.ended, hold.linked⟩

/-- A running continuation ends once its receipt is final. -/
theorem ended_kept (hsound : Sound s)
    (hrow : s.db.continuations.get? id = some row)
    (hrunning : row.state = .running)
    (hreceipt : s.db.ledger.receipts.get? row.effectId = some receipt)
    (hfinal : receipt.outcome ≠ .inProgress) (state : ContinuationState)
    (terminalClass effectTruth : String) (nowMs : Int) :
    ContinuationKept row (row.ended state terminalClass effectTruth nowMs) ∧
      ContinuationSound s.db
        (row.ended state terminalClass effectTruth nowMs) := by
  have hold := hsound.continuations id row hrow
  refine ⟨⟨rfl, fun hended => absurd hrunning hended,
    fun _ hlinked => hlinked⟩, hold.minted, hold.named, hold.bound,
    fun _ => ⟨receipt, hreceipt, hfinal⟩, fun eventId hlinked => ?_⟩
  exact absurd hrunning (hold.linked eventId hlinked).1

omit [Host] in
theorem filter_final {receipts : Table ReceiptRow}
    (hfound : (receipts.get? id).filter (·.outcome ≠ .inProgress) =
      some receipt) :
    receipts.get? id = some receipt ∧ receipt.outcome ≠ .inProgress := by
  obtain ⟨hreceipt, hfinal⟩ := filter_eq_some_iff.mp hfound
  exact ⟨hreceipt, by simpa using hfinal⟩

theorem finish_kept (hsound : Sound s) {leaseToken : String} {nowMs : Int}
    (hreceipt : s.db.ledger.receipts.get? effectId = some receipt)
    (hfinal : receipt.outcome ≠ .inProgress) :
    Kept s { s with
      db := { s.db with
        continuations := (finishFromReceipt s.db.continuations effectId
          leaseToken receipt nowMs).2 } } := by
  unfold finishFromReceipt finishEffectContinuation
  split
  · exact .refl hsound
  · refine hsound.updateContinuations (EffectContinuation.ended_key _ _ _ _)
      fun id row hrow hp => ?_
    simp only [Bool.and_eq_true, decide_eq_true_eq] at hp
    refine ended_kept hsound hrow hp.1.2 ?_ hfinal _ _ _ _
    rw [hp.1.1]
    exact hreceipt

theorem abandonByReceipt_kept (hsound : Sound s) {nowMs : Int}
    (hreceipt : s.db.ledger.receipts.get? effectId = some receipt)
    (hfinal : receipt.outcome ≠ .inProgress) :
    Kept s { s with db := abandonByReceipt s.db effectId receipt nowMs } := by
  unfold abandonByReceipt abandonEffectContinuation
  split
  · exact .refl hsound
  · refine hsound.updateContinuations (EffectContinuation.ended_key _ _ _ _)
      fun id row hrow hp => ?_
    simp only [Bool.and_eq_true, decide_eq_true_eq] at hp
    refine ended_kept hsound hrow hp.2 ?_ hfinal _ _ _ _
    rw [hp.1]
    exact hreceipt

omit [Host] in
theorem Grows.trans {middle db' : CompletionDb} (hfirst : Grows db middle)
    (hsecond : Grows middle db') : Grows db db' := by
  refine ⟨fun id row hrow => ?_, ⟨fun id row hrow => ?_,
    fun id receipt hreceipt hfinal => ?_⟩, fun id row hrow => ?_,
    fun id event hevent => hsecond.inbox id event (hfirst.inbox id event hevent)⟩
  · obtain ⟨row₁, hrow₁, hended₁⟩ := hfirst.operations id row hrow
    obtain ⟨row₂, hrow₂, hended₂⟩ := hsecond.operations id row₁ hrow₁
    exact ⟨row₂, hrow₂, fun hended => hended₂ (hended₁ hended)⟩
  · obtain ⟨row₁, hrow₁, hsame₁⟩ := hfirst.ledger.bound id row hrow
    obtain ⟨row₂, hrow₂, hsame₂⟩ := hsecond.ledger.bound id row₁ hrow₁
    exact ⟨row₂, hrow₂, hsame₂.cycleId.trans hsame₁.cycleId,
      hsame₂.generation.trans hsame₁.generation,
      hsame₂.idempotencyKey.trans hsame₁.idempotencyKey⟩
  · exact hsecond.ledger.final id receipt
      (hfirst.ledger.final id receipt hreceipt hfinal) hfinal
  · obtain ⟨row₁, hrow₁, hkept₁⟩ := hfirst.continuations id row hrow
    obtain ⟨row₂, hrow₂, hkept₂⟩ := hsecond.continuations id row₁ hrow₁
    exact ⟨row₂, hrow₂, hkept₁.trans hkept₂⟩

theorem Kept.trans {middle s' : CompletionSystem} (hfirst : Kept s middle)
    (hsecond : Kept middle s') : Kept s s' :=
  ⟨hfirst.grows.trans hsecond.grows, hsecond.sound⟩

theorem recoverContinuation_kept (hsound : Sound s)
    {continuation : EffectContinuation} (nowMs : Int) (runtimeId : String) :
    Kept s { s with
      db := (recoverContinuation s.db nowMs runtimeId continuation).2 } := by
  unfold recoverContinuation
  split
  · exact .refl hsound
  · split
    · rename_i hfound
      obtain ⟨hreceipt, hfinal⟩ := filter_final hfound
      exact abandonByReceipt_kept hsound hreceipt hfinal
    · split
      · exact .refl hsound
      · rename_i inFlight hinFlight
        dsimp only
        have hkeyed : keyedOp s.db.ledger (.recordEffectReceipt
            (unknownReceipt continuation inFlight nowMs)) =
              some (.recordEffectReceipt
                (unknownReceipt continuation inFlight nowMs)) := by
          unfold keyedOp
          dsimp only
          rw [show s.db.ledger.getInFlightByEffectId
            (unknownReceipt continuation inFlight nowMs).effectId =
              some inFlight from hinFlight]
          rfl
        have hrecorded := effect_kept hsound hkeyed
        split
        · exact hrecorded
        · rename_i hstored
          obtain ⟨hreceipt, hfinal⟩ := @recordEffectReceipt_final _
            hsound.ledger (unknownReceipt continuation inFlight nowMs) _ _
            hinFlight rfl nofun hstored
          exact hrecorded.trans
            (abandonByReceipt_kept hrecorded.sound hreceipt hfinal)

omit [Host] in
theorem getEffectContinuation_some
    (hread : getEffectContinuation continuations effectId = some record) :
    ∃ row, continuations.get? effectId = some row ∧ record = row.asRead ∧
      row.effectId = effectId := by
  unfold getEffectContinuation at hread
  split at hread
  · cases hread
  · obtain ⟨row, hrow, hmapped⟩ := bind_eq_some_iff.mp hread
    exact ⟨row, hrow, (mapContinuation_some hmapped).1, key_of_get? hrow⟩

/-- What a producer that will write starts from. -/
theorem planEffectCompletion_sound (pid : Nat)
    (hstage : (planEffectCompletion db operationId nowMs reading).stage =
      some stage) :
    ProducerSound db { pid, operationId, nowMs, stage } := by
  unfold planEffectCompletion at hstage
  cases hread : getEffectContinuation db.continuations operationId with
  | none =>
    rw [hread] at hstage
    cases hstage
  | some =>
    rw [hread] at hstage
    dsimp only at hstage
    obtain ⟨row, hrow, rfl, hid⟩ := getEffectContinuation_some hread
    split at hstage
    · cases hstage
    · rename_i hrunning
      cases hfound : (getEffectReceipt db.ledger operationId).filter
          (·.outcome ≠ .inProgress) with
      | none =>
        rw [hfound] at hstage
        cases hstage
      | some receipt =>
        rw [hfound] at hstage
        dsimp only at hstage
        obtain ⟨hreceipt, hfinal⟩ := filter_final hfound
        split at hstage
        · cases hstage
        · split_ifs at hstage with hposted
          · cases hstage
            exact ⟨⟨row, hrow, hrunning⟩, rfl, hposted⟩
          · split at hstage
            · cases hstage
            · cases hstage
              subst hid
              exact ⟨rfl, ⟨rfl, rfl, row, receipt, _, _, hrow, hrunning,
                hreceipt, hfinal, rfl, rfl⟩, rfl⟩

theorem planCompletion_sound (pid : Nat)
    (hstage : (planCompletion db operationId nowMs reading).stage =
      some stage) :
    ProducerSound db { pid, operationId, nowMs, stage } := by
  unfold planCompletion at hstage
  split_ifs at hstage
  · cases hstage
  · cases hrow : db.operations.get? operationId with
    | none =>
      rw [hrow] at hstage
      exact planEffectCompletion_sound pid hstage
    | some row =>
      rw [hrow] at hstage
      have hid : row.operationId = operationId := key_of_get? hrow
      unfold planDetachedCompletion at hstage
      dsimp only at hstage
      split at hstage
      · cases hstage
      · rename_i terminal hterminal
        split at hstage
        · cases hstage
        · cases hstage
          subst hid
          refine ⟨rfl, ⟨rfl, rfl, row, hrow, ?_⟩, rfl⟩
          rw [hterminal]
          exact some_ne_none terminal

theorem begin_kept (hsound : Sound s) (pid : Nat)
    (hstage : (planCompletion s.db operationId nowMs reading).stage =
      some stage) :
    Kept s { s with
      producers := s.producers.insertNew { pid, operationId, nowMs, stage } } := by
  refine hsound.setProducers fun _ _ hproducer => ?_
  rcases Table.of_get?_insertNew hproducer with rfl | hold
  · exact .inr (planCompletion_sound pid hstage)
  · exact .inl hold

/-- Going on to a stage that is sound in the state before. -/
theorem Sound.stageProducer (hsound : Sound s)
    (hproducer : s.producers.get? producer.pid = some producer)
    (hstage : ProducerSound s.db (producer.atStage stage)) :
    Kept s { s with
      producers := s.producers.update (·.pid = producer.pid)
        (Producer.atStage stage) (Producer.atStage_key stage) } := by
  refine hsound.setProducers fun pid _ hother => ?_
  rw [get?_update] at hother
  obtain ⟨old, hold, hother⟩ := map_eq_some_iff.mp hother
  split at hother
  · rename_i hpid
    have hsame : old = producer := by
      have hkey : old.pid = pid := key_of_get? hold
      have hown : old.pid = producer.pid := by simpa using hpid
      rw [← hkey, hown, hproducer] at hold
      exact (some.inj hold).symm
    rw [← hother, hsame]
    exact .inr hstage
  · rw [← hother]
    exact .inl hold

/-- An event that is posted stays what it was first. -/
theorem postEvent_kept (hsound : Sound s) (hevent : EventSound s.db event) :
    Kept s { s with db := postEvent s.db event } := by
  have hgrows : Grows s.db (postEvent s.db event) := by
    refine ⟨fun _ row hrow => ⟨row, hrow, fun hended => hended⟩, .refl _,
      fun _ row hrow => ⟨row, hrow, .refl row⟩, fun id old hold => ?_⟩
    unfold postEvent Table.insertNew
    cases hinsert : s.db.inbox.insert? event with
    | none => exact hold
    | some inbox => exact get?_insert_of_some hinsert hold
  refine ⟨hgrows, hsound.of_grows hgrows hsound.ledger
    (fun _ _ hrow => .inl hrow) (fun _ _ hrow => .inl hrow)
    (fun id other hother => ?_) (fun _ _ hproducer => .inl hproducer)⟩
  rcases Table.of_get?_insertNew hother with rfl | hold
  · exact .inr (hevent.mono hgrows)
  · exact .inl hold

omit [Host] in
theorem postEvent_posted (db : CompletionDb) (event : CompletionEvent) :
    ((postEvent db event).inbox.get? event.id).isSome = true := by
  unfold postEvent Table.insertNew
  cases hinsert : db.inbox.insert? event with
  | none =>
    cases hold : db.inbox.get? event.id with
    | none =>
      obtain ⟨_, hinserted⟩ := exists_insert? hold
      rw [hinsert] at hinserted
      cases hinserted
    | some =>
      rw [getD_none, hold]
      rfl
  | some =>
    rw [getD_some, get?_insert hinsert]
    rw [if_pos (show event.id = key event from rfl)]
    rfl

theorem noteEvidence_kept (hsound : Sound s) (note : SystemEvidence) :
    Kept s { s with db := noteEvidence s.db note } := by
  have hgrows : Grows s.db (noteEvidence s.db note) :=
    ⟨fun _ row hrow => ⟨row, hrow, fun hended => hended⟩, .refl _,
      fun _ row hrow => ⟨row, hrow, .refl row⟩, fun _ _ hevent => hevent⟩
  exact ⟨hgrows, hsound.of_grows hgrows hsound.ledger
    (fun _ _ hrow => .inl hrow) (fun _ _ hrow => .inl hrow)
    (fun _ _ hevent => .inl hevent) (fun _ _ hproducer => .inl hproducer)⟩

theorem linkCompletion_kept (hsound : Sound s) {isDetached : Bool}
    {eventId : String} (nowMs : Int)
    (hended : HasEnded s.db isDetached operationId)
    (hnames : NamesEvent s.db operationId eventId) :
    Kept s { s with
      db := linkCompletion s.db isDetached operationId eventId nowMs } := by
  cases isDetached with
  | true =>
    obtain ⟨row, hrow, hterminal⟩ := hended
    have hgrows : Grows s.db
        (linkCompletion s.db true operationId eventId nowMs) := by
      refine ⟨fun id old hold => ?_, .refl _,
        fun _ row hrow => ⟨row, hrow, .refl row⟩, fun _ _ hevent => hevent⟩
      unfold linkCompletion
      rw [if_pos rfl]
      refine ⟨_, by rw [get?_update, hold, map_some], ?_⟩
      split
      · exact fun hended => hended
      · exact fun hended => hended
    refine ⟨hgrows, hsound.of_grows hgrows hsound.ledger
      (fun id other hother => ?_) (fun _ _ hrow => .inl hrow)
      (fun _ _ hevent => .inl hevent) (fun _ _ hproducer => .inl hproducer)⟩
    have hupdated : (s.db.operations.update (·.operationId = operationId)
        (completedOperation eventId nowMs)
        (completedOperation_key eventId nowMs)).get? id = some other := hother
    rw [get?_update] at hupdated
    obtain ⟨old, hold, hother'⟩ := map_eq_some_iff.mp hupdated
    split at hother'
    · rename_i hid
      have hsame : old = row := by
        have hkey : old.operationId = id := key_of_get? hold
        have hown : old.operationId = operationId := by simpa using hid
        rw [← hkey, hown, hrow] at hold
        exact (some.inj hold).symm
      subst hsame
      rw [← hother']
      refine .inr ⟨(hsound.operations _ _ hrow).minted, fun linked hlinked => ?_⟩
      refine ⟨hterminal, ?_⟩
      rw [← some.inj hlinked]
      have hid' : old.operationId = operationId := by simpa using hid
      rw [show (completedOperation eventId nowMs old).operationId =
        operationId from hid']
      exact hnames.mono hgrows
    · rw [← hother']
      exact .inl hold
  | false =>
    unfold linkCompletion
    rw [if_neg Bool.false_ne_true]
    unfold recordEffectContinuationCompletion
    split
    · exact .refl hsound
    · refine hsound.updateContinuations
        (EffectContinuation.linked_key _ _) fun id old hold hp => ?_
      simp only [Bool.and_eq_true, decide_eq_true_eq] at hp
      have hfound := hsound.continuations id old hold
      refine ⟨⟨rfl, fun _ => ⟨rfl, rfl, rfl⟩, fun linked hlinked => ?_⟩,
        hfound.minted, hfound.named, hfound.bound, hfound.ended,
        fun linked hlinked => ⟨hp.2, ?_⟩⟩
      · unfold EffectContinuation.linked
        rw [hlinked, some_or]
      · cases hbefore : old.completionEventRef with
        | some before =>
          have hkept : some before = some linked := by
            rw [← hlinked]
            unfold EffectContinuation.linked
            rw [hbefore, some_or]
          rw [← some.inj hkept]
          exact (hfound.linked before hbefore).2
        | none =>
          have hnew : some eventId = some linked := by
            rw [← hlinked]
            unfold EffectContinuation.linked
            rw [hbefore, none_or]
          rw [← some.inj hnew]
          rw [show (old.linked eventId nowMs).effectId = operationId
            from hp.1]
          exact hnames

theorem EventSound.hasEnded (hevent : EventSound db event) :
    HasEnded db event.payload.isDetached event.payload.operationId := by
  obtain ⟨_, _, hpayload⟩ := hevent
  cases hkind : event.payload with
  | detached =>
    rw [hkind] at hpayload
    exact hpayload
  | effect =>
    rw [hkind] at hpayload
    obtain ⟨row, _, _, _, hrow, hended, _⟩ := hpayload
    exact ⟨row, hrow, hended⟩

theorem advanceProducer_kept (hsound : Sound s)
    (hproducer : s.producers.get? producer.pid = some producer) :
    Kept s (advanceProducer s producer) := by
  have hproduces := hsound.producers _ producer hproducer
  unfold ProducerSound at hproduces
  unfold advanceProducer
  cases hstage : producer.stage with
  | posting event =>
    rw [hstage] at hproduces
    obtain ⟨habout, hevent, hnote⟩ := hproduces
    have hposted := postEvent_kept hsound hevent
    exact hposted.trans (hposted.sound.stageProducer hproducer
      ⟨habout, hevent.mono hposted.grows, hnote,
        postEvent_posted s.db event⟩)
  | noting event note =>
    rw [hstage] at hproduces
    obtain ⟨habout, hevent, _, hposted⟩ := hproduces
    have hnoted := noteEvidence_kept hsound note
    have hid : event.id = completionEventIdFor producer.operationId := by
      rw [← habout]
      exact hevent.1
    rw [hid] at hposted
    refine hnoted.trans (hnoted.sound.stageProducer hproducer
      ⟨?_, hid, hposted⟩)
    have hended := hevent.hasEnded
    rw [habout] at hended
    exact hended
  | linking =>
    rw [hstage] at hproduces
    have hlinked := linkCompletion_kept hsound producer.nowMs hproduces.1
      hproduces.2
    exact hlinked.trans (hlinked.sound.setProducers fun _ _ hother =>
      .inl (Table.of_get?_delete hother))

/-- Every step keeps what was written, and its state is sound. -/
theorem completionStep_kept (hsound : Sound s) (step : CompletionStep) :
    Kept s (completionStep step s) := by
  unfold completionStep
  cases step with
  | operate idempotencyKey operation =>
    exact writeOperation_kept hsound idempotencyKey operation
  | effect =>
    dsimp only
    split
    · exact .refl hsound
    · rename_i hkeyed
      exact effect_kept hsound hkeyed
  | accept =>
    dsimp only
    split
    · exact .refl hsound
    · rename_i hok
      exact accept_kept hsound _ hok
  | renew effectId leaseToken nowMs leaseMs =>
    exact renew_kept hsound effectId leaseToken nowMs leaseMs
  | finish =>
    dsimp only
    split
    · exact .refl hsound
    · rename_i hfound
      obtain ⟨hreceipt, hfinal⟩ := filter_final hfound
      exact finish_kept hsound hreceipt hfinal
  | recover _ nowMs runtimeId =>
    dsimp only
    split
    · exact .refl hsound
    · exact recoverContinuation_kept hsound nowMs runtimeId
  | begin pid =>
    dsimp only
    split
    · exact .refl hsound
    · rename_i hstage
      exact begin_kept hsound pid hstage
  | advance pid =>
    dsimp only
    split
    · exact .refl hsound
    · rename_i producer hproducer
      have hpid : producer.pid = pid := key_of_get? hproducer
      subst hpid
      exact advanceProducer_kept hsound hproducer
  | crash =>
    exact hsound.setProducers fun _ _ hother =>
      .inl (Table.of_get?_delete hother)

theorem emptySystem_sound : Sound {} where
  ledger := emptyLedger_sound
  operations := by
    intro _ _ hrow
    cases hrow
  continuations := by
    intro _ _ hrow
    cases hrow
  events := by
    intro _ _ hevent
    cases hevent
  producers := by
    intro _ _ hproducer
    cases hproducer

theorem run_sound (steps : List CompletionStep) :
    Sound (run completionStep {} steps) :=
  run_preserves (P := Sound)
    (fun step _ hsound => (completionStep_kept hsound step).sound)
    emptySystem_sound steps

/-- What is written in a run stays through the rest of it. -/
theorem run_kept (hsound : Sound s) (steps : List CompletionStep) :
    Kept s (run completionStep s steps) :=
  run_preserves (P := Kept s)
    (fun step _ hkept =>
      hkept.trans (completionStep_kept hkept.sound step)) (.refl hsound) steps

/-- In every run, crashes included, an event tells of an operation that has
ended, a completion reference names a stored event, and no later run loses
either, or reopens an operation. -/
theorem completions_agree (steps more : List CompletionStep) :
    let s := run completionStep {} steps
    Sound s ∧ Grows s.db (run completionStep s more).db := by
  have hsound := run_sound steps
  exact ⟨hsound, (run_kept hsound more).grows⟩

end Moves

end CognitiveSidecar.Completions
