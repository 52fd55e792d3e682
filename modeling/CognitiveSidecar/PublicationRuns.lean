/-
Publications among the operations of the kernel and the subsystems around it,
in any order: what every reachable state keeps, and how a repeat is answered.
-/
import CognitiveSidecar.PublicationAtomicity
import CognitiveSidecar.System

namespace CognitiveSidecar

open Option Relational

/-- The columns that a speech row never changes. -/
structure SameSpeech (old new : OutboxRow) : Prop where
  outboxId : new.outboxId = old.outboxId
  settlementId : new.settlementId = old.settlementId
  cycleId : new.cycleId = old.cycleId
  generation : new.generation = old.generation
  conversationId : new.conversationId = old.conversationId

theorem SameSpeech.refl (row : OutboxRow) : SameSpeech row row :=
  ⟨rfl, rfl, rfl, rfl, rfl⟩

theorem SameSpeech.trans {a b c : OutboxRow} (hab : SameSpeech a b)
    (hbc : SameSpeech b c) : SameSpeech a c where
  outboxId := hbc.outboxId.trans hab.outboxId
  settlementId := hbc.settlementId.trans hab.settlementId
  cycleId := hbc.cycleId.trans hab.cycleId
  generation := hbc.generation.trans hab.generation
  conversationId := hbc.conversationId.trans hab.conversationId

/-- The columns that a settlement row never changes. -/
structure SameSettlement (old new : SettlementRow) : Prop where
  cycleId : new.cycleId = old.cycleId
  generation : new.generation = old.generation
  wakeId : new.wakeId = old.wakeId
  semanticPass : new.semanticPass = old.semanticPass

theorem SameSettlement.refl (row : SettlementRow) : SameSettlement row row :=
  ⟨rfl, rfl, rfl, rfl⟩

theorem SameSettlement.trans {a b c : SettlementRow} (hab : SameSettlement a b)
    (hbc : SameSettlement b c) : SameSettlement a c where
  cycleId := hbc.cycleId.trans hab.cycleId
  generation := hbc.generation.trans hab.generation
  wakeId := hbc.wakeId.trans hab.wakeId
  semanticPass := hbc.semanticPass.trans hab.semanticPass

/-- A rewriting of speech rows by delivery, recovery or forgetting. -/
structure SpeechRewrite where
  rewrite : OutboxRow → OutboxRow
  keeps : ∀ row, SameSpeech row (rewrite row)

/-- The tables that other subsystems write beside the kernel's, and how they
rewrite the payloads of settlements. -/
structure ForeignPublication where
  mind : Mind
  observations : Table Observation
  claims : Table CognitionClaim
  aftermath : Table AftermathRow
  causalLedger : List CausalLedgerRow
  payload : SettlementRow → Option PublishedSettlement

/-- An operation on the tables of publication. -/
inductive PublicationOp
  | kernel (op : Op)
  | publish (reads : MindReads) (settlement : PublishedSettlement)
      (options : PublicationOptions)
  | deliver (change : SpeechRewrite)
  | outside (tables : ForeignPublication)

/-- Another subsystem leaves the speech rows to delivery. -/
def Op.sparing (op : Op) (outbox : Table OutboxRow) : Op :=
  match op with
  | .outside tables drawn => .outside { tables with outbox } drawn
  | op => op

variable [Host]
variable {before after db prepared : PublicationDb}
variable {settlement : PublishedSettlement} {wake : Wake}
variable {outboxId : Option Nat}

def stepPublication (op : PublicationOp) (db : PublicationDb) :
    PublicationDb :=
  match op with
  | .kernel op =>
    { db with sidecar := step (op.sparing db.sidecar.outbox) db.sidecar }
  | .publish reads settlement options =>
    (publishSemanticTransaction reads db settlement options).state db
  | .deliver change =>
    { db with
      sidecar := { db.sidecar with
        outbox := db.sidecar.outbox.update (fun _ => true) change.rewrite
          fun row => (change.keeps row).outboxId } }
  | .outside tables =>
    { db with
      mind := tables.mind, observations := tables.observations
      claims := tables.claims, aftermath := tables.aftermath
      causalLedger := tables.causalLedger
      settlements := db.settlements.update (fun _ => true) fun row =>
        { row with payload := tables.payload row } }

/-- A state that some run of operations from the empty tables ends in. -/
abbrev ReachedPublication (db : PublicationDb) : Prop :=
  Reachable stepPublication {} db

/-- A step that publishes nothing: rows stay, under their own identities. -/
structure Carried (before after : PublicationDb) : Prop where
  trace : ∃ permit, Trace permit before.sidecar after.sidecar
  settlements : Table.Rewrites SameSettlement before.settlements
    after.settlements
  outbox : Table.Rewrites SameSpeech before.sidecar.outbox after.sidecar.outbox

omit [Host] in
theorem sameSpeech_rewrites {before after : Table OutboxRow}
    (hrewrites : Table.Rewrites OutboxChange before after) :
    Table.Rewrites SameSpeech before after := by
  intro number
  cases hrow : after.get? number with
  | none =>
    cases hold : before.get? number with
    | none => exact Option.Rel.none
    | some =>
      obtain ⟨_, hnew, _⟩ := hrewrites.forward hold
      rw [hrow] at hnew
      cases hnew
  | some =>
    obtain ⟨_, hold, hchange⟩ := hrewrites.backward hrow
    rw [hold]
    refine Option.Rel.some ⟨?_, hchange.settlementId, hchange.cycleId,
      hchange.generation, hchange.conversationId⟩
    exact (key_of_get? hrow).trans (key_of_get? hold).symm

theorem PreparedFrom.carried (hprepared : PreparedFrom before after) :
    Carried before after where
  trace := ⟨publicationPermit, hprepared.trace⟩
  settlements := by
    rw [hprepared.settlements]
    exact Table.Rewrites.refl SameSettlement.refl _
  outbox := sameSpeech_rewrites (hprepared.trace.outbox_rewrites id)

/-- An operation of the kernel keeps every speech row. -/
theorem kernel_outbox (op : Op) {db : Sidecar} (hsound : Sound db) :
    Table.Rewrites SameSpeech db.outbox
      (step (op.sparing db.outbox) db).outbox := by
  by_cases houtside : op.isOutside = true
  · cases op <;> try cases houtside
    exact Table.Rewrites.refl SameSpeech.refl _
  · have hsparing : op.sparing db.outbox = op := by
      cases op <;> first | rfl | exact absurd rfl houtside
    rw [hsparing]
    exact sameSpeech_rewrites ((step_trace hsound).outbox_rewrites houtside)

theorem kernel_carried (op : Op) (hsound : Sound db.sidecar) :
    Carried db (stepPublication (.kernel op) db) where
  trace := ⟨_, step_trace hsound⟩
  settlements := Table.Rewrites.refl SameSettlement.refl _
  outbox := kernel_outbox op hsound

theorem deliver_carried (change : SpeechRewrite) (db : PublicationDb) :
    Carried db (stepPublication (.deliver change) db) where
  trace := ⟨{ publicationPermit with outside := True },
    Moved.trace (.aside (Nat.le_refl _) rfl rfl rfl rfl (.inl trivial))⟩
  settlements := Table.Rewrites.refl SameSettlement.refl _
  outbox := Table.rewrites_update (fun row => (change.keeps row).outboxId)
    (fun _ row _ _ => change.keeps row) SameSpeech.refl

theorem outside_carried (tables : ForeignPublication) (db : PublicationDb) :
    Carried db (stepPublication (.outside tables) db) where
  trace := ⟨publicationPermit, .refl _⟩
  settlements := by
    refine Table.rewrites_update
      (f := fun row => { row with payload := tables.payload row })
      (fun _ => rfl) ?_ SameSettlement.refl
    intro _ _ _ _
    exact ⟨rfl, rfl, rfl, rfl⟩
  outbox := Table.Rewrites.refl SameSpeech.refl _

/-- A fresh publication, split into its deltas and its rows. -/
structure Publishes (db prepared after : PublicationDb)
    (settlement : PublishedSettlement) (wake : Wake)
    (outboxId : Option Nat) : Prop where
  deltas : PreparedFrom db prepared
  owner : getWakeForCycle db.sidecar settlement.cycleId = some wake
  current : isExactCycle prepared.sidecar settlement = true
  recorded : ∃ conversationId intent options,
    Recorded prepared after settlement wake.wakeId conversationId intent
      options outboxId

theorem PublishedTogether.publishes {reads : MindReads}
    {options : PublicationOptions} {result : PublicationResult}
    (htogether : PublishedTogether reads db settlement options result after) :
    ∃ prepared wake,
      Publishes db prepared after settlement wake result.outboxId := by
  obtain ⟨wake, _, _, _, prepared, hwake, hbegun, hsourced, hdeltas, hfence, _,
    hrecorded⟩ := htogether
  refine ⟨prepared, wake, ?_, (publishableWake_ok hwake).1, ?_, _, _, _,
    hrecorded⟩
  · exact ((openConsequence_prepared hbegun).trans
      (requireSources_prepared hsourced)).trans
        (applySemanticDeltas_prepared hdeltas)
  · exact (Bool.and_eq_true_iff.mp hfence).1

/-- A step publishes nothing, or publishes one settlement afresh. -/
theorem stepPublication_cases (op : PublicationOp) (hsound : Sound db.sidecar) :
    Carried db (stepPublication op db) ∨
      ∃ prepared settlement wake outboxId,
        Publishes db prepared (stepPublication op db) settlement wake
          outboxId := by
  cases op with
  | kernel op => exact .inl (kernel_carried op hsound)
  | deliver change => exact .inl (deliver_carried change db)
  | outside tables => exact .inl (outside_carried tables db)
  | publish reads settlement options =>
    have hcase := publishSemanticTransaction_case reads db settlement options
    unfold stepPublication
    dsimp only
    generalize publishSemanticTransaction reads db settlement options = exit
      at hcase
    cases hcase with
    | undone hundone =>
      cases hundone <;> exact .inl (PreparedFrom.refl db).carried
    | replayed =>
      exact .inl (PreparedFrom.refl db).carried
    | stale _ hprepared => exact .inl hprepared.carried
    | accepted result _ _ _ htogether =>
      obtain ⟨prepared, wake, hpublishes⟩ := htogether.publishes
      exact .inr ⟨prepared, settlement, wake, result.outboxId, hpublishes⟩

/-- What every step keeps of the publications that it starts from. -/
structure Continues (before after : PublicationDb) : Prop where
  wakes : ∀ id wake, before.sidecar.wakes.get? id = some wake →
    ∃ wake', after.sidecar.wakes.get? id = some wake' ∧
      wake'.cycleId = wake.cycleId
  cycles : ∀ id cycle, before.sidecar.cycles.get? id = some cycle →
    ∃ cycle', after.sidecar.cycles.get? id = some cycle' ∧
      CycleChange cycle cycle'
  settlements : ∀ id row, before.settlements.get? id = some row →
    ∃ row', after.settlements.get? id = some row' ∧ SameSettlement row row'
  outbox : ∀ number row, before.sidecar.outbox.get? number = some row →
    ∃ row', after.sidecar.outbox.get? number = some row' ∧ SameSpeech row row'
  unspoken : ∀ number row', after.sidecar.outbox.get? number = some row' →
    before.settlements.get? row'.settlementId ≠ none →
    ∃ row, before.sidecar.outbox.get? number = some row ∧ SameSpeech row row'

omit [Host] in
theorem Continues.refl (db : PublicationDb) : Continues db db where
  wakes := fun _ wake hwake => ⟨wake, hwake, rfl⟩
  cycles := fun _ cycle hcycle => ⟨cycle, hcycle, .refl cycle⟩
  settlements := fun _ row hrow => ⟨row, hrow, .refl row⟩
  outbox := fun _ row hrow => ⟨row, hrow, .refl row⟩
  unspoken := fun _ row hrow _ => ⟨row, hrow, .refl row⟩

omit [Host] in
theorem Continues.trans {first second third : PublicationDb}
    (hfirst : Continues first second) (hsecond : Continues second third) :
    Continues first third where
  wakes := by
    intro id wake hwake
    obtain ⟨mid, hmid, hcycle⟩ := hfirst.wakes id wake hwake
    obtain ⟨last, hlast, hcycle'⟩ := hsecond.wakes id mid hmid
    exact ⟨last, hlast, hcycle'.trans hcycle⟩
  cycles := by
    intro id cycle hcycle
    obtain ⟨mid, hmid, hchange⟩ := hfirst.cycles id cycle hcycle
    obtain ⟨last, hlast, hchange'⟩ := hsecond.cycles id mid hmid
    exact ⟨last, hlast, hchange.trans hchange'⟩
  settlements := by
    intro id row hrow
    obtain ⟨mid, hmid, hsame⟩ := hfirst.settlements id row hrow
    obtain ⟨last, hlast, hsame'⟩ := hsecond.settlements id mid hmid
    exact ⟨last, hlast, hsame.trans hsame'⟩
  outbox := by
    intro number row hrow
    obtain ⟨mid, hmid, hsame⟩ := hfirst.outbox number row hrow
    obtain ⟨last, hlast, hsame'⟩ := hsecond.outbox number mid hmid
    exact ⟨last, hlast, hsame.trans hsame'⟩
  unspoken := by
    intro number row hrow hsettled
    have hmidSettled : second.settlements.get? row.settlementId ≠ none := by
      obtain ⟨settlement, hsettlement⟩ := ne_none_iff_exists'.mp hsettled
      obtain ⟨mid, hmid, _⟩ := hfirst.settlements _ settlement hsettlement
      rw [hmid]
      exact some_ne_none mid
    obtain ⟨mid, hmid, hsame'⟩ := hsecond.unspoken number row hrow hmidSettled
    rw [hsame'.settlementId] at hsettled
    obtain ⟨old, hold, hsame⟩ := hfirst.unspoken number mid hmid hsettled
    exact ⟨old, hold, hsame.trans hsame'⟩

theorem Carried.continues (hcarried : Carried before after) :
    Continues before after where
  wakes := by
    intro _ _ hwake
    obtain ⟨_, htrace⟩ := hcarried.trace
    exact htrace.wake_forward hwake
  cycles := by
    intro _ _ hcycle
    obtain ⟨_, htrace⟩ := hcarried.trace
    exact htrace.cycle_forward hcycle
  settlements := fun _ _ hrow => hcarried.settlements.forward hrow
  outbox := fun _ _ hrow => hcarried.outbox.forward hrow
  unspoken := fun _ _ hrow _ => hcarried.outbox.backward hrow

omit [Host] in
/-- Settling a cycle keeps every cycle, under its identity. -/
theorem settleCycle_rewrites (db : Sidecar) (settlement : PublishedSettlement)
    (outboxId : Option Nat) (nowMs : Int) :
    Table.Rewrites CycleChange db.cycles
      (settleCycle db settlement outboxId nowMs).cycles := by
  refine Table.rewrites_update
    (f := fun row =>
      { row with
        state := if outboxId = none then .silent else .sending
        updatedAtMs := nowMs }) (fun _ => rfl) ?_ CycleChange.refl
  intro _ _ _ _
  exact ⟨rfl, rfl, rfl, rfl, List.Subset.refl _, id⟩

section Recorded

variable {prepared after : PublicationDb} {settlement : PublishedSettlement}
  {wakeId conversationId : String} {intent : Option DeliveryIntent}
  {options : PublicationOptions} {outboxId : Option Nat}

variable {before : Table OutboxRow} {origin : OutboxOrigin} {number : Nat}
variable {row : OutboxRow}

/-- The rows of a publication move the ledgers as delivery might. -/
theorem Recorded.trace
    (hrecorded : Recorded prepared after settlement wakeId conversationId intent
      options outboxId) :
    Trace { publicationPermit with outside := True } prepared.sidecar
      after.sidecar := by
  obtain ⟨_, hdrawn, hsidecar⟩ := hrecorded.sidecar
  rw [hsidecar]
  refine Moved.trace (.shift hdrawn ?_ ?_ ?_ ?_ (.inl trivial))
  · exact Table.Rewrites.refl (WakeChange.refl _ _) _
  · exact Table.Rewrites.refl (EventChange.refl _ _) _
  · exact Table.Rewrites.refl (AttemptChange.refl _) _
  · exact settleCycle_rewrites _ settlement outboxId options.now

omit [Host] in
/-- A speech row stays, and a new one belongs to the new settlement. -/
theorem SpeechRecorded.get?_cases {after : Table OutboxRow}
    (hspeech : SpeechRecorded before after settlement conversationId intent
      origin outboxId) (hrow : after.get? number = some row) :
    before.get? number = some row ∨
      (settlement.speech.mode = .draft ∧ outboxId = some number ∧
        row = pendingOutboxRow number settlement conversationId intent origin ∧
        ∀ old ∈ before.rows, old.settlementId ≠ settlement.settlementId) := by
  cases hspeech with
  | silent _ hsame | known _ _ _ _ hsame =>
    rw [hsame] at hrow
    exact .inl hrow
  | drafted _ hmode hnew hunspoken hinsert =>
    rw [get?_insert hinsert] at hrow
    split at hrow
    · rename_i hnumber
      cases hrow
      have hkey : number = row.outboxId := hnumber
      rw [hkey]
      exact .inr ⟨hmode, rfl, hnew, hunspoken⟩
    · exact .inl hrow

omit [Host] in
theorem SpeechRecorded.get?_of_some {after : Table OutboxRow}
    (hspeech : SpeechRecorded before after settlement conversationId intent
      origin outboxId) (hrow : before.get? number = some row) :
    after.get? number = some row := by
  cases hspeech with
  | silent _ hsame | known _ _ _ _ hsame =>
    rw [hsame]
    exact hrow
  | drafted _ _ _ _ hinsert =>
    exact get?_insert_of_some hinsert hrow

theorem Recorded.continues
    (hrecorded : Recorded prepared after settlement wakeId conversationId intent
      options outboxId) : Continues prepared after where
  wakes := fun _ _ hwake => hrecorded.trace.wake_forward hwake
  cycles := fun _ _ hcycle => hrecorded.trace.cycle_forward hcycle
  settlements := by
    intro _ row hrow
    exact ⟨row, get?_insert_of_some hrecorded.settlements hrow, .refl row⟩
  outbox := fun _ row hrow =>
    ⟨row, hrecorded.speech.get?_of_some hrow, .refl row⟩
  unspoken := by
    intro _ row hrow hsettled
    rcases hrecorded.speech.get?_cases hrow with hold | ⟨_, _, hnew, _⟩
    · exact ⟨row, hold, .refl row⟩
    · rw [hnew] at hsettled
      exact absurd (insert?_eq_some hrecorded.settlements).1 hsettled

end Recorded

/-- The invariant of every reachable state: each settlement belongs to a stored
cycle and its wake, each speech to a stored settlement, and both are single. -/
structure Published (db : PublicationDb) : Prop where
  sound : Sound db.sidecar
  settled : ∀ id row, db.settlements.get? id = some row →
    ∃ cycle wakeId wake, db.sidecar.cycles.get? row.cycleId = some cycle ∧
      cycle.generation = row.generation ∧ row.wakeId = some wakeId ∧
      db.sidecar.wakes.get? wakeId = some wake ∧ wake.cycleId = row.cycleId
  once : ∀ id id' row row', db.settlements.get? id = some row →
    db.settlements.get? id' = some row' → row.cycleId = row'.cycleId →
    row.generation = row'.generation → id = id'
  spoken : ∀ number row, db.sidecar.outbox.get? number = some row →
    ∃ settlement, db.settlements.get? row.settlementId = some settlement ∧
      settlement.cycleId = row.cycleId ∧ settlement.generation = row.generation
  aloud : ∀ number number' row row',
    db.sidecar.outbox.get? number = some row →
    db.sidecar.outbox.get? number' = some row' →
    row.settlementId = row'.settlementId → number = number'

theorem published_empty : Published {} := by
  refine ⟨sound_empty, ?_, ?_, ?_, ?_⟩ <;> simp

/-- A settlement keeps its cycle and its wake. -/
theorem Published.settled_of (hpublished : Published before)
    (hcontinues : Continues before after) {id : String}
    {row row' : SettlementRow} (hrow : before.settlements.get? id = some row)
    (hsame : SameSettlement row row') :
    ∃ cycle wakeId wake, after.sidecar.cycles.get? row'.cycleId = some cycle ∧
      cycle.generation = row'.generation ∧ row'.wakeId = some wakeId ∧
      after.sidecar.wakes.get? wakeId = some wake ∧
      wake.cycleId = row'.cycleId := by
  obtain ⟨cycle, wakeId, wake, hcycle, hgeneration, howner, hwake, hid⟩ :=
    hpublished.settled id row hrow
  obtain ⟨cycle', hcycle', hchange⟩ := hcontinues.cycles _ cycle hcycle
  obtain ⟨wake', hwake', hid'⟩ := hcontinues.wakes wakeId wake hwake
  refine ⟨cycle', wakeId, wake', ?_, ?_, ?_, hwake', ?_⟩
  · rw [hsame.cycleId]
    exact hcycle'
  · rw [hchange.generation, hgeneration, hsame.generation]
  · rw [hsame.wakeId, howner]
  · rw [hid', hid, hsame.cycleId]

/-- A speech row keeps its settlement. -/
theorem Published.spoken_of (hpublished : Published before)
    (hcontinues : Continues before after) {number : Nat} {row row' : OutboxRow}
    (hrow : before.sidecar.outbox.get? number = some row)
    (hsame : SameSpeech row row') :
    ∃ settlement, after.settlements.get? row'.settlementId = some settlement ∧
      settlement.cycleId = row'.cycleId ∧
      settlement.generation = row'.generation := by
  obtain ⟨settlement, hsettlement, hcycle, hgeneration⟩ :=
    hpublished.spoken number row hrow
  obtain ⟨kept, hkept, hidentity⟩ :=
    hcontinues.settlements _ settlement hsettlement
  refine ⟨kept, ?_, ?_, ?_⟩
  · rw [hsame.settlementId]
    exact hkept
  · rw [hidentity.cycleId, hcycle, hsame.cycleId]
  · rw [hidentity.generation, hgeneration, hsame.generation]

theorem Published.carried (hpublished : Published before)
    (hcarried : Carried before after) :
    Published after where
  sound := by
    obtain ⟨_, htrace⟩ := hcarried.trace
    exact hpublished.sound.trace htrace
  settled := by
    intro _ _ hrow'
    obtain ⟨_, hrow, hsame⟩ := hcarried.settlements.backward hrow'
    exact hpublished.settled_of hcarried.continues hrow hsame
  once := by
    intro id id' _ _ hrow hrow' hcycle hgeneration
    obtain ⟨old, hold, hsame⟩ := hcarried.settlements.backward hrow
    obtain ⟨old', hold', hsame'⟩ := hcarried.settlements.backward hrow'
    refine hpublished.once id id' old old' hold hold' ?_ ?_
    · rw [← hsame.cycleId, ← hsame'.cycleId, hcycle]
    · rw [← hsame.generation, ← hsame'.generation, hgeneration]
  spoken := by
    intro _ _ hrow'
    obtain ⟨_, hrow, hsame⟩ := hcarried.outbox.backward hrow'
    exact hpublished.spoken_of hcarried.continues hrow hsame
  aloud := by
    intro number number' _ _ hrow hrow' hsettlement
    obtain ⟨old, hold, hsame⟩ := hcarried.outbox.backward hrow
    obtain ⟨old', hold', hsame'⟩ := hcarried.outbox.backward hrow'
    refine hpublished.aloud number number' old old' hold hold' ?_
    rw [← hsame.settlementId, ← hsame'.settlementId, hsettlement]

/-- The new settlement belongs to the cycle that the fence found current, and
to the wake of that cycle. -/
theorem Publishes.settled
    (hpublishes : Publishes db prepared after settlement wake outboxId) :
    ∃ cycle kept,
      after.sidecar.cycles.get? settlement.cycleId = some cycle ∧
      cycle.generation = settlement.generation ∧
      after.sidecar.wakes.get? wake.wakeId = some kept ∧
      kept.cycleId = settlement.cycleId := by
  obtain ⟨_, _, _, hrecorded⟩ := hpublishes.recorded
  have hexact := hpublishes.current
  unfold isExactCycle at hexact
  rw [any_eq_true] at hexact
  obtain ⟨cycle, hcycle, hmatches⟩ := hexact
  have hgeneration : cycle.generation = settlement.generation := by
    simp only [Bool.and_eq_true, decide_eq_true_eq] at hmatches
    exact hmatches.1.1
  obtain ⟨cycle', hcycle', hchange⟩ := hrecorded.continues.cycles _ cycle hcycle
  have hstored : wake ∈ db.sidecar.wakes.rows :=
    List.mem_of_find?_eq_some hpublishes.owner
  have hid : wake.cycleId = settlement.cycleId := by
    simpa using List.find?_some hpublishes.owner
  obtain ⟨kept, hkept, hkeptId⟩ :=
    (hpublishes.deltas.carried.continues.trans hrecorded.continues).wakes
      wake.wakeId wake (get?_key hstored)
  exact ⟨cycle', kept, hcycle', hchange.generation.trans hgeneration, hkept,
    hkeptId.trans hid⟩

theorem Published.publishes (hpublished : Published db)
    (hpublishes : Publishes db prepared after settlement wake outboxId) :
    Published after := by
  have hmid := hpublished.carried hpublishes.deltas.carried
  obtain ⟨cycle, kept, hcycle, hgeneration, hkept, hid⟩ := hpublishes.settled
  obtain ⟨_, _, options, hrecorded⟩ := hpublishes.recorded
  have hcontinues := hrecorded.continues
  have hinsert := hrecorded.settlements
  refine ⟨hmid.sound.trace hrecorded.trace, ?_, ?_, ?_, ?_⟩
  · intro _ row hrow
    rw [get?_insert hinsert] at hrow
    split at hrow
    · cases hrow
      exact ⟨cycle, wake.wakeId, kept, hcycle, hgeneration, rfl, hkept, hid⟩
    · exact hmid.settled_of hcontinues hrow (.refl row)
  · intro id id' row row' hrow hrow' hcycles hgenerations
    have hfresh : ∀ k old, prepared.settlements.get? k = some old →
        old.cycleId = settlement.cycleId →
        old.generation ≠ settlement.generation := by
      intro k old hold hsame
      rcases hrecorded.unsettled old (mem_of_get? hold) with hne | hne
      · exact absurd hsame hne
      · exact hne
    rw [get?_insert hinsert] at hrow hrow'
    split at hrow
    · rename_i hkey
      cases hrow
      split at hrow'
      · rename_i hkey'
        rw [hkey, hkey']
      · exact absurd hgenerations.symm (hfresh id' row' hrow' hcycles.symm)
    · split at hrow'
      · cases hrow'
        exact absurd hgenerations (hfresh id row hrow hcycles)
      · exact hmid.once id id' row row' hrow hrow' hcycles hgenerations
  · intro _ row hrow
    rcases hrecorded.speech.get?_cases hrow with hold | ⟨_, _, hnew, _⟩
    · exact hmid.spoken_of hcontinues hold (.refl row)
    · rw [hnew]
      refine ⟨settlementRow settlement wake.wakeId options.semanticPass, ?_,
        rfl, rfl⟩
      rw [get?_insert hinsert]
      exact if_pos rfl
  · intro number number' row row' hrow hrow' hsettlement
    rcases hrecorded.speech.get?_cases hrow with hold | ⟨_, hnumber, hnew, hnone⟩
    · rcases hrecorded.speech.get?_cases hrow' with
        hold' | ⟨_, _, hnew', hnone'⟩
      · exact hmid.aloud number number' row row' hold hold' hsettlement
      · rw [hnew'] at hsettlement
        exact absurd hsettlement (hnone' row (mem_of_get? hold))
    · rcases hrecorded.speech.get?_cases hrow' with hold' | ⟨_, hnumber', _, _⟩
      · rw [hnew] at hsettlement
        exact absurd hsettlement.symm (hnone row' (mem_of_get? hold'))
      · rw [hnumber] at hnumber'
        exact some.inj hnumber'

/-- Every step keeps the invariant, and the publications made so far. -/
theorem stepPublication_published (op : PublicationOp)
    (hpublished : Published db) :
    Published (stepPublication op db) ∧
      Continues db (stepPublication op db) := by
  rcases stepPublication_cases op hpublished.sound with
    hcarried | ⟨_, _, _, _, hpublishes⟩
  · exact ⟨hpublished.carried hcarried, hcarried.continues⟩
  · obtain ⟨_, _, _, hrecorded⟩ := hpublishes.recorded
    exact ⟨hpublished.publishes hpublishes,
      hpublishes.deltas.carried.continues.trans hrecorded.continues⟩

theorem runPublication_published (hpublished : Published db)
    (ops : List PublicationOp) :
    Published (run stepPublication db ops) ∧
      Continues db (run stepPublication db ops) := by
  refine run_preserves (P := fun s => Published s ∧ Continues db s) ?_
    ⟨hpublished, .refl db⟩ ops
  rintro op s ⟨hs, hcontinues⟩
  obtain ⟨hnext, hstep⟩ := stepPublication_published op hs
  exact ⟨hnext, hcontinues.trans hstep⟩

theorem ReachedPublication.published (hreached : ReachedPublication db) :
    Published db :=
  hreached.invariant published_empty fun op _ hs =>
    (stepPublication_published op hs).1

/-- However the kernel, publication and delivery interleave, each settlement
belongs to a stored cycle and its wake, each speech to a stored settlement, both
are single; and no later run drops one, moves it or speaks for an old
settlement. -/
theorem publications_agree (ops more : List PublicationOp) :
    let db := run stepPublication {} ops
    Published db ∧ Continues db (run stepPublication db more) := by
  have hpublished := (runPublication_published published_empty ops).1
  exact ⟨hpublished, (runPublication_published hpublished more).2⟩

end CognitiveSidecar
