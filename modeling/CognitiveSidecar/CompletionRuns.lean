/-
Runs of producers: while no two producers of an operation overlap and none stops
in the window of its kind, every finished operation ends with one event, one
evidence row, and a reference to the event.
-/
import CognitiveSidecar.CompletionReads

namespace CognitiveSidecar.Completions

open Option List Relational

/-- The completion reference of an operation, in the table that has it. -/
def linkOf (db : CompletionDb) (id : String) : Option String :=
  ((db.operations.get? id).bind (·.completionEventRef)).or
    ((db.continuations.get? id).bind (·.completionEventRef))

/-- The completion events of an operation. -/
def eventsOf (db : CompletionDb) (id : String) : List CompletionEvent :=
  db.inbox.rows.filter (·.payload.operationId = id)

/-- The Host system evidence of an operation. -/
def notesOf (db : CompletionDb) (id : String) : List SystemEvidence :=
  db.evidence.filter (·.operationId = id)

def producersOf (s : CompletionSystem) (id : String) : List Producer :=
  s.producers.rows.filter (·.operationId = id)

def postedFor (db : CompletionDb) (id : String) : Bool :=
  (db.inbox.get? (completionEventIdFor id)).isSome

/-- A producer that stops here is made good by a retry. -/
def ProducerStage.isRecoverable : ProducerStage → Bool
  | .posting _ _ => true
  | .noting event _ => event.payload.isDetached
  | .linking isDetached _ => !isDetached

/-- A producer begins alone on its operation, and stops outside the window
between its event and its evidence, or its evidence and its reference. -/
def SparesWindow (step : CompletionStep) (s : CompletionSystem) : Prop :=
  match step with
  | .begin _ operationId _ _ => producersOf s operationId = []
  | .crash pid => ∀ producer, s.producers.get? pid = some producer →
      producer.stage.isRecoverable = true
  | _ => True

section Standings

variable [Host]

/-- The operation is a detached one, by its id. -/
def IsDetachedId (id : String) : Prop :=
  ∃ idempotencyKey, id = detachedOperationIdFor idempotencyKey

/-- How far the completion of an operation has come. -/
inductive Standing (s : CompletionSystem) (id : String) : Prop
  | idle (hfree : producersOf s id = []) (hlink : linkOf s.db id = none)
      (hnotes : notesOf s.db id = [])
      (hposted : postedFor s.db id = true → IsDetachedId id) : Standing s id
  | noted (hfree : producersOf s id = []) (hlink : linkOf s.db id = none)
      (hnotes : (notesOf s.db id).length = 1)
      (hposted : postedFor s.db id = true) (heffect : ¬ IsDetachedId id) :
      Standing s id
  | linked (hfree : producersOf s id = [])
      (hlink : linkOf s.db id = some (completionEventIdFor id))
      (hnotes : (notesOf s.db id).length = 1)
      (hposted : postedFor s.db id = true) : Standing s id
  | posting (producer : Producer) (event : CompletionEvent)
      (note : SystemEvidence) (hone : producersOf s id = [producer])
      (hstage : producer.stage = .posting event note)
      (hlink : linkOf s.db id = none) (hnotes : notesOf s.db id = [])
      (hposted : postedFor s.db id = true → IsDetachedId id) : Standing s id
  | noting (producer : Producer) (event : CompletionEvent)
      (note : SystemEvidence) (hone : producersOf s id = [producer])
      (hstage : producer.stage = .noting event note)
      (hlink : linkOf s.db id = none) (hnotes : notesOf s.db id = [])
      (hposted : postedFor s.db id = true) : Standing s id
  | linking (producer : Producer) (isDetached : Bool) (eventId : String)
      (hone : producersOf s id = [producer])
      (hstage : producer.stage = .linking isDetached eventId)
      (hlink : linkOf s.db id = none) (hnotes : (notesOf s.db id).length = 1)
      (hposted : postedFor s.db id = true) : Standing s id

variable {s s' : CompletionSystem} {id : String}

/-- Only the four readings of an operation matter to its standing. -/
theorem Standing.frame (hstanding : Standing s id)
    (hproducers : producersOf s' id = producersOf s id)
    (hlinks : linkOf s'.db id = linkOf s.db id)
    (hnotes : notesOf s'.db id = notesOf s.db id)
    (hposted : postedFor s'.db id = postedFor s.db id) : Standing s' id := by
  cases hstanding with
  | idle hfree hlink hnone hdetached =>
    exact .idle (hproducers.trans hfree) (hlinks.trans hlink)
      (hnotes.trans hnone) (by rw [hposted]; exact hdetached)
  | noted hfree hlink hone hdone heffect =>
    exact .noted (hproducers.trans hfree) (hlinks.trans hlink)
      (by rw [hnotes]; exact hone) (hposted.trans hdone) heffect
  | linked hfree hlink hone hdone =>
    exact .linked (hproducers.trans hfree) (hlinks.trans hlink)
      (by rw [hnotes]; exact hone) (hposted.trans hdone)
  | posting producer event note hone hstage hlink hnone hdetached =>
    exact .posting producer event note (hproducers.trans hone) hstage
      (hlinks.trans hlink) (hnotes.trans hnone)
      (by rw [hposted]; exact hdetached)
  | noting producer event note hone hstage hlink hnone hdone =>
    exact .noting producer event note (hproducers.trans hone) hstage
      (hlinks.trans hlink) (hnotes.trans hnone) (hposted.trans hdone)
  | linking producer isDetached eventId hone hstage hlink hnote hdone =>
    exact .linking producer isDetached eventId (hproducers.trans hone) hstage
      (hlinks.trans hlink) (by rw [hnotes]; exact hnote)
      (hposted.trans hdone)

end Standings

section Links

variable {α : Type} {κ : Type} [DecidableEq κ] [Keyed α κ] {t t' : Table α}
  {read : α → Option String}

theorem bind_update {p : α → Bool} {f : α → α}
    {hkey : ∀ row, key (f row) = key row}
    (hread : ∀ row, read (f row) = read row) (k : κ) :
    ((t.update p f hkey).get? k).bind read = (t.get? k).bind read := by
  rw [get?_update]
  cases t.get? k with
  | none => rfl
  | some row =>
    rw [map_some]
    split
    · exact hread row
    · rfl

/-- A new row that reads as none leaves every reading as it was. -/
theorem bind_insert {row : α} (hinsert : t.insert? row = some t')
    (hread : read row = none) (k : κ) :
    (t'.get? k).bind read = (t.get? k).bind read := by
  rw [get?_insert hinsert]
  split
  · rename_i hk
    rw [hk, (insert?_eq_some hinsert).1]
    exact hread
  · rfl

end Links

section Tables

variable {db : CompletionDb} {s s' : CompletionSystem} {id : String}

/-- A step that tells nobody of the end of an operation. -/
structure Untold (db db' : CompletionDb) : Prop where
  links : ∀ id, linkOf db' id = linkOf db id
  inbox : db'.inbox = db.inbox
  evidence : db'.evidence = db.evidence

theorem Untold.refl (db : CompletionDb) : Untold db db :=
  ⟨fun _ => rfl, rfl, rfl⟩

theorem Untold.trans {middle db' : CompletionDb} (hfirst : Untold db middle)
    (hsecond : Untold middle db') : Untold db db' :=
  ⟨fun id => (hsecond.links id).trans (hfirst.links id),
    hsecond.inbox.trans hfirst.inbox, hsecond.evidence.trans hfirst.evidence⟩

theorem updateContinuations_untold {p : EffectContinuation → Bool}
    {f : EffectContinuation → EffectContinuation}
    (hkey : ∀ row, key (f row) = key row)
    (hlink : ∀ row, (f row).completionEventRef = row.completionEventRef) :
    Untold db
      { db with continuations := db.continuations.update p f hkey } := by
  refine ⟨fun _ => ?_, rfl, rfl⟩
  unfold linkOf
  rw [bind_update hlink]

theorem writeOperation_untold [Host] (idempotencyKey : String)
    (operation : DetachedOperation) :
    Untold db (writeOperation db idempotencyKey operation) := by
  unfold writeOperation
  dsimp only
  split
  · rename_i hinsert
    refine ⟨fun _ => ?_, rfl, rfl⟩
    unfold linkOf
    rw [bind_insert hinsert rfl]
  · refine ⟨fun _ => ?_, rfl, rfl⟩
    unfold linkOf
    have hlink : ∀ row, (rewrittenOperation operation row).completionEventRef =
        row.completionEventRef := fun _ => rfl
    rw [bind_update hlink]

theorem accept_untold [Host] {reading : AcceptReading}
    {input : AcceptContinuationInput} {continuation : EffectContinuation}
    {continuations : Table EffectContinuation} (drawn : Nat)
    (hok : acceptEffectContinuation db.continuations db.ledger reading input
      db.drawn = .ok (continuation, continuations)) :
    Untold db { db with continuations, drawn } := by
  obtain ⟨_, _, hinsert, _, _, hfree, _⟩ := acceptEffectContinuation_ok hok
  refine ⟨fun _ => ?_, rfl, rfl⟩
  unfold linkOf
  rw [bind_insert hinsert hfree]

theorem renew_untold (effectId leaseToken : String) (nowMs leaseMs : Int) :
    Untold db { db with
      continuations := (renewEffectContinuationLease db.continuations effectId
        leaseToken nowMs leaseMs).2 } := by
  unfold renewEffectContinuationLease
  split
  · exact .refl db
  · split
    · exact .refl db
    · exact updateContinuations_untold (EffectContinuation.renewed_key _ _)
        fun _ => rfl

theorem finish_untold (effectId leaseToken : String) (receipt : ReceiptRow)
    (nowMs : Int) :
    Untold db { db with
      continuations := (finishFromReceipt db.continuations effectId leaseToken
        receipt nowMs).2 } := by
  unfold finishFromReceipt finishEffectContinuation
  split
  · exact .refl db
  · exact updateContinuations_untold (EffectContinuation.ended_key _ _ _ _)
      fun _ => rfl

theorem abandonByReceipt_untold (effectId : String) (receipt : ReceiptRow)
    (nowMs : Int) :
    Untold db (abandonByReceipt db effectId receipt nowMs) := by
  unfold abandonByReceipt abandonEffectContinuation
  split
  · exact .refl db
  · exact updateContinuations_untold (EffectContinuation.ended_key _ _ _ _)
      fun _ => rfl

theorem recoverContinuation_untold (nowMs : Int) (runtimeId : String)
    (continuation : EffectContinuation) :
    Untold db (recoverContinuation db nowMs runtimeId continuation).2 := by
  unfold recoverContinuation
  split
  · exact .refl db
  · split
    · exact abandonByReceipt_untold _ _ _
    · split
      · exact .refl db
      · rename_i inFlight _
        dsimp only
        have hrecorded : Untold db { db with
            ledger := (recordEffectReceipt db.ledger
              (unknownReceipt continuation inFlight nowMs)).2 } :=
          ⟨fun _ => rfl, rfl, rfl⟩
        split
        · exact hrecorded
        · exact hrecorded.trans (abandonByReceipt_untold _ _ _)

/-- A step that tells nobody leaves the standing of every operation. -/
theorem Standing.untold [Host] (hstanding : Standing s id)
    (huntold : Untold s.db s'.db) (hproducers : s'.producers = s.producers) :
    Standing s' id := by
  refine hstanding.frame ?_ (huntold.links id) ?_ ?_
  · unfold producersOf
    rw [hproducers]
  · unfold notesOf
    rw [huntold.evidence]
  · unfold postedFor
    rw [huntold.inbox]

end Tables

section Producers

variable [Host] {s : CompletionSystem} {id : String}
variable {producer : Producer}
variable {db : CompletionDb} {operation : DetachedOperation} {nowMs : Int}
variable {operationId : String} {isDetached : Bool}
variable {row : EffectContinuation} {reading : CompletionReading}
variable {stage : ProducerStage}

omit [Host] in
theorem linkOf_operation (hoperation : db.operations.get? id = some operation)
    (hcontinuation : db.continuations.get? id = none) :
    linkOf db id = operation.completionEventRef := by
  unfold linkOf
  rw [hoperation, hcontinuation, bind_some, bind_none,
    or_none]

omit [Host] in
theorem linkOf_continuation (hoperation : db.operations.get? id = none)
    (hcontinuation : db.continuations.get? id = some row) :
    linkOf db id = row.completionEventRef := by
  unfold linkOf
  rw [hoperation, hcontinuation, bind_some, bind_none,
    none_or]

/-- No id is that of a continuation and of a detached operation. -/
theorem Sound.noContinuation (hsound : Sound s)
    (hoperation : s.db.operations.get? id = some operation) :
    s.db.continuations.get? id = none := by
  cases hrow : s.db.continuations.get? id with
  | none => rfl
  | some =>
    rw [(hsound.continuation_names hrow).2.2] at hoperation
    cases hoperation

theorem Sound.isDetachedId (hsound : Sound s)
    (hoperation : s.db.operations.get? id = some operation) :
    IsDetachedId id := by
  obtain ⟨idempotencyKey, hminted⟩ :=
    (hsound.operations id operation hoperation).minted
  have hkey : operation.operationId = id := key_of_get? hoperation
  exact ⟨idempotencyKey, hkey.symm.trans hminted⟩

theorem Sound.not_isDetachedId (hsound : Sound s)
    (hrow : s.db.continuations.get? id = some row) : ¬ IsDetachedId id := by
  rintro ⟨idempotencyKey, hdetached⟩
  obtain ⟨uuid, huuid⟩ := (hsound.continuations id row hrow).minted
  have hkey : row.effectId = id := key_of_get? hrow
  exact effectIdFor_ne uuid idempotencyKey
    (huuid.symm.trans (hkey.trans hdetached))

/-- A stored reference of a detached operation reads as itself. -/
theorem Sound.readOperationLink (hsound : Sound s)
    (hoperation : s.db.operations.get? id = some operation) :
    stringValue operation.completionEventRef = operation.completionEventRef :=
  stringValue_linked fun eventId hlinked =>
    ((hsound.operations id operation hoperation).linked eventId hlinked).2.1

/-- Where a producer that will write starts. -/
inductive Starts (s : CompletionSystem) (id : String) : ProducerStage → Prop
  | posting (event : CompletionEvent) (note : SystemEvidence)
      (hfresh : postedFor s.db id = true → IsDetachedId id) :
      Starts s id (.posting event note)
  | relinking (heffect : ¬ IsDetachedId id)
      (hposted : postedFor s.db id = true) :
      Starts s id (.linking false (completionEventIdFor id))

/-- A producer writes only while its operation has no reference. -/
theorem plan_starts (hsound : Sound s)
    (hstage : (planCompletion s.db id nowMs reading).stage = some stage) :
    linkOf s.db id = none ∧ Starts s id stage := by
  cases hoperation : s.db.operations.get? id with
  | some =>
    rw [linkOf_operation hoperation (hsound.noContinuation hoperation)]
    unfold planCompletion planDetachedCompletion at hstage
    rw [hoperation] at hstage
    dsimp only at hstage
    rw [hsound.readOperationLink hoperation] at hstage
    split at hstage
    · cases hstage
    · split at hstage
      · cases hstage
      · split at hstage
        · cases hstage
        · rename_i hfree
          cases hstage
          exact ⟨hfree, .posting _ _ fun _ => hsound.isDetachedId hoperation⟩
  | none =>
    cases hrow : s.db.continuations.get? id with
    | none =>
      unfold planCompletion planEffectCompletion getEffectContinuation
        at hstage
      rw [hoperation, hrow] at hstage
      dsimp only at hstage
      split at hstage
      · cases hstage
      · split at hstage
        · cases hstage
        · rename_i hread
          split at hread <;> cases hread
    | some =>
      rw [linkOf_continuation hoperation hrow]
      have hplan := planCompletion_effect hsound hrow nowMs reading
      generalize planCompletion s.db id nowMs reading = plan at hplan hstage
      cases hplan with
      | refuse | report => cases hstage
      | relink hfree _ hposted =>
        cases hstage
        exact ⟨hfree, .relinking (hsound.not_isDetachedId hrow) hposted⟩
      | post _ _ hfree _ hfresh =>
        cases hstage
        refine ⟨hfree, .posting _ _ fun hposted => ?_⟩
        unfold postedFor at hposted
        rw [hfresh] at hposted
        cases hposted

omit [Host] in
theorem producersOf_insertNew {producer : Producer} :
    producersOf { s with producers := s.producers.insertNew producer } id =
        producersOf s id ∨
      producer.operationId = id ∧
        producersOf { s with producers := s.producers.insertNew producer } id =
          producersOf s id ++ [producer] := by
  unfold producersOf Table.insertNew
  cases hinsert : s.producers.insert? producer with
  | none => exact .inl rfl
  | some =>
    rw [getD_some, (insert?_eq_some hinsert).2]
    by_cases hid : producer.operationId = id
    · exact .inr ⟨hid, by simp [hid]⟩
    · exact .inl (by simp [hid])

/-- A producer that begins alone begins where its operation stands. -/
theorem Standing.begin (hsound : Sound s) (hstanding : Standing s id)
    {pid : Nat}
    (hstage : (planCompletion s.db operationId nowMs reading).stage =
      some stage) (halone : producersOf s operationId = []) :
    Standing { s with
      producers := s.producers.insertNew { pid, operationId, nowMs, stage } }
      id := by
  rcases @producersOf_insertNew s id { pid, operationId, nowMs, stage } with
    hsame | ⟨hid, hnew⟩
  · exact hstanding.frame hsame rfl rfl rfl
  · have hown : operationId = id := hid
    subst hown
    rw [halone] at hnew
    obtain ⟨hfree, hstarts⟩ := plan_starts hsound hstage
    cases hstanding with
    | idle _ hlink hnotes hposted =>
      cases hstarts with
      | posting event note =>
        exact .posting _ event note hnew rfl hlink hnotes hposted
      | relinking heffect hdone => exact absurd (hposted hdone) heffect
    | noted _ hlink hnotes hposted heffect =>
      cases hstarts with
      | posting _ _ hfresh => exact absurd (hfresh hposted) heffect
      | relinking _ _ =>
        exact .linking _ _ _ hnew rfl hlink hnotes hposted
    | linked _ hlink _ _ =>
      rw [hfree] at hlink
      cases hlink
    | posting _ _ _ hone | noting _ _ _ hone | linking _ _ _ hone =>
      rw [halone] at hone
      cases hone

omit [Host] in
theorem mem_producersOf :
    producer ∈ producersOf s id ↔
      s.producers.get? producer.pid = some producer ∧
        producer.operationId = id := by
  unfold producersOf
  rw [mem_filter, decide_eq_true_eq, Table.mem_iff_get?]
  rfl

omit [Host] in
/-- What the producers of an operation are once one of them goes on. -/
theorem producersOf_update (stage : ProducerStage)
    (hproducer : s.producers.get? producer.pid = some producer) :
    producersOf
        { db
          producers := s.producers.update (·.pid = producer.pid)
            (Producer.atStage stage) (Producer.atStage_key stage) } id =
      (producersOf s id).map fun other =>
        if other = producer then producer.atStage stage else other := by
  unfold producersOf Table.update
  rw [List.filter_map]
  have hsame : ((fun other : Producer => decide (other.operationId = id)) ∘
      fun other => if decide (other.pid = producer.pid) = true then
        other.atStage stage else other) =
      fun other => decide (other.operationId = id) := by
    funext other
    dsimp only [Function.comp]
    split <;> rfl
  rw [hsame]
  refine map_congr_left fun other hother => ?_
  have hstored := (mem_producersOf.mp hother).1
  by_cases hpid : other.pid = producer.pid
  · have hown : other = producer := by
      rw [hpid, hproducer] at hstored
      exact (some.inj hstored).symm
    rw [if_pos (by simpa using hpid), if_pos hown, hown]
  · rw [if_neg (by simpa using hpid), if_neg]
    rintro rfl
    exact hpid rfl

omit [Host] in
/-- What the producers of an operation are once one of them is gone. -/
theorem producersOf_delete {pid : Nat} {db : CompletionDb} :
    producersOf ⟨db, s.producers.delete (·.pid = pid)⟩ id =
      (producersOf s id).filter fun other => !decide (other.pid = pid) := by
  unfold producersOf Table.delete
  rw [List.filter_filter, List.filter_filter]
  simp only [Bool.and_comm]

/-- The stages of the only producer of an operation. -/
theorem Standing.alone (hstanding : Standing s id)
    (hmem : producer ∈ producersOf s id) : producersOf s id = [producer] := by
  cases hstanding with
  | idle hfree _ _ _ | noted hfree _ _ _ _ | linked hfree _ _ _ =>
    rw [hfree] at hmem
    cases hmem
  | posting _ _ _ hone | noting _ _ _ hone | linking _ _ _ hone =>
    rw [hone, mem_singleton] at hmem
    rw [hone, hmem]

/-- A producer that stops outside its window leaves what a retry makes good. -/
theorem Standing.crash (hsound : Sound s) (hstanding : Standing s id)
    {pid : Nat}
    (hspares : ∀ producer, s.producers.get? pid = some producer →
      producer.stage.isRecoverable = true) :
    Standing { s with producers := s.producers.delete (·.pid = pid) } id := by
  have hleft := @producersOf_delete s id pid s.db
  by_cases hmine : ∃ producer ∈ producersOf s id, producer.pid = pid
  · obtain ⟨producer, hmem, hpid⟩ := hmine
    obtain ⟨hstored, hown⟩ := mem_producersOf.mp hmem
    have hproduces := hsound.producers _ producer hstored
    have halone := hstanding.alone hmem
    rw [hpid] at hstored
    have hrecovers := hspares producer hstored
    have hgone : producersOf
        { s with producers := s.producers.delete (·.pid = pid) } id = [] := by
      rw [hleft, halone]
      simp [hpid]
    unfold ProducerSound at hproduces
    cases hstanding with
    | idle hfree _ _ _ | noted hfree _ _ _ _ | linked hfree _ _ _ =>
      rw [hfree] at halone
      cases halone
    | posting _ _ _ _ _ hlink hnotes hposted =>
      exact .idle hgone hlink hnotes hposted
    | noting _ event _ hone hstage hlink hnotes =>
      rw [halone] at hone
      cases hone
      rw [hstage] at hproduces hrecovers
      obtain ⟨habout, hevent, _⟩ := hproduces
      have hended := hevent.hasEnded
      rw [show event.payload.isDetached = true from hrecovers, habout,
        hown] at hended
      obtain ⟨_, hrow, _⟩ := hended
      exact .idle hgone hlink hnotes fun _ => hsound.isDetachedId hrow
    | linking _ isDetached _ hone hstage hlink hnotes hposted =>
      rw [halone] at hone
      cases hone
      rw [hstage] at hproduces hrecovers
      have hended := hproduces.1
      rw [show isDetached = false by
        simpa [ProducerStage.isRecoverable] using hrecovers, hown] at hended
      obtain ⟨_, hrow, _⟩ := hended
      exact .noted hgone hlink hnotes hposted (hsound.not_isDetachedId hrow)
  · refine hstanding.frame ?_ rfl rfl rfl
    rw [hleft]
    refine filter_eq_self.mpr fun producer hmem => ?_
    simpa using fun hpid => hmine ⟨producer, hmem, hpid⟩

omit [Host] in
theorem notesOf_noteEvidence {note : SystemEvidence} :
    notesOf (noteEvidence db note) id =
      notesOf db id ++ (if note.operationId = id then [note] else []) := by
  unfold notesOf noteEvidence
  by_cases hid : note.operationId = id <;> simp [hid]

omit [Host] in
/-- A posted event is there, and every other operation is as before. -/
theorem postedFor_postEvent {event : CompletionEvent} {about : String}
    (hevent : event.id = completionEventIdFor about) :
    postedFor (postEvent db event) id =
      if about = id then true else postedFor db id := by
  split
  · rename_i hid
    subst hid
    unfold postedFor
    rw [← hevent]
    exact postEvent_posted db event
  · rename_i hid
    unfold postedFor postEvent Table.insertNew
    cases hinsert : db.inbox.insert? event with
    | none => rfl
    | some =>
      rw [getD_some, get?_insert hinsert, if_neg]
      intro hsame
      exact hid (completionEventIdFor_inj (hevent.symm.trans hsame.symm))

omit [Host] in
theorem linkOf_linkCompletion_ne {eventId : String} (hne : operationId ≠ id) :
    linkOf (linkCompletion db isDetached operationId eventId nowMs) id =
      linkOf db id := by
  unfold linkCompletion
  split
  · unfold linkOf
    rw [get?_update, map_get?_self]
    intro row (hkey : row.operationId = id)
    simp [hkey, Ne.symm hne]
  · unfold linkOf recordEffectContinuationCompletion
    split
    · rfl
    · rw [get?_update, map_get?_self]
      intro row (hkey : row.effectId = id)
      simp [hkey, Ne.symm hne]

/-- The last statement of a producer names the event, unless the time of an
effect cannot be recorded. -/
theorem Sound.linkOf_linkCompletion (hsound : Sound s)
    (hended : HasEnded s.db isDetached id) (hfree : linkOf s.db id = none)
    (nowMs : Int) :
    linkOf (linkCompletion s.db isDetached id (completionEventIdFor id) nowMs)
        id = some (completionEventIdFor id) ∨
      isDetached = false ∧ linkOf (linkCompletion s.db isDetached id
        (completionEventIdFor id) nowMs) id = none := by
  cases isDetached with
  | true =>
    left
    obtain ⟨row, hrow, _⟩ := hended
    have hkey : row.operationId = id := key_of_get? hrow
    unfold linkCompletion linkOf
    rw [if_pos rfl]
    rw [get?_update, hrow, map_some, if_pos (by simp [hkey])]
    rfl
  | false =>
    obtain ⟨row, hrow, hended⟩ := hended
    obtain ⟨hkey, _, hoperation⟩ := hsound.continuation_names hrow
    rw [linkOf_continuation hoperation hrow] at hfree
    have hlinked := linkCompletion_row hsound hrow hended hfree rfl nowMs
    have hread : linkOf (linkCompletion s.db false id
        (completionEventIdFor id) nowMs) id =
          (linkedRow nowMs row).completionEventRef := by
      unfold linkOf
      rw [hlinked, show (linkCompletion s.db false id
        (completionEventIdFor id) nowMs).operations = s.db.operations from rfl,
        hoperation]
      rfl
    rw [hread]
    unfold linkedRow
    split
    · left
      unfold EffectContinuation.linked
      rw [hfree, hkey]
      rfl
    · exact .inr ⟨rfl, hfree⟩

omit [Host] in
/-- A producer of one operation is none of another's. -/
theorem producersOf_update_ne (stage : ProducerStage)
    (hproducer : s.producers.get? producer.pid = some producer)
    (hne : producer.operationId ≠ id) :
    producersOf
        { db
          producers := s.producers.update (·.pid = producer.pid)
            (Producer.atStage stage) (Producer.atStage_key stage) } id =
      producersOf s id := by
  rw [producersOf_update stage hproducer]
  refine (map_congr_left fun _ hother => ?_).trans (List.map_id _)
  rw [if_neg]
  · rfl
  · rintro rfl
    exact hne (mem_producersOf.mp hother).2

/-- A producer that goes on leaves the other operations where they stand. -/
theorem Standing.advance_ne (hsound : Sound s) (hstanding : Standing s id)
    (hproducer : s.producers.get? producer.pid = some producer)
    (hne : producer.operationId ≠ id) :
    Standing (advanceProducer s producer) id := by
  have hproduces := hsound.producers _ producer hproducer
  unfold ProducerSound at hproduces
  unfold advanceProducer
  cases hstage : producer.stage with
  | posting =>
    rw [hstage] at hproduces
    obtain ⟨habout, hevent, _⟩ := hproduces
    refine hstanding.frame (producersOf_update_ne _ hproducer hne) rfl rfl ?_
    rw [postedFor_postEvent hevent.1, habout, if_neg hne]
  | noting =>
    rw [hstage] at hproduces
    obtain ⟨_, _, hnote, _⟩ := hproduces
    refine hstanding.frame (producersOf_update_ne _ hproducer hne) rfl ?_ rfl
    rw [notesOf_noteEvidence, hnote, if_neg hne, append_nil]
  | linking =>
    refine hstanding.frame ?_ (linkOf_linkCompletion_ne hne) ?_ ?_
    · rw [producersOf_delete]
      refine filter_eq_self.mpr fun _ hother => ?_
      obtain ⟨hstored, hown⟩ := mem_producersOf.mp hother
      simp only [Bool.not_eq_true', decide_eq_false_iff_not]
      intro hpid
      rw [hpid, hproducer] at hstored
      cases hstored
      exact hne hown
    · dsimp only [linkCompletion]
      split <;> rfl
    · dsimp only [linkCompletion]
      split <;> rfl

/-- The only producer of an operation goes on. -/
theorem Standing.advance (hsound : Sound s) (hstanding : Standing s id)
    (hproducer : s.producers.get? producer.pid = some producer)
    (hown : producer.operationId = id) :
    Standing (advanceProducer s producer) id := by
  have hproduces := hsound.producers _ producer hproducer
  have hmem : producer ∈ producersOf s id :=
    mem_producersOf.mpr ⟨hproducer, hown⟩
  have halone := hstanding.alone hmem
  have hnext : ∀ stage (db : CompletionDb), producersOf
      { db
        producers := s.producers.update (·.pid = producer.pid)
          (Producer.atStage stage) (Producer.atStage_key stage) } id =
        [producer.atStage stage] := by
    intro stage db
    rw [producersOf_update stage hproducer, halone, map_singleton,
      if_pos rfl]
  unfold ProducerSound at hproduces
  unfold advanceProducer
  cases hstanding with
  | idle hfree _ _ _ | noted hfree _ _ _ _ | linked hfree _ _ _ =>
    rw [hfree] at halone
    cases halone
  | posting _ event note hone hstage hlink hnotes =>
    rw [halone] at hone
    cases hone
    rw [hstage] at hproduces ⊢
    obtain ⟨habout, hevent, _⟩ := hproduces
    refine .noting _ event note (hnext _ _) rfl hlink hnotes ?_
    rw [postedFor_postEvent hevent.1, habout, if_pos hown]
  | noting _ _ _ hone hstage hlink hnotes hposted =>
    rw [halone] at hone
    cases hone
    rw [hstage] at hproduces ⊢
    obtain ⟨_, _, hnote, _⟩ := hproduces
    refine .linking _ _ _ (hnext _ _) rfl hlink ?_ hposted
    rw [notesOf_noteEvidence, hnotes, hnote, if_pos hown]
    rfl
  | linking _ isDetached eventId hone hstage hlink hnotes hposted =>
    rw [halone] at hone
    cases hone
    rw [hstage] at hproduces ⊢
    obtain ⟨hended, hevent, _⟩ := hproduces
    rw [hown] at hended hevent
    have hgone : ∀ db : CompletionDb, producersOf
        ⟨db, s.producers.delete (·.pid = producer.pid)⟩ id = [] := by
      intro db
      rw [producersOf_delete, halone]
      simp
    have hnotes' : ∀ db', db' = linkCompletion s.db isDetached id eventId
        producer.nowMs → (notesOf db' id).length = 1 ∧
          postedFor db' id = true := by
      rintro _ rfl
      unfold linkCompletion
      split <;> exact ⟨hnotes, hposted⟩
    rw [hown]
    obtain ⟨hnoted, hdone⟩ := hnotes' _ rfl
    rcases hsound.linkOf_linkCompletion hended hlink producer.nowMs with
      hlinked | ⟨heffect, hunlinked⟩
    · rw [← hevent] at hlinked
      exact .linked (hgone _) (hlinked.trans (congrArg some hevent)) hnoted
        hdone
    · rw [heffect] at hended
      obtain ⟨_, hrow, _⟩ := hended
      rw [← hevent] at hunlinked
      exact .noted (hgone _) hunlinked hnoted hdone
        (hsound.not_isDetachedId hrow)

end Producers

section Runs

variable [Host] {s : CompletionSystem} {id : String}

/-- Every step outside the windows leaves each operation at a standing. -/
theorem Standing.step (hsound : Sound s) {step : CompletionStep}
    (hspares : SparesWindow step s) (hstanding : Standing s id) :
    Standing (completionStep step s) id := by
  unfold completionStep
  cases step with
  | operate idempotencyKey operation =>
    exact hstanding.untold (writeOperation_untold idempotencyKey operation) rfl
  | effect =>
    dsimp only
    split
    · exact hstanding
    · exact hstanding.untold ⟨fun _ => rfl, rfl, rfl⟩ rfl
  | accept =>
    dsimp only
    split
    · exact hstanding
    · rename_i hok
      exact hstanding.untold (accept_untold _ hok) rfl
  | renew effectId leaseToken nowMs leaseMs =>
    exact hstanding.untold (renew_untold effectId leaseToken nowMs leaseMs)
      rfl
  | finish =>
    dsimp only
    split
    · exact hstanding
    · exact hstanding.untold (finish_untold _ _ _ _) rfl
  | recover =>
    dsimp only
    split
    · exact hstanding
    · exact hstanding.untold (recoverContinuation_untold _ _ _) rfl
  | begin =>
    dsimp only
    split
    · exact hstanding
    · rename_i hstage
      exact hstanding.begin hsound hstage hspares
  | advance pid =>
    dsimp only
    split
    · exact hstanding
    · rename_i producer hproducer
      have hpid : producer.pid = pid := key_of_get? hproducer
      subst hpid
      by_cases hown : producer.operationId = id
      · exact hstanding.advance hsound hproducer hown
      · exact hstanding.advance_ne hsound hproducer hown
  | crash => exact hstanding.crash hsound hspares

theorem run_standing {steps : List CompletionStep}
    (hmeets : Meets completionStep SparesWindow {} steps) (id : String) :
    Standing (run completionStep {} steps) id := by
  refine (meets_preserves (P := fun s => Sound s ∧ Standing s id)
    (fun step s hspares hstate => ?_) ⟨emptySystem_sound, ?_⟩ hmeets).2
  · exact ⟨(completionStep_kept hstate.1 step).sound,
      hstate.2.step hstate.1 hspares⟩
  · exact .idle rfl rfl rfl nofun

theorem eventsOf_length_le (hsound : Sound s) : (eventsOf s.db id).length ≤ 1 := by
  have hsame : ∀ event ∈ eventsOf s.db id, key event = completionEventIdFor id := by
    intro event hevent
    obtain ⟨hmem, habout⟩ := mem_filter.mp hevent
    have hstored := hsound.events _ event (get?_key hmem)
    rw [← show event.payload.operationId = id by simpa using habout]
    exact hstored.1
  have hnodup : ((eventsOf s.db id).map key).Nodup :=
    s.db.inbox.keys_nodup.sublist (filter_sublist.map key)
  have hkeys : (eventsOf s.db id).map key =
      List.replicate (eventsOf s.db id).length (completionEventIdFor id) := by
    refine eq_replicate_iff.mpr ⟨length_map _, fun _ hname => ?_⟩
    obtain ⟨event, hevent, rfl⟩ := List.mem_map.mp hname
    exact hsame event hevent
  rw [hkeys] at hnodup
  exact nodup_replicate.mp hnodup

/-- The posted event of an operation is the only one about it. -/
theorem eventsOf_posted (hsound : Sound s) (hposted : postedFor s.db id = true) :
    ∃ event, eventsOf s.db id = [event] ∧ event.id = completionEventIdFor id := by
  obtain ⟨event, hevent⟩ := isSome_iff_exists.mp hposted
  have hkey : event.id = completionEventIdFor id := key_of_get? hevent
  have habout : event.payload.operationId = id :=
    completionEventIdFor_inj ((hsound.events _ event hevent).1.symm.trans hkey)
  have hmem : event ∈ eventsOf s.db id :=
    mem_filter.mpr ⟨mem_of_get? hevent, by simpa using habout⟩
  refine ⟨event, ?_, hkey⟩
  obtain ⟨_, honly⟩ := length_eq_one_iff.mp
    (le_antisymm (eventsOf_length_le hsound) (length_pos_of_mem hmem))
  rw [honly, mem_singleton] at hmem
  rw [honly, hmem]

end Runs

section Quiescence

variable [Host] {s : CompletionSystem} {id : String}

/-- No producer is under way, and some pass that does not throw finds nothing
to report. -/
def Quiescent (s : CompletionSystem) : Prop :=
  s.producers.rows = [] ∧ ∃ readings options result db',
    (∀ id, (readings id : CompletionReading).eventThrows = false ∧
      (readings id).evidenceThrows = false) ∧
    reconcileMissingCompletions s.db readings options = (some result, db') ∧
    result.produced = []

theorem IsDetachedId.ne_empty (hdetached : IsDetachedId id) : id ≠ "" := by
  obtain ⟨_, rfl⟩ := hdetached
  intro hempty
  have hlist := congrArg String.toList hempty
  unfold detachedOperationIdFor at hlist
  rw [String.toList_append] at hlist
  cases hlist

/-- A finished operation without a reference gets its event reported. -/
theorem produce_unlinked (hsound : Sound s) {isDetached : Bool}
    (hended : HasEnded s.db isDetached id) (hfree : linkOf s.db id = none)
    (nowMs : Int) {reading : CompletionReading}
    (hevent : reading.eventThrows = false)
    (hevidence : reading.evidenceThrows = false) :
    id ≠ "" ∧ ∃ eventId created,
      (produceOperationCompletion s.db id nowMs reading).1 =
        .ok eventId created := by
  unfold produceOperationCompletion
  rw [hevent, hevidence]
  cases isDetached with
  | true =>
    obtain ⟨row, hrow, hterminal⟩ := hended
    have hname := (hsound.isDetachedId hrow).ne_empty
    rw [linkOf_operation hrow (hsound.noContinuation hrow)] at hfree
    obtain ⟨_, hterminal⟩ := ne_none_iff_exists'.mp hterminal
    refine ⟨hname, completionEventIdFor row.operationId, true, ?_⟩
    unfold planCompletion planDetachedCompletion
    rw [if_neg hname, hrow]
    dsimp only
    rw [hterminal, hfree]
    rfl
  | false =>
    obtain ⟨row, hrow, hterminal⟩ := hended
    obtain ⟨hid, hblank, hoperation⟩ := hsound.continuation_names hrow
    rw [linkOf_continuation hoperation hrow] at hfree
    have hfound := hsound.continuations id row hrow
    obtain ⟨receipt, hreceipt, hfinal⟩ := hfound.ended hterminal
    obtain ⟨inFlight, hinFlight, hcycle, hgeneration⟩ := hfound.bound
    rw [hid] at hreceipt hinFlight
    refine ⟨ne_empty_of_not_blank hblank, ?_⟩
    unfold planCompletion
    rw [if_neg (ne_empty_of_not_blank hblank), hoperation]
    unfold planEffectCompletion
    rw [hsound.getEffectContinuation hrow]
    dsimp only
    rw [hsound.readLink hrow, hfree,
      if_neg (show ¬ row.asRead.state = .running from hterminal)]
    rw [show getEffectReceipt s.db.ledger id = some receipt from hreceipt,
      filter_some, if_pos (by simpa using hfinal)]
    dsimp only
    have hbound : (s.db.ledger.getInFlightByEffectId id).filter
        (fun inFlight => inFlight.cycleId = row.asRead.cycleId &&
          inFlight.generation = row.asRead.generation) = some inFlight := by
      rw [show s.db.ledger.getInFlightByEffectId id = some inFlight
        from hinFlight, filter_some]
      exact if_pos (by rw [hcycle, hgeneration]; simp
        [EffectContinuation.asRead])
    rw [hbound]
    by_cases hposted : (s.db.inbox.get? (completionEventIdFor id)).isSome
    · rw [if_pos hposted]
      exact ⟨_, _, rfl⟩
    · rw [if_neg hposted]
      exact ⟨_, _, rfl⟩

section Passes

variable {readings : String → CompletionReading} {nowMs : Int}
  {result : ReconcileResult} {db : CompletionDb}

variable {limit : Nat}
variable {runtimeId : String} {continuations : List EffectContinuation}
variable {db' : CompletionDb}

theorem produceEach_produced (progress : ReconcileResult × CompletionDb)
    (operationId : String) :
    progress.1.produced <+:
      (produceEach readings nowMs progress operationId).1.produced := by
  unfold produceEach
  split
  · exact prefix_rfl
  · dsimp only
    split
    · exact prefix_append _ _
    · exact prefix_rfl

theorem foldl_produced (ids : List String)
    (progress : ReconcileResult × CompletionDb) :
    progress.1.produced <+:
      (ids.foldl (produceEach readings nowMs) progress).1.produced := by
  induction ids generalizing progress with
  | nil => exact prefix_rfl
  | cons operationId _ ih =>
    exact (produceEach_produced progress operationId).trans (ih _)

/-- A list of operations to report is empty, or its head is reported. -/
theorem foldl_reports {ids : List String}
    (hreports : ∀ id ∈ ids, id ≠ "" ∧ ∃ eventId created,
      (produceOperationCompletion db id nowMs (readings id)).1 =
        .ok eventId created)
    (hnone : (ids.foldl (produceEach readings nowMs)
      (result, db)).1.produced = []) : ids = [] := by
  cases ids with
  | nil => rfl
  | cons head rest =>
    obtain ⟨hname, _, _, hok⟩ := hreports head (mem_cons_self)
    have hfirst := @foldl_produced _ readings nowMs rest
      (produceEach readings nowMs (result, db) head)
    rw [foldl_cons] at hnone
    rw [hnone] at hfirst
    unfold produceEach at hfirst
    rw [if_neg hname] at hfirst
    dsimp only at hfirst
    rw [hok] at hfirst
    exact absurd hfirst (by simp)

omit [Host] in
theorem mem_missingOperations (hmissing : id ∈ missingOperations db limit) :
    ∃ row, db.operations.get? id = some row ∧ row.terminalState ≠ none ∧
      row.completionEventRef = none := by
  obtain ⟨row, hrow, rfl⟩ := List.mem_map.mp hmissing
  have hlisted := (perm_insertionSort _ _).subset
    (mem_of_mem_take hrow)
  obtain ⟨hmem, hwanted⟩ := mem_filter.mp hlisted
  simp only [Bool.and_eq_true, isSome_iff_ne_none,
    isNone_iff_eq_none] at hwanted
  exact ⟨row, get?_key hmem, hwanted⟩

omit [Host] in
theorem mem_missingContinuations (hmissing : id ∈ missingContinuations db limit) :
    ∃ row, db.continuations.get? id = some row ∧ row.state ≠ .running ∧
      row.completionEventRef = none := by
  obtain ⟨row, hrow, rfl⟩ := List.mem_map.mp hmissing
  have hlisted := (perm_insertionSort _ _).subset
    (mem_of_mem_take hrow)
  obtain ⟨hmem, hwanted⟩ := mem_filter.mp hlisted
  simp only [Bool.and_eq_true, decide_eq_true_eq,
    isNone_iff_eq_none] at hwanted
  exact ⟨row, get?_key hmem, hwanted⟩

omit [Host] in
/-- A list that is sorted and cut to a length is empty only if it was. -/
theorem sorted_take_nil {α : Type} {r : α → α → Prop} [DecidableRel r]
    {rows : List α} (hlimit : 0 < limit)
    (hnil : (rows.insertionSort r).take limit = []) : rows = [] := by
  rcases take_eq_nil_iff.mp hnil with hzero | hsorted
  · exact absurd hzero hlimit.ne'
  · have hlength := length_insertionSort r rows
    rw [hsorted] at hlength
    exact length_eq_zero_iff.mp hlength.symm

omit [Host] in
theorem bounded_pos (options : ReconcileOptions) : 0 < options.bounded := by
  unfold ReconcileOptions.bounded
  omega

omit [Host] in
/-- Recovering ends continuations, and tells nobody. -/
theorem recoverEach_produced {result' : ReconcileResult}
    (hok : recoverEach nowMs runtimeId continuations (result, db) =
      (some result', db')) :
    result'.produced = result.produced ∧ Untold db db' := by
  induction continuations generalizing result db with
  | nil =>
    cases hok
    exact ⟨rfl, .refl _⟩
  | cons continuation _ ih =>
    have huntold := @recoverContinuation_untold db nowMs runtimeId
      continuation
    unfold recoverEach at hok
    dsimp only at hok
    split at hok
    · cases hok
    · obtain ⟨hproduced, hrest⟩ := ih hok
      exact ⟨hproduced, huntold.trans hrest⟩
    · obtain ⟨hproduced, hrest⟩ := ih hok
      exact ⟨hproduced, huntold.trans hrest⟩

theorem recoverEach_kept (hsound : Sound s) {result' : Option ReconcileResult}
    (hok : recoverEach nowMs runtimeId continuations (result, s.db) =
      (result', db')) : Kept s { s with db := db' } := by
  induction continuations generalizing result s with
  | nil =>
    cases hok
    exact .refl hsound
  | cons continuation _ ih =>
    have hfirst := @recoverContinuation_kept _ s hsound continuation nowMs
      runtimeId
    unfold recoverEach at hok
    dsimp only at hok
    split at hok
    · cases hok
      exact hfirst
    · exact hfirst.trans (ih hfirst.sound hok)
    · exact hfirst.trans (ih hfirst.sound hok)

end Passes

/-- In a quiescent state every finished operation has its reference. -/
theorem Quiescent.linked (hsound : Sound s) (hquiet : Quiescent s)
    {isDetached : Bool} (hended : HasEnded s.db isDetached id) :
    linkOf s.db id ≠ none := by
  intro hfree
  obtain ⟨_, readings, options, _, _, hcalm, hpass, hnone⟩ := hquiet
  unfold reconcileMissingCompletions at hpass
  dsimp only at hpass
  split at hpass
  · cases hpass
  rename_i recovered middle hrecovered
  obtain ⟨hresult, _⟩ := Prod.mk.inj hpass
  rw [← some.inj hresult] at hnone
  have hproduced := @foldl_produced _ readings options.nowMs
    (missingContinuations middle options.bounded) (recovered, middle)
  rw [hnone, prefix_nil] at hproduced
  have hfirst : ((missingOperations s.db options.bounded).foldl
      (produceEach readings options.nowMs) ({}, s.db)).1.produced = [] :=
    (recoverEach_produced hrecovered).1.symm.trans hproduced
  have hoperations : missingOperations s.db options.bounded = [] := by
    refine foldl_reports (fun other hother => ?_) hfirst
    obtain ⟨row, hrow, hterminal, hunlinked⟩ := mem_missingOperations hother
    refine @produce_unlinked _ _ _ hsound true ⟨row, hrow, hterminal⟩
      ?_ options.nowMs _ (hcalm other).1 (hcalm other).2
    rw [linkOf_operation hrow (hsound.noContinuation hrow)]
    exact hunlinked
  rw [hoperations] at hrecovered
  have hkept := recoverEach_kept hsound hrecovered
  have huntold := (recoverEach_produced hrecovered).2
  cases isDetached with
  | true =>
    obtain ⟨row, hrow, hterminal⟩ := hended
    rw [linkOf_operation hrow (hsound.noContinuation hrow)] at hfree
    have hrows := sorted_take_nil (bounded_pos options)
      (map_eq_nil_iff.mp hoperations)
    have hmem : row ∈ s.db.operations.rows.filter fun row =>
        row.terminalState.isSome && row.completionEventRef.isNone :=
      mem_filter.mpr ⟨mem_of_get? hrow, by
        simp [isSome_iff_ne_none, hterminal, hfree]⟩
    rw [hrows] at hmem
    cases hmem
  | false =>
    obtain ⟨row, hrow, hterminal⟩ := hended.mono hkept.grows
    obtain ⟨_, _, hoperation⟩ := hkept.sound.continuation_names hrow
    have hunlinked := (huntold.links id).trans hfree
    rw [linkOf_continuation hoperation hrow] at hunlinked
    have hcontinuations :
        missingContinuations middle options.bounded = [] := by
      refine foldl_reports (fun other hother => ?_) hnone
      obtain ⟨otherRow, hotherRow, hotherEnded, hotherFree⟩ :=
        mem_missingContinuations hother
      refine @produce_unlinked _ _ _ hkept.sound false
        ⟨otherRow, hotherRow, hotherEnded⟩ ?_ options.nowMs _ (hcalm other).1
        (hcalm other).2
      rw [linkOf_continuation (hkept.sound.continuation_names hotherRow).2.2
        hotherRow]
      exact hotherFree
    have hrows := sorted_take_nil (bounded_pos options)
      (map_eq_nil_iff.mp hcontinuations)
    have hmem : row ∈ middle.continuations.rows.filter fun row =>
        decide (row.state ≠ .running) && row.completionEventRef.isNone :=
      mem_filter.mpr ⟨mem_of_get? hrow, by
        simp [hterminal, hunlinked]⟩
    rw [hrows] at hmem
    cases hmem

/-- In every run in which no two producers of an operation overlap and none
stops in its window, a finished operation ends with exactly one event, exactly
one evidence row, and a reference that names the event. -/
theorem completions_exactly_once (steps : List CompletionStep) (id : String)
    (isDetached : Bool)
    (hmeets : Meets completionStep SparesWindow {} steps)
    (hended : HasEnded (run completionStep {} steps).db isDetached id)
    (hquiet : Quiescent (run completionStep {} steps)) :
    ∃ event note, eventsOf (run completionStep {} steps).db id = [event] ∧
      notesOf (run completionStep {} steps).db id = [note] ∧
      linkOf (run completionStep {} steps).db id = some event.id := by
  have hsound := run_sound steps
  have hlinked := hquiet.linked hsound hended
  have hnobody : producersOf (run completionStep {} steps) id = [] := by
    unfold producersOf
    rw [hquiet.1]
    rfl
  cases run_standing hmeets id with
  | idle _ hlink _ _ | noted _ hlink _ _ _ => exact absurd hlink hlinked
  | linked _ hlink hnotes hposted =>
    obtain ⟨event, hevents, hid⟩ := eventsOf_posted hsound hposted
    obtain ⟨note, hnotes⟩ := List.length_eq_one_iff.mp hnotes
    exact ⟨event, note, hevents, hnotes, hid ▸ hlink⟩
  | posting _ _ _ hone _ _ _ _ | noting _ _ _ hone _ _ _ _
  | linking _ _ _ hone _ _ _ _ =>
    rw [hnobody] at hone
    cases hone

end Quiescence

section Develop

attribute [local instance] plainHost

/-- The worker of a develop effect has returned, and its continuation has
ended. -/
def returned : List CompletionStep := developed .succeeded {}

/-- A producer goes through its three statements. -/
def reported : List CompletionStep :=
  returned ++ [.begin 1 "effect:u" 5 {}, .advance 1, .advance 1, .advance 1]

/-- A producer stops after its event, and a retry only links it. -/
def stoppedBetween : List CompletionStep :=
  returned ++ [.begin 1 "effect:u" 5 {}, .advance 1, .crash 1,
    .begin 2 "effect:u" 6 {}, .advance 2]

theorem hasEnded_of_state {db : CompletionDb} {id : String}
    (hstate : ((db.continuations.get? id).any
      fun row => decide (row.state ≠ .running)) = true) :
    HasEnded db false id := by
  obtain ⟨row, hrow, hended⟩ := (Option.any_eq_true _ _).mp hstate
  exact ⟨row, hrow, by simpa using hended⟩

theorem quiescent_of_pass {s : CompletionSystem}
    (hproducers : s.producers.rows = [])
    (hpass : (reconcileMissingCompletions s.db (fun _ => {})
      { nowMs := 7, runtimeId := "r" }).1 = some {}) : Quiescent s :=
  ⟨hproducers, fun _ => {}, _, {}, _, fun _ => ⟨rfl, rfl⟩,
    Prod.ext hpass rfl, rfl⟩

/-- A producer that stops between its event and its evidence leaves an effect
without evidence for ever: the retry sees the event, and only links it. -/
theorem stopped_between_leaves_no_evidence :
    ¬ ∀ (steps : List CompletionStep) (id : String) (isDetached : Bool),
      HasEnded (run completionStep {} steps).db isDetached id →
      Quiescent (run completionStep {} steps) →
      ∃ event note, eventsOf (run completionStep {} steps).db id = [event] ∧
        notesOf (run completionStep {} steps).db id = [note] ∧
        linkOf (run completionStep {} steps).db id = some event.id := by
  intro hall
  obtain ⟨_, _, _, hnotes, _⟩ := hall stoppedBetween "effect:u" false
    (hasEnded_of_state (by decide +kernel))
    (quiescent_of_pass (by decide +kernel) (by decide +kernel))
  have hnone : notesOf (run completionStep {} stoppedBetween).db "effect:u" =
      [] := by decide +kernel
  rw [hnone] at hnotes
  cases hnotes

theorem reported_exactly_once :
    ∃ event note,
      eventsOf (run completionStep {} reported).db "effect:u" = [event] ∧
      notesOf (run completionStep {} reported).db "effect:u" = [note] ∧
      linkOf (run completionStep {} reported).db "effect:u" =
        some event.id := by
  refine completions_exactly_once reported "effect:u" false ?_
    (hasEnded_of_state (by decide +kernel))
    (quiescent_of_pass (by decide +kernel) (by decide +kernel))
  refine ⟨trivial, trivial, trivial, trivial, ?_, trivial, trivial, trivial,
    trivial⟩
  exact show producersOf (run completionStep {} returned) "effect:u" = [] by
    decide +kernel

end Develop

end CognitiveSidecar.Completions
