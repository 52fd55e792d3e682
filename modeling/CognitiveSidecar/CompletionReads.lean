/-
Reading completions back: for which receipts the continuation of an effect is
read from its completion, whatever happened in between.
-/
import CognitiveSidecar.CompletionMoves

namespace CognitiveSidecar.Completions

open List Relational

section Names

variable {first rest : String}

theorem append_left_inj {rest' : String} (heq : first ++ rest = first ++ rest') :
    rest = rest' := by
  have hlist := congrArg String.toList heq
  rw [String.toList_append, String.toList_append] at hlist
  exact String.toList_inj.mp (append_cancel_left hlist)

theorem append_right_inj {first' : String}
    (heq : first ++ rest = first' ++ rest) : first = first' := by
  have hlist := congrArg String.toList heq
  rw [String.toList_append, String.toList_append] at hlist
  exact String.toList_inj.mp (append_cancel_right hlist)

theorem completionEventIdFor_inj {id other : String}
    (heq : completionEventIdFor id = completionEventIdFor other) :
    id = other :=
  append_left_inj (append_right_inj heq)

/-- A text that begins with a letter is not blank. -/
theorem blank_append {first rest : String} {c : Char} {chars : List Char}
    (hfirst : first.toList = c :: chars) (hletter : isTrimmed c = false) :
    blank (first ++ rest) = false := by
  unfold blank
  rw [String.toList_append, hfirst, cons_append, all_cons, hletter,
    Bool.false_and]

theorem blank_effectIdFor (uuid : String) : blank (effectIdFor uuid) = false :=
  @blank_append "effect:" uuid 'e' "ffect:".toList rfl (by decide)

theorem blank_completionEventIdFor (id : String) :
    blank (completionEventIdFor id) = false := by
  unfold completionEventIdFor
  rw [String.append_assoc]
  exact @blank_append "operation:" _ 'o' "peration:".toList rfl (by decide)

theorem ne_empty_of_not_blank {text : String} (hblank : blank text = false) :
    text ≠ "" := by
  rintro rfl
  cases hblank

/-- No effect has the id of a detached operation. -/
theorem effectIdFor_ne [Host] (uuid idempotencyKey : String) :
    effectIdFor uuid ≠ detachedOperationIdFor idempotencyKey := by
  intro heq
  have hlist := congrArg (fun text => text.toList.head?) heq
  unfold effectIdFor detachedOperationIdFor at hlist
  rw [String.toList_append, String.toList_append] at hlist
  cases hlist

end Names

section Reading

variable [Host] {s : CompletionSystem} {id : String} {row : EffectContinuation}
variable {eventId : String} {event : CompletionEvent} {receipt : ReceiptRow}

/-- A stored continuation is not a detached operation, and its id is a name. -/
theorem Sound.continuation_names (hsound : Sound s)
    (hrow : s.db.continuations.get? id = some row) :
    row.effectId = id ∧ blank id = false ∧
      s.db.operations.get? id = none := by
  obtain ⟨uuid, huuid⟩ := (hsound.continuations id row hrow).minted
  have hid : row.effectId = id := key_of_get? hrow
  rw [hid] at huuid
  subst huuid
  refine ⟨hid, blank_effectIdFor uuid, ?_⟩
  cases hoperation : s.db.operations.get? (effectIdFor uuid) with
  | none => rfl
  | some operation =>
    obtain ⟨idempotencyKey, hminted⟩ :=
      (hsound.operations _ operation hoperation).minted
    have hkey : operation.operationId = effectIdFor uuid :=
      key_of_get? hoperation
    rw [hkey] at hminted
    exact absurd hminted (effectIdFor_ne uuid idempotencyKey)

/-- A sound row is read. -/
theorem Sound.getEffectContinuation (hsound : Sound s)
    (hrow : s.db.continuations.get? id = some row) :
    getEffectContinuation s.db.continuations id = some row.asRead := by
  obtain ⟨hid, hblank, _⟩ := hsound.continuation_names hrow
  obtain ⟨hconversation, hcycle, hruntime, hlease⟩ :=
    (hsound.continuations id row hrow).named
  unfold Completions.getEffectContinuation
  rw [hblank, if_neg Bool.false_ne_true, hrow, Option.bind_some]
  unfold mapContinuation
  rw [if_neg]
  rintro (hempty | hempty | hempty | hempty | hempty)
  · rw [hid] at hempty
    exact ne_empty_of_not_blank hblank hempty
  · exact hconversation hempty
  · exact hcycle hempty
  · exact hruntime hempty
  · exact hlease hempty

omit [Host] in
/-- A reference reads as it is stored. -/
theorem stringValue_linked {operationId : String} {value : Option String}
    (hnames : ∀ eventId, value = some eventId →
      eventId = completionEventIdFor operationId) :
    stringValue value = value := by
  cases value with
  | none => rfl
  | some eventId =>
    unfold stringValue
    rw [Option.filter_some, if_pos]
    rw [hnames eventId rfl]
    exact decide_eq_true
      (ne_empty_of_not_blank (blank_completionEventIdFor operationId))

theorem Sound.readLink (hsound : Sound s)
    (hrow : s.db.continuations.get? id = some row) :
    row.asRead.completionEventRef = row.completionEventRef :=
  stringValue_linked fun eventId hlinked =>
    ((hsound.continuations id row hrow).linked eventId hlinked).2.1

/-- The row of a continuation once a producer has recorded its event. -/
def linkedRow (nowMs : Int) (row : EffectContinuation) : EffectContinuation :=
  if row.completionEventRef = none ∧ safeMs nowMs = true then
    row.linked (completionEventIdFor row.effectId) nowMs
  else row

/-- The last statement of a producer of an effect. -/
theorem linkCompletion_row (hsound : Sound s)
    (hrow : s.db.continuations.get? id = some row)
    (hended : row.state ≠ .running) (hfree : row.completionEventRef = none)
    {db : CompletionDb} (hdb : db.continuations = s.db.continuations)
    (nowMs : Int) :
    (linkCompletion db false id (completionEventIdFor id)
      nowMs).continuations.get? id = some (linkedRow nowMs row) := by
  obtain ⟨hid, hblank, _⟩ := hsound.continuation_names hrow
  unfold linkCompletion
  rw [if_neg Bool.false_ne_true]
  unfold recordEffectContinuationCompletion linkedRow
  rw [hblank, blank_completionEventIdFor, hdb]
  cases hsafe : safeMs nowMs with
  | false =>
    rw [if_pos (.inr (.inr rfl)), hrow,
      if_neg fun hboth => Bool.false_ne_true hboth.2]
  | true =>
    rw [if_neg (by simp), get?_update, hrow, Option.map_some,
      if_pos (by simp [hid, hended]), if_pos ⟨hfree, rfl⟩, hid]

/-- What a producer that reports an event of an effect leaves. -/
structure Reported (s : CompletionSystem) (id : String)
    (row : EffectContinuation) (nowMs : Int) (eventId : String)
    (db' : CompletionDb) : Prop where
  named : eventId = completionEventIdFor id
  kept : Kept s { s with db := db' }
  ledger : db'.ledger = s.db.ledger
  row : db'.continuations.get? id = some (linkedRow nowMs row)
  posted : (db'.inbox.get? eventId).isSome = true

/-- What a producer of an effect decides. -/
inductive EffectPlan (s : CompletionSystem) (id : String)
    (row : EffectContinuation) : CompletionPlan → Prop
  | refuse (reason : String) : EffectPlan s id row (.refuse reason)
  | report (eventId : String) (hlinked : row.completionEventRef = some eventId)
      (hended : row.state ≠ .running) : EffectPlan s id row (.report eventId)
  | relink (hfree : row.completionEventRef = none)
      (hended : row.state ≠ .running)
      (hposted : (s.db.inbox.get? (completionEventIdFor id)).isSome = true) :
      EffectPlan s id row (.relink (completionEventIdFor id))
  | post (event : CompletionEvent) (note : SystemEvidence)
      (hfree : row.completionEventRef = none) (hended : row.state ≠ .running)
      (hfresh : s.db.inbox.get? (completionEventIdFor id) = none)
      (hid : event.id = completionEventIdFor id)
      (hdetached : event.payload.isDetached = false) :
      EffectPlan s id row (.post event note)

theorem planCompletion_effect (hsound : Sound s)
    (hrow : s.db.continuations.get? id = some row) (nowMs : Int)
    (reading : CompletionReading) :
    EffectPlan s id row (planCompletion s.db id nowMs reading) := by
  obtain ⟨_, hblank, hother⟩ := hsound.continuation_names hrow
  unfold planCompletion
  rw [if_neg (ne_empty_of_not_blank hblank), hother]
  unfold planEffectCompletion
  rw [hsound.getEffectContinuation hrow]
  dsimp only
  rw [hsound.readLink hrow]
  split
  · exact .refuse _
  · rename_i hended
    split
    · exact .refuse _
    · split
      · rename_i linked hlinked
        exact .report linked hlinked hended
      · rename_i hfree
        split
        · rename_i hposted
          exact .relink hfree hended hposted
        · rename_i hfresh
          split
          · exact .refuse _
          · refine .post _ _ hfree hended ?_ rfl rfl
            simpa using hfresh

omit [Host] in
theorem linkedRow_of_linked (nowMs : Int)
    (hlinked : row.completionEventRef = some eventId) :
    linkedRow nowMs row = row := by
  unfold linkedRow
  rw [if_neg]
  rintro ⟨hfree, _⟩
  rw [hlinked] at hfree
  cases hfree

theorem produce_reported (hsound : Sound s)
    (hrow : s.db.continuations.get? id = some row) {nowMs : Int}
    {reading : CompletionReading} {created : Bool} {db' : CompletionDb}
    (hok : produceOperationCompletion s.db id nowMs reading =
      (.ok eventId created, db')) :
    row.state ≠ .running ∧ Reported s id row nowMs eventId db' := by
  have hplan := planCompletion_effect hsound hrow nowMs reading
  unfold produceOperationCompletion at hok
  cases hplanned : planCompletion s.db id nowMs reading with
  | refuse =>
    rw [hplanned] at hok
    cases hok
  | report =>
    rw [hplanned] at hok hplan
    cases hplan with
    | report _ hlinked hended =>
      cases hok
      have hid : row.effectId = id := key_of_get? hrow
      obtain ⟨_, hnames, hposted⟩ :=
        (hsound.continuations id row hrow).linked eventId hlinked
      rw [hid] at hnames hposted
      refine ⟨hended, hnames, .refl hsound, rfl, ?_, ?_⟩
      · rw [linkedRow_of_linked nowMs hlinked]
        exact hrow
      · rw [hnames]
        exact hposted
  | relink =>
    rw [hplanned] at hok hplan
    cases hplan with
    | relink hfree hended hposted =>
      obtain ⟨hresult, hdb⟩ := Prod.mk.inj hok
      cases hresult
      rw [← hdb]
      exact ⟨hended, rfl, linkCompletion_kept hsound nowMs
        ⟨row, hrow, hended⟩ ⟨rfl, hposted⟩, rfl,
        linkCompletion_row hsound hrow hended hfree rfl nowMs, hposted⟩
  | post event note =>
    have hbegun : ProducerSound s.db
        ⟨0, id, nowMs, .posting event note⟩ :=
      planCompletion_sound 0 (by rw [hplanned]; rfl)
    rw [hplanned] at hok hplan
    cases hplan with
    | post _ _ hfree hended _ hid hdetached =>
      split_ifs at hok
      · cases hok
      · cases hok
      · obtain ⟨hresult, hdb⟩ := Prod.mk.inj hok
        cases hresult
        rw [hdetached, hid] at hdb
        have hposted := postEvent_kept hsound hbegun.2.1
        have hnoted := hposted.trans
          (noteEvidence_kept hposted.sound note)
        have hstored := postEvent_posted s.db event
        rw [hid] at hstored
        rw [← hdb]
        refine ⟨hended, hid, hnoted.trans (linkCompletion_kept hnoted.sound
          nowMs ⟨row, hrow, hended⟩ ⟨rfl, hstored⟩), rfl,
          linkCompletion_row hsound hrow hended hfree rfl nowMs, ?_⟩
        rw [hid]
        exact hstored

omit [Host] in
theorem guard_bind_some {α : Type} {p : Prop} [Decidable p]
    {f : Unit → Option α} {b : α} :
    (guard p >>= f) = some b ↔ p ∧ f () = some b := by
  by_cases hp : p <;> simp [guard, hp]

omit [Host] in
/-- A receipt tells the end that a row has stored. -/
structure Agrees (receipt : ReceiptRow) (row : EffectContinuation) : Prop where
  terminalClass :
    some (receiptTerminalClass receipt) = stringValue row.terminalClass
  effectTruth : some (receiptEffectTruth receipt) = stringValue row.effectTruth
  state : receiptState receipt = row.state

/-- The event of an effect tells its end and its receipt. -/
theorem Sound.effectEvent (hsound : Sound s)
    (hrow : s.db.continuations.get? id = some row)
    (hevent : s.db.inbox.get? (completionEventIdFor id) = some event)
    (hreceipt : s.db.ledger.receipts.get? id = some receipt) :
    event.kind = "observation_or_receipt" ∧
    event.conversationId = row.conversationId ∧
    row.state ≠ .running ∧ receipt.outcome ≠ .inProgress ∧
    ∃ origin reading, event.payload = .effect
      (effectCompletionPayload row.asRead origin receipt.receiptId reading) := by
  obtain ⟨heventId, hkind, hpayload⟩ := hsound.events _ event hevent
  have hkey : event.id = completionEventIdFor id := key_of_get? hevent
  have habout : event.payload.operationId = id :=
    completionEventIdFor_inj (heventId.symm.trans hkey)
  cases hkindOf : event.payload with
  | detached payload =>
    rw [hkindOf] at hpayload habout
    obtain ⟨_, hoperation, _⟩ := hpayload
    rw [show payload.detachedOperationId = id from habout,
      (hsound.continuation_names hrow).2.2] at hoperation
    cases hoperation
  | effect payload =>
    rw [hkindOf] at hpayload habout
    obtain ⟨_, _, origin, reading, hrow', hended, hreceipt', hfinal,
      hconversation, hpayload⟩ := hpayload
    rw [show payload.effectContinuationId = id from habout] at hrow' hreceipt'
    rw [hrow] at hrow'
    rw [hreceipt] at hreceipt'
    cases hrow'
    cases hreceipt'
    exact ⟨hkind, hconversation, hended, hfinal, origin, reading,
      congrArg CompletionPayload.effect hpayload⟩

/-- When a continuation is read back from its stored completion. -/
theorem read_back_iff (hsound : Sound s)
    (hrow : s.db.continuations.get? id = some row)
    (hevent : s.db.inbox.get? (completionEventIdFor id) = some event)
    (hreceipt : s.db.ledger.receipts.get? id = some receipt) :
    effectContinuationFromCompletion s.db (completionEventIdFor id)
        event.conversationId event.payload =
          Completions.getEffectContinuation s.db.continuations id ↔
      row.completionEventRef = some (completionEventIdFor id) ∧
        receipt.outcome ≠ .notAttempted ∧ Agrees receipt row := by
  obtain ⟨hid, hblank, _⟩ := hsound.continuation_names hrow
  obtain ⟨hkind, hconversation, hended, hfinal, origin, reading, hpayload⟩ :=
    hsound.effectEvent hrow hevent hreceipt
  have hread := hsound.getEffectContinuation hrow
  unfold effectContinuationFromCompletion
  rw [hpayload]
  dsimp only
  rw [show (effectCompletionPayload row.asRead origin receipt.receiptId
    reading).effectContinuationId = id from hid]
  rw [if_neg (by simp [ne_empty_of_not_blank hblank]), hevent,
    Option.bind_eq_bind, Option.bind_some, hpayload, hread, guard_bind_some,
    show getEffectReceipt s.db.ledger id = some receipt from hreceipt]
  simp only [Option.bind_eq_bind, Option.bind_some]
  rw [← Option.bind_eq_bind, guard_bind_some, guard_bind_some, guard_bind_some]
  constructor
  · rintro ⟨_, ⟨_, _, hlinked, _, hattempted⟩, ⟨hclass, htruth, hstate, _⟩, _⟩
    rw [hsound.readLink hrow] at hlinked
    exact ⟨hlinked, hattempted, hclass, htruth, hstate⟩
  · rintro ⟨hlinked, hattempted, hclass, htruth, hstate⟩
    have hclassed : row.asRead.terminalClass =
        some (receiptTerminalClass receipt) := hclass.symm
    have htruthed : row.asRead.effectTruth =
        some (receiptEffectTruth receipt) := htruth.symm
    rw [← hsound.readLink hrow] at hlinked
    refine ⟨⟨hkind, trivial⟩, ⟨hconversation.symm, hended, hlinked, hfinal,
      hattempted⟩, ⟨hclass, htruth, hstate, trivial⟩, ⟨hid, hid, hid, rfl, rfl,
      rfl, rfl, rfl, rfl, rfl, ?_, ?_, rfl, rfl, rfl, ?_⟩, rfl⟩
    · rw [hclassed]
      exact congrArg some (by rw [effectCompletionPayload, hclassed]; rfl)
    · rw [htruthed]
      exact congrArg some (by rw [effectCompletionPayload, htruthed]; rfl)
    · exact congrArg triggerRefFor hid

end Reading

section Ends

variable {receipt : ReceiptRow}
variable {row : EffectContinuation} {nowMs : Int}

/-- The receipts that end a continuation so that it can be read back.  One that
its worker returns must name its truth or be a success. -/
structure Legible (byWorker : Bool) (receipt : ReceiptRow) : Prop where
  attempted : receipt.outcome ≠ .notAttempted
  terminalClass : ∀ text, receipt.claims.terminationClass = some text →
    text ≠ "" ∧ utf16Length text ≤ 80
  effectTruth : ∀ text, receipt.claims.executionTruth = some text →
    text ≠ "" ∧ utf16Length text ≤ 80
  told : byWorker = true → receipt.claims.executionTruth = none →
    receipt.outcome = .succeeded

/-- A text that is stored cut reads as itself where it fits. -/
theorem stored_iff {text : String} :
    some text = stringValue (some (slice text 80)) ↔
      text ≠ "" ∧ utf16Length text ≤ 80 := by
  unfold stringValue
  rw [Option.filter_some, ← slice_eq_self_iff]
  constructor
  · intro hstored
    split at hstored
    · rename_i hnonempty
      have hself : slice text 80 = text := (Option.some.inj hstored).symm
      rw [hself] at hnonempty
      exact ⟨by simpa using hnonempty, hself⟩
    · cases hstored
  · rintro ⟨hnonempty, hself⟩
    rw [hself, if_pos (by simpa using hnonempty)]

theorem storedClass_iff :
    some (receiptTerminalClass receipt) =
        stringValue (some (slice (receiptTerminalClass receipt) 80)) ↔
      ∀ text, receipt.claims.terminationClass = some text →
        text ≠ "" ∧ utf16Length text ≤ 80 := by
  rw [stored_iff]
  unfold receiptTerminalClass
  cases receipt.claims.terminationClass with
  | none =>
    split <;> decide
  | some => simp

theorem storedTruth_iff :
    some (receiptEffectTruth receipt) =
        stringValue (some (slice (receiptEffectTruth receipt) 80)) ↔
      ∀ text, receipt.claims.executionTruth = some text →
        text ≠ "" ∧ utf16Length text ≤ 80 := by
  rw [stored_iff]
  unfold receiptEffectTruth
  cases receipt.claims.executionTruth with
  | none =>
    split <;> decide
  | some => simp

theorem workerTruth_iff :
    some (receiptEffectTruth receipt) =
        stringValue (some (slice (workerEffectTruth receipt) 80)) ↔
      (∀ text, receipt.claims.executionTruth = some text →
        text ≠ "" ∧ utf16Length text ≤ 80) ∧
      (receipt.claims.executionTruth = none →
        receipt.outcome = .succeeded) := by
  unfold receiptEffectTruth workerEffectTruth
  cases receipt.claims.executionTruth with
  | none =>
    have hstored : some "unknown" = stringValue (some (slice "unknown" 80)) :=
      stored_iff.mpr ⟨by decide, by decide⟩
    rw [Option.getD_none, Option.getD_none, ← hstored]
    by_cases hsucceeded : receipt.outcome = .succeeded
    · simp [hsucceeded]
    · simp [hsucceeded]
  | some =>
    rw [Option.getD_some, Option.getD_some, stored_iff]
    simp

/-- The end that recovery gives a continuation reads as its receipt. -/
theorem recovered_agrees_iff :
    receipt.outcome ≠ .notAttempted ∧ Agrees receipt
        (row.ended (receiptState receipt) (receiptTerminalClass receipt)
          (receiptEffectTruth receipt) nowMs) ↔ Legible false receipt := by
  constructor
  · rintro ⟨hattempted, hclass, htruth, _⟩
    exact ⟨hattempted, storedClass_iff.mp hclass, storedTruth_iff.mp htruth,
      nofun⟩
  · rintro ⟨hattempted, hclass, htruth, _⟩
    exact ⟨hattempted, storedClass_iff.mpr hclass, storedTruth_iff.mpr htruth,
      rfl⟩

/-- The end that a worker gives a continuation reads as its receipt. -/
theorem finished_agrees_iff (hfinal : receipt.outcome ≠ .inProgress) :
    receipt.outcome ≠ .notAttempted ∧ Agrees receipt
        (row.ended (workerState receipt) (receiptTerminalClass receipt)
          (workerEffectTruth receipt) nowMs) ↔ Legible true receipt := by
  constructor
  · rintro ⟨hattempted, hclass, htruth, _⟩
    obtain ⟨htruth, htold⟩ := workerTruth_iff.mp htruth
    exact ⟨hattempted, storedClass_iff.mp hclass, htruth, fun _ => htold⟩
  · rintro ⟨hattempted, hclass, htruth, htold⟩
    refine ⟨hattempted, storedClass_iff.mpr hclass,
      workerTruth_iff.mpr ⟨htruth, htold rfl⟩, ?_⟩
    unfold receiptState workerState
    cases houtcome : receipt.outcome with
    | inProgress => exact absurd houtcome hfinal
    | notAttempted => exact absurd houtcome hattempted
    | succeeded | failed | outcomeUnknown => rfl

end Ends

section Reports

variable [Host] {s : CompletionSystem} {id : String} {row : EffectContinuation}
variable {row' : EffectContinuation}
variable {db : CompletionDb} {nowMs : Int} {receipt : ReceiptRow}
variable {byWorker : Bool}

/-- The step that may end the continuation of an effect, and whether it is the
worker's own. -/
def CompletionStep.ends (effectId : String) : CompletionStep → Option Bool
  | .finish id _ _ => if id = effectId then some true else none
  | .recover id _ _ => if id = effectId then some false else none
  | _ => none

/-- How a step ended the continuation of an effect. -/
def EndedBy (byWorker : Bool) (receipt : ReceiptRow)
    (row row' : EffectContinuation) : Prop :=
  ∃ nowMs, row' = if byWorker then
      row.ended (workerState receipt) (receiptTerminalClass receipt)
        (workerEffectTruth receipt) nowMs
    else row.ended (receiptState receipt) (receiptTerminalClass receipt)
      (receiptEffectTruth receipt) nowMs

omit [Host] in
theorem ended_row {p : EffectContinuation → Bool}
    {f : EffectContinuation → EffectContinuation}
    (hkey : ∀ row, key (f row) = key row)
    (hrow : db.continuations.get? id = some row)
    (hrunning : row.state = .running)
    (hrow' : (db.continuations.update p f hkey).get? id = some row')
    (hended : row'.state ≠ .running) : row' = f row := by
  rw [get?_update, hrow, Option.map_some] at hrow'
  rw [← Option.some.inj hrow'] at hended ⊢
  split
  · rfl
  · rename_i hp
    rw [if_neg hp] at hended
    exact absurd hrunning hended

omit [Host] in
theorem running_of_get? {t : Table EffectContinuation}
    (hrow : t.get? id = some row) (hrunning : row.state = .running)
    (hrow' : t.get? id = some row') : row'.state = .running := by
  cases hrow.symm.trans hrow'
  exact hrunning

theorem finish_ended (hrow : s.db.continuations.get? id = some row)
    (hrunning : row.state = .running) {leaseToken : String}
    (hrow' : (completionStep (.finish id leaseToken nowMs)
      s).db.continuations.get? id = some row') (hended : row'.state ≠ .running) :
    ∃ receipt, (completionStep (.finish id leaseToken nowMs)
        s).db.ledger.receipts.get? id = some receipt ∧
      receipt.outcome ≠ .inProgress ∧ EndedBy true receipt row row' := by
  unfold completionStep at hrow' ⊢
  dsimp only at hrow' ⊢
  cases hfound : (getEffectReceipt s.db.ledger id).filter
      (·.outcome ≠ .inProgress) with
  | none =>
    rw [hfound] at hrow'
    exact absurd (running_of_get? hrow hrunning hrow') hended
  | some receipt =>
    rw [hfound] at hrow'
    dsimp only at hrow' ⊢
    obtain ⟨hreceipt, hfinal⟩ := filter_final hfound
    refine ⟨receipt, hreceipt, hfinal, nowMs, ?_⟩
    unfold finishFromReceipt finishEffectContinuation at hrow'
    split at hrow'
    · exact absurd (running_of_get? hrow hrunning hrow') hended
    · rw [if_pos rfl]
      exact ended_row (EffectContinuation.ended_key _ _ _ _) hrow hrunning
        hrow' hended

omit [Host] in
/-- Recovery ends a running continuation by a receipt, or not at all. -/
theorem abandonByReceipt_ended (hrow : db.continuations.get? id = some row)
    (hrunning : row.state = .running)
    (hrow' : (abandonByReceipt db id receipt nowMs).continuations.get? id =
      some row') (hended : row'.state ≠ .running) :
    EndedBy false receipt row row' := by
  unfold abandonByReceipt abandonEffectContinuation at hrow'
  split at hrow'
  · exact absurd (running_of_get? hrow hrunning hrow') hended
  · refine ⟨nowMs, ?_⟩
    rw [if_neg Bool.false_ne_true]
    exact ended_row (EffectContinuation.ended_key _ _ _ _) hrow hrunning hrow'
      hended

theorem recover_ended (hsound : Sound s)
    (hrow : s.db.continuations.get? id = some row)
    (hrunning : row.state = .running) {runtimeId : String}
    (hrow' : (completionStep (.recover id nowMs runtimeId)
      s).db.continuations.get? id = some row') (hended : row'.state ≠ .running) :
    ∃ receipt, (completionStep (.recover id nowMs runtimeId)
        s).db.ledger.receipts.get? id = some receipt ∧
      receipt.outcome ≠ .inProgress ∧ EndedBy false receipt row row' := by
  obtain ⟨hid, _, _⟩ := hsound.continuation_names hrow
  unfold completionStep at hrow' ⊢
  dsimp only at hrow' ⊢
  rw [hsound.getEffectContinuation hrow, Option.filter_some,
    if_pos (decide_eq_true (show row.asRead.state = .running from hrunning))]
    at hrow' ⊢
  dsimp only at hrow' ⊢
  unfold recoverContinuation at hrow' ⊢
  rw [show row.asRead.effectId = id from hid] at hrow' ⊢
  split at hrow'
  · exact absurd (running_of_get? hrow hrunning hrow') hended
  · rename_i hlost
    rw [if_neg hlost]
    cases hfound : (getEffectReceipt s.db.ledger id).filter
        (·.outcome ≠ .inProgress) with
    | some receipt =>
      rw [hfound] at hrow'
      obtain ⟨hreceipt, hfinal⟩ := filter_final hfound
      exact ⟨receipt, hreceipt, hfinal,
        abandonByReceipt_ended hrow hrunning hrow' hended⟩
    | none =>
      rw [hfound] at hrow'
      cases hinFlight : s.db.ledger.getInFlightByEffectId id with
      | none =>
        rw [hinFlight] at hrow'
        exact absurd (running_of_get? hrow hrunning hrow') hended
      | some inFlight =>
        rw [hinFlight] at hrow'
        dsimp only at hrow' ⊢
        cases hrecorded : (recordEffectReceipt s.db.ledger
            (unknownReceipt row.asRead inFlight nowMs)).1 with
        | error =>
          rw [hrecorded] at hrow'
          exact absurd (running_of_get? hrow hrunning hrow') hended
        | ok receipt =>
          rw [hrecorded] at hrow'
          have hid' : (unknownReceipt row.asRead inFlight
              nowMs).effectId = id := hid
          obtain ⟨hreceipt, hfinal⟩ := @recordEffectReceipt_final _
            hsound.ledger (unknownReceipt row.asRead inFlight nowMs)
            receipt inFlight (by rw [hid']; exact hinFlight) rfl
            (by intro hopen; cases hopen) hrecorded
          rw [hid'] at hreceipt
          exact ⟨receipt, hreceipt, hfinal,
            abandonByReceipt_ended hrow hrunning hrow' hended⟩

omit [Host] in
theorem ended_agrees_iff (hfinal : receipt.outcome ≠ .inProgress)
    (hended : EndedBy byWorker receipt row row') :
    receipt.outcome ≠ .notAttempted ∧ Agrees receipt row' ↔
      Legible byWorker receipt := by
  obtain ⟨_, rfl⟩ := hended
  cases byWorker with
  | true => exact finished_agrees_iff hfinal
  | false => exact recovered_agrees_iff

/-- A step that ends a continuation ends it by its final receipt. -/
theorem ends_ended (hsound : Sound s)
    (hrow : s.db.continuations.get? id = some row)
    (hrunning : row.state = .running) {step : CompletionStep}
    (hends : step.ends id = some byWorker)
    (hrow' : (completionStep step s).db.continuations.get? id = some row')
    (hended : row'.state ≠ .running) :
    ∃ receipt, (completionStep step s).db.ledger.receipts.get? id =
        some receipt ∧
      receipt.outcome ≠ .inProgress ∧ EndedBy byWorker receipt row row' := by
  cases step with
  | finish =>
    dsimp only [CompletionStep.ends] at hends
    split at hends
    · rename_i hid
      cases hends
      subst hid
      exact finish_ended hrow hrunning hrow' hended
    · cases hends
  | recover =>
    dsimp only [CompletionStep.ends] at hends
    split at hends
    · rename_i hid
      cases hends
      subst hid
      exact recover_ended hsound hrow hrunning hrow' hended
    · cases hends
  | _ => cases hends

omit [Host] in
theorem linkedRow_end (nowMs : Int) (row : EffectContinuation) :
    (linkedRow nowMs row).state = row.state ∧
      (linkedRow nowMs row).terminalClass = row.terminalClass ∧
      (linkedRow nowMs row).effectTruth = row.effectTruth := by
  unfold linkedRow
  split <;> exact ⟨rfl, rfl, rfl⟩

theorem linkedRow_names (hsound : Sound s)
    (hrow : s.db.continuations.get? id = some row) (nowMs : Int) :
    (linkedRow nowMs row).completionEventRef =
        some (completionEventIdFor id) ↔
      safeMs nowMs = true ∨ row.completionEventRef.isSome = true := by
  have hid : row.effectId = id := key_of_get? hrow
  cases hlinked : row.completionEventRef with
  | some linked =>
    rw [linkedRow_of_linked nowMs hlinked, hlinked]
    have hnames := ((hsound.continuations id row hrow).linked linked
      hlinked).2.1
    rw [hid] at hnames
    rw [hnames]
    simp
  | none =>
    unfold linkedRow
    cases hsafe : safeMs nowMs with
    | true =>
      unfold EffectContinuation.linked
      simp [hlinked, hid]
    | false =>
      rw [if_neg fun hboth => Bool.false_ne_true hboth.2, hlinked]
      simp

/-- Whatever happens after a continuation has ended, whoever reports an event of
it, and wherever producers stop: the continuation is read back from that event
exactly when the receipt that ended it is legible, and the event could be
recorded at the time of the report, or was recorded before. -/
theorem completion_read_back (before after : List CompletionStep)
    (step : CompletionStep) (id : String) (byWorker : Bool)
    (hends : step.ends id = some byWorker)
    (hrunning : ∃ row, (run completionStep {} before).db.continuations.get? id =
      some row ∧ row.state = .running)
    (hended : HasEnded (run completionStep {} (before ++ [step])).db false id)
    (nowMs : Int) (reading : CompletionReading) (eventId : String)
    (created : Bool) (db' : CompletionDb)
    (hok : produceOperationCompletion
      (run completionStep {} (before ++ step :: after)).db id nowMs reading =
        (.ok eventId created, db')) :
    ∃ receipt event record row,
      db'.ledger.receipts.get? id = some receipt ∧
      db'.inbox.get? eventId = some event ∧
      getEffectContinuation db'.continuations id = some record ∧
      (run completionStep {} (before ++ step :: after)).db.continuations.get?
        id = some row ∧
      (effectContinuationFromCompletion db' eventId event.conversationId
          event.payload = some record ↔
        Legible byWorker receipt ∧ (safeMs nowMs = true ∨
          row.completionEventRef.isSome = true)) := by
  obtain ⟨_, hrow, hstate⟩ := hrunning
  obtain ⟨row₁, hrow₁, hstate₁⟩ := hended
  have hsound := run_sound before
  rw [run_append] at hrow₁
  obtain ⟨receipt, hreceipt, hfinal, hby⟩ :=
    ends_ended hsound hrow hstate hends hrow₁ hstate₁
  have hstepped := completionStep_kept hsound step
  have hlater := run_kept hstepped.sound after
  have hrun : run completionStep {} (before ++ step :: after) =
      run completionStep (completionStep step (run completionStep {} before))
        after := by
    rw [run_append]
    rfl
  rw [← hrun] at hlater
  obtain ⟨row₂, hrow₂, hkept⟩ := hlater.grows.continuations id row₁ hrow₁
  obtain ⟨_, hreported⟩ := produce_reported hlater.sound hrow₂ hok
  have hreceipt' : db'.ledger.receipts.get? id = some receipt := by
    rw [hreported.ledger]
    exact hlater.grows.ledger.final id receipt hreceipt hfinal
  obtain ⟨event, hevent⟩ := Option.isSome_iff_exists.mp hreported.posted
  have hread := hreported.kept.sound.getEffectContinuation hreported.row
  refine ⟨receipt, event, _, row₂, hreceipt', hevent, hread, hrow₂, ?_⟩
  rw [hreported.named] at hevent ⊢
  rw [← hread]
  refine (read_back_iff hreported.kept.sound hreported.row hevent
    hreceipt').trans ?_
  rw [linkedRow_names hlater.sound hrow₂, ← ended_agrees_iff hfinal hby]
  obtain ⟨hstate₂, hclass₂, htruth₂⟩ := linkedRow_end nowMs row₂
  obtain ⟨hstate₃, hclass₃, htruth₃⟩ := hkept.ended hstate₁
  have hagrees : Agrees receipt (linkedRow nowMs row₂) ↔
      Agrees receipt row₁ := by
    constructor
    · rintro ⟨hclass, htruth, hsame⟩
      rw [hclass₂, hclass₃] at hclass
      rw [htruth₂, htruth₃] at htruth
      rw [hstate₂, hstate₃] at hsame
      exact ⟨hclass, htruth, hsame⟩
    · rintro ⟨hclass, htruth, hsame⟩
      rw [← hclass₃, ← hclass₂] at hclass
      rw [← htruth₃, ← htruth₂] at htruth
      rw [← hstate₃, ← hstate₂] at hsame
      exact ⟨hclass, htruth, hsame⟩
  rw [hagrees, and_comm]

end Reports

section Develop

attribute [local instance] plainHost

/-- A develop effect is begun and accepted, its worker returns a receipt, and
the continuation ends by it. -/
def developed (outcome : EffectOutcome) (claims : ReceiptClaims) :
    List CompletionStep :=
  [.effect (.putInFlight wokenByMessage
      { effectId := some "effect:u"
        cycleId := "cycle:wake:wake-occurrence:inboxec", generation := 1
        correlationId := "effect:u", idempotencyKey := "k"
        originEventId := "e" } 1),
    .accept "u" { cycleConversationId := some "c", diagnosticId := "d" }
      { kind := "candidate.develop", effectId := "effect:u"
        cycleId := "cycle:wake:wake-occurrence:inboxec", generation := 1
        purpose := some "Build it.", conversationId := "c"
        deadlineAtMs := 100000, remainingEffectRounds := 3
        cognitionClaimToken := "t", runtimeId := "r", nowMs := 2 },
    .effect (.recordEffectReceipt
      { receiptId := "receipt", effectId := "effect:u", idempotencyKey := "k"
        outcome, claims, atMs := 3, dataClassification := .neverPublic
        secretOmitted := false }),
    .finish "effect:u" "u" 4]

def developEventId : String := completionEventIdFor "effect:u"

/-- The report of that effect. -/
def developReport (outcome : EffectOutcome) (claims : ReceiptClaims) :
    ProduceCompletionResult × CompletionDb :=
  produceOperationCompletion (run completionStep {} (developed outcome
    claims)).db "effect:u" 5 {}

/-- What is read back of it. -/
def developRead (outcome : EffectOutcome) (claims : ReceiptClaims) :
    Option (Option EffectContinuation) :=
  ((developReport outcome claims).2.inbox.get? developEventId).map fun event =>
    effectContinuationFromCompletion (developReport outcome claims).2
      developEventId event.conversationId event.payload

/-- A worker that fails with an error of its own leaves no truth in its receipt:
its completion is reported, and is never read back. -/
theorem failed_completion_unreadable :
    ¬ ∀ (steps : List CompletionStep) (id : String) (nowMs : Int)
        (reading : CompletionReading) (eventId : String) (created : Bool)
        (db' : CompletionDb) (event : CompletionEvent)
        (record : EffectContinuation),
      produceOperationCompletion (run completionStep {} steps).db id nowMs
        reading = (.ok eventId created, db') →
      db'.inbox.get? eventId = some event →
      getEffectContinuation db'.continuations id = some record →
      effectContinuationFromCompletion db' eventId event.conversationId
        event.payload = some record := by
  intro hall
  have hread : developRead .failed {} = some none := by decide +kernel
  obtain ⟨event, hevent, hnone⟩ := Option.map_eq_some_iff.mp hread
  have hrecord : (getEffectContinuation
      (developReport .failed {}).2.continuations "effect:u").isSome = true := by
    decide +kernel
  obtain ⟨record, hrecord⟩ := Option.isSome_iff_exists.mp hrecord
  have hsome := hall (developed .failed {}) "effect:u" 5 {} developEventId true
    (developReport .failed {}).2 event record
    (Prod.ext (by decide +kernel) rfl) hevent hrecord
  rw [hnone] at hsome
  cases hsome

/-- A worker that succeeds without a word is read back. -/
theorem succeeded_completion_read_back :
    ∃ event record,
      (developReport .succeeded {}).2.inbox.get? developEventId = some event ∧
      effectContinuationFromCompletion (developReport .succeeded {}).2
        developEventId event.conversationId event.payload = some record := by
  obtain ⟨_, event, record, _, hreceipt, hevent, _, _, hread⟩ :=
    completion_read_back ((developed .succeeded {}).take 3) []
      (.finish "effect:u" "u" 4) "effect:u" true (by decide)
      ⟨((run completionStep {} ((developed .succeeded {}).take
        3)).db.continuations.get? "effect:u").get (by decide +kernel),
        (Option.some_get _).symm, by decide +kernel⟩
      ⟨((run completionStep {} (developed .succeeded
        {})).db.continuations.get? "effect:u").get (by decide +kernel),
        (Option.some_get _).symm, by decide +kernel⟩
      5 {} developEventId true (developReport .succeeded {}).2
      (Prod.ext (by decide +kernel) rfl)
  have hstored : (developReport .succeeded {}).2.ledger.receipts.get?
      "effect:u" = some
        { receiptId := "receipt", effectId := "effect:u", idempotencyKey := "k"
          outcome := .succeeded, claims := {}, atMs := 3
          dataClassification := .neverPublic, secretOmitted := false } := by
    decide +kernel
  rw [hstored] at hreceipt
  cases hreceipt
  exact ⟨event, record, hevent, hread.mpr
    ⟨⟨nofun, nofun, nofun, fun _ _ => rfl⟩, .inl (by decide)⟩⟩

end Develop

end CognitiveSidecar.Completions
