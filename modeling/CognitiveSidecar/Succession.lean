/-
The proofs that an Owner event is superseded, beside the validation that its
settlement makes of them.
-/
import CognitiveSidecar.OwnerCoverage
import CognitiveSidecar.System

namespace CognitiveSidecar

open Option List Relational

/-- The two proofs of a supersession: by an Owner successor, or by a waiting
completion. -/
inductive SuccessionProof
  | owner
  | completion
deriving DecidableEq

section Proofs

variable [Host] {db : Sidecar} {event : InboxEvent}
  {coverage : OwnerDispatchCoverage} {result : SupersessionResult}

variable {covered : List String} {conversationId : String} {cycle : Cycle}

def SuccessionProof.prove (proof : SuccessionProof) (db : Sidecar)
    (event : InboxEvent) (coverage : OwnerDispatchCoverage) :
    Option SupersessionResult :=
  match proof with
  | .owner => proveExactOwnerSupersession db event coverage
  | .completion => proveCompletionSuccession db event coverage

omit [Host] in
/-- Besides the event itself, the Owner events that wait on its wake are the
covered ones. -/
def WaitsAsCovered (db : Sidecar) (event : InboxEvent)
    (coverage : OwnerDispatchCoverage) : Prop :=
  ∀ id ≠ event.id, id ∈ coverage.coveredOwnerEventIds ↔
    ∃ row, db.events.get? id = some row ∧ row.wakeId = event.wakeId ∧
      isOwnerObligationEventKind row.kind = true ∧
      row.isClaimableContinuation = true

theorem validateSupersession_ok_iff :
    validateSupersession db event result = .ok covered ↔
      result.coveredOwnerEventIds = covered ∧
      ∃ wakeId, event.wakeId.filter (· ≠ "") = some wakeId ∧
        result.coverageHash = ownerCoverageHash event.id
          result.coveredOwnerEventIds result.uncoveredOwnerEventIds ∧
        event.id ∈ result.coveredOwnerEventIds ∧
        (result.coveredOwnerEventIds.Nodup ∧
          result.uncoveredOwnerEventIds.Nodup) ∧
        (∀ id ∈ result.coveredOwnerEventIds,
          id ∉ result.uncoveredOwnerEventIds) ∧
        (getWake db wakeId).any (·.state ≠ .terminal) = true ∧
        result.successorWakeId ≠ wakeId ∧
        isValidSuccessor db event result = true ∧
        (∀ id ∈ result.coveredOwnerEventIds ++ result.uncoveredOwnerEventIds,
          isCoverableOwnerEvent db event id = true) ∧
        ∀ row ∈ db.events.rows, row.isExpectedBy event = true →
          row.id ∈ result.coveredOwnerEventIds ++
            result.uncoveredOwnerEventIds := by
  unfold validateSupersession
  simp only [orFault_bind_ok, require_bind_ok, pure_ok]
  constructor
  · rintro ⟨wakeId, hwake, hhash, hprimary, hnodup, hdisjoint, hopen, hother,
      hvalid, howned, hcomplete, hcovered⟩
    exact ⟨hcovered, wakeId, hwake, hhash, hprimary, hnodup, hdisjoint, hopen,
      hother, hvalid, howned, hcomplete⟩
  · rintro ⟨hcovered, wakeId, hwake, hhash, hprimary, hnodup, hdisjoint, hopen,
      hother, hvalid, howned, hcomplete⟩
    exact ⟨wakeId, hwake, hhash, hprimary, hnodup, hdisjoint, hopen, hother,
      hvalid, howned, hcomplete, hcovered⟩

omit [Host] in
theorem getCurrentCycle_conversation {includeIdle : Bool}
    (hcurrent : getCurrentCycle db conversationId includeIdle = some cycle) :
    db.cycles.get? cycle.cycleId = some cycle ∧
      cycle.conversationId = conversationId := by
  have hmem := mem_of_mem_head? (filter_eq_some_iff.mp hcurrent).1
  rw [mem_insertionSort, mem_filter, Bool.and_eq_true,
    decide_eq_true_eq] at hmem
  exact ⟨get?_key hmem.1, hmem.2.1⟩

omit [Host] in
/-- A live Owner event of the current cycle's wake is of the conversation. -/
theorem live_of_conversation (hlinked : Linked db) {wakeId : String}
    {successor : InboxEvent}
    (hcurrent : getCurrentCycle db conversationId true = some cycle)
    (hwake : cycle.wakeId = some wakeId)
    (hlive : successor ∈ liveOwnerEvents db (some wakeId)) :
    db.events.get? successor.id = some successor ∧
      successor.wakeId = some wakeId ∧
      successor.conversationId = conversationId ∧
      isOwnerObligationEventKind successor.kind = true ∧
      successor.state ≠ .terminal ∧ successor.state ≠ .quarantined := by
  obtain ⟨hcycle, hconversation⟩ := getCurrentCycle_conversation hcurrent
  unfold liveOwnerEvents at hlive
  simp only [mem_insertionSort, mem_filter, Bool.and_eq_true,
    decide_eq_true_eq] at hlive
  obtain ⟨hmem, ⟨⟨howner, hkind⟩, hterminal⟩, hquarantined⟩ := hlive
  have hstored := get?_key hmem
  refine ⟨hstored, howner, ?_, hkind, hterminal, hquarantined⟩
  obtain ⟨_, _, _, hheld, hrow, hsame⟩ := hlinked.eventWake _ _ hstored
  obtain ⟨_, _, hother, hrow', hcycleId⟩ := hlinked.cycleWake _ _ hcycle
  cases hheld.symm.trans howner
  cases hother.symm.trans hwake
  cases hrow.symm.trans hrow'
  obtain ⟨_, _, hstored', _, hconversation'⟩ := hlinked.wakeCycle _ _ hrow
  rw [hcycleId, hcycle] at hstored'
  cases hstored'
  rw [hsame, ← hconversation', hconversation]

/-- What stands behind an Owner succession. -/
theorem proveExactOwnerSupersession_cases
    (hproved : proveExactOwnerSupersession db event coverage = some result) :
    coverage.isExactFor event = true ∧ ∃ current wakeId successor,
      getCurrentCycle db event.conversationId true = some current ∧
      current.wakeId = some wakeId ∧ some wakeId ≠ event.wakeId ∧
      isOpenWake db event.wakeId = true ∧ isOpenWake db (some wakeId) = true ∧
      successor ∈ liveOwnerEvents db (some wakeId) ∧
      result = supersededBy coverage event.id wakeId successor.id := by
  unfold proveExactOwnerSupersession at hproved
  simp only [bind_eq_bind, bind_eq_some_iff,
    guard_eq_some'] at hproved
  obtain ⟨_, hexact, current, hcurrent, _, hold, _, hnew, hproved⟩ := hproved
  unfold immediateSuccessor at hcurrent
  simp only [bind_eq_bind, bind_eq_some_iff,
    filter_eq_some_iff, Bool.and_eq_true, decide_eq_true_eq] at hcurrent
  obtain ⟨_, _, hcurrent, _, hother⟩ := hcurrent
  split at hproved
  · rename_i successor hlive
    simp only [bind_eq_some_iff, guard_eq_some'] at hproved
    obtain ⟨_, _, _, _, hresult⟩ := hproved
    cases hwake : current.wakeId with
    | none => rw [hwake] at hnew; cases hnew
    | some wakeId =>
      rw [hwake] at hlive hnew hother
      rw [hwake] at hresult
      exact ⟨hexact, current, wakeId, successor, hcurrent, hwake, hother, hold,
        hnew, by rw [hlive]; exact mem_singleton_self _,
        (some.inj hresult).symm⟩
  · cases hproved

/-- A completion is never of a kind that the validation admits. -/
theorem proveCompletionSuccession_refused
    (hproved : proveCompletionSuccession db event coverage = some result) :
    validateSupersession db event result ≠ .ok covered := by
  unfold proveCompletionSuccession at hproved
  simp only [bind_eq_bind, bind_eq_some_iff,
    guard_eq_some'] at hproved
  obtain ⟨_, _, successor, hsuccessor, _, _, _, _, _, _, _, _, hresult⟩ :=
    hproved
  cases some.inj hresult
  intro hok
  obtain ⟨_, _, _, _, _, _, _, _, _, hvalid, _⟩ :=
    validateSupersession_ok_iff.mp hok
  have hmem := mem_of_firstBy hsuccessor
  rw [mem_filter] at hmem
  have hkind : successor.kind = "observation_or_receipt" := by
    have hpending := hmem.2
    unfold InboxEvent.isPendingCompletion at hpending
    simp only [Bool.and_eq_true, decide_eq_true_eq] at hpending
    exact hpending.1.1.1.2
  have hstored : db.events.get? successor.id = some successor :=
    get?_key hmem.1
  simp [isValidSuccessor, supersededBy, hstored, isOwnerObligationEventKind,
    hkind] at hvalid

/-- An Owner succession passes while it accounts for the waiting events. -/
theorem proveExactOwnerSupersession_accepted_iff (hlinked : Linked db)
    (hstored : db.events.get? event.id = some event)
    (hproved : proveExactOwnerSupersession db event coverage = some result) :
    (∃ covered, validateSupersession db event result = .ok covered) ↔
      WaitsAsCovered db event coverage := by
  obtain ⟨hexact, _, _, _, hcurrent, hwake, hother, hold, hnew, hlive, rfl⟩ :=
    proveExactOwnerSupersession_cases hproved
  unfold OwnerDispatchCoverage.isExactFor at hexact
  simp only [Bool.and_eq_true, decide_eq_true_eq] at hexact
  obtain ⟨⟨⟨⟨⟨⟨hkind, _⟩, _⟩, _⟩, _⟩, hprimary⟩, hnodup⟩ := hexact
  obtain ⟨_, owner, _, howner, hwakeRow, _⟩ := hlinked.eventWake _ _ hstored
  have hnamed : owner ≠ "" := (hlinked.wakeCycle _ _ hwakeRow).1
  constructor
  · rintro ⟨_, hok⟩ id hne
    obtain ⟨_, _, _, _, _, _, _, _, _, _, howned, hcomplete⟩ :=
      validateSupersession_ok_iff.mp hok
    constructor
    · intro hid
      have hcoverable := howned id (mem_append_left _ hid)
      unfold isCoverableOwnerEvent at hcoverable
      rw [if_neg hne] at hcoverable
      obtain ⟨row, hrow, htests⟩ := (any_eq_true _ _).mp hcoverable
      simp only [Bool.and_eq_true, decide_eq_true_eq] at htests
      exact ⟨row, hrow, htests.1.1, htests.1.2, htests.2⟩
    · rintro ⟨row, hrow, hsame, howner, hwaits⟩
      have hmem := hcomplete row (mem_of_get? hrow) (by
        simp [InboxEvent.isExpectedBy, hsame, howner, hwaits])
      rw [show row.id = id from key_of_get? hrow] at hmem
      simpa [supersededBy] using hmem
  · intro hwaits
    refine ⟨_, validateSupersession_ok_iff.mpr ⟨rfl, owner, ?_, rfl, hprimary,
      ⟨hnodup, nodup_nil⟩, fun _ _ => not_mem_nil, ?_, ?_, ?_, ?_,
      ?_⟩⟩
    · rw [howner]
      exact filter_eq_some_iff.mpr ⟨rfl, by simpa using hnamed⟩
    · rw [howner] at hold
      exact hold
    · rintro rfl
      exact hother howner.symm
    · obtain ⟨hstored, howner, hconversation, hkind, hterminal,
        hquarantined⟩ := live_of_conversation hlinked hcurrent hwake hlive
      simp only [isOpenWake, bind_some] at hnew
      simpa [isValidSuccessor, supersededBy, hstored, howner, hconversation,
        hkind, hterminal, hquarantined] using hnew
    · intro id hid
      unfold isCoverableOwnerEvent
      split
      · exact hkind
      · rename_i hne
        obtain ⟨_, hrow, hsame, howner, hwaits⟩ :=
            (hwaits id hne).mp (by simpa [supersededBy] using hid)
        simp [hrow, hsame, howner, hwaits]
    · intro row hrow hexpected
      unfold InboxEvent.isExpectedBy at hexpected
      simp only [Bool.and_eq_true, Bool.or_eq_true, decide_eq_true_eq]
        at hexpected
      obtain ⟨⟨hsame, howner⟩, hwaiting⟩ := hexpected
      apply mem_append_left
      by_cases hid : row.id = event.id
      · rw [hid]
        exact hprimary
      · exact (hwaits _ hid).mpr ⟨row, get?_key hrow, hsame, howner,
          hwaiting.resolve_right hid⟩

/-- The validation accepts a proof exactly if it is an Owner succession, and the
Owner events that wait on the wake are still the covered ones. -/
theorem supersession_agrees_iff {proof : SuccessionProof} (hreached : Reached db)
    (hstored : db.events.get? event.id = some event)
    (hproved : proof.prove db event coverage = some result) :
    (∃ covered, validateSupersession db event result = .ok covered) ↔
      proof = .owner ∧ WaitsAsCovered db event coverage := by
  cases proof with
  | owner =>
    rw [proveExactOwnerSupersession_accepted_iff hreached.sound.linked hstored
      hproved]
    exact ⟨fun hwaits => ⟨rfl, hwaits⟩, And.right⟩
  | completion =>
    constructor
    · rintro ⟨_, hok⟩
      exact absurd hok (proveCompletionSuccession_refused hproved)
    · rintro ⟨hother, _⟩
      cases hother

end Proofs

section Plain

attribute [local instance] plainHost

/-- A leased Owner message, beside the completion of a detached operation. -/
def besideCompletion : Sidecar :=
  run step {} [
    .appendInboxEvent
      { conversationId := "d", kind := "owner_message", createdAtMs := 1
        payload := { evidenceRowId := some "r" } } (some "e"),
    .startAttempt { eventId := "e", workerId := "w", nowMs := 1 },
    .appendInboxEvent
      { conversationId := "d", kind := "observation_or_receipt", createdAtMs := 2
        payload := { detachedOperationId := some "o" } } (some "c")]

/-- The message yields to the completion under the coverage of its dispatch. -/
theorem besideCompletion_yields : ∃ event result,
    besideCompletion.events.get? event.id = some event ∧
      event.state = .leased ∧
      proveCompletionSuccession besideCompletion event
        (captureOwnerDispatchCoverage besideCompletion event) =
          some result := by
  have hyields : (besideCompletion.events.get? "e").any (fun event =>
      event.state = .leased && (proveCompletionSuccession besideCompletion event
        (captureOwnerDispatchCoverage besideCompletion event)).isSome) =
      true := by decide +kernel
  obtain ⟨event, hevent, htests⟩ := (any_eq_true _ _).mp hyields
  rw [Bool.and_eq_true, decide_eq_true_eq] at htests
  obtain ⟨result, hresult⟩ := isSome_iff_exists.mp htests.2
  have hid : event.id = "e" := key_of_get? hevent
  exact ⟨event, result, by rw [hid]; exact hevent, htests.1, hresult⟩

theorem completion_supersession_agrees : ∃ event result,
    (∃ covered, validateSupersession besideCompletion event result =
      .ok covered) ↔ SuccessionProof.completion = .owner ∧
        WaitsAsCovered besideCompletion event
          (captureOwnerDispatchCoverage besideCompletion event) := by
  obtain ⟨event, result, hstored, _, hproved⟩ := besideCompletion_yields
  exact ⟨event, result, @supersession_agrees_iff _ _ event _ result .completion
    ⟨_, rfl⟩ hstored hproved⟩

/-- The settlement refuses the proof that the completion offers. -/
theorem completion_supersession_refused : ∃ event result,
    Reached besideCompletion ∧
      besideCompletion.events.get? event.id = some event ∧
      event.state = .leased ∧
      proveCompletionSuccession besideCompletion event
        (captureOwnerDispatchCoverage besideCompletion event) = some result ∧
      ∀ covered, validateSupersession besideCompletion event result ≠
        .ok covered := by
  obtain ⟨event, result, hstored, hleased, hproved⟩ := besideCompletion_yields
  exact ⟨event, result, ⟨_, rfl⟩, hstored, hleased, hproved,
    fun _ => proveCompletionSuccession_refused hproved⟩

end Plain

end CognitiveSidecar
