/-
The reconciliation of unknown outcomes, and repairs, as moves.
-/
import CognitiveSidecar.OutcomeReconciliation
import CognitiveSidecar.ClaimMoves

namespace CognitiveSidecar

open Relational

variable [Host] {permit : Permit} {db after : Sidecar}
variable {wakeId : String} {current : InboxEvent}
variable {input : ReconcileOutcomeUnknownInput} {outcome : ReconcileOutcome}
variable {eventId : String} {f : InboxEvent → InboxEvent} {repair : RepairEvent}
variable {hkey : ∀ row, key (f row) = key row}

/-- A reconciling event, and the wake it fences. -/
structure Unresolved (db : Sidecar) (eventId wakeId : String)
    (current : InboxEvent) : Prop where
  stored : db.events.get? eventId = some current
  reconciling : current.state = .reconciling
  owner : current.wakeId = some wakeId

omit [Host] in
/-- Once its event is rewritten, no other event is busy on the wake. -/
theorem Unresolved.idle (hunresolved : Unresolved db eventId wakeId current)
    (hfenced : Fenced db) (hidle : (f current).isBusy = false) :
    NoEventOn (db.updateEvent eventId (·.isReconciling) f hkey)
      InboxEvent.isBusy wakeId := by
  intro id _ hrow hrowOwner
  obtain ⟨old, hold, hnew⟩ := Sidecar.of_get?_updateEvent hrow
  by_cases hid : id = eventId
  · rw [hid] at hold
    cases hunresolved.stored.symm.trans hold
    rw [hnew, if_pos ⟨hid, reconciling_iff.mpr hunresolved.reconciling⟩]
    exact hidle
  · rw [if_neg fun hboth => hid hboth.1] at hnew
    rw [hnew] at hrowOwner ⊢
    cases hbusy : old.isBusy with
    | false => rfl
    | true =>
      exact absurd (noOtherBusy hfenced hunresolved.stored
        (busy_iff.mpr (.inr hunresolved.reconciling)) hunresolved.owner
        hold hrowOwner hbusy) hid

/-- No sibling of the event waits to be claimed, unless the wake is closed. -/
def SiblingsSettled (db : Sidecar) (eventId wakeId : String) : Prop :=
  WakeIs db (·.state ≠ .terminal) (some wakeId) →
  ∀ id row, db.events.get? id = some row → row.wakeId = some wakeId →
    id ≠ eventId → row.isClaimableContinuation = false

theorem closeReconciled_trace {reason : WakeTerminalReason} {nowMs : Int}
    (hfenced : Fenced db) (hunresolved : Unresolved db eventId wakeId current)
    (hchange : EventChange permit db current (f current))
    (hclosed : (f current).isClosed = true)
    (htidy : permit.tidy → SiblingsSettled db eventId wakeId)
    (hok : closeReconciled db eventId wakeId f hkey reason nowMs =
      .ok after) : Trace permit db after := by
  obtain ⟨_, hterminal, hok⟩ := of_bind hok
  have hstate := closed_iff.mp hclosed
  have hidle : (f current).isBusy = false := by
    rcases hstate with hstate | hstate <;> simp [InboxEvent.isBusy, hstate]
  refine (Trace.trans (Moved.trace (.updateEvent ?_))
    (wakeToTerminal_trace hterminal ?_)).trans
    (retireOwnerlessCycleForTerminalEvent_trace hok)
  · intro _ hrow _
    cases hunresolved.stored.symm.trans hrow
    exact hchange
  · intro _ hwake hopen
    refine ⟨fun hpromise => ?_, fun _ => hunresolved.idle hfenced hidle⟩
    intro id _ hrow hrowOwner
    obtain ⟨old, hold, hnew⟩ := Sidecar.of_get?_updateEvent hrow
    by_cases hid : id = eventId
    · rw [hid] at hold
      cases hunresolved.stored.symm.trans hold
      rw [hnew, if_pos ⟨hid, reconciling_iff.mpr hunresolved.reconciling⟩]
      rcases hstate with hstate | hstate <;>
        simp [InboxEvent.isClaimableContinuation, hstate]
    · rw [if_neg fun hboth => hid hboth.1] at hnew
      rw [hnew] at hrowOwner ⊢
      refine htidy hpromise ?_ id old hold hrowOwner hid
      intro _ _ heq hwake'
      cases heq
      cases hwake.symm.trans hwake'
      exact hopen

/-- The evidence on which a reconciling event may be dispatched again: the
proof is given, no effect is bound on the lineage, and no private spend is
certain or possible. -/
structure SafeToRetry (db : Sidecar) (input : ReconcileOutcomeUnknownInput)
    (wakeId : String) : Prop where
  proof : input.carriesProof = true
  unbound : boundEffects db (repairLineage db input.eventId) = []
  unspent : classifyOutcomeUnknownSpend db input.eventId (some wakeId) =
      .ownerNoReservation ∨
    ∃ reservationId, classifyOutcomeUnknownSpend db input.eventId
      (some wakeId) = .privateNotSpent reservationId

/-- The evidence on which a reconciling event is closed: every bound effect has
its receipt, or the proof finds a certain private spend. -/
def Concludes (db : Sidecar) (input : ReconcileOutcomeUnknownInput)
    (wakeId : String) : Prop :=
  let outcomes := (boundEffects db (repairLineage db input.eventId)).map
    (receiptOutcome db)
  if outcomes = [] then
    input.carriesProof = true ∧ ∃ reservationId signal,
      classifyOutcomeUnknownSpend db input.eventId (some wakeId) =
        .privateSpent reservationId signal
  else ¬ (none ∈ outcomes ∨ some EffectOutcome.outcomeUnknown ∈ outcomes ∨
      some EffectOutcome.inProgress ∈ outcomes) ∧
    ((∀ outcome ∈ outcomes, outcome = some EffectOutcome.succeeded) ∨
      some EffectOutcome.failed ∈ outcomes)

/-- What a reconciliation must find to strand nothing: no sibling still waits
where it closes the wake, and the wake is open where it resumes the event. -/
def ReconciliationTidy (db : Sidecar) (input : ReconcileOutcomeUnknownInput) :
    Prop :=
  ∀ wakeId current, Unresolved db input.eventId wakeId current →
    (Concludes db input wakeId → SiblingsSettled db input.eventId wakeId) ∧
    (SafeToRetry db input wakeId →
      WakeIs db (·.state ≠ .terminal) (some wakeId))

theorem reconcileFromReceipts_trace (hfenced : Fenced db)
    (hunresolved : Unresolved db input.eventId wakeId current)
    (hbound : boundEffects db (repairLineage db input.eventId) ≠ [])
    (htidy : permit.tidy → ReconciliationTidy db input)
    (hok : reconcileFromReceipts db input wakeId
      ((boundEffects db (repairLineage db input.eventId)).map
        (receiptOutcome db)) = .ok (outcome, after)) :
    Trace permit db after := by
  have hsome : (boundEffects db (repairLineage db input.eventId)).map
      (receiptOutcome db) ≠ [] := by simpa using hbound
  have hsettled : Concludes db input wakeId → permit.tidy →
      SiblingsSettled db input.eventId wakeId := fun hconcludes hpromise =>
    (htidy hpromise wakeId current hunresolved).1 hconcludes
  unfold Concludes at hsettled
  simp only [if_neg hsome] at hsettled
  unfold reconcileFromReceipts at hok
  split at hok
  · cases of_pure hok
    exact .refl db
  rename_i hknown
  split at hok
  · rename_i hall
    obtain ⟨closed, hclose, hok⟩ := of_bind hok
    cases of_pure hok
    exact closeReconciled_trace hfenced hunresolved
      (.close ⟨rfl, rfl, rfl, rfl, rfl, rfl⟩ rfl rfl rfl) rfl
      (hsettled ⟨hknown, .inl hall⟩) hclose
  split at hok
  · rename_i hfailed
    obtain ⟨closed, hclose, hok⟩ := of_bind hok
    cases of_pure hok
    exact closeReconciled_trace hfenced hunresolved
      (.close ⟨rfl, rfl, rfl, rfl, rfl, rfl⟩ rfl rfl rfl) rfl
      (hsettled ⟨hknown, .inr hfailed⟩) hclose
  · cases of_pure hok
    exact .refl db

/-- The event goes back to pending together with its wake. -/
theorem resume_trace {proofRef : String} (hfenced : Fenced db)
    (hunresolved : Unresolved db input.eventId wakeId current)
    (hsafe : SafeToRetry db input wakeId)
    (htidy : permit.tidy → ReconciliationTidy db input)
    (hresumes : SafeToRetry db input wakeId → permit.resumes input.eventId) :
    Trace permit db (wakeToPending (db.updateEvent input.eventId
      (·.isReconciling) fun row => row.safeToRetry proofRef) wakeId
        input.nowMs) := by
  refine .step (Moved.trace (.updateEvent ?_)) (wakeToPending_moved
    ((hunresolved.idle hfenced rfl).mono reconciling_busy))
  intro _ hrow _
  cases hunresolved.stored.symm.trans hrow
  have hid : current.id = input.eventId := key_of_get? hrow
  refine ⟨⟨rfl, rfl, rfl, rfl, rfl, rfl⟩, rfl, rfl, ?_, ?_, ?_, ?_, ?_⟩
  · intro hclosed
    simp [InboxEvent.isClosed, hunresolved.reconciling] at hclosed
  · intro hleased
    cases hleased
  · intro hrec
    cases hrec
  · intro _
    refine .inr (.inr ⟨?_, rfl⟩)
    rw [hid]
    exact hresumes hsafe
  · intro hpromise _
    right
    rw [hunresolved.owner]
    exact (htidy hpromise wakeId current hunresolved).2 hsafe

theorem reconcileFromProof_trace (hfenced : Fenced db)
    (hunresolved : Unresolved db input.eventId wakeId current)
    (hunbound : boundEffects db (repairLineage db input.eventId) = [])
    (hproof : input.carriesProof = true)
    (htidy : permit.tidy → ReconciliationTidy db input)
    (hresumes : SafeToRetry db input wakeId → permit.resumes input.eventId)
    (hok : reconcileFromProof db input wakeId = .ok (outcome, after)) :
    Trace permit db after := by
  unfold reconcileFromProof at hok
  cases hspend : classifyOutcomeUnknownSpend db input.eventId (some wakeId) with
  | privateSpent reservationId signal =>
    simp only [hspend] at hok
    obtain ⟨_, hclose, hok⟩ := of_bind hok
    cases of_pure hok
    refine closeReconciled_trace hfenced hunresolved
      (.close ⟨rfl, rfl, rfl, rfl, rfl, rfl⟩ rfl rfl rfl) rfl ?_ hclose
    intro hpromise
    refine (htidy hpromise wakeId current hunresolved).1 ?_
    simp only [Concludes, hunbound, List.map_nil, if_true]
    exact ⟨hproof, reservationId, signal, hspend⟩
  | privateUncertain =>
    simp only [hspend] at hok
    cases of_pure hok
    exact .refl db
  | ownerNoReservation =>
    simp only [hspend] at hok
    cases of_pure hok
    exact resume_trace hfenced hunresolved
      ⟨hproof, hunbound, .inl hspend⟩ htidy hresumes
  | privateNotSpent reservationId =>
    simp only [hspend] at hok
    cases of_pure hok
    exact resume_trace hfenced hunresolved
      ⟨hproof, hunbound, .inr ⟨reservationId, hspend⟩⟩ htidy hresumes

theorem reconcileOutcomeUnknown_trace (hfenced : Fenced db)
    (htidy : permit.tidy → ReconciliationTidy db input)
    (hresumes : ∀ wakeId current, Unresolved db input.eventId wakeId current →
      SafeToRetry db input wakeId → permit.resumes input.eventId)
    (hok : reconcileOutcomeUnknown db input = .ok (outcome, after)) :
    Trace permit db after := by
  obtain ⟨current, hcurrent, hok⟩ := of_bind hok
  have hstored := orFault_ok.mp hcurrent
  split at hok
  · cases of_pure hok
    exact .refl db
  obtain ⟨hreconciling, hok⟩ := of_require hok
  split at hok
  · obtain ⟨_, hquarantine, hok⟩ := of_bind hok
    cases of_pure hok
    exact quarantineEvent_trace hquarantine
  rename_i wakeId hnamed
  have hunresolved : Unresolved db input.eventId wakeId current :=
    ⟨hstored, hreconciling, (Option.filter_eq_some_iff.mp hnamed).1⟩
  simp only at hok
  split at hok
  · rename_i hbound
    exact reconcileFromReceipts_trace hfenced hunresolved hbound htidy hok
  rename_i hunbound
  split at hok
  · rename_i hproof
    exact reconcileFromProof_trace hfenced hunresolved
      (not_not.mp hunbound) hproof htidy (hresumes wakeId current hunresolved)
      hok
  · cases of_pure hok
    exact .refl db

/-- What a repair must find to strand nothing: a wake that already carries its
occurrence, unless the repair refuses it, is open. -/
def RepairTidy (db : Sidecar) (input : CreateRepairEventInput) : Prop :=
  ∀ predecessor, db.events.get? input.predecessorEventId = some predecessor →
    ∀ wake, wakeOfOccurrence db (occurrenceIdFor .inbox (repairEventId input)
      predecessor.conversationId) = some wake →
    existingAdmissionKind wake ≠ .cancelled →
    existingAdmissionKind wake ≠ .stale → wake.state ≠ .terminal

/-- The repair's event is appended on the wake admitted for it. -/
theorem insertRepair_trace {input : CreateRepairEventInput}
    {predecessor : InboxEvent} (hlinked : Linked db)
    (hpredecessor : db.events.get? input.predecessorEventId = some predecessor)
    (hadmits : ∀ wake, permit.admits wake)
    (htidy : permit.tidy → RepairTidy db input)
    (hok : insertRepair db input predecessor = .ok (repair, after)) :
    Trace permit db after := by
  obtain ⟨⟨admission, _⟩, hadmit, hok⟩ := of_bind hok
  obtain ⟨hkind, hok⟩ := of_require hok
  obtain ⟨_, hevents, hok⟩ := of_orFault hok
  replace hok := passed hok
  obtain ⟨_, _, hok⟩ := of_orFault hok
  cases of_pure hok
  have hstored := admitWakeInTransaction_stored hlinked hadmit
  obtain ⟨hconv, _, hadmitted⟩ := admitWakeInTransaction_cases hlinked hadmit
  obtain ⟨hlane, _⟩ := hlinked.eventWake _ predecessor hpredecessor
  refine (admitWakeInTransaction_trace hlinked (fun wake _ _ => hadmits wake)
    hadmit).step
    (.append (newRepairRow input predecessor (repairEventId input)
      admission.wake.wakeId) admission.wake (Nat.le_refl _) ?_ hevents rfl rfl
        rfl (.same rfl))
  refine ⟨hstored, rfl, hconv.symm, hlane, rfl, rfl, .inl rfl, ?_⟩
  intro hpromise _ hterminal
  rcases hadmitted with ⟨hfound, hsame, _⟩ | ⟨_, _, hpending, _⟩
  · rw [hsame] at hkind
    exact htidy hpromise predecessor hpredecessor admission.wake hfound hkind.1
      hkind.2 hterminal
  · rw [hpending] at hterminal
    cases hterminal

theorem createRepairEvent_trace {input : CreateRepairEventInput}
    (hlinked : Linked db) (hadmits : ∀ wake, permit.admits wake)
    (htidy : permit.tidy → RepairTidy db input)
    (hok : createRepairEvent db input = .ok (repair, after)) :
    Trace permit db after := by
  replace hok := passed hok
  split at hok
  · cases of_pure hok
    exact .refl db
  · obtain ⟨_, hpredecessor, hok⟩ := of_bind hok
    replace hok := passed hok
    replace hok := passed hok
    exact insertRepair_trace hlinked (orFault_ok.mp hpredecessor) hadmits htidy
      hok

end CognitiveSidecar
