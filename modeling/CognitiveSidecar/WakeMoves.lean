/-
The wake ledger as moves: what each of its operations does to linked ledgers.
-/
import CognitiveSidecar.LedgerInvariants

namespace CognitiveSidecar

open Option Relational

variable [Host] {permit : Permit} {db after : Sidecar}
variable {wakeId : String} {nowMs : Int}
variable {wake : Wake} {input : WakeAdmissionInput}
variable {result : WakeAdmissionResult} {workerId token : String}
variable {leaseMs : Int}

omit [Host] in
theorem getWakeRequired_ok :
    getWakeRequired db wakeId = .ok wake ↔ db.wakes.get? wakeId = some wake :=
  orFault_ok

omit [Host] in
/-- A stored wake has its cycle, so ensuring that cycle changes nothing. -/
theorem ensureCycleInTransaction_stored (hlinked : Linked db)
    (hwake : db.wakes.get? wake.wakeId = some wake)
    (hcycleId : ∀ requested ∈ input.cycleId, wake.cycleId = requested)
    (hok : ensureCycleInTransaction db input wake = .ok after) :
    after = db := by
  replace hok := passed hok
  obtain ⟨_, _, hcycle, howner, _⟩ := hlinked.wakeCycle _ wake hwake
  have hid : input.cycleId.getD wake.cycleId = wake.cycleId := by
    cases hrequested : input.cycleId with
    | none => rfl
    | some requested =>
      exact (hcycleId requested (by rw [hrequested]; rfl)).symm
  rw [hid] at hok
  simp only [hcycle] at hok
  replace hok := passed hok
  replace hok := passed hok
  rw [if_neg (by rw [howner]; simp)] at hok
  exact (of_pure hok).symm

/-- The cycle that an admission writes for a new wake. -/
def WakeAdmissionInput.newCycle (input : WakeAdmissionInput) (db : Sidecar)
    (wake : Wake) : Cycle :=
  admittedCycle wake.cycleId input.conversationId
    (input.generation.getD (nextConversationGeneration db input.conversationId))
    wake.wakeId (input.triggerKind.getD (sourceTriggerKind input.sourceKind))
    input.triggerRef input.occupantId input.authorityEpoch input.nowMs
    input.preemptedGeneration

/-- The wake that carries an occurrence already. -/
def wakeOfOccurrence (db : Sidecar) (occurrenceId : String) : Option Wake :=
  db.wakes.rows.find? (·.occurrenceId = occurrenceId)

omit [Host] in
theorem wakeOfOccurrence_stored {occurrenceId : String}
    (hfound : wakeOfOccurrence db occurrenceId = some wake) :
    db.wakes.get? wake.wakeId = some wake :=
  get?_key (List.mem_of_find?_eq_some hfound)

/-- A second admission of an occurrence answers with its wake; a first one
writes a pending wake and its cycle. -/
theorem admitWakeInTransaction_cases (hlinked : Linked db)
    (hok : admitWakeInTransaction db input = .ok (result, after)) :
    result.wake.conversationId = input.conversationId ∧
    result.wake.triggerRef = input.triggerRef ∧
    ((wakeOfOccurrence db input.occurrenceId = some result.wake ∧
        result.kind = existingAdmissionKind result.wake ∧ after = db) ∨
      (wakeOfOccurrence db input.occurrenceId = none ∧
        result.kind = .created ∧ result.wake.state = .pending ∧
        (input.cycleId = none → result.wake.cycleId ≠ "") ∧
        Admits db result.wake (input.newCycle db result.wake) ∧
        ∃ wakes cycles, db.wakes.insert? result.wake = some wakes ∧
          db.cycles.insert? (input.newCycle db result.wake) = some cycles ∧
          after = { db with wakes, cycles })) := by
  replace hok := passed hok
  replace hok := passed hok
  replace hok := passed hok
  replace hok := passed hok
  cases hfound : wakeOfOccurrence db input.occurrenceId with
  | some existing =>
    have hfind : db.wakes.rows.find? (·.occurrenceId = input.occurrenceId) =
      some existing := hfound
    simp only [hfind] at hok
    obtain ⟨⟨href, _, hconv, hcycleId⟩, hok⟩ := of_require hok
    obtain ⟨_, hensure, hok⟩ := of_bind hok
    have hmid := ensureCycleInTransaction_stored hlinked
      (wakeOfOccurrence_stored hfound) hcycleId hensure
    cases of_pure hok
    exact ⟨hconv, href, .inl ⟨rfl, rfl, hmid⟩⟩
  | none =>
    have hfind : db.wakes.rows.find? (·.occurrenceId = input.occurrenceId) =
      none := hfound
    simp only [hfind] at hok
    obtain ⟨_, hok⟩ := of_require hok
    replace hok := passed hok
    obtain ⟨hsole, hok⟩ := of_require hok
    obtain ⟨wakes, hwakes, hok⟩ := of_orFault hok
    obtain ⟨_, hensure, hok⟩ := of_bind hok
    cases of_pure hok
    generalize hcycleId :
      input.cycleId.getD (cycleIdFor (wakeIdFor input.occurrenceId)) = cycleId
      at hsole hwakes hensure ⊢
    have hnoCycle : db.cycles.get? cycleId = none := by
      cases hcycle : db.cycles.get? cycleId with
      | none => rfl
      | some =>
        obtain ⟨_, wake, _, hwake, hid⟩ := hlinked.cycleWake _ _ hcycle
        exact absurd hid (hsole wake (mem_of_get? hwake))
    have hgetD : input.cycleId.getD cycleId = cycleId := by
      rw [← hcycleId]
      cases input.cycleId <;> rfl
    replace hensure := passed hensure
    simp only [hgetD, hnoCycle] at hensure
    replace hensure := passed hensure
    obtain ⟨hsoleCycle, hensure⟩ := of_require hensure
    obtain ⟨cycles, hcycles, hensure⟩ := of_orFault hensure
    cases of_pure hensure
    refine ⟨rfl, rfl, .inr ⟨rfl, rfl, rfl, ?_, ?_, wakes, cycles, hwakes,
      hcycles, rfl⟩⟩
    · intro hnone
      rw [hnone] at hcycleId
      rw [← hcycleId]
      simp [cycleIdFor, String.append_eq_empty_iff]
    refine ⟨?_, rfl, rfl, rfl, rfl, rfl, rfl, rfl, ?_, ?_⟩
    · simp [wakeIdFor, String.append_eq_empty_iff]
    · intro _ row hrow
      exact hsoleCycle row (mem_of_get? hrow)
    · intro _ row hrow
      exact hsole row (mem_of_get? hrow)

theorem admitWakeInTransaction_trace (hlinked : Linked db)
    (hadmits : ∀ wake : Wake, wake.triggerRef = input.triggerRef →
      (input.cycleId = none → wake.cycleId ≠ "") → permit.admits wake)
    (hok : admitWakeInTransaction db input = .ok (result, after)) :
    Trace permit db after := by
  obtain ⟨_, href, ⟨_, _, rfl⟩ | ⟨_, _, _, hnamed, hadmitted, wakes, cycles,
    hwakes, hcycles, rfl⟩⟩ := admitWakeInTransaction_cases hlinked hok
  · exact .refl after
  · have hmoved : Moved permit db { db with wakes, cycles } :=
      .admission _ _ (Nat.le_refl _) hadmitted (hadmits _ href hnamed) hwakes
        hcycles rfl rfl (.same rfl)
    exact hmoved.trace

/-- The admitted wake is stored. -/
theorem admitWakeInTransaction_stored (hlinked : Linked db)
    (hok : admitWakeInTransaction db input = .ok (result, after)) :
    after.wakes.get? result.wake.wakeId = some result.wake := by
  obtain ⟨_, _, ⟨hfound, _, rfl⟩ | ⟨_, _, _, _, _, _, _, hwakes, _, rfl⟩⟩ :=
    admitWakeInTransaction_cases hlinked hok
  · exact wakeOfOccurrence_stored hfound
  · rw [get?_insert hwakes]
    exact if_pos rfl

theorem claimWakeInTransaction_events
    (hok : claimWakeInTransaction db wakeId workerId nowMs leaseMs =
      .ok (token, after)) : after.events = db.events := by
  obtain ⟨_, _, hok⟩ := of_bind hok
  replace hok := passed hok
  replace hok := passed hok
  replace hok := passed hok
  replace hok := passed hok
  replace hok := passed hok
  replace hok := passed hok
  replace hok := passed hok
  cases of_pure hok
  rfl

/-- A claim of the wake leaves it open under a fresh token. -/
theorem claimWakeInTransaction_trace
    (hok : claimWakeInTransaction db wakeId workerId nowMs leaseMs =
      .ok (token, after)) : Trace permit db after := by
  obtain ⟨_, _, hok⟩ := of_bind hok
  obtain ⟨_, hok⟩ := of_require hok
  obtain ⟨⟨_, _⟩, hok⟩ := of_require hok
  replace hok := passed hok
  replace hok := passed hok
  replace hok := passed hok
  obtain ⟨_, hok⟩ := of_require hok
  replace hok := passed hok
  cases of_pure hok
  refine .step (.step (Moved.trace (.updateWake ?_)) .drew) (.updateWake ?_)
  · intro _ _ hguard
    simp only [Bool.and_eq_true, decide_eq_true_eq] at hguard
    refine .stayOpen rfl rfl rfl ?_ ?_ (.inr rfl) ?_ (.inl rfl)
      (fun _ => by simp [Wake.LeaseNamed])
    · rw [hguard.2]
      decide
    · simp
    · rw [hguard.2]
      intro hrec
      cases hrec
  · intro row _ hguard
    have hstate : row.state = .pending ∨ row.state = .claimed := by
      simp only [Wake.isClaimable, Bool.or_eq_true, Bool.and_eq_true,
        decide_eq_true_eq] at hguard
      rcases hguard with hpending | ⟨hclaimed, _⟩
      · exact .inl hpending
      · exact .inr hclaimed
    refine .stayOpen rfl rfl rfl ?_ ?_ (.inr rfl) ?_
      (.inr (.inr ⟨db.uuidsDrawn, Nat.lt_succ_self _, rfl⟩))
      (fun _ => by simp [Wake.LeaseNamed])
    · rcases hstate with hstate | hstate <;> rw [hstate] <;> decide
    · simp
    · intro hrec
      rcases hstate with hstate | hstate <;> rw [hstate] at hrec <;> cases hrec

theorem claimWake_trace
    (hok : claimWake db wakeId workerId nowMs leaseMs = .ok (token, after)) :
    Trace permit db after :=
  claimWakeInTransaction_trace (of_require hok).2

theorem renewWakeLeaseInTransaction_trace (input : RenewWakeLeaseInput) :
    Trace permit db (renewWakeLeaseInTransaction db input).2 := by
  unfold renewWakeLeaseInTransaction
  split
  · exact .refl db
  · refine Moved.trace (.updateWake ?_)
    intro row _ hguard
    have hstate : row.state = .authorized := by
      simp only [Wake.isRenewable, Bool.and_eq_true, decide_eq_true_eq]
        at hguard
      exact hguard.1.1.1.1.2
    refine .stayOpen rfl rfl rfl ?_ ?_ (.inr rfl) .inl (.inr (.inl rfl))
      id
    · rw [hstate]
      decide
    · rw [hstate]
      decide

/-- Authorization moves a claimed wake on under its own token. -/
theorem authorizeWakeInTransaction_cases
    (hok : authorizeWakeInTransaction db wakeId token nowMs =
      .ok (wake, after)) :
    Trace permit db after ∧
      after = { db with wakes := after.wakes } ∧
      after.wakes.get? wakeId = some wake ∧ wake.state = .authorized := by
  obtain ⟨_, hcurrent, hok⟩ := of_bind hok
  rw [getWakeRequired_ok] at hcurrent
  replace hok := passed hok
  obtain ⟨⟨hclaimed, htoken⟩, hok⟩ := of_require hok
  obtain ⟨hruns, hok⟩ := of_require hok
  obtain ⟨_, hfound, hok⟩ := of_bind hok
  rw [getWakeRequired_ok] at hfound
  cases of_pure hok
  refine ⟨Moved.trace (.updateWake ?_), rfl, hfound, ?_⟩
  · intro row _ hguard
    have hstate : row.state = .claimed := by
      simp only [Bool.and_eq_true, decide_eq_true_eq] at hguard
      exact hguard.1.1
    refine .stayOpen rfl rfl rfl ?_ (by simp) (.inr rfl) ?_ (.inr (.inl rfl))
      (fun hnamed => ⟨fun _ => hnamed.1 (.inl hstate), by simp⟩)
    · rw [hstate]
      decide
    · intro hrec
      rw [hstate] at hrec
      cases hrec
  · rw [Sidecar.get?_updateWake, hcurrent, map_some,
      if_pos ⟨rfl, by simp [hclaimed, htoken, hruns]⟩] at hfound
    cases hfound
    rfl

theorem beginConsequenceInTransaction_trace {chainId : String}
    {semanticPass : Int}
    (hok : beginConsequenceInTransaction db wakeId token semanticPass nowMs =
      .ok (chainId, after)) : Trace permit db after := by
  replace hok := passed hok
  obtain ⟨_, _, hok⟩ := of_bind hok
  replace hok := passed hok
  split at hok
  · cases of_pure hok
    exact .refl db
  · replace hok := passed hok
    replace hok := passed hok
    replace hok := passed hok
    replace hok := passed hok
    cases of_pure hok
    refine .step (Moved.trace .drew) (.updateWake ?_)
    intro row _ hguard
    have hstate : row.state = .authorized := by
      simp only [Bool.and_eq_true, decide_eq_true_eq] at hguard
      exact hguard.1
    refine .stayOpen rfl rfl rfl ?_ (by simp) (.inr rfl) ?_ (.inr (.inl rfl))
      (fun _ => by simp [Wake.LeaseNamed])
    · rw [hstate]
      decide
    · intro hrec
      rw [hstate] at hrec
      cases hrec

/-- Finishing a wake that is neither terminal nor reconciling closes it. -/
theorem finishWakeInTransaction_trace {leaseToken : Option String}
    {reason : WakeTerminalReason}
    (hok : finishWakeInTransaction db wakeId leaseToken reason nowMs =
      .ok after)
    (hclosable : ∀ wake, db.wakes.get? wakeId = some wake → ¬ wake.isFenced →
      Closable permit db wakeId) : Trace permit db after := by
  obtain ⟨current, hcurrent, hok⟩ := of_bind hok
  rw [getWakeRequired_ok] at hcurrent
  by_cases hterminal : current.state = .terminal
  · rw [if_pos hterminal] at hok
    replace hok := passed hok
    cases of_pure hok
    exact .refl db
  · rw [if_neg hterminal] at hok
    obtain ⟨hsettled, hok⟩ := of_require hok
    replace hok := passed hok
    replace hok := passed hok
    replace hok := passed hok
    cases of_pure hok
    refine Moved.trace (.updateWake ?_)
    intro _ hrow _
    cases hcurrent.symm.trans hrow
    have hid : current.wakeId = wakeId := key_of_get? hcurrent
    refine .close hterminal ?_
    rw [hid]
    exact hclosable current hcurrent fun hfenced =>
      hfenced.elim hsettled hterminal

/-- A recorded cancellation keeps the state and the lease of every wake. -/
structure CancellationRecorded (db after : Sidecar) (wakeId : String)
    (wake : Wake) : Prop where
  frame : after =
    { db with wakes := after.wakes, uuidsDrawn := after.uuidsDrawn }
  stored : after.wakes.get? wakeId = some wake
  origin : ∃ old, db.wakes.get? wakeId = some old ∧ wake.state = old.state ∧
    wake.leaseToken = old.leaseToken
  states : ∀ id, (after.wakes.get? id).map Wake.state =
    (db.wakes.get? id).map Wake.state

omit [Host] in
theorem CancellationRecorded.events
    (hrecorded : CancellationRecorded db after wakeId wake) :
    after.events = db.events := by
  rw [hrecorded.frame]

theorem recordWakeCancellationInTransaction_cases {wakeId : String}
    {cancellationId : Option String} {nowMs : Int} {wake : Wake}
    (hok : recordWakeCancellationInTransaction db wakeId cancellationId nowMs =
      .ok (wake, after)) :
    Trace permit db after ∧ CancellationRecorded db after wakeId wake := by
  obtain ⟨current, hcurrent, hok⟩ := of_bind hok
  rw [getWakeRequired_ok] at hcurrent
  -- Whether an identifier is drawn depends on the caller's own.
  generalize hmid : (if cancellationId.isSome then db else db.drew) = mid
    at hcurrent hok
  have hdraw : Trace permit db mid := by
    rw [← hmid]
    split
    · exact .refl db
    · exact Moved.drew.trace
  have hframe : mid = { db with uuidsDrawn := mid.uuidsDrawn } := by
    rw [← hmid]
    split <;> rfl
  have hwakes : mid.wakes = db.wakes := by rw [hframe]
  by_cases hterminal : current.state = .terminal
  · rw [if_pos hterminal] at hok
    cases of_pure hok
    refine ⟨hdraw, ?_, hcurrent, ⟨wake, by rw [← hwakes]; exact hcurrent, rfl,
      rfl⟩, fun _ => by rw [hwakes]⟩
    rw [hwakes]
    exact hframe
  · rw [if_neg hterminal] at hok
    obtain ⟨_, hfound, hok⟩ := of_bind hok
    rw [getWakeRequired_ok] at hfound
    cases of_pure hok
    refine ⟨hdraw.step (.updateWake ?_), ?_, hfound, ⟨current,
      by rw [← hwakes]; exact hcurrent, ?_⟩, ?_⟩
    · intro _ hrow _
      cases hcurrent.symm.trans hrow
      exact .stayOpen rfl rfl rfl hterminal hterminal (.inr rfl) .inl
        (.inr (.inl rfl)) id
    · rw [hframe]
      rfl
    · have hid : current.wakeId = wakeId := key_of_get? hcurrent
      simp only [Sidecar.updateWake, get?_update, hcurrent,
        map_some, hid, decide_true, Bool.and_self, if_true,
        some.injEq] at hfound
      rw [← hfound]
      exact ⟨rfl, rfl⟩
    · intro _
      rw [← hwakes]
      simp only [Sidecar.updateWake, get?_update, map_map]
      congr 1
      funext row
      simp only [Function.comp_apply]
      split <;> rfl

theorem reconcileWakeInTransaction_trace
    (hok : reconcileWakeInTransaction db wakeId nowMs = .ok after) :
    Trace permit db after := by
  obtain ⟨current, _, hok⟩ := of_bind hok
  by_cases hfenced : current.state = .terminal ∨ current.state = .reconciling
  · rw [if_pos hfenced] at hok
    cases of_pure hok
    exact .refl db
  · rw [if_neg hfenced] at hok
    cases of_pure hok
    refine Moved.trace (.updateWake ?_)
    intro _ _ hguard
    exact .stayOpen rfl rfl rfl (of_decide_eq_true hguard) (by simp)
      (.inl rfl) (fun _ => .inl rfl) (.inl rfl)
      (fun _ => by simp [Wake.LeaseNamed])

/-- States from which a cancellation finishes the wake. -/
def Wake.isCancellable (row : Wake) : Bool :=
  row.state = .pending || row.state = .claimed || row.state = .authorized

theorem cancelWake_trace {cancellationId : Option String}
    (hok : cancelWake db wakeId cancellationId nowMs = .ok after)
    (hclosable : ∀ wake, db.wakes.get? wakeId = some wake →
      wake.isCancellable = true → Closable permit db wakeId) :
    Trace permit db after := by
  obtain ⟨⟨current, _⟩, hrecord, hok⟩ := of_bind hok
  obtain ⟨hdraw, hrecorded⟩ :=
    recordWakeCancellationInTransaction_cases hrecord
  obtain ⟨old, hold, hstate, _⟩ := hrecorded.origin
  simp only at hok
  by_cases hheld : current.state = .reconciling ∨
      current.state = .consequencePending
  · rw [if_pos hheld] at hok
    cases of_pure hok
    exact hdraw
  · rw [if_neg hheld] at hok
    refine hdraw.trans (finishWakeInTransaction_trace hok ?_)
    intro _ hwake hopen
    cases hrecorded.stored.symm.trans hwake
    have hcancellable : old.isCancellable = true := by
      rw [hstate] at hheld
      unfold Wake.isFenced at hopen
      unfold Wake.isCancellable
      cases hcase : old.state <;> simp_all
    exact (hclosable old hold hcancellable).congr hrecorded.events

omit [Host] in
theorem hasCycleLineage_of_linked (hlinked : Linked db)
    (hwake : db.wakes.get? wakeId = some wake) :
    wake.hasCycleLineage db = true := by
  obtain ⟨_, _, hcycle, howner, _⟩ := hlinked.wakeCycle wakeId wake hwake
  have hid : wake.wakeId = wakeId := key_of_get? hwake
  simp [Wake.hasCycleLineage, hcycle, howner, hid]

/-- Linked wakes have their lineage, so recovery never quarantines one. -/
theorem recoverWake_trace {acc : WakeRecoveryResult × Sidecar}
    (hlinked : Linked acc.2) :
    Trace permit acc.2 (recoverWake nowMs acc wakeId).2 := by
  obtain ⟨_, db⟩ := acc
  unfold recoverWake
  cases hcurrent : db.wakes.get? wakeId with
  | none =>
    simp only [getWake, hcurrent]
    exact .refl db
  | some current =>
    have hlineage := hasCycleLineage_of_linked hlinked hcurrent
    simp only [getWake, hcurrent, hlineage, Bool.not_true, Bool.false_eq_true,
      if_false]
    by_cases hterminal : current.state = .terminal
    · rw [if_pos hterminal]
      exact .refl db
    rw [if_neg hterminal]
    by_cases hconsequence : current.state = .consequencePending
    · rw [if_pos hconsequence]
      refine Moved.trace (.updateWake ?_)
      intro _ _ hguard
      refine .stayOpen rfl rfl rfl ?_ (by simp) (.inr rfl)
        (fun _ => .inl rfl) (.inr (.inl rfl))
        (fun _ => by simp [Wake.LeaseNamed])
      rw [of_decide_eq_true hguard]
      decide
    rw [if_neg hconsequence]
    by_cases hreconciling : current.state = .reconciling
    · rw [if_pos hreconciling]
      exact .refl db
    rw [if_neg hreconciling]
    split
    · split
      · refine Moved.trace (.updateWake ?_)
        intro _ hrow _
        cases hcurrent.symm.trans hrow
        exact .stayOpen rfl rfl rfl hterminal (by simp) (.inr rfl)
          (fun _ => .inl rfl) (.inr (.inl rfl))
          (fun _ => by simp [Wake.LeaseNamed])
      · refine Moved.trace (.updateWake ?_)
        intro _ hrow _
        cases hcurrent.symm.trans hrow
        exact .stayOpen rfl rfl rfl hterminal (by simp)
          (.inr rfl) (fun hrec => absurd hrec hreconciling) (.inl rfl)
          (fun _ => by simp [Wake.LeaseNamed])
    · exact .refl db

theorem recoverWakes_trace (hlinked : Linked db) :
    Trace permit db (recoverWakes db nowMs).2 := by
  unfold recoverWakes
  generalize ((db.wakes.rows.filter (·.state ≠ .terminal)).insertionSort
    Wake.admittedBefore).map Wake.wakeId = ids
  generalize hacc : (({}, db) : WakeRecoveryResult × Sidecar) = acc
  have hstart : Trace permit db acc.2 := by
    rw [← hacc]
    exact .refl db
  clear hacc
  induction ids generalizing acc with
  | nil => exact hstart
  | cons _ _ ih =>
    exact ih _ (hstart.trans (recoverWake_trace (hlinked.trace hstart)))

end CognitiveSidecar
