/-
Concerns and their occupancy: what the deltas of a settlement and the repair
after them leave, and when every occupancy row of a touched concern shows the
status that cognition authored.
-/
import CognitiveSidecar.PublicationOnce

namespace CognitiveSidecar

open Option List Relational

namespace Occupied

variable {after mind : Mind} {reads : MindReads} {context : DeltaContext}
variable {concernId : String} {deltas : List ConcernDelta}

/-- The status that cognition authored on a concern; a forgotten concern has
none. -/
def authoredStatus (mind : Mind) (concernId : String) :
    Option CognitiveStatus :=
  (getConcern mind concernId).bind (·.status)

/-- Every occupancy row of the concern shows its authored status, and without
one there is no row. -/
structure Coherent (mind : Mind) (concernId : String) : Prop where
  authored : ∀ status, authoredStatus mind concernId = some status →
    ∀ row ∈ mind.occupancy.rows, row.concernId = concernId →
      row.status = status
  unauthored : authoredStatus mind concernId = none →
    ∀ row ∈ mind.occupancy.rows, row.concernId ≠ concernId

/-- The concerns that a settlement's concern or occupancy deltas name. -/
def touchedConcernIds (settlement : PublishedSettlement) : List String :=
  settlement.concernDeltas.map ConcernDelta.concernId ++
    settlement.occupancyDelta.map OccupancyDelta.concernId

/-! What the concern deltas leave, read from the deltas and the stored row. -/

/-- The status that the last delta on the concern carries. -/
def lastConcernStatus (deltas : List ConcernDelta) (concernId : String) :
    Option (Option CognitiveStatus) :=
  (deltas.reverse.find? (·.concernId = concernId)).map ConcernDelta.status

def ConcernDelta.creates (concernId : String) : ConcernDelta → Bool
  | .upsert record => record.concernId = concernId
  | .resolve _ => false

/-- The concern has a row once the deltas are applied. -/
def isKnownAfter (mind : Mind) (deltas : List ConcernDelta)
    (concernId : String) : Bool :=
  (mind.concerns.get? concernId).isSome ||
    deltas.any (ConcernDelta.creates concernId)

/-- The authored status once the deltas are applied: that of the last delta, or
else the stored one; a forgotten concern takes no delta. -/
def authoredStatusAfter (mind : Mind) (deltas : List ConcernDelta)
    (concernId : String) : Option CognitiveStatus :=
  match mind.concerns.get? concernId with
  | some concern =>
    if concern.forgotten then none
    else (lastConcernStatus deltas concernId).getD concern.status
  | none =>
    if deltas.any (ConcernDelta.creates concernId) then
      (lastConcernStatus deltas concernId).join
    else none

/-- The repair reaches the occupancy of the concern: a row of a newer generation
already shows the status, and a concern without a row is given no occupancy. -/
structure RepairReaches (mind : Mind) (settlement : PublishedSettlement)
    (concernId : String) : Prop where
  newer : ∀ status,
    authoredStatusAfter mind settlement.concernDeltas concernId =
      some status →
    ∀ row ∈ mind.occupancy.rows, row.concernId = concernId →
      settlement.generation < row.updatedGeneration → row.status = status
  known : isKnownAfter mind settlement.concernDeltas concernId = false →
    (∀ row ∈ mind.occupancy.rows, row.concernId ≠ concernId) ∧
      ∀ delta ∈ settlement.occupancyDelta, delta.concernId ≠ concernId

/-! The other deltas leave both tables alone. -/

/-- The concerns and their occupancy are as they were. -/
def SameConcerns (before after : Mind) : Prop :=
  after.concerns = before.concerns ∧ after.occupancy = before.occupancy

theorem SameConcerns.refl (mind : Mind) : SameConcerns mind mind := ⟨rfl, rfl⟩

theorem SameConcerns.trans {first second third : Mind}
    (hfirst : SameConcerns first second)
    (hsecond : SameConcerns second third) : SameConcerns first third :=
  ⟨hsecond.1.trans hfirst.1, hsecond.2.trans hfirst.2⟩

theorem SameConcerns.coherent {before : Mind}
    (hsame : SameConcerns before after) :
    Coherent after concernId ↔ Coherent before concernId := by
  obtain ⟨hconcerns, hoccupancy⟩ := hsame
  have hstatus : authoredStatus after concernId =
      authoredStatus before concernId := by
    unfold authoredStatus getConcern
    rw [hconcerns]
  constructor
  · rintro ⟨hauthored, hunauthored⟩
    rw [hstatus, hoccupancy] at hauthored hunauthored
    exact ⟨hauthored, hunauthored⟩
  · rintro ⟨hauthored, hunauthored⟩
    rw [← hstatus, ← hoccupancy] at hauthored hunauthored
    exact ⟨hauthored, hunauthored⟩

/-- What one step leaves alone, a loop of them does. -/
theorem sameConcerns_eachOf {ι : Type} {f : Mind → ι → Minded Mind}
    {items : List ι}
    (hstep : ∀ mid item next, f mid item = .ok next → SameConcerns mid next)
    (hok : eachOf f mind items = .ok after) : SameConcerns mind after := by
  refine eachOf_preserves (P := SameConcerns mind) ?_ hok (.refl mind)
  intro mid item next hnext hmid
  exact hmid.trans (hstep mid item next hnext)

theorem putWorkingContext_same (mind : Mind)
    (item : WorkingContextItem InterpretationEnvelope)
    (context : DeltaContext) :
    SameConcerns mind (putWorkingContext mind item context) := ⟨rfl, rfl⟩

theorem applyWorkingContextDelta_same {delta : WorkingContextDelta}
    (hok : applyWorkingContextDelta reads context mind delta = .ok after) :
    SameConcerns mind after := by
  cases delta with
  | upsert =>
    obtain ⟨_, _, hok⟩ := of_bind hok
    replace hok := passed hok
    cases of_pure hok
    exact putWorkingContext_same _ _ _
  | supersede =>
    obtain ⟨_, _, hok⟩ := of_bind hok
    replace hok := passed hok
    replace hok := passed hok
    cases of_pure hok
    exact putWorkingContext_same _ _ _
  | abandon =>
    cases of_pure hok
    exact .refl mind

theorem insertDeskEntry_same {input : DeskEntryDraft}
    (hok : insertDeskEntry mind input context = .ok after) :
    SameConcerns mind after := by
  obtain ⟨_, _, hok⟩ := of_orFault hok
  cases of_pure hok
  exact .refl mind

theorem applyOneDeskDelta_same {delta : DeskDelta}
    (hok : applyOneDeskDelta reads context mind delta = .ok after) :
    SameConcerns mind after := by
  cases delta with
  | upsert =>
    obtain ⟨input, _, hok⟩ := of_bind hok
    cases hknown : mind.desk.get? input.id with
    | none =>
      simp only [hknown] at hok
      exact insertDeskEntry_same hok
    | some =>
      simp only [hknown] at hok
      replace hok := passed hok
      cases of_pure hok
      exact ⟨rfl, rfl⟩
  | supersede =>
    replace hok := passed hok
    obtain ⟨_, _, hok⟩ := of_bind hok
    replace hok := passed hok
    obtain ⟨_, hinserted, hok⟩ := of_bind hok
    cases of_pure hok
    exact (insertDeskEntry_same hinserted).trans ⟨rfl, rfl⟩
  | archive | tombstone =>
    replace hok := passed hok
    cases of_pure hok
    exact ⟨rfl, rfl⟩

theorem applySubscriptionDelta_same {delta : SubscriptionDelta}
    (hok : applySubscriptionDelta reads mind delta = .ok after) :
    SameConcerns mind after := by
  cases delta with
  | cancel =>
    cases of_pure hok
    exact ⟨rfl, rfl⟩
  | create =>
    obtain ⟨_, _, hok⟩ := of_bind hok
    replace hok := passed hok
    replace hok := passed hok
    replace hok := passed hok
    cases of_pure hok
    exact ⟨rfl, rfl⟩

theorem enqueueDurableNomination_same [Host] {nomination : DurableNomination}
    (hok : enqueueDurableNomination mind nomination = .ok after) :
    SameConcerns mind after := by
  obtain ⟨_, _, hok⟩ := of_bind hok
  replace hok := passed hok
  cases of_pure hok
  exact ⟨rfl, rfl⟩

/-! The concern deltas, one concern at a time. -/

/-- Whether the stored concern is forgotten, and its status. -/
abbrev ConcernFacts : Type := Option (Bool × Option CognitiveStatus)

def concernFacts (mind : Mind) (concernId : String) : ConcernFacts :=
  (mind.concerns.get? concernId).map fun concern =>
    (concern.forgotten, concern.status)

def ConcernFacts.status : ConcernFacts → Option CognitiveStatus
  | some (false, status) => status
  | _ => none

theorem authoredStatus_eq (mind : Mind) (concernId : String) :
    authoredStatus mind concernId = (concernFacts mind concernId).status := by
  unfold authoredStatus getConcern concernFacts
  cases mind.concerns.get? concernId with
  | none => rfl
  | some concern =>
    cases hforgotten : concern.forgotten <;>
      simp [ConcernFacts.status, Option.filter, hforgotten]

/-- What a delta on the concern makes of its facts. -/
def ConcernFacts.settle (delta : ConcernDelta) : ConcernFacts → ConcernFacts
  | some (true, status) => some (true, status)
  | some (false, _) => some (false, delta.status)
  | none =>
    match delta with
    | .upsert record => some (false, record.status)
    | .resolve _ => none

/-- A concern delta writes its own concern and no occupancy. -/
theorem applyConcernDelta_facts {delta : ConcernDelta}
    (hok : applyConcernDelta reads context mind delta = .ok after) :
    after.occupancy = mind.occupancy ∧
      ∀ concernId, concernFacts after concernId =
        if concernId = delta.concernId then
          (concernFacts mind concernId).settle delta
        else concernFacts mind concernId := by
  cases delta with
  | resolve resolvedId =>
    cases of_pure hok
    refine ⟨rfl, fun concernId => ?_⟩
    simp only [concernFacts, get?_update, ConcernDelta.concernId]
    cases hstored : mind.concerns.get? concernId with
    | none => by_cases hid : concernId = resolvedId <;> simp [hid,
        ConcernFacts.settle]
    | some concern =>
      have hkey : concern.concernId = concernId := key_of_get? hstored
      by_cases hid : concernId = resolvedId
      · cases hforgotten : concern.forgotten <;>
          simp [hkey, hid, hforgotten, ConcernFacts.settle,
            ConcernDelta.status]
      · simp [hkey, hid]
  | upsert record =>
    replace hok := passed hok
    obtain ⟨_, _, hok⟩ := of_bind hok
    cases of_pure hok
    refine ⟨rfl, fun concernId => ?_⟩
    simp only [concernFacts, Table.get?_upsert, ConcernDelta.concernId, key]
    by_cases hid : concernId = record.concernId
    · subst hid
      simp only [if_true]
      cases mind.concerns.get? record.concernId with
      | none => rfl
      | some concern =>
        cases hforgotten : concern.forgotten <;>
          simp [hforgotten, ConcernFacts.settle, ConcernDraft.over,
            ConcernDelta.status]
    · simp only [hid, if_false]

/-- The facts of a concern after the deltas that name it. -/
def ConcernFacts.settleAll (concernId : String) (facts : ConcernFacts)
    (deltas : List ConcernDelta) : ConcernFacts :=
  deltas.foldl
    (fun facts delta =>
      if concernId = delta.concernId then facts.settle delta else facts) facts

theorem applyConcernDeltas_facts
    (hok : eachOf (applyConcernDelta reads context) mind deltas = .ok after) :
    after.occupancy = mind.occupancy ∧
      ∀ concernId, concernFacts after concernId =
        (concernFacts mind concernId).settleAll concernId deltas := by
  induction deltas generalizing mind with
  | nil =>
    cases hok
    exact ⟨rfl, fun _ => rfl⟩
  | cons _ _ ih =>
    obtain ⟨_, hmid, hok⟩ := of_bind hok
    obtain ⟨hoccupancy, hfacts⟩ := applyConcernDelta_facts hmid
    obtain ⟨hrest, hrestFacts⟩ := ih hok
    refine ⟨hrest.trans hoccupancy, fun concernId => ?_⟩
    rw [hrestFacts concernId, hfacts concernId]
    rfl

theorem lastConcernStatus_cons (delta : ConcernDelta)
    (rest : List ConcernDelta) (concernId : String) :
    lastConcernStatus (delta :: rest) concernId =
      (lastConcernStatus rest concernId).or
        (if delta.concernId = concernId then some delta.status else none) := by
  unfold lastConcernStatus
  rw [reverse_cons, List.find?_append]
  cases rest.reverse.find? (·.concernId = concernId) with
  | some => rfl
  | none =>
    by_cases hid : delta.concernId = concernId <;> simp [hid]

/-- A concern that the deltas create has a last status. -/
theorem lastConcernStatus_of_creates
    (hcreates : deltas.any (ConcernDelta.creates concernId) = true) :
    (lastConcernStatus deltas concernId).isSome = true := by
  obtain ⟨delta, hdelta, hcreated⟩ := any_eq_true.mp hcreates
  unfold lastConcernStatus
  rw [isSome_map, List.find?_isSome]
  refine ⟨delta, mem_reverse.mpr hdelta, ?_⟩
  cases delta with
  | upsert =>
    exact hcreated
  | resolve => cases hcreated

/-- The deltas leave the status of the last one, unless the concern is
forgotten or has no row. -/
theorem settleAll_eq (concernId : String) (facts : ConcernFacts)
    (deltas : List ConcernDelta) :
    facts.settleAll concernId deltas =
      match facts with
      | some (true, status) => some (true, status)
      | some (false, status) =>
        some (false, (lastConcernStatus deltas concernId).getD status)
      | none =>
        if deltas.any (ConcernDelta.creates concernId) then
          some (false, (lastConcernStatus deltas concernId).join)
        else none := by
  induction deltas generalizing facts with
  | nil =>
    rcases facts with _ | ⟨_ | _, _⟩ <;> rfl
  | cons delta rest ih =>
    have hstep : facts.settleAll concernId (delta :: rest) =
        ConcernFacts.settleAll concernId (if concernId = delta.concernId then
          facts.settle delta else facts) rest := rfl
    rw [hstep, ih, lastConcernStatus_cons]
    by_cases hid : concernId = delta.concernId
    · rw [if_pos hid, if_pos hid.symm]
      rcases facts with _ | ⟨_ | _, _⟩
      · cases delta with
        | upsert record =>
          have hcreates : ConcernDelta.creates concernId (.upsert record) =
              true := by
            simpa [ConcernDelta.creates, ConcernDelta.concernId] using
              hid.symm
          simp only [ConcernFacts.settle, any_cons, hcreates,
            Bool.true_or, if_true, ConcernDelta.status]
          cases lastConcernStatus rest concernId <;> rfl
        | resolve =>
          simp only [ConcernFacts.settle, any_cons,
            ConcernDelta.creates, Bool.false_or]
          by_cases hcreates : rest.any (ConcernDelta.creates concernId) =
              true
          · obtain ⟨_, hstatus⟩ := isSome_iff_exists.mp
              (lastConcernStatus_of_creates hcreates)
            rw [if_pos hcreates, if_pos hcreates, hstatus]
            rfl
          · rw [if_neg hcreates, if_neg hcreates]
      · cases lastConcernStatus rest concernId <;> rfl
      · rfl
    · rw [if_neg hid, if_neg (Ne.symm hid), or_none]
      have hother : ConcernDelta.creates concernId delta = false := by
        cases delta with
        | upsert =>
          simpa [ConcernDelta.creates, ConcernDelta.concernId] using
            Ne.symm hid
        | resolve => rfl
      rcases facts with _ | ⟨_ | _, _⟩
      · simp only [any_cons, hother, Bool.false_or]
      · rfl
      · rfl

/-- The facts that the deltas leave, read from the deltas and the stored row. -/
theorem settleAll_concernFacts (mind : Mind) (deltas : List ConcernDelta)
    (concernId : String) :
    ((concernFacts mind concernId).settleAll concernId deltas).status =
        authoredStatusAfter mind deltas concernId ∧
      ((concernFacts mind concernId).settleAll concernId deltas).isSome =
        isKnownAfter mind deltas concernId := by
  rw [settleAll_eq]
  unfold concernFacts authoredStatusAfter isKnownAfter
  cases mind.concerns.get? concernId with
  | none =>
    by_cases hcreates : deltas.any (ConcernDelta.creates concernId) = true
    · rw [hcreates]
      exact ⟨rfl, rfl⟩
    · rw [Bool.not_eq_true _ |>.mp hcreates]
      exact ⟨rfl, rfl⟩
  | some concern =>
    simp only [map_some]
    cases concern.forgotten <;> exact ⟨rfl, rfl⟩

/-! The occupancy deltas. -/

/-- One occupancy delta writes its own row, unless the row is newer. -/
theorem applyOccupancyDelta_get? (context : DeltaContext) (mind : Mind)
    (delta : OccupancyDelta) (k : String × String) :
    (applyOccupancyDelta context mind delta).concerns = mind.concerns ∧
      ((∃ row, mind.occupancy.get? k = some row ∧
          context.generation < row.updatedGeneration ∧
          (applyOccupancyDelta context mind delta).occupancy.get? k =
            some row) ∨
        (k = (delta.conversationId, delta.concernId) ∧
          ∃ row, (applyOccupancyDelta context mind delta).occupancy.get? k =
            some row ∧ row.updatedGeneration = context.generation) ∨
        (k ≠ (delta.conversationId, delta.concernId) ∧
          (applyOccupancyDelta context mind delta).occupancy.get? k =
            mind.occupancy.get? k)) := by
  refine ⟨rfl, ?_⟩
  simp only [applyOccupancyDelta, Table.get?_upsert, key]
  by_cases hk : k = (delta.conversationId, delta.concernId)
  · rw [if_pos hk]
    cases hstored : mind.occupancy.get? k with
    | none => exact .inr (.inl ⟨hk, _, rfl, rfl⟩)
    | some row =>
      by_cases hnewer : row.updatedGeneration ≤ context.generation
      · rw [map_some, if_pos hnewer]
        exact .inr (.inl ⟨hk, _, rfl, rfl⟩)
      · refine .inl ⟨row, rfl, Int.not_le.mp hnewer, ?_⟩
        rw [map_some, getD_some, if_neg hnewer]
  · rw [if_neg hk]
    exact .inr (.inr ⟨hk, rfl⟩)

/-- What the occupancy deltas leave under one key. -/
structure OccupancyWritten (context : DeltaContext) (before after : Mind)
    (deltas : List OccupancyDelta) : Prop where
  concerns : after.concerns = before.concerns
  newer : ∀ k row, before.occupancy.get? k = some row →
    context.generation < row.updatedGeneration →
    after.occupancy.get? k = some row
  written : ∀ k row, after.occupancy.get? k = some row →
    row.updatedGeneration ≤ context.generation ∨
      before.occupancy.get? k = some row
  present : ∀ k, (after.occupancy.get? k).isSome = true ↔
    (before.occupancy.get? k).isSome = true ∨
      ∃ delta ∈ deltas, k = (delta.conversationId, delta.concernId)

theorem applyOccupancyDeltas_written (context : DeltaContext) (mind : Mind)
    (deltas : List OccupancyDelta) :
    OccupancyWritten context mind
      (deltas.foldl (applyOccupancyDelta context) mind) deltas := by
  induction deltas generalizing mind with
  | nil =>
    exact ⟨rfl, fun _ _ hrow _ => hrow, fun _ _ hrow => .inr hrow,
      fun _ => by simp⟩
  | cons delta _ ih =>
    have hwritten := ih (applyOccupancyDelta context mind delta)
    refine ⟨hwritten.concerns, ?_, ?_, ?_⟩
    · intro k row hrow hnewer
      refine hwritten.newer k row ?_ hnewer
      rcases (applyOccupancyDelta_get? context mind delta k).2 with
        ⟨_, hold, _, hkept⟩ | ⟨rfl, _, hold, hgeneration⟩ | ⟨_, hkept⟩
      · cases hrow.symm.trans hold
        exact hkept
      · simp only [applyOccupancyDelta, Table.get?_upsert, key, if_true,
          hrow, map_some, getD_some,
          if_neg (Int.not_le.mpr hnewer), some.injEq] at hold
        rw [← hold] at hgeneration
        omega
      · rw [hkept, hrow]
    · intro k row hrow
      rcases hwritten.written k row hrow with holder | hmid
      · exact .inl holder
      rcases (applyOccupancyDelta_get? context mind delta k).2 with
        ⟨_, hold, _, hkept⟩ | ⟨_, _, hold, hgeneration⟩ | ⟨_, hkept⟩
      · exact .inr (hold.trans (hkept.symm.trans hmid))
      · cases hold.symm.trans hmid
        exact .inl (Int.le_of_eq hgeneration)
      · exact .inr (hkept.symm.trans hmid)
    · intro k
      refine (hwritten.present k).trans ?_
      rcases (applyOccupancyDelta_get? context mind delta k).2 with
        ⟨_, hold, _, hkept⟩ | ⟨hk, _, hold, _⟩ | ⟨hk, hkept⟩
      · simp [hold, hkept]
      · simp [hk ▸ hold, hk]
      · simp [hkept, hk]

/-! The repair. -/

/-- What the repair makes of an occupancy row of a concern. -/
def mirrorRow (context : DeltaContext) (facts : ConcernFacts)
    (row : MindOccupancy) : Option MindOccupancy :=
  match facts with
  | none => some row
  | some _ =>
    facts.status.map fun status =>
      if row.updatedGeneration ≤ context.generation then
        { row with
          status, updatedCycle := context.cycleId
          updatedGeneration := context.generation }
      else row

/-- The repair of one concern, as the loop runs it. -/
def repairConcern (context : DeltaContext) (mind : Mind) (concernId : String) :
    Mind :=
  match mind.concerns.get? concernId with
  | none => mind
  | some facts => applyConcernCognitiveStatus context mind concernId
      facts.status facts.forgotten

theorem repairConcern_get? (context : DeltaContext) (mind : Mind)
    (concernId : String) :
    (repairConcern context mind concernId).concerns = mind.concerns ∧
      ∀ k, (repairConcern context mind concernId).occupancy.get? k =
        if k.2 = concernId then
          (mind.occupancy.get? k).bind
            (mirrorRow context (concernFacts mind concernId))
        else mind.occupancy.get? k := by
  unfold repairConcern concernFacts
  cases mind.concerns.get? concernId with
  | none =>
    refine ⟨rfl, fun k => ?_⟩
    by_cases hk : k.2 = concernId
    · rw [if_pos hk]
      cases mind.occupancy.get? k <;> rfl
    · rw [if_neg hk]
  | some concern =>
    have hkey : ∀ k row, mind.occupancy.get? k = some row →
        row.concernId = k.2 := by
      intro k _ hrow
      rw [← key_of_get? hrow]
      rfl
    simp only [map_some]
    unfold applyConcernCognitiveStatus
    by_cases hstatus : (if concern.forgotten then none else concern.status) =
        none
    · have hnone : ConcernFacts.status
          (some (concern.forgotten, concern.status)) = none := by
        cases hforgotten : concern.forgotten <;>
          simp_all [ConcernFacts.status]
      simp only [hstatus]
      refine ⟨trivial, fun k => ?_⟩
      rw [Table.get?_delete]
      cases hrow : mind.occupancy.get? k with
      | none => simp
      | some row =>
        by_cases hk : k.2 = concernId <;>
          simp [Option.filter, mirrorRow, hnone, hkey k row hrow, hk]
    · obtain ⟨status, hsome⟩ := ne_none_iff_exists'.mp hstatus
      have hauthored : ConcernFacts.status
          (some (concern.forgotten, concern.status)) = some status := by
        cases hforgotten : concern.forgotten <;>
          simp_all [ConcernFacts.status]
      simp only [hsome]
      refine ⟨trivial, fun k => ?_⟩
      rw [get?_update]
      cases hrow : mind.occupancy.get? k with
      | none => simp
      | some row =>
        by_cases hk : k.2 = concernId <;>
          simp [mirrorRow, hauthored, hkey k row hrow, hk]

/-- The repair of some concerns mirrors each of them, and no other. -/
theorem repairConcerns_get? (context : DeltaContext) (mind : Mind)
    {concernIds : List String} (hnodup : concernIds.Nodup) :
    (concernIds.foldl (repairConcern context) mind).concerns = mind.concerns ∧
      ∀ k, (concernIds.foldl (repairConcern context) mind).occupancy.get? k =
        if k.2 ∈ concernIds then
          (mind.occupancy.get? k).bind
            (mirrorRow context (concernFacts mind k.2))
        else mind.occupancy.get? k := by
  induction concernIds generalizing mind with
  | nil => exact ⟨rfl, fun k => by simp⟩
  | cons concernId rest ih =>
    obtain ⟨hfresh, hrest⟩ := nodup_cons.mp hnodup
    obtain ⟨hconcerns, hrepaired⟩ := repairConcern_get? context mind concernId
    obtain ⟨hconcerns', hrepaired'⟩ :=
      ih (repairConcern context mind concernId) hrest
    refine ⟨hconcerns'.trans hconcerns, fun k => ?_⟩
    have hfacts : concernFacts (repairConcern context mind concernId) k.2 =
        concernFacts mind k.2 := by
      unfold concernFacts
      rw [hconcerns]
    rw [foldl_cons, hrepaired' k, hrepaired k, hfacts]
    by_cases hk : k.2 = concernId
    · have hnot : k.2 ∉ rest := hk ▸ hfresh
      rw [if_neg hnot, if_pos hk, if_pos (mem_cons.mpr (.inl hk)), hk]
    · by_cases hin : k.2 ∈ rest
      · rw [if_pos hin, if_neg hk, if_pos (mem_cons.mpr (.inr hin))]
      · rw [if_neg hin, if_neg hk, if_neg (by simp [hk, hin])]

/-- A repaired concern is coherent exactly when no newer row disagrees and no
row stands without its concern. -/
theorem mirrored_iff {stored settled mid repaired : Mind}
    {settlement : PublishedSettlement}
    (hgeneration : context.generation = settlement.generation)
    (hstored : settled.occupancy = stored.occupancy)
    (hwritten : OccupancyWritten context settled mid settlement.occupancyDelta)
    (hrows : ∀ row : MindOccupancy, row.concernId = concernId →
      (row ∈ repaired.occupancy.rows ↔
        ∃ old, mid.occupancy.get? (key row) = some old ∧
          mirrorRow context (concernFacts mid concernId) old = some row))
    (hauthored : authoredStatus repaired concernId =
      authoredStatusAfter stored settlement.concernDeltas concernId)
    (hstatus : (concernFacts mid concernId).status =
      authoredStatusAfter stored settlement.concernDeltas concernId)
    (hknown : (concernFacts mid concernId).isSome =
      isKnownAfter stored settlement.concernDeltas concernId) :
    Coherent repaired concernId ↔ RepairReaches stored settlement concernId := by
  have hmirror : ∀ {row old : MindOccupancy} {status : CognitiveStatus},
      authoredStatusAfter stored settlement.concernDeltas concernId =
        some status →
      mirrorRow context (concernFacts mid concernId) old = some row →
      row = old ∧ settlement.generation < old.updatedGeneration ∨
        row.status = status := by
    intro _ _ _ hafter hrow
    rw [hafter] at hstatus
    cases hfacts : concernFacts mid concernId with
    | none =>
      rw [hfacts] at hstatus
      cases hstatus
    | some =>
      rw [hfacts] at hstatus hrow
      simp only [mirrorRow, hstatus, map_some, some.injEq]
        at hrow
      split at hrow
      · rw [← hrow]
        exact .inr rfl
      · rename_i hnewer
        rw [hgeneration] at hnewer
        exact .inl ⟨hrow.symm, Int.not_le.mp hnewer⟩
  constructor
  · intro hcoherent
    refine ⟨?_, ?_⟩
    · intro status hafter row hrow hid hnewer
      have hkept : mid.occupancy.get? (key row) = some row :=
        hwritten.newer _ row (by rw [hstored]; exact get?_key hrow)
          (hgeneration ▸ hnewer)
      refine hcoherent.authored status (hauthored.trans hafter) row ?_ hid
      refine (hrows row hid).mpr ⟨row, hkept, ?_⟩
      cases hfacts : concernFacts mid concernId with
      | none => rfl
      | some =>
        rw [hfacts, hafter] at hstatus
        simp only [mirrorRow, hstatus, map_some]
        rw [if_neg (by rw [hgeneration]; exact Int.not_le.mpr hnewer)]
    · intro hunknown
      rw [hunknown, isSome_eq_false_iff, isNone_iff_eq_none]
        at hknown
      rw [hknown] at hstatus hrows
      have hnone : ∀ row ∈ mid.occupancy.rows, row.concernId ≠ concernId := by
        intro row hrow hid
        exact hcoherent.unauthored (hauthored.trans hstatus.symm) row
          ((hrows row hid).mpr ⟨row, get?_key hrow, rfl⟩) hid
      refine ⟨fun row hrow hid => ?_, fun delta hdelta hid => ?_⟩
      · obtain ⟨kept, hkept⟩ := isSome_iff_exists.mp
          ((hwritten.present (key row)).mpr (.inl (by
            rw [hstored, get?_key hrow]
            rfl)))
        refine hnone kept (mem_of_get? hkept) ?_
        exact (congrArg Prod.snd (key_of_get? hkept)).trans hid
      · obtain ⟨kept, hkept⟩ := isSome_iff_exists.mp
          ((hwritten.present (delta.conversationId, delta.concernId)).mpr
            (.inr ⟨delta, hdelta, rfl⟩))
        refine hnone kept (mem_of_get? hkept) ?_
        exact (congrArg Prod.snd (key_of_get? hkept)).trans hid
  · intro hreaches
    refine ⟨?_, ?_⟩
    · intro status hauthor row hrow hid
      have hafter := hauthored.symm.trans hauthor
      obtain ⟨_, hold, hmirrored⟩ := (hrows row hid).mp hrow
      rcases hmirror hafter hmirrored with ⟨rfl, hnewer⟩ | hshown
      · rcases hwritten.written _ row hold with _ | hbefore
        · omega
        · rw [hstored] at hbefore
          exact hreaches.newer status hafter row (mem_of_get? hbefore)
            hid hnewer
      · exact hshown
    · intro hunauthored row hrow hid
      have hafter := hauthored.symm.trans hunauthored
      obtain ⟨_, hold, hmirrored⟩ := (hrows row hid).mp hrow
      rw [hafter] at hstatus
      cases hfacts : concernFacts mid concernId with
      | some =>
        rw [hfacts] at hstatus hmirrored
        simp only [mirrorRow, hstatus, map_none] at hmirrored
        cases hmirrored
      | none =>
        rw [hfacts] at hknown
        obtain ⟨hrowless, hdeltaless⟩ := hreaches.known hknown.symm
        rcases (hwritten.present (key row)).mp (by rw [hold]; rfl) with
          hbefore | ⟨delta, hdelta, hkey⟩
        · obtain ⟨before, hbefore⟩ := isSome_iff_exists.mp hbefore
          rw [hstored] at hbefore
          refine hrowless before (mem_of_get? hbefore) ?_
          exact (congrArg Prod.snd (key_of_get? hbefore)).trans hid
        · exact hdeltaless delta hdelta
            ((congrArg Prod.snd hkey).symm.trans hid)

/-! The publication. -/

section Publication

variable [Host] {reads : MindReads} {db after : PublicationDb}
  {settlement : PublishedSettlement} {options : PublicationOptions}

variable {conversationId concernId : String}

theorem applyFutureTriggerDelta_mind {nowMs : Int} {delta : FutureTriggerDelta}
    (hok : applyFutureTriggerDelta nowMs db delta = .ok after) :
    after.mind = db.mind := by
  cases delta with
  | cancel =>
    obtain ⟨_, _, hok⟩ := of_bind hok
    cases of_pure hok
    rfl
  | create =>
    obtain ⟨_, _, hok⟩ := of_orFault hok
    replace hok := passed hok
    replace hok := passed hok
    cases of_pure hok
    rfl

omit [Host] in
theorem markFutureTriggerNeedsReview_mind (db : PublicationDb)
    (triggerId : String) (nowMs : Int) :
    (markFutureTriggerNeedsReview db triggerId nowMs).mind = db.mind := by
  unfold markFutureTriggerNeedsReview
  split <;> rfl

omit [Host] in
theorem markUnreaffirmedFutureTriggers_mind (db : PublicationDb)
    (settlement : PublishedSettlement) (nowMs : Int) :
    (markUnreaffirmedFutureTriggers db settlement nowMs).mind = db.mind := by
  have hloop : ∀ (triggerIds : List String) (db : PublicationDb),
      (triggerIds.foldl (fun db triggerId =>
        markFutureTriggerNeedsReview db triggerId nowMs) db).mind =
          db.mind := by
    intro triggerIds
    induction triggerIds with
    | nil => exact fun _ => rfl
    | cons triggerId _ ih =>
      intro db
      exact (ih _).trans (markFutureTriggerNeedsReview_mind db triggerId nowMs)
  unfold markUnreaffirmedFutureTriggers
  generalize settlement.changedConcernIds = concernIds
  induction concernIds generalizing db with
  | nil => rfl
  | cons _ _ ih =>
    rw [foldl_cons, ih]
    exact hloop _ db

/-- The tables between the concern deltas and the end of the publication. -/
theorem applySemanticDeltas_concerns
    (hok : applySemanticDeltas reads db settlement conversationId options =
      .ok after) :
    ∃ context start settled, context.generation = settlement.generation ∧
      SameConcerns db.mind start ∧
      eachOf (applyConcernDelta reads context) start
        settlement.concernDeltas = .ok settled ∧
      SameConcerns (reconcileConcernOccupancyCoherence context
        (settlement.occupancyDelta.foldl (applyOccupancyDelta context) settled)
        settlement.concernDeltas settlement.occupancyDelta) after.mind := by
  obtain ⟨mind, hmind, hok⟩ := of_bind hok
  obtain ⟨triggered, htriggered, hok⟩ := of_bind hok
  obtain ⟨_, hsubscribed, hok⟩ := of_bind hok
  obtain ⟨nominated, hnominated, hok⟩ := of_bind hok
  cases of_pure hok
  obtain ⟨_, hworked, hmind⟩ := of_bind hmind
  obtain ⟨desked, hdesked, hmind⟩ := of_bind hmind
  obtain ⟨settled, hsettled, hmind⟩ := of_bind hmind
  obtain ⟨_, _, hmind⟩ := of_bind hmind
  have hstart : SameConcerns db.mind desked :=
    (sameConcerns_eachOf (fun _ _ _ => applyWorkingContextDelta_same)
      hworked).trans (sameConcerns_eachOf (fun _ _ _ => applyOneDeskDelta_same)
        hdesked)
  have htriggers : triggered.mind = mind := by
    refine eachOf_preserves (P := fun db => db.mind = mind) ?_ htriggered rfl
    intro _ _ _ hstep hmid
    exact (applyFutureTriggerDelta_mind hstep).trans hmid
  have hmarked : (markUnreaffirmedFutureTriggers triggered settlement
      options.now).mind = mind :=
    (markUnreaffirmedFutureTriggers_mind _ _ _).trans htriggers
  have hrest : SameConcerns mind nominated := by
    rw [hmarked] at hsubscribed
    exact (sameConcerns_eachOf (fun _ _ _ => applySubscriptionDelta_same)
      hsubscribed).trans (sameConcerns_eachOf
        (fun _ _ _ => enqueueDurableNomination_same) hnominated)
  refine ⟨_, desked, settled, ?_, hstart, hsettled, ?_⟩
  rotate_left
  · rw [← of_pure hmind] at hrest
    exact hrest
  · rfl

/-- After the deltas a touched concern is coherent exactly when the repair
reaches its occupancy. -/
theorem coherent_iff_repairReaches
    (hok : applySemanticDeltas reads db settlement conversationId options =
      .ok after) (htouched : concernId ∈ touchedConcernIds settlement) :
    Coherent after.mind concernId ↔
      RepairReaches db.mind settlement concernId := by
  obtain ⟨context, start, settled, hgeneration, ⟨hconcerns, hoccupancy⟩,
    hsettled, hsame⟩ := applySemanticDeltas_concerns hok
  obtain ⟨hkept, hfacts⟩ := applyConcernDeltas_facts hsettled
  have hwritten := applyOccupancyDeltas_written context settled
    settlement.occupancyDelta
  generalize hmid : settlement.occupancyDelta.foldl
    (applyOccupancyDelta context) settled = mid at hwritten hsame
  obtain ⟨hmirrored, hrepaired⟩ := repairConcerns_get? context mid
    (@nodup_eraseDups _ _ _ (touchedConcernIds settlement))
  rw [hsame.coherent]
  change Coherent ((touchedConcernIds settlement).eraseDups.foldl
    (repairConcern context) mid) concernId ↔ _
  generalize (touchedConcernIds settlement).eraseDups.foldl
    (repairConcern context) mid = repaired at hmirrored hrepaired ⊢
  have hstored : settled.occupancy = db.mind.occupancy :=
    hkept.trans hoccupancy
  obtain ⟨hstatus, hknown⟩ := settleAll_concernFacts db.mind
    settlement.concernDeltas concernId
  have hmidFacts : concernFacts mid concernId =
      (concernFacts db.mind concernId).settleAll concernId
        settlement.concernDeltas := by
    have hstart : concernFacts start concernId =
        concernFacts db.mind concernId := by
      unfold concernFacts
      rw [hconcerns]
    rw [← hstart, ← hfacts concernId]
    unfold concernFacts
    rw [hwritten.concerns]
  rw [← hmidFacts] at hstatus hknown
  have hauthored : authoredStatus repaired concernId =
      authoredStatusAfter db.mind settlement.concernDeltas concernId := by
    rw [authoredStatus_eq, ← hstatus]
    unfold concernFacts
    rw [hmirrored]
  have hrows : ∀ row, row.concernId = concernId →
      (row ∈ repaired.occupancy.rows ↔
        ∃ old, mid.occupancy.get? (key row) = some old ∧
          mirrorRow context (concernFacts mid concernId) old = some row) := by
    intro row hid
    have hkey : (key row).2 = concernId := hid
    rw [Table.mem_iff_get?, hrepaired (key row), hkey,
      if_pos (mem_eraseDups.mpr htouched), bind_eq_some_iff]
  exact mirrored_iff hgeneration hstored hwritten hrows hauthored hstatus hknown

theorem openConsequence_mind {begun : PublicationDb} {wakeId : String}
    {intent : Option DeliveryIntent}
    (hok : openConsequence db wakeId options = .ok (intent, begun)) :
    begun.mind = db.mind := by
  rcases openConsequence_cases hok with rfl | ⟨_, _, rfl, _⟩
  · rfl
  · rfl

omit [Host] in
theorem requireSources_same {sourced : PublicationDb}
    (hok : requireSources db settlement options = .ok sourced) :
    SameConcerns db.mind sourced.mind := by
  obtain ⟨_, hcurrent, hok⟩ := of_bind hok
  replace hok := passed hok
  split at hok
  · cases of_pure hok
    unfold requireCurrentSources at hcurrent
    split at hcurrent
    · cases of_pure hcurrent
      exact .refl _
    · split at hcurrent
      · cases of_pure hcurrent
        exact ⟨rfl, rfl⟩
      · cases hcurrent
      · cases hcurrent
  · cases hok

omit [Host] in
/-- The condition reads the concerns and their occupancy only. -/
theorem SameConcerns.repairReaches {before after : Mind}
    (hsame : SameConcerns before after) :
    RepairReaches after settlement concernId ↔
      RepairReaches before settlement concernId := by
  obtain ⟨hconcerns, hoccupancy⟩ := hsame
  have hstatus : authoredStatusAfter after settlement.concernDeltas concernId =
      authoredStatusAfter before settlement.concernDeltas concernId := by
    unfold authoredStatusAfter
    rw [hconcerns]
  have hknown : isKnownAfter after settlement.concernDeltas concernId =
      isKnownAfter before settlement.concernDeltas concernId := by
    unfold isKnownAfter
    rw [hconcerns]
  constructor
  · rintro ⟨hnewer, hrowless⟩
    rw [hstatus, hoccupancy] at hnewer
    rw [hknown, hoccupancy] at hrowless
    exact ⟨hnewer, hrowless⟩
  · rintro ⟨hnewer, hrowless⟩
    rw [← hstatus, ← hoccupancy] at hnewer
    rw [← hknown, ← hoccupancy] at hrowless
    exact ⟨hnewer, hrowless⟩

/-- A call that publishes nothing anew leaves the tables of the mind. -/
theorem unpublished_mind
    (hnot : ∀ result, (publishSemanticTransaction reads db settlement
      options).result? = some result → result.published = true →
        result.replayed = true) :
    ((publishSemanticTransaction reads db settlement options).state db).mind =
      db.mind := by
  unfold publishSemanticTransaction at hnot ⊢
  split at hnot
  · rename_i result _ hok
    obtain ⟨_, hwake, hok⟩ := of_bind hok
    obtain ⟨_, _, hok⟩ := of_bind hok
    split at hok
    · obtain ⟨_, rfl⟩ := of_pure_pair hok
      rfl
    · have hreplayed := hnot result rfl (by rw [(publishFirst_ok hwake hok).1])
      rw [(publishFirst_ok hwake hok).1] at hreplayed
      cases hreplayed
  · rename_i exit herror
    have hundone : ∀ {exit : PublicationExit}, exit.Undone →
        (exit.state db).mind = db.mind := by
      intro _ hundone
      cases hundone <;> rfl
    rcases bind_error.mp herror with herror | ⟨_, _, herror⟩
    · exact hundone (publishableWake_error herror)
    rcases bind_error.mp herror with herror | ⟨_, _, herror⟩
    · exact hundone (requireAuthority_error herror)
    split at herror
    · cases herror
    rcases bind_error.mp herror with herror | ⟨_, _, herror⟩
    · exact hundone (requireOwnerAnswerHold_error herror)
    rcases bind_error.mp herror with herror | ⟨⟨_, _⟩, hbegun, herror⟩
    · exact hundone (openConsequence_error herror)
    rcases require_bind_error.mp herror with ⟨_, rfl⟩ | ⟨_, herror⟩
    · exact openConsequence_mind hbegun
    rcases bind_error.mp herror with herror | ⟨_, _, herror⟩
    · exact hundone (requireSources_error herror)
    rcases bind_error.mp herror with herror | ⟨_, _, herror⟩
    · exact hundone (orThrow_error herror)
    rcases bind_error.mp herror with herror | ⟨_, _, herror⟩
    · exact hundone (requireAuthority_error herror)
    rcases require_bind_error.mp herror with ⟨_, rfl⟩ | ⟨_, herror⟩
    · rfl
    · exact hundone (orThrow_error herror)

/-- After a fresh publication every touched concern is coherent with its
occupancy exactly when the repair reaches the occupancy of each of them; any
other call leaves the tables of the mind as they were. -/
theorem occupancy_mirrors_status (reads : MindReads) (db : PublicationDb)
    (settlement : PublishedSettlement) (options : PublicationOptions) :
    (∀ result, (publishSemanticTransaction reads db settlement
        options).result? = some result →
      result.published = true → result.replayed = false →
      ((∀ concernId ∈ touchedConcernIds settlement,
          Coherent ((publishSemanticTransaction reads db settlement
            options).state db).mind concernId) ↔
        ∀ concernId ∈ touchedConcernIds settlement,
          RepairReaches db.mind settlement concernId)) ∧
      ((∀ result, (publishSemanticTransaction reads db settlement
          options).result? = some result → result.published = true →
            result.replayed = true) →
        ((publishSemanticTransaction reads db settlement
          options).state db).mind = db.mind) := by
  refine ⟨fun _ hresult hpublished hfresh => ?_, unpublished_mind⟩
  have htogether :=
    publishSemanticTransaction_together hresult hpublished hfresh
  obtain ⟨_, _, _, sourced, _, _, hbegun, hsourced, hprepared, _, _,
    hrecorded⟩ := htogether
  have hmind : SameConcerns db.mind sourced.mind := by
    rw [← openConsequence_mind hbegun]
    exact requireSources_same hsourced
  refine forall₂_congr fun _ htouched => ?_
  rw [hrecorded.mind, coherent_iff_repairReaches hprepared htouched,
    hmind.repairReaches]

end Publication

section Plain

attribute [local instance] plainHost

/-- A concern that the annex is busy with. -/
def annexConcern : ConcernDraft where
  concernId := "concern"
  conversationId := "annex"
  statement := "the annex is cold"
  sourceTurnIds := []
  dimensions := ⟨.ownerUtterance, .asserted, .current, .ownerSupplied⟩
  assertionKey := none
  status := some .active

/-- The third cycle of the annex authors the concern with its occupancy. -/
def annexSettlement : PublishedSettlement where
  settlementId := "annexed"
  cycleId := "third"
  generation := 3
  occupantId := "occupant"
  triggerRef := "message"
  authorityEpoch := 1
  architectureEpoch := "v0.2.1"
  speech := { mode := .none }
  concernDeltas := [.upsert annexConcern]
  occupancyDelta := [⟨"annex", "concern", .active, 1⟩]

/-- The first cycle of the room resolves it. -/
def roomSettlement : PublishedSettlement where
  settlementId := "resolved"
  cycleId := "cycle"
  generation := 1
  occupantId := "occupant"
  triggerRef := "message"
  authorityEpoch := 1
  architectureEpoch := "v0.2.1"
  speech := { mode := .none }
  concernDeltas := [.resolve "concern"]

/-- The annex has had three cycles. -/
def annexAdmitted : PublicationDb :=
  run stepPublication {}
    [.kernel (.admitWake { replyAdmission with
        occurrenceId := "one", conversationId := "annex"
        cycleId := some "first" }),
      .kernel (.admitWake { replyAdmission with
        occurrenceId := "two", conversationId := "annex"
        cycleId := some "second" }),
      .kernel (.admitWake { replyAdmission with
        occurrenceId := "three", conversationId := "annex"
        cycleId := some "third" })]

/-- The concern is authored in the annex, and the room has its first cycle. -/
def roomAdmitted : PublicationDb :=
  run stepPublication annexAdmitted
    [.publish quietReads annexSettlement { clockMs := 1 },
      .kernel (.admitWake replyAdmission)]

theorem annex_mirrors_status :
    ∀ concernId ∈ touchedConcernIds annexSettlement,
      Coherent ((publishSemanticTransaction quietReads annexAdmitted
        annexSettlement { clockMs := 1 }).state annexAdmitted).mind
          concernId := by
  refine ((occupancy_mirrors_status quietReads annexAdmitted annexSettlement
    { clockMs := 1 }).1 ⟨true, false, none, some "annexed", none⟩
    (by decide +kernel) rfl rfl).mpr ?_
  intro concernId htouched
  have hrows : annexAdmitted.mind.occupancy.rows = [] := by decide +kernel
  refine ⟨fun _ _ _ hrow => ?_, fun hunknown => ?_⟩
  · rw [hrows] at hrow
    cases hrow
  · have hid : concernId = "concern" := by
      simpa [touchedConcernIds, annexSettlement, annexConcern,
        ConcernDelta.concernId] using htouched
    have hknown : isKnownAfter annexAdmitted.mind annexSettlement.concernDeltas
        "concern" = true := by decide +kernel
    rw [hid, hknown] at hunknown
    cases hunknown

/-- The annex authored the concern at its third generation; the first of the
room resolves it, and the occupancy of the annex still shows it active. -/
theorem newer_occupancy_keeps_status :
    ¬ ∀ (reads : MindReads) (db : PublicationDb)
      (settlement : PublishedSettlement) (options : PublicationOptions)
      (result : PublicationResult),
      (publishSemanticTransaction reads db settlement options).result? =
        some result →
      result.published = true → result.replayed = false →
      ∀ concernId ∈ touchedConcernIds settlement,
        Coherent ((publishSemanticTransaction reads db settlement
          options).state db).mind concernId := by
  intro hall
  have hcoherent := hall quietReads roomAdmitted roomSettlement { clockMs := 2 }
    ⟨true, false, none, some "resolved", none⟩ (by decide +kernel) rfl rfl
    "concern" (by decide +kernel)
  have hrow : ⟨"annex", "concern", .active, 1, "third", 3⟩ ∈
      ((publishSemanticTransaction quietReads roomAdmitted roomSettlement
        { clockMs := 2 }).state roomAdmitted).mind.occupancy.rows := by
    decide +kernel
  have hstatus := hcoherent.authored .resolved (by decide +kernel) _ hrow rfl
  cases hstatus

end Plain

end Occupied

end CognitiveSidecar
