/-
The order of memory admission: what one admission writes, and which runs keep
each assertion with the newest nomination of its key.
-/
import CognitiveSidecar.Admission
import CognitiveSidecar.Lib.Run

namespace CognitiveSidecar.Admission

open Option List Relational

section OneAdmission

variable {store store' : MemoryStore} {reading : AdmissionReading}
  {options : AdmitOptions} {nomination : NominationRow}
  {result : AdmissionResult}

theorem strongerClassification_ge (best : DataClassification)
    (value : Option DataClassification) :
    classificationRank best ≤
        classificationRank (strongerClassification best value) ∧
      ∀ other, value = some other → classificationRank other ≤
        classificationRank (strongerClassification best value) := by
  cases value with
  | none => exact ⟨le_refl _, fun _ heq => by cases heq⟩
  | some =>
    rw [strongerClassification]
    split
    · rename_i hlt
      refine ⟨le_of_lt hlt, fun _ heq => ?_⟩
      rw [some.inj heq]
    · rename_i hle
      refine ⟨le_refl _, fun _ heq => ?_⟩
      rw [← some.inj heq]
      exact not_lt.mp hle

/-- The fold is at least its start and each of its values. -/
theorem foldl_stronger_ge (values : List (Option DataClassification))
    (best : DataClassification) :
    classificationRank best ≤
        classificationRank (values.foldl strongerClassification best) ∧
      ∀ other, some other ∈ values → classificationRank other ≤
        classificationRank (values.foldl strongerClassification best) := by
  induction values generalizing best with
  | nil => exact ⟨le_refl _, fun _ hmem => by cases hmem⟩
  | cons first _ ih =>
    obtain ⟨hbest, hrest⟩ := ih (strongerClassification best first)
    obtain ⟨hstart, hfirst⟩ := strongerClassification_ge best first
    refine ⟨le_trans hstart hbest, fun other hmem => ?_⟩
    rcases mem_cons.mp hmem with heq | hmem
    · exact le_trans (hfirst other heq.symm) hbest
    · exact hrest other hmem

theorem maxClassification_ge {values : List (Option DataClassification)}
    {value : DataClassification} (hmem : some value ∈ values) :
    classificationRank value ≤
      classificationRank (maxClassification values) :=
  (foldl_stronger_ge values .ordinary).2 value hmem

theorem logAdmission_tables (store : MemoryStore) (result : AdmissionResult) :
    (logAdmission store result).mind = store.mind ∧
      (logAdmission store result).cycles = store.cycles ∧
      (logAdmission store result).settlements = store.settlements ∧
      (logAdmission store result).assertions = store.assertions := by
  unfold logAdmission
  split <;> exact ⟨rfl, rfl, rfl, rfl⟩

theorem get?_putAssertion (assertions : Table MemoryAssertion)
    (row : MemoryAssertion) (name : String) :
    (putAssertion assertions row).get? name =
      if name = row.assertionKey then some row else assertions.get? name := by
  unfold putAssertion
  rw [Table.get?_upsert]
  change (if name = row.assertionKey then _ else _) = _
  split
  · rename_i hname
    cases hold : assertions.get? name with
    | none => rfl
    | some old =>
      have hkey : old.assertionKey = row.assertionKey :=
        (key_of_get? hold).trans hname
      rw [map_some, getD_some, hkey]
  · rfl

/-- The assertion that a nomination retires. -/
def supersededKey (nomination : NominationRow) : Option String :=
  (nomination.supersedesAssertionKey.filter (· ≠ "")).filter
    (· ≠ nomination.assertionKey)

theorem retireSuperseded_tables (store : MemoryStore)
    (nomination : NominationRow) :
    (retireSuperseded store nomination).mind = store.mind ∧
      (retireSuperseded store nomination).cycles = store.cycles ∧
      (retireSuperseded store nomination).settlements = store.settlements ∧
      ∀ name, (retireSuperseded store nomination).assertions.get? name =
        (store.assertions.get? name).map fun old =>
          if supersededKey nomination = some name then old.retired
          else old := by
  unfold retireSuperseded supersededKey
  cases nomination.supersedesAssertionKey.filter (· ≠ "") with
  | none => exact ⟨rfl, rfl, rfl, fun name => by simp⟩
  | some superseded =>
    dsimp only
    by_cases hself : superseded = nomination.assertionKey
    · rw [if_neg (not_not.mpr hself), filter_some,
        if_neg (by simp [hself])]
      exact ⟨rfl, rfl, rfl, fun _ => by simp⟩
    · rw [if_pos hself, filter_some, if_pos (by simpa using hself)]
      refine ⟨rfl, rfl, rfl, fun name => ?_⟩
      rw [get?_update]
      exact map_get?_congr fun row (hkey : row.assertionKey = name) => by
        simp [hkey, eq_comm]

/-- What the admission of a nomination writes. -/
structure Written (store store' : MemoryStore) (nomination : NominationRow) :
    Prop where
  cycles : store'.cycles = store.cycles
  settlements : store'.settlements = store.settlements
  nominations : ∀ id, store'.mind.nominations.get? id =
    (store.mind.nominations.get? id).map fun row =>
      if row.nominationId = nomination.nominationId then
        NominationRow.markAdmitted row else row
  own : ∃ assertion,
    store'.assertions.get? nomination.assertionKey = some assertion ∧
      assertion.statement = nomination.statement ∧
      assertion.memoryKind = nomination.memoryKind ∧
      assertion.live = true ∧
      assertion.admittedGeneration = some nomination.generation ∧
      ∀ old, store.assertions.get? nomination.assertionKey = some old →
        classificationRank old.dataClassification ≤
          classificationRank assertion.dataClassification
  others : ∀ name, name ≠ nomination.assertionKey →
    store'.assertions.get? name = (store.assertions.get? name).map fun old =>
      if supersededKey nomination = some name then old.retired else old

/-- A nomination is skipped and changes nothing but the log, or it is approved
and written. -/
theorem admitOne_ok (hok : admitOne store reading options nomination =
      .ok (result, store')) :
    ((∃ skipped, approve store reading options nomination = .error skipped) ∧
      store'.mind = store.mind ∧ store'.cycles = store.cycles ∧
      store'.settlements = store.settlements ∧
      store'.assertions = store.assertions) ∨
    ((∃ approval, approve store reading options nomination = .ok approval) ∧
      result.result = .admitted ∧ Written store store' nomination) := by
  unfold admitOne at hok
  cases happrove : approve store reading options nomination with
  | error skipped =>
    rw [happrove] at hok
    cases hok
    exact .inl ⟨⟨skipped, rfl⟩, logAdmission_tables _ _⟩
  | ok approval =>
    rw [happrove] at hok
    obtain ⟨⟨assertion, written⟩, hwritten, hok⟩ := of_bind hok
    replace hok := passed hok
    cases of_pure hok
    replace hwritten := passed hwritten
    replace hwritten := passed hwritten
    replace hwritten := passed hwritten
    replace hwritten := passed hwritten
    obtain ⟨hassertion, hstore⟩ := of_pure_pair hwritten
    refine .inr ⟨⟨approval, rfl⟩, rfl, ?_⟩
    obtain ⟨hmind, hcycles, hsettlements, hassertions⟩ :=
      logAdmission_tables (setAdmitted (retireSuperseded written nomination)
        nomination.nominationId)
        { nominationId := nomination.nominationId
          assertionKey := nomination.assertionKey, result := .admitted
          assertion := some assertion }
    obtain ⟨hmind', hcycles', hsettlements', hassertions'⟩ :=
      retireSuperseded_tables written nomination
    have hnominations : written.mind = store.mind := by rw [← hstore]
    have hget : ∀ name, written.assertions.get? name =
        if name = nomination.assertionKey then some assertion
        else store.assertions.get? name := by
      intro _
      rw [← hstore, ← hassertion]
      exact get?_putAssertion _ _ _
    have hnotSelf : supersededKey nomination ≠
        some nomination.assertionKey := by
      intro hself
      have hkept := (filter_eq_some_iff.mp hself).2
      simp at hkept
    refine ⟨?_, ?_, fun _ => ?_, ⟨assertion, ?_, ?_⟩, fun _ hname => ?_⟩
    · rw [hcycles]
      exact hcycles'.trans (by rw [← hstore])
    · rw [hsettlements]
      exact hsettlements'.trans (by rw [← hstore])
    · rw [hmind]
      unfold setAdmitted
      rw [hmind', hnominations, get?_update]
      simp only [decide_eq_true_eq]
    · rw [hassertions]
      exact (hassertions' _).trans (by
        rw [hget, if_pos rfl, map_some, if_neg hnotSelf])
    · rw [← hassertion]
      refine ⟨rfl, rfl, rfl, ?_, fun old hold => ?_⟩
      · split <;> rfl
      · have hmem : some old.dataClassification ∈
            [(store.assertions.get?
                (assertionOf nomination approval).assertionKey).map
                  (·.dataClassification),
              some (assertionOf nomination approval).dataClassification] := by
          rw [show (assertionOf nomination approval).assertionKey =
            nomination.assertionKey from rfl, hold]
          exact mem_cons_self
        exact maxClassification_ge hmem
    · rw [hassertions]
      exact (hassertions' _).trans (by rw [hget, if_neg hname])

end OneAdmission

section Order

variable {store store' : MemoryStore} {nomination : NominationRow}
  {conversation : String}

variable {reading : AdmissionReading} {options : AdmitOptions}
variable {approval : Approval}
variable {settlement : PublishedSettlement}

/-- A nomination that was admitted. -/
def Admitted (store : MemoryStore) (nomination : NominationRow) : Prop :=
  nomination ∈ store.mind.nominations.rows ∧ nomination.admitted = true

/-- The nomination is stored, up to its source references. -/
def Stored (store : MemoryStore) (nomination : NominationRow) : Prop :=
  ∃ row, store.mind.nominations.get? nomination.nominationId = some row ∧
    row.cycleId = nomination.cycleId ∧
    row.generation = nomination.generation ∧
    row.assertionKey = nomination.assertionKey ∧
    row.statement = nomination.statement ∧
    row.supersedesAssertionKey = nomination.supersedesAssertionKey

/-- No newer nomination of the key was admitted, and none of this generation
superseded it. -/
structure InOrder (store : MemoryStore) (nomination : NominationRow) :
    Prop where
  newest : ∀ other, Admitted store other →
    other.assertionKey = nomination.assertionKey →
    other.generation ≤ nomination.generation
  unsuperseded : ∀ other, Admitted store other →
    supersededKey other = some nomination.assertionKey →
    other.generation ≠ nomination.generation

instance (store : MemoryStore) (nomination : NominationRow) :
    Decidable (InOrder store nomination) :=
  decidable_of_iff (∀ other ∈ store.mind.nominations.rows,
      other.admitted = true →
        (other.assertionKey = nomination.assertionKey →
          other.generation ≤ nomination.generation) ∧
        (supersededKey other = some nomination.assertionKey →
          other.generation ≠ nomination.generation))
    ⟨fun hall => ⟨fun other hother => (hall other hother.1 hother.2).1,
      fun other hother => (hall other hother.1 hother.2).2⟩,
    fun hinOrder other hmem hadmitted => ⟨hinOrder.newest other
      ⟨hmem, hadmitted⟩, hinOrder.unsuperseded other ⟨hmem, hadmitted⟩⟩⟩

/-- Each assertion is that of the newest admitted nomination of its key, and a
superseded one is not live unless a later nomination of its key was admitted. -/
structure Ordered (store : MemoryStore) : Prop where
  newest : ∀ name assertion,
    store.assertions.get? name = some assertion →
    ∃ nomination, Admitted store nomination ∧
      nomination.assertionKey = name ∧
      assertion.statement = nomination.statement ∧
      assertion.admittedGeneration =
        (if assertion.live then some nomination.generation else none) ∧
      ∀ other, Admitted store other → other.assertionKey = name →
        other.generation ≤ nomination.generation
  superseded : ∀ name assertion superseder,
    Admitted store superseder → supersededKey superseder = some name →
    store.assertions.get? name = some assertion → assertion.live = true →
    ∃ nomination, Admitted store nomination ∧
      nomination.assertionKey = name ∧
      superseder.generation < nomination.generation

/-- One conversation: its cycles, the settlements of these, and the admitted
nominations of these settlements. -/
structure OfConversation (conversation : String) (store : MemoryStore) :
    Prop where
  cycles : ∀ id cycle, store.cycles.get? id = some cycle →
    cycle.conversationId = conversation
  settlements : ∀ settlement ∈ store.settlements.rows,
    ∃ cycle, store.cycles.get? settlement.cycleId = some cycle
  published : ∀ nomination, Admitted store nomination →
    ∃ settlement, settlementForNomination store nomination = some settlement

theorem settlementForNomination_some
    (hsettlement : settlementForNomination store nomination =
      some settlement) :
    settlement ∈ store.settlements.rows ∧
      settlement.cycleId = nomination.cycleId ∧
      settlement.generation = nomination.generation := by
  have hfound := List.find?_some hsettlement
  rw [Bool.and_eq_true, decide_eq_true_eq, decide_eq_true_eq] at hfound
  exact ⟨mem_of_find?_eq_some hsettlement, hfound⟩

/-- The cycle of a published nomination is one of the conversation. -/
theorem OfConversation.cycle (hstore : OfConversation conversation store)
    (hsettlement : settlementForNomination store nomination =
      some settlement) :
    ∃ cycle, store.cycles.get? nomination.cycleId = some cycle ∧
      cycle.conversationId = conversation := by
  obtain ⟨hmem, hcycleId, _⟩ := settlementForNomination_some hsettlement
  obtain ⟨cycle, hcycle⟩ := hstore.settlements settlement hmem
  rw [hcycleId] at hcycle
  exact ⟨cycle, hcycle, hstore.cycles _ cycle hcycle⟩

/-- An approved nomination is published and no later one supersedes its key. -/
theorem approve_ok
    (hok : approve store reading options nomination = .ok approval) :
    (∃ settlement, settlementForNomination store nomination =
      some settlement) ∧
    laterPublishedSuperseder store nomination
      (currentConversationGeneration store nomination.cycleId).1 = none ∧
    ∀ name ∈ replacedKeys nomination, ∀ previous,
      store.assertions.get? name = some previous → previous.live = true →
      canReplaceMemoryKind nomination.memoryKind previous.memoryKind =
        true := by
  obtain ⟨_, horder, _⟩ := of_bind hok
  replace horder := passed horder
  replace horder := passed horder
  obtain ⟨found, hfound, horder⟩ := of_orFault horder
  replace horder := passed horder
  replace horder := passed horder
  replace horder := passed horder
  obtain ⟨hlater, horder⟩ := of_require horder
  obtain ⟨hreplaced, _⟩ := of_require horder
  refine ⟨⟨found, hfound⟩, hlater, fun name hname _ hget hlive => ?_⟩
  have hkey := all_eq_true.mp hreplaced name hname
  rw [hget, all_some, hlive] at hkey
  simpa using hkey

/-- An admitted nomination that supersedes the key of an approved one is not
of a later generation. -/
theorem superseder_le (hstore : OfConversation conversation store)
    {superseder : NominationRow}
    (hok : approve store reading options nomination = .ok approval)
    (hadmitted : Admitted store superseder)
    (hsupersedes : supersededKey superseder = some nomination.assertionKey) :
    superseder.generation ≤ nomination.generation := by
  obtain ⟨⟨_, hsettlement⟩, hlater, _⟩ := approve_ok hok
  obtain ⟨_, hcycle, hconversation⟩ := hstore.cycle hsettlement
  obtain ⟨_, hpublished⟩ := hstore.published superseder hadmitted
  obtain ⟨_, hcycle', hconversation'⟩ := hstore.cycle hpublished
  have hcurrent : (currentConversationGeneration store
      nomination.cycleId).1 = conversation := by
    unfold currentConversationGeneration
    rw [hcycle]
    exact hconversation
  rw [hcurrent] at hlater
  have hempty := firstBy_eq_none_iff.mp hlater
  rw [filter_eq_nil_iff] at hempty
  have hkey : superseder.supersedesAssertionKey =
      some nomination.assertionKey := by
    exact (filter_eq_some_iff.mp
      (filter_eq_some_iff.mp hsupersedes).1).1
  by_contra hlt
  refine hempty superseder hadmitted.1 ?_
  rw [hpublished, hcycle', any_some, hconversation', hkey]
  simpa using not_le.mp hlt

/-- The admitted nominations after a write. -/
theorem Written.admitted (hwritten : Written store store' nomination)
    {row : NominationRow}
    (hrow : store.mind.nominations.get? nomination.nominationId = some row)
    (other : NominationRow) :
    Admitted store' other ↔
      Admitted store other ∨ other = NominationRow.markAdmitted row := by
  have hid : row.nominationId = nomination.nominationId :=
    key_of_get? hrow
  constructor
  · rintro ⟨hmem, hadmitted⟩
    have hget := get?_key hmem
    rw [hwritten.nominations] at hget
    obtain ⟨old, hold, hupdated⟩ := map_eq_some_iff.mp hget
    by_cases hsame : old.nominationId = nomination.nominationId
    · rw [if_pos hsame] at hupdated
      have holdKey : key old = key other := key_of_get? hold
      rw [← holdKey, show key old = nomination.nominationId from hsame,
        hrow] at hold
      cases hold
      exact .inr hupdated.symm
    · rw [if_neg hsame] at hupdated
      exact .inl ⟨hupdated ▸ mem_of_get? hold, hadmitted⟩
  · rintro (⟨hmem, hadmitted⟩ | rfl)
    · have hget := hwritten.nominations (key other)
      rw [get?_key hmem, map_some] at hget
      have hsame : (if other.nominationId = nomination.nominationId then
          NominationRow.markAdmitted other else other) = other := by
        split
        · unfold NominationRow.markAdmitted
          rw [← hadmitted]
        · rfl
      rw [hsame] at hget
      exact ⟨mem_of_get? hget, hadmitted⟩
    · have hget := hwritten.nominations nomination.nominationId
      rw [hrow, map_some, if_pos hid] at hget
      exact ⟨mem_of_get? hget, rfl⟩

theorem Written.settlementForNomination
    (hwritten : Written store store' nomination) (other : NominationRow) :
    settlementForNomination store' other =
      Admission.settlementForNomination store other := by
  unfold Admission.settlementForNomination
  rw [hwritten.settlements]

theorem Written.ofConversation (hwritten : Written store store' nomination)
    (hstored : Stored store nomination)
    (hpublished : ∃ settlement,
      Admission.settlementForNomination store nomination = some settlement)
    (hstore : OfConversation conversation store) :
    OfConversation conversation store' := by
  obtain ⟨_, hrow, hcycleId, hgeneration, _⟩ := hstored
  refine ⟨?_, ?_, fun other hadmitted => ?_⟩
  · rw [hwritten.cycles]
    exact hstore.cycles
  · rw [hwritten.cycles, hwritten.settlements]
    exact hstore.settlements
  · rw [hwritten.settlementForNomination]
    rcases (hwritten.admitted hrow other).mp hadmitted with hold | rfl
    · exact hstore.published other hold
    · unfold Admission.settlementForNomination at hpublished ⊢
      rw [← hcycleId, ← hgeneration] at hpublished
      exact hpublished

/-- The step lemma: an approved nomination that is in order keeps the order. -/
theorem Written.ordered (hwritten : Written store store' nomination)
    (hstored : Stored store nomination)
    (hstore : OfConversation conversation store)
    (hok : approve store reading options nomination = .ok approval)
    (hinOrder : InOrder store nomination) (hordered : Ordered store) :
    Ordered store' := by
  obtain ⟨row, hrow, _, hgeneration, hkey, hstatement, hsupersedes⟩ := hstored
  have hadmitted := hwritten.admitted hrow
  have hown := (hadmitted (NominationRow.markAdmitted row)).mpr (.inr rfl)
  have hsuperseded : supersededKey (NominationRow.markAdmitted row) =
      supersededKey nomination := by
    unfold supersededKey
    change ((row.supersedesAssertionKey.filter _).filter
      (· ≠ row.assertionKey)) = _
    rw [hsupersedes, hkey]
  have hnotSelf : supersededKey nomination ≠
      some nomination.assertionKey := by
    intro hself
    have hkept := (filter_eq_some_iff.mp hself).2
    simp at hkept
  constructor
  · intro name assertion hget
    by_cases hname : name = nomination.assertionKey
    · obtain ⟨written, hgetOwn, hstatement', _, hlive, hadmittedAt, _⟩ :=
        hwritten.own
      rw [hname, hgetOwn] at hget
      cases hget
      refine ⟨_, hown, hkey.trans hname.symm, hstatement'.trans hstatement.symm,
        ?_, fun other hother hotherKey => ?_⟩
      · rw [hlive, hadmittedAt]
        exact congrArg some hgeneration.symm
      · change other.generation ≤ row.generation
        rw [hgeneration]
        rcases (hadmitted other).mp hother with hold | rfl
        · exact hinOrder.newest other hold (hotherKey.trans hname)
        · exact le_of_eq hgeneration
    · rw [hwritten.others name hname] at hget
      obtain ⟨old, hold, hupdated⟩ := map_eq_some_iff.mp hget
      obtain ⟨newest, hnewest, hnewestKey, hstatement', hadmittedAt, hmax⟩ :=
        hordered.newest name old hold
      have hmax' : ∀ other, Admitted store' other →
          other.assertionKey = name →
          other.generation ≤ newest.generation := by
        intro other hother hotherKey
        rcases (hadmitted other).mp hother with hbefore | rfl
        · exact hmax other hbefore hotherKey
        · exact absurd (hotherKey.symm.trans hkey) hname
      refine ⟨newest, (hadmitted newest).mpr (.inl hnewest), hnewestKey, ?_, ?_,
        hmax'⟩
      · rw [← hupdated]
        split <;> exact hstatement'
      · rw [← hupdated]
        split
        · rfl
        · exact hadmittedAt
  · intro name assertion superseder hsuperseder hsupersededKey hget hlive
    by_cases hname : name = nomination.assertionKey
    · rw [hname] at hsupersededKey
      rcases (hadmitted superseder).mp hsuperseder with hold | rfl
      · refine ⟨_, hown, hkey.trans hname.symm, ?_⟩
        change superseder.generation < row.generation
        rw [hgeneration]
        exact lt_of_le_of_ne (superseder_le hstore hok hold hsupersededKey)
          (hinOrder.unsuperseded superseder hold hsupersededKey)
      · rw [hsuperseded] at hsupersededKey
        exact absurd hsupersededKey hnotSelf
    · rw [hwritten.others name hname] at hget
      obtain ⟨old, hold, hupdated⟩ := map_eq_some_iff.mp hget
      by_cases hretired : supersededKey nomination = some name
      · rw [if_pos hretired] at hupdated
        rw [← hupdated] at hlive
        cases hlive
      · rw [if_neg hretired] at hupdated
        rw [← hupdated] at hlive
        rcases (hadmitted superseder).mp hsuperseder with hbefore | rfl
        · obtain ⟨later, hlater, hlaterKey, hlt⟩ :=
            hordered.superseded name old superseder hbefore hsupersededKey hold
              hlive
          exact ⟨later, (hadmitted later).mpr (.inl hlater), hlaterKey, hlt⟩
        · rw [hsuperseded] at hsupersededKey
          exact absurd hsupersededKey hretired

end Order

section Runs

/-- What happens within one conversation: a cycle is recorded at a generation,
a nomination is stored, its settlement is published, and nominations are
admitted. -/
inductive AdmissionStep
  | recordCycle (cycleId : String) (generation : Int)
  | storeNomination (nomination : DurableNomination)
  | publishSettlement (settlement : PublishedSettlement)
  | tick (readings : String → AdmissionReading) (options : AdmissionOptions)
  | ownerClaim (reading : AdmissionReading)
      (input : AdmitOwnerSuppliedClaimInput)

theorem CycleGeneration.moved_key (generation : Int) (row : CycleGeneration) :
    key { row with generation } = key row := rfl

def recordCycle (conversation : String) (store : MemoryStore)
    (cycleId : String) (generation : Int) : MemoryStore :=
  { store with
    cycles := store.cycles.upsert
      { cycleId, conversationId := conversation, generation }
      (fun row => { row with generation })
      (CycleGeneration.moved_key generation) }

def storeNomination [Host] (store : MemoryStore) (nomination : DurableNomination) :
    Except MemoryFault MemoryStore :=
  match enqueueDurableNomination store.mind nomination with
  | .ok mind => .ok { store with mind }
  | .error fault => .error (.mind fault)

/-- A settlement is published once for each cycle and generation. -/
def publishSettlement (store : MemoryStore)
    (settlement : PublishedSettlement) : Except MemoryFault MemoryStore := do
  require ((store.cycles.get? settlement.cycleId).isSome = true)
    .settlementCycleMissing
  require (store.settlements.rows.all (fun other =>
    !(other.cycleId = settlement.cycleId &&
      other.generation = settlement.generation)) = true) .settlementConflict
  let settlements ← orFault (store.settlements.insert? settlement)
    .settlementConflict
  pure { store with settlements }

/-- One step; an operation that throws is rolled back. -/
def admissionStep [Host] (conversation : String) (step : AdmissionStep)
    (store : MemoryStore) : MemoryStore :=
  match step with
  | .recordCycle cycleId generation =>
    recordCycle conversation store cycleId generation
  | .storeNomination nomination =>
    commit store (storeNomination store nomination)
  | .publishSettlement settlement =>
    commit store (publishSettlement store settlement)
  | .tick readings options =>
    commit store (Prod.snd <$> tickAdmission store readings options)
  | .ownerClaim reading input =>
    commit store (Prod.snd <$> admitOwnerSuppliedClaim store reading input)

/-- A nomination that passes every check is in order. -/
def AdmitsInOrder (store : MemoryStore) (reading : AdmissionReading)
    (options : AdmitOptions) (nomination : NominationRow) : Prop :=
  ∀ approval, approve store reading options nomination = .ok approval →
    InOrder store nomination

/-- Each nomination of a tick is in order when its turn comes. -/
def TickInOrder (readings : String → AdmissionReading)
    (options : AdmissionOptions) :
    List AdmissionResult × MemoryStore → List NominationRow → Prop
  | _, [] => True
  | progress, nomination :: rest =>
    AdmitsInOrder progress.2 (readings nomination.nominationId)
      { requireGrounding := options.requireGrounding } nomination ∧
    ∀ after, tickOne readings options progress nomination = .ok after →
      TickInOrder readings options after rest

/-- The condition on a step: what it admits is in order. -/
def StepInOrder (step : AdmissionStep) (store : MemoryStore) : Prop :=
  match step with
  | .tick readings options =>
    TickInOrder readings options ([], store)
      (selectedNominations store options)
  | .ownerClaim reading input =>
    ∀ nomination, claimedNomination store input = some nomination →
      claimSkip reading input nomination = none →
      AdmitsInOrder store reading (claimOptions reading input nomination)
        (withEvidence nomination input.evidence)
  | _ => True

/-- No classification of an assertion is weaker afterwards. -/
def NotWeaker (store store' : MemoryStore) : Prop :=
  ∀ name assertion, store.assertions.get? name = some assertion →
    ∃ assertion', store'.assertions.get? name = some assertion' ∧
      classificationRank assertion.dataClassification ≤
        classificationRank assertion'.dataClassification

variable {store store' middle : MemoryStore} {nomination : NominationRow}
  {reading : AdmissionReading} {options : AdmitOptions}
  {result : AdmissionResult} {conversation : String}

theorem NotWeaker.refl (store : MemoryStore) : NotWeaker store store :=
  fun _ assertion hget => ⟨assertion, hget, le_refl _⟩

theorem NotWeaker.trans (hfirst : NotWeaker store middle)
    (hsecond : NotWeaker middle store') : NotWeaker store store' := by
  intro name assertion hget
  obtain ⟨assertion', hget', hle⟩ := hfirst name assertion hget
  obtain ⟨assertion'', hget'', hle'⟩ := hsecond name assertion' hget'
  exact ⟨assertion'', hget'', le_trans hle hle'⟩

theorem NotWeaker.of_assertions
    (hassertions : store'.assertions = store.assertions) :
    NotWeaker store store' := by
  intro _ assertion hget
  exact ⟨assertion, hassertions ▸ hget, le_refl _⟩

theorem Written.notWeaker (hwritten : Written store store' nomination) :
    NotWeaker store store' := by
  intro name assertion hget
  by_cases hname : name = nomination.assertionKey
  · obtain ⟨written, hown, _, _, _, _, hrank⟩ := hwritten.own
    rw [hname] at hget ⊢
    exact ⟨written, hown, hrank assertion hget⟩
  · refine ⟨if supersededKey nomination = some name then assertion.retired
      else assertion, ?_, ?_⟩
    · rw [hwritten.others name hname, hget, map_some]
    · split <;> exact le_refl _

theorem admitOne_notWeaker (hok : admitOne store reading options nomination =
      .ok (result, store')) : NotWeaker store store' := by
  rcases admitOne_ok hok with ⟨_, _, _, _, hassertions⟩ | ⟨_, _, hwritten⟩
  · exact .of_assertions hassertions
  · exact hwritten.notWeaker

/-- A live assertion changes only for a nomination of a kind that may replace
it. -/
theorem admitOne_replaces (hok : admitOne store reading options nomination =
      .ok (result, store')) {name : String} {old new : MemoryAssertion}
    (hold : store.assertions.get? name = some old) (hlive : old.live = true)
    (hnew : store'.assertions.get? name = some new) (hchanged : new ≠ old) :
    canReplaceMemoryKind nomination.memoryKind old.memoryKind = true := by
  rcases admitOne_ok hok with
    ⟨_, _, _, _, hassertions⟩ | ⟨⟨_, happrove⟩, _, hwritten⟩
  · rw [hassertions, hold] at hnew
    exact absurd (some.inj hnew).symm hchanged
  · have hreplaced := (approve_ok happrove).2.2
    by_cases hname : name = nomination.assertionKey
    · exact hreplaced name (hname ▸ mem_cons_self) old hold hlive
    · rw [hwritten.others name hname, hold, map_some] at hnew
      by_cases hretired : supersededKey nomination = some name
      · refine hreplaced name (mem_cons_of_mem _ ?_) old hold hlive
        rw [(filter_eq_some_iff.mp hretired).1]
        exact mem_singleton.mpr rfl
      · rw [if_neg hretired] at hnew
        exact absurd (some.inj hnew).symm hchanged

theorem admitOne_skipped (hok : admitOne store reading options nomination =
      .ok (result, store')) (hskipped : result.result ≠ .admitted) :
    store'.assertions = store.assertions := by
  rcases admitOne_ok hok with ⟨_, _, _, _, hassertions⟩ | ⟨_, hadmitted, _⟩
  · exact hassertions
  · exact absurd hadmitted hskipped

/-- The invariant of the guarded runs. -/
structure Kept (conversation : String) (store : MemoryStore) : Prop where
  ofConversation : OfConversation conversation store
  ordered : Ordered store

/-- A state with the same tables, up to the log. -/
theorem Kept.of_tables (hkept : Kept conversation store)
    (hmind : store'.mind = store.mind) (hcycles : store'.cycles = store.cycles)
    (hsettlements : store'.settlements = store.settlements)
    (hassertions : store'.assertions = store.assertions) :
    Kept conversation store' := by
  have hadmitted : ∀ other, Admitted store' other ↔ Admitted store other := by
    intro _
    unfold Admitted
    rw [hmind]
  constructor
  · constructor
    · rw [hcycles]
      exact hkept.ofConversation.cycles
    · rw [hcycles, hsettlements]
      exact hkept.ofConversation.settlements
    · intro other hother
      unfold settlementForNomination
      rw [hsettlements]
      exact hkept.ofConversation.published other ((hadmitted other).mp hother)
  · constructor
    · simp only [hadmitted, hassertions]
      exact hkept.ordered.newest
    · simp only [hadmitted, hassertions]
      exact hkept.ordered.superseded

theorem Stored.admitOne {other : NominationRow} (hstored : Stored store other)
    (hok : admitOne store reading options nomination =
      .ok (result, store')) : Stored store' other := by
  obtain ⟨row, hrow, hsame⟩ := hstored
  rcases admitOne_ok hok with ⟨_, hmind, _⟩ | ⟨_, _, hwritten⟩
  · exact ⟨row, by rw [hmind]; exact hrow, hsame⟩
  · refine ⟨if row.nominationId = nomination.nominationId then
      NominationRow.markAdmitted row else row, ?_, ?_⟩
    · rw [hwritten.nominations, hrow, map_some]
    · split <;> exact hsame

theorem Kept.admitOne (hkept : Kept conversation store)
    (hstored : Stored store nomination)
    (hinOrder : AdmitsInOrder store reading options nomination)
    (hok : admitOne store reading options nomination =
      .ok (result, store')) : Kept conversation store' := by
  rcases admitOne_ok hok with
    ⟨_, hmind, hcycles, hsettlements, hassertions⟩ |
      ⟨⟨approval, happrove⟩, _, hwritten⟩
  · exact hkept.of_tables hmind hcycles hsettlements hassertions
  · exact ⟨hwritten.ofConversation hstored (approve_ok happrove).1
      hkept.ofConversation,
      hwritten.ordered hstored hkept.ofConversation happrove
        (hinOrder approval happrove) hkept.ordered⟩

/-- A tick whose nominations are in order keeps the invariant. -/
theorem Kept.tickAll {readings : String → AdmissionReading}
    {options : AdmissionOptions} {selected : List NominationRow}
    {progress progress' : List AdmissionResult × MemoryStore}
    (hkept : Kept conversation progress.2)
    (hstored : ∀ nomination ∈ selected, Stored progress.2 nomination)
    (hinOrder : TickInOrder readings options progress selected)
    (hok : eachOf (tickOne readings options) progress selected =
      .ok progress') : Kept conversation progress'.2 := by
  induction selected generalizing progress with
  | nil =>
    cases hok
    exact hkept
  | cons nomination _ ih =>
    obtain ⟨_, hfirst, hrest⟩ := of_bind hok
    obtain ⟨⟨_, _⟩, hadmit, hafter⟩ := of_bind hfirst
    cases of_pure hafter
    refine ih ?_ ?_ (hinOrder.2 _ hfirst) hrest
    · exact hkept.admitOne (hstored nomination mem_cons_self)
        hinOrder.1 hadmit
    · intro other hother
      exact (hstored other (mem_cons_of_mem _ hother)).admitOne hadmit

theorem tickAll_notWeaker {readings : String → AdmissionReading}
    {options : AdmissionOptions} {selected : List NominationRow}
    {progress progress' : List AdmissionResult × MemoryStore}
    (hok : eachOf (tickOne readings options) progress selected =
      .ok progress') : NotWeaker progress.2 progress'.2 := by
  refine eachOf_preserves (P := fun reached => NotWeaker progress.2 reached.2)
    ?_ hok (.refl _)
  intro _ _ _ hfirst hbefore
  obtain ⟨⟨_, _⟩, hadmit, hafter⟩ := of_bind hfirst
  cases of_pure hafter
  exact hbefore.trans (admitOne_notWeaker hadmit)

theorem stored_of_mem (hmem : nomination ∈ store.mind.nominations.rows) :
    Stored store nomination :=
  ⟨nomination, get?_key hmem, rfl, rfl, rfl, rfl, rfl⟩

theorem selectedNominations_stored {options : AdmissionOptions}
    (hmem : nomination ∈ selectedNominations store options) :
    Stored store nomination := by
  have hlisted := (mem_filter.mp hmem).1
  have hsorted := mem_of_mem_take (mem_filter.mp hlisted).1
  rw [mem_insertionSort, mem_filter] at hsorted
  exact stored_of_mem hsorted.1

theorem claimedNomination_stored {input : AdmitOwnerSuppliedClaimInput}
    (hclaimed : claimedNomination store input = some nomination) :
    Stored store (withEvidence nomination input.evidence) := by
  have hfound := (filter_eq_some_iff.mp
    (filter_eq_some_iff.mp hclaimed).1).1
  have hstored := stored_of_mem (mem_of_get? hfound)
  unfold withEvidence
  split
  · split
    · exact hstored
    · exact hstored
  · exact hstored

theorem storeNomination_ok [Host] {draft : DurableNomination}
    (hok : storeNomination store draft = .ok store') :
    (∀ other, Admitted store' other ↔ Admitted store other) ∧
      store'.cycles = store.cycles ∧
      store'.settlements = store.settlements ∧
      store'.assertions = store.assertions := by
  unfold storeNomination at hok
  cases hqueue : enqueueDurableNomination store.mind draft with
  | error =>
    rw [hqueue] at hok
    cases hok
  | ok =>
    rw [hqueue] at hok
    cases hok
    refine ⟨fun _ => ?_, rfl, rfl, rfl⟩
    obtain ⟨_, _, hqueue⟩ := of_bind hqueue
    replace hqueue := passed hqueue
    cases of_pure hqueue
    constructor
    · rintro ⟨hmem, hadmitted⟩
      rcases Table.of_get?_insertNew (get?_key hmem) with rfl | hold
      · cases hadmitted
      · exact ⟨mem_of_get? hold, hadmitted⟩
    · rintro ⟨hmem, hadmitted⟩
      refine ⟨?_, hadmitted⟩
      unfold Table.insertNew
      cases hinsert : store.mind.nominations.insert?
          { draft with admitted := false } with
      | none => exact hmem
      | some => exact (mem_insert_iff hinsert).mpr (.inl hmem)

/-- Recording a cycle keeps every recorded cycle, and adds one of the
conversation. -/
theorem get?_recordCycle (store : MemoryStore) (cycleId : String)
    (generation : Int) (id : String) :
    ((recordCycle conversation store cycleId generation).cycles.get? id) =
      if id = cycleId then some
        (((store.cycles.get? id).map fun row => { row with generation }).getD
          { cycleId, conversationId := conversation, generation })
      else store.cycles.get? id :=
  Table.get?_upsert _ _ _ _ id

theorem Kept.recordCycle (hkept : Kept conversation store) (cycleId : String)
    (generation : Int) :
    Kept conversation (recordCycle conversation store cycleId generation) := by
  refine ⟨⟨fun id cycle hcycle => ?_, fun settlement hmem => ?_,
    hkept.ofConversation.published⟩, ⟨hkept.ordered.newest,
      hkept.ordered.superseded⟩⟩
  · rw [get?_recordCycle] at hcycle
    split at hcycle
    · cases hold : store.cycles.get? id with
      | none =>
        rw [hold] at hcycle
        cases hcycle
        rfl
      | some old =>
        rw [hold] at hcycle
        cases hcycle
        exact hkept.ofConversation.cycles id old hold
    · exact hkept.ofConversation.cycles id cycle hcycle
  · rw [get?_recordCycle]
    split
    · exact ⟨_, rfl⟩
    · exact hkept.ofConversation.settlements settlement hmem

theorem Kept.publishSettlement {settlement : PublishedSettlement}
    (hkept : Kept conversation store)
    (hok : publishSettlement store settlement = .ok store') :
    Kept conversation store' := by
  obtain ⟨hcycle, hok⟩ := of_require hok
  replace hok := passed hok
  obtain ⟨settlements, hinsert, hok⟩ := of_orFault hok
  cases of_pure hok
  refine ⟨⟨hkept.ofConversation.cycles, fun other hmem => ?_,
    fun nomination hadmitted => ?_⟩, ⟨hkept.ordered.newest,
      hkept.ordered.superseded⟩⟩
  · rcases (mem_insert_iff hinsert).mp hmem with hold | rfl
    · exact hkept.ofConversation.settlements other hold
    · exact isSome_iff_exists.mp hcycle
  · obtain ⟨found, hfound⟩ := hkept.ofConversation.published nomination
      hadmitted
    have hsome : (settlementForNomination
        { store with settlements } nomination).isSome = true := by
      unfold settlementForNomination at hfound ⊢
      rw [List.find?_isSome]
      have hmatches := List.find?_some hfound
      exact ⟨found, (mem_insert_iff hinsert).mpr
        (.inl (mem_of_find?_eq_some hfound)), hmatches⟩
    exact isSome_iff_exists.mp hsome

/-- The step lemma of the runs. -/
theorem Kept.step [Host] (step : AdmissionStep) (store : MemoryStore)
    (hinOrder : StepInOrder step store) (hkept : Kept conversation store) :
    Kept conversation (admissionStep conversation step store) := by
  cases step with
  | recordCycle => exact hkept.recordCycle _ _
  | storeNomination =>
    refine commit_preserves hkept fun _ hok => ?_
    obtain ⟨hadmitted, hcycles, hsettlements, hassertions⟩ :=
      storeNomination_ok hok
    constructor
    · constructor
      · rw [hcycles]
        exact hkept.ofConversation.cycles
      · rw [hcycles, hsettlements]
        exact hkept.ofConversation.settlements
      · intro other hother
        unfold settlementForNomination
        rw [hsettlements]
        exact hkept.ofConversation.published other
          ((hadmitted other).mp hother)
    · constructor
      · simp only [hadmitted, hassertions]
        exact hkept.ordered.newest
      · simp only [hadmitted, hassertions]
        exact hkept.ordered.superseded
  | publishSettlement =>
    exact commit_preserves hkept fun _ hok => hkept.publishSettlement hok
  | tick readings options =>
    refine commit_preserves hkept fun _ hok => ?_
    obtain ⟨_, hok⟩ := snd_ok.mp hok
    exact @Kept.tickAll conversation readings options _ ([], store) _ hkept
      (fun _ hmem => selectedNominations_stored hmem) hinOrder hok
  | ownerClaim reading input =>
    refine commit_preserves hkept fun _ hok => ?_
    obtain ⟨result, hok⟩ := snd_ok.mp hok
    unfold admitOwnerSuppliedClaim at hok
    cases hclaimed : claimedNomination store input with
    | none =>
      rw [hclaimed] at hok
      cases hok
      exact hkept
    | some nomination =>
      rw [hclaimed] at hok
      dsimp only at hok
      cases hskip : claimSkip reading input nomination with
      | some skipped =>
        rw [hskip] at hok
        cases hok
        obtain ⟨hmind, hcycles, hsettlements, hassertions⟩ :=
          logAdmission_tables store
            { nominationId := nomination.nominationId
              assertionKey := nomination.assertionKey, result := skipped
              assertion := none }
        exact hkept.of_tables hmind hcycles hsettlements hassertions
      | none =>
        rw [hskip] at hok
        obtain ⟨⟨_, _⟩, hadmit, hok⟩ := of_bind hok
        cases of_pure hok
        exact hkept.admitOne (claimedNomination_stored hclaimed)
          (hinOrder nomination hclaimed hskip) hadmit

/-- No step weakens a classification. -/
theorem admissionStep_notWeaker [Host] (conversation : String) (step : AdmissionStep)
    (store : MemoryStore) :
    NotWeaker store (admissionStep conversation step store) := by
  have hrefl := NotWeaker.refl store
  cases step with
  | recordCycle => exact hrefl
  | storeNomination =>
    exact commit_preserves (P := NotWeaker store) hrefl fun _ hok =>
      .of_assertions (storeNomination_ok hok).2.2.2
  | publishSettlement =>
    refine commit_preserves (P := NotWeaker store) hrefl fun _ hok => ?_
    replace hok := passed hok
    replace hok := passed hok
    obtain ⟨_, _, hok⟩ := of_orFault hok
    cases of_pure hok
    exact hrefl
  | tick =>
    refine commit_preserves (P := NotWeaker store) hrefl fun _ hok => ?_
    obtain ⟨_, hok⟩ := snd_ok.mp hok
    exact tickAll_notWeaker hok
  | ownerClaim =>
    refine commit_preserves (P := NotWeaker store) hrefl fun _ hok => ?_
    obtain ⟨_, hok⟩ := snd_ok.mp hok
    unfold admitOwnerSuppliedClaim at hok
    split at hok
    · cases hok
      exact hrefl
    · split at hok
      · cases hok
        exact .of_assertions (logAdmission_tables _ _).2.2.2
      · obtain ⟨⟨_, _⟩, hadmit, hok⟩ := of_bind hok
        cases of_pure hok
        exact admitOne_notWeaker hadmit

theorem run_notWeaker [Host] (conversation : String) (steps : List AdmissionStep)
    (store : MemoryStore) :
    NotWeaker store (run (admissionStep conversation) store steps) :=
  run_preserves (P := NotWeaker store)
    (fun step middle hbefore =>
      hbefore.trans (admissionStep_notWeaker conversation step middle))
    (.refl store) steps

theorem kept_empty (conversation : String) : Kept conversation {} where
  ofConversation :=
    { cycles := fun _ _ hget => by cases hget
      settlements := fun _ hmem => by cases hmem
      published := fun _ hadmitted => by cases hadmitted.1 }
  ordered :=
    { newest := fun _ _ hget => by cases hget
      superseded := fun _ _ _ _ _ hget => by cases hget }

/-- Over every run within one conversation whose admissions are in order, each
assertion is that of the newest admitted nomination of its key and a superseded
one is not live unless a later nomination of its key was admitted; over every
run classifications never weaken; and no admission replaces a live assertion by
a kind that is weaker grounded, or changes an assertion when it skips. -/
theorem admission_respects_order [Host] (conversation : String)
    (steps : List AdmissionStep) :
    (∀ before after, steps = before ++ after →
      Meets (admissionStep conversation) StepInOrder {} before →
      Ordered (run (admissionStep conversation) {} before)) ∧
    (∀ before after, steps = before ++ after →
      NotWeaker (run (admissionStep conversation) {} before)
        (run (admissionStep conversation) {} steps)) ∧
    ∀ store reading options nomination result store',
      admitOne store reading options nomination = .ok (result, store') →
      (∀ name old new, store.assertions.get? name = some old →
        old.live = true → store'.assertions.get? name = some new →
        new ≠ old →
        canReplaceMemoryKind nomination.memoryKind old.memoryKind = true) ∧
      (result.result ≠ .admitted → store'.assertions = store.assertions) := by
  refine ⟨fun _ _ _ hmeets => ?_, fun _ after hsplit => ?_, ?_⟩
  · exact (meets_preserves Kept.step (kept_empty conversation) hmeets).ordered
  · rw [hsplit, run_append]
    exact run_notWeaker conversation after _
  · intro _ _ _ _ _ _ hok
    exact ⟨fun _ _ _ hold hlive hnew hchanged =>
      admitOne_replaces hok hold hlive hnew hchanged, admitOne_skipped hok⟩

end Runs

section OlderLater

attribute [local instance] plainHost

/-- A nomination of one assertion. -/
def subjectNomination (nominationId cycleId : String) (generation : Int)
    (statement : String) : DurableNomination where
  nominationId
  cycleId
  generation
  assertionKey := "owner:subject"
  statement
  memoryKind := "ashley_interpretation"
  dimensions :=
    { source := .ashleyInterpretation, status := .interpreted
      time := .historical, reliability := .inferred }
  dataClassification := .ordinary
  supersedesAssertionKey := none
  concernId := none

def publish (settlementId cycleId : String) (generation : Int) :
    AdmissionStep :=
  .publishSettlement
    { settlementId := settlementId, cycleId := cycleId, generation := generation
      durableNominations := [] }

def nominateOld : List AdmissionStep :=
  [.recordCycle "first" 1,
    .storeNomination (subjectNomination "old" "first" 1 "The old claim."),
    publish "settlement-1" "first" 1]

def nominateNew : List AdmissionStep :=
  [.recordCycle "second" 2,
    .storeNomination (subjectNomination "new" "second" 2 "The new claim."),
    publish "settlement-2" "second" 2]

def catchUp : AdmissionStep := .tick (fun _ => {}) {}

/-- The newer nomination is admitted at once, the older one by the catch-up. -/
def olderLater : List AdmissionStep :=
  nominateOld ++ nominateNew ++
    [.ownerClaim {} { settlementId := "settlement-2", nominationId := "new" },
      catchUp]

/-- The catch-up overwrites the newer statement with the older one. -/
theorem older_nomination_overwrites :
    ¬ ∀ conversation steps,
      Ordered (run (admissionStep conversation) {} steps) := by
  intro hall
  have hordered := hall "thread" olderLater
  obtain ⟨_, _, _, _, hgeneration, hmax⟩ :=
    hordered.newest "owner:subject"
      { assertionKey := "owner:subject", statement := "The old claim."
        memoryKind := "ashley_interpretation"
        dimensions :=
          { source := .ashleyInterpretation, status := .interpreted
            time := .historical, reliability := .inferred }
        dataClassification := .ordinary, lineageParentKey := none
        admittedGeneration := some 1, live := true, channel := "discord" }
      (by decide +kernel)
  have hnewer : Admitted (run (admissionStep "thread") {} olderLater)
      { subjectNomination "new" "second" 2 "The new claim." with
        admitted := true } := by
    unfold Admitted
    decide +kernel
  have hle := hmax _ hnewer rfl
  rw [← Option.some.inj hgeneration] at hle
  exact absurd hle (by decide)

/-- Each nomination is admitted before the next one is stored. -/
def inTurn : List AdmissionStep :=
  nominateOld ++ catchUp :: nominateNew ++ [catchUp]

theorem catchUp_inOrder {store : MemoryStore} {nomination : NominationRow}
    (hselected : selectedNominations store {} = [nomination])
    (hinOrder : InOrder store nomination) : StepInOrder catchUp store := by
  unfold StepInOrder catchUp
  dsimp only
  rw [hselected]
  exact ⟨fun _ _ => hinOrder, fun _ _ => trivial⟩

theorem inTurn_meets :
    Meets (admissionStep "thread") StepInOrder {} inTurn := by
  have hfirst : StepInOrder catchUp
      (run (admissionStep "thread") {} nominateOld) :=
    @catchUp_inOrder _
      { subjectNomination "old" "first" 1 "The old claim." with
        admitted := false } (by decide +kernel) (by decide +kernel)
  have hsecond : StepInOrder catchUp (run (admissionStep "thread") {}
      (nominateOld ++ catchUp :: nominateNew)) :=
    @catchUp_inOrder _
      { subjectNomination "new" "second" 2 "The new claim." with
        admitted := false } (by decide +kernel) (by decide +kernel)
  exact ⟨trivial, trivial, trivial, hfirst, trivial, trivial, trivial, hsecond,
    trivial⟩

theorem inTurn_ordered :
    Ordered (run (admissionStep "thread") {} inTurn) :=
  (admission_respects_order "thread" inTurn).1 inTurn []
    (List.append_nil _).symm inTurn_meets

end OlderLater

end CognitiveSidecar.Admission
