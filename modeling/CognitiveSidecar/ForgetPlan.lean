/-
A plan against the two forgets: whether it lists what the forget of the topic
reports, and whether carrying it out deletes and sets the same.
-/
import CognitiveSidecar.ForgetWatches

namespace CognitiveSidecar.Forget

open List Relational

section Plans

variable [ForgetHost] {topic : String} {nowMs : Int} {db : ForgetDb}
  {targets : List ForgetTarget} {known : List ForgetEntity}
  {entity : ForgetEntity}

/-- A plan that has gone through some tables. -/
structure Discovered (topic : String) (db : ForgetDb)
    (known : List ForgetEntity) (targets : List ForgetTarget) : Prop where
  ids : ∀ entity ∈ known,
    targetIds targets entity = listed (db.hitUuids topic entity)
  fresh : ∀ entity, entity ∉ known → targetIds targets entity = []
  proper : Proper targets

theorem Discovered.discover (hplan : Discovered topic db known targets)
    (hknown : entity ∉ known) (hreads : ∀ source ∈ entity.reads, source ∈ known) :
    Discovered topic db (entity :: known)
      (db.discover topic targets entity) := by
  have hhits : isHit topic (db.found targets) entity =
      isHit topic (db.foundBy topic) entity := by
    apply isHit_congr
    intro source hsource
    apply found_agreesOn ⟨entity, hsource⟩ ?_ rfl
    intro _
    rw [hplan.ids source (hreads source hsource)]
    exact mem_listed_hitUuids
  constructor
  · intro other hother
    by_cases hne : other = entity
    · subst hne
      rw [targetIds_discover_self (hplan.fresh other hknown)]
      unfold ForgetDb.hits
      rw [hhits]
      rfl
    · rw [targetIds_discover_of_ne hne]
      exact hplan.ids other ((mem_cons.mp hother).resolve_left hne)
  · intro other hother
    rw [mem_cons, not_or] at hother
    rw [targetIds_discover_of_ne hother.1]
    exact hplan.fresh other hother.2
  · exact hplan.proper.discover db entity

theorem Discovered.foldl (hplan : Discovered topic db known targets)
    (order : List ForgetEntity) (hready : ready order known = true) :
    Discovered topic db (order.reverse ++ known)
      (order.foldl (db.discover topic) targets) := by
  induction order generalizing targets known with
  | nil => exact hplan
  | cons _ _ ih =>
    rw [ready, Bool.and_eq_true, Bool.and_eq_true, decide_eq_true_eq,
      Option.all_eq_true] at hready
    obtain ⟨⟨hknown, hreads⟩, hrest⟩ := hready
    rw [reverse_cons, append_assoc]
    exact ih (hplan.discover hknown fun source hsource =>
      of_decide_eq_true (hreads source hsource)) hrest

/-- What a plan lists. -/
def planTargets (topic : String) (db : ForgetDb) : List ForgetTarget :=
  planOrder.foldl (db.discover topic) []

theorem planTargets_discovered :
    Discovered topic db (planOrder.reverse ++ []) (planTargets topic db) := by
  refine Discovered.foldl ⟨?_, ?_, ?_⟩ planOrder (by decide)
  · exact fun _ hmem => absurd hmem not_mem_nil
  · exact fun _ _ => rfl
  · exact fun _ hmem => absurd hmem not_mem_nil

theorem targetIds_planTargets (entity : ForgetEntity) :
    targetIds (planTargets topic db) entity =
      listed (db.hitUuids topic entity) :=
  planTargets_discovered.ids entity (by cases entity <;> decide)

theorem planV021Forget_ok {input : String} {plan : List ForgetTarget} :
    planV021Forget db input = .ok plan ↔
      trim input ≠ "" ∧ plan = planTargets (trim input) db := by
  unfold planV021Forget
  rw [require_bind_ok, pure_ok]
  exact and_congr_right fun _ => eq_comm

/-- A plan is empty when the topic is nowhere. -/
theorem planTargets_eq_nil :
    planTargets topic db = [] ↔ ∀ entity, db.topicHits topic entity = [] := by
  constructor
  · intro hnil entity
    rw [eq_nil_iff_forall_not_mem]
    intro row hrow
    have hlisted : entityUuid entity row ∈
        targetIds (planTargets topic db) entity := by
      rw [targetIds_planTargets, mem_listed_hitUuids]
      exact mem_map_of_mem hrow
    rw [hnil] at hlisted
    exact not_mem_nil hlisted
  · intro hnone
    rw [eq_nil_iff_forall_not_mem]
    intro target htarget
    have hlisted := mem_targetIds.mpr ⟨target, htarget, rfl, rfl⟩
    rw [targetIds_planTargets] at hlisted
    unfold ForgetDb.hitUuids at hlisted
    rw [hnone] at hlisted
    exact not_mem_nil hlisted

theorem mem_topicHits {row : Row entity} :
    row ∈ db.topicHits topic entity ↔ row ∈ db.rows entity ∧
      isHit topic (db.foundBy topic) entity row = true :=
  mem_filter

/-- The watch of a cycle whose settlement is hit is gone before its turn. -/
def WatchesApart (topic : String) (db : ForgetDb) : Prop :=
  ∀ row ∈ db.topicHits topic .attentionWatch,
    row.cycleId.any
      (· ∈ db.settledCycles (db.hitUuids topic .settlement)) = false

/-- The plan lists what the forget of the topic reports, unless it lists a
watch that the forget has deleted already. -/
theorem planTargets_eq_reported_iff :
    (∀ target, target ∈ planTargets topic db ↔
      target ∈ (sweepTopic topic nowMs db).targets) ↔
      WatchesApart topic db := by
  have hplan : Discovered topic db (planOrder.reverse ++ [])
      (planTargets topic db) := planTargets_discovered
  have hsweep : Progress topic nowMs db (unsupportedDb topic nowMs db)
      (derivedOrder.reverse ++ []) (derivedOrder.reverse ++
        (sourceOrder.reverse ++ [])) (sweepTopic topic nowMs db) :=
    sweepTopic_progress
  constructor
  · intro hsame row hrow
    have hlisted : entityUuid .attentionWatch row ∈
        targetIds (planTargets topic db) .attentionWatch := by
      rw [targetIds_planTargets, mem_listed_hitUuids]
      exact mem_map_of_mem hrow
    obtain ⟨target, htarget, htype, huuid⟩ := mem_targetIds.mp hlisted
    have hreported := mem_targetIds.mpr
      ⟨target, (hsame target).mp htarget, htype, huuid⟩
    rw [targetIds_sweepTopic_watch, mem_listed, mem_map] at hreported
    obtain ⟨-, _, hother, hsameUuid⟩ := hreported
    obtain ⟨hbeside, -⟩ := mem_filter.mp hother
    obtain ⟨hmem, hcycle⟩ := mem_watchesBeside.mp hbeside
    rw [← watch_eq_of_uuid hmem (mem_topicHits.mp hrow).1 hsameUuid]
    exact hcycle
  · intro hapart target
    rw [mem_iff_of_proper hplan.proper, mem_iff_of_proper hsweep.proper,
      targetIds_planTargets]
    by_cases hwatch : target.entityType = .attentionWatch
    · rw [hwatch, targetIds_sweepTopic_watch, mem_listed, mem_listed]
      have hleft : db.topicHits topic .attentionWatch =
          (db.watchesBeside (db.hitUuids topic .settlement)).filter
            (isHit topic (db.foundBy topic) .attentionWatch) := by
        unfold ForgetDb.watchesBeside
        rw [filter_filter]
        apply filter_congr
        intro row hrow
        by_cases hhit : isHit topic (db.foundBy topic) .attentionWatch row
        · have hkept := hapart row (mem_topicHits.mpr ⟨hrow, hhit⟩)
          rw [hhit, hkept]
          rfl
        · rw [Bool.eq_false_of_not_eq_true hhit]
          rfl
      unfold ForgetDb.hitUuids
      rw [hleft]
      rfl
    · rw [sweepTopic_ids hwatch]

end Plans

section Outcomes

variable [ForgetHost] {topic : String} {nowMs : Int} {db : ForgetDb}
  {targets : List ForgetTarget} {entity : ForgetEntity}

variable {row : WorkingContextRow} {fields : List (String × JsonValue)}
variable {sourceKey : String}
variable {mode : Redaction} {other name : String} {p : Row entity → Bool}

/-- The reader of a stored envelope accepts the four kinds of interpretations
and keeps the kind. -/
class LawfulForgetHost [ForgetHost] : Prop where
  parse_kind : ∀ fields lifecycle accepted,
    ForgetHost.parseStoredEnvelope fields lifecycle = some accepted →
      ∃ kind ∈ ["directive_interpretation", "descriptive_belief",
          "self_conclusion", "adoption"],
        getField fields "kind" = some (.text kind) ∧
          getField accepted "kind" = some (.text kind)

/-- A row without the words of its JSON column: its key, its flags and its
statuses. -/
def standing : (entity : ForgetEntity) → Row entity → Row entity
  | .thoughtStep, row => { row with payload := emptyColumn }
  | .observation, row => { row with payload := emptyColumn }
  | .effectReceipt, row => { row with payload := emptyColumn }
  | .settlement, row => { row with payload := emptyColumn }
  | .inboxEvent, row => { row with payload := emptyColumn }
  | _, row => row

/-- Two outcomes have the same rows with the same statuses. -/
structure SameOutcome (db other : ForgetDb) : Prop where
  rows : ∀ entity, (db.rows entity).map (standing entity) =
    (other.rows entity).map (standing entity)
  episodeIndex : db.episodeIndex = other.episodeIndex

theorem standing_forgotten (mode other : Redaction)
    (row : Row entity) :
    (forgotten mode nowMs entity row).map (standing entity) =
      (forgotten other nowMs entity row).map (standing entity) := by
  cases entity <;> rfl

/-- Whatever the redaction of the columns, the rows come out alike. -/
theorem map_standing_forgetRows {other : Redaction} {q : Row entity → Bool}
    {rows : List (Row entity)} (hreached : ∀ row ∈ rows, p row = q row) :
    (forgetRows mode nowMs entity p rows).map (standing entity) =
      (forgetRows other nowMs entity q rows).map (standing entity) := by
  unfold forgetRows
  rw [map_filterMap, map_filterMap]
  apply filterMap_congr
  intro row hrow
  rw [hreached row hrow]
  split
  · exact standing_forgotten mode other row
  · rfl

omit [ForgetHost] in
theorem getField_setField_self (fields : List (String × JsonValue))
    (name : String) (value : JsonValue) :
    getField (setField fields name value) name = some value := by
  unfold getField setField
  induction fields with
  | nil => simp
  | cons field rest ih =>
    by_cases hfield : field.1 = name
    · simp [hfield]
    · simp only [any_cons, hfield, decide_false, Bool.false_or,
        map_cons, if_false] at ih ⊢
      by_cases hrest : rest.any (·.1 = name) = true
      · rw [if_pos hrest] at ih ⊢
        rw [List.find?_cons_of_neg (by simpa using hfield)]
        exact ih
      · rw [if_neg hrest] at ih ⊢
        rw [cons_append,
          List.find?_cons_of_neg (by simpa using hfield)]
        exact ih

omit [ForgetHost] in
theorem getField_setField_of_ne (fields : List (String × JsonValue))
    (value : JsonValue) (hne : other ≠ name) :
    getField (setField fields name value) other = getField fields other := by
  unfold getField setField
  split
  · rw [List.find?_map]
    have hpred : (fun field : String × JsonValue => decide (field.1 = other)) ∘
        (fun field => if field.1 = name then (name, value) else field) =
        fun field => decide (field.1 = other) := by
      funext field
      by_cases hfield : field.1 = name
      · simp [hfield]
      · simp [hfield]
    rw [hpred]
    cases hfound : fields.find? fun field => decide (field.1 = other) with
    | none => rfl
    | some field =>
      have hname : field.1 = other := by
        simpa using List.find?_some hfound
      have hkept : ¬ field.1 = name := fun heq => hne (hname.symm.trans heq)
      simp [hkept]
  · simp [Ne.symm hne]

omit [ForgetHost] in
theorem any_setField (fields : List (String × JsonValue)) (value : JsonValue)
    (hne : other ≠ name) :
    (setField fields name value).any (·.1 = other) =
      fields.any (·.1 = other) := by
  unfold setField
  split
  · rw [any_map]
    congr 1
    funext field
    by_cases hfield : field.1 = name
    · simp [hfield]
    · simp [hfield]
  · simp [Ne.symm hne]

omit [ForgetHost] in
/-- Two fields of an object are set in either order. -/
theorem setField_comm (fields : List (String × JsonValue))
    (value another : JsonValue) (hne : name ≠ other)
    (hother : fields.any (·.1 = other) = true) :
    setField (setField fields name value) other another =
      setField (setField fields other another) name value := by
  have hpresent := any_setField fields value hne.symm
  have hname := any_setField fields another hne
  rw [setField, if_pos (hpresent.trans hother)]
  conv_rhs => rw [setField]
  rw [hname]
  by_cases hany : fields.any (·.1 = name) = true
  · rw [if_pos hany, setField, if_pos hany, setField, if_pos hother,
      map_map, map_map]
    apply map_congr_left
    intro field _
    by_cases hfield : field.1 = name
    · simp [hfield, hne]
    · by_cases hfield' : field.1 = other
      · simp [hfield', hne.symm]
      · simp [hfield, hfield']
  · rw [if_neg hany, setField, if_neg hany, setField, if_pos hother]
    simp [hne]

/-- What an envelope that loses a source is replaced by, and its lifecycle. -/
def supportLoss (sourceKey : String) (envelope : Option JsonValue)
    (lifecycle : Option String) :
    Option (List (String × JsonValue) × String) :=
  match envelope with
  | some (.object envelope) =>
    match lifecycle.or ((JsonColumn.json (.object envelope)).textField
        "applicabilityLifecycle") with
    | some lifecycle =>
      (if lifecycle ∈ ["current", "needs_review", "superseded",
          "withdrawn"] then
        ForgetHost.parseStoredEnvelope envelope lifecycle
      else none).map fun accepted =>
        ([("support", withoutSource sourceKey
            (getField accepted "support")),
          ("revisionEvidenceRefs", withoutSource sourceKey
            (getField accepted "revisionEvidenceRefs")),
          ("supportAvailability", .text "unavailable"),
          ("supportUnavailableReason", .text "source_forgotten"),
          ("applicabilityLifecycle",
            .text (reviewedLifecycle lifecycle))].foldl
          (fun fields change => setField fields change.1 change.2)
          accepted, reviewedLifecycle lifecycle)
    | none => none
  | _ => none

theorem withoutSupport_eq (sourceKey : String)
    (hpayload : row.payload.parsed = .object fields) :
    row.withoutSupport sourceKey =
      match supportLoss sourceKey (getField fields "interpretationEnvelope")
          row.applicabilityLifecycle with
      | some (next, lifecycle) =>
        { row with
          payload := .json (.object (setField fields
            "interpretationEnvelope" (.object next)))
          applicabilityLifecycle := some lifecycle }
      | none => row := by
  unfold WorkingContextRow.withoutSupport supportLoss
  rw [hpayload]
  simp only
  generalize getField fields "interpretationEnvelope" = envelope
  cases envelope with
  | none => rfl
  | some value =>
    cases value with
    | object envelope =>
      simp only
      generalize row.applicabilityLifecycle.or
        ((JsonColumn.json (.object envelope)).textField
          "applicabilityLifecycle") = found
      cases found with
      | none => rfl
      | some lifecycle =>
        simp only
        generalize (if lifecycle ∈ ["current", "needs_review",
          "superseded", "withdrawn"] then
          ForgetHost.parseStoredEnvelope envelope lifecycle
          else none) = accepted
        cases accepted <;> rfl
    | _ => rfl

/-- The payload of an item is an object with a typed envelope. -/
def WorkingContextRow.isTyped (row : WorkingContextRow) : Bool :=
  match row.payload.parsed with
  | .object fields => isTypedEnvelope fields
  | _ => false

omit [ForgetHost] in
theorem isTyped_of_object (hpayload : row.payload.parsed = .object fields) :
    row.isTyped = isTypedEnvelope fields := by
  unfold WorkingContextRow.isTyped
  rw [hpayload]

/-- A typed envelope that loses a source stays typed. -/
theorem supportLoss_kind [LawfulForgetHost] {next : List (String × JsonValue)}
    {lifecycle : Option String} {reviewed : String}
    (hloss : supportLoss sourceKey (getField fields "interpretationEnvelope")
      lifecycle = some (next, reviewed)) :
    isTypedEnvelope fields = true ∧
      isTypedEnvelope (setField fields "interpretationEnvelope"
        (.object next)) = true := by
  unfold supportLoss at hloss
  split at hloss
  · rename_i envelope henvelope
    split at hloss
    · rename_i found _
      rw [Option.map_eq_some_iff] at hloss
      obtain ⟨accepted, haccepted, hnext⟩ := hloss
      split at haccepted
      · obtain ⟨kind, hkind, hstored, hread⟩ :=
          LawfulForgetHost.parse_kind envelope found accepted haccepted
        obtain ⟨hnext, -⟩ := Prod.mk.inj hnext
        have hkept : getField next "kind" = some (.text kind) := by
          rw [← hnext]
          simp only [foldl_cons, foldl_nil]
          rw [getField_setField_of_ne _ _ (by decide),
            getField_setField_of_ne _ _ (by decide),
            getField_setField_of_ne _ _ (by decide),
            getField_setField_of_ne _ _ (by decide),
            getField_setField_of_ne _ _ (by decide)]
          exact hread
        constructor
        · unfold isTypedEnvelope
          rw [henvelope]
          simp only [hstored]
          exact decide_eq_true hkind
        · unfold isTypedEnvelope
          rw [getField_setField_self]
          simp only [hkept]
          exact decide_eq_true hkind
      · cases haccepted
    · cases hloss
  · cases hloss

theorem withoutSupport_of_untyped [LawfulForgetHost]
    (huntyped : row.isTyped = false) :
    row.withoutSupport sourceKey = row := by
  cases hpayload : row.payload.parsed with
  | object =>
    rw [withoutSupport_eq sourceKey hpayload]
    split
    · rename_i hloss
      rw [isTyped_of_object hpayload, (supportLoss_kind hloss).1] at huntyped
      cases huntyped
    · rfl
  | _ =>
    unfold WorkingContextRow.withoutSupport
    rw [hpayload]

theorem isTyped_withoutSupport [LawfulForgetHost] :
    (row.withoutSupport sourceKey).isTyped = row.isTyped := by
  cases htyped : row.isTyped with
  | false => rw [withoutSupport_of_untyped htyped, htyped]
  | true =>
    cases hpayload : row.payload.parsed with
    | object =>
      rw [withoutSupport_eq sourceKey hpayload]
      split
      · rename_i hloss
        exact (supportLoss_kind hloss).2
      · exact htyped
    | _ =>
      unfold WorkingContextRow.isTyped at htyped
      rw [hpayload] at htyped
      cases htyped

omit [ForgetHost] in
theorem redactOwn_of_typed (hpayload : row.payload.parsed = .object fields)
    (htyped : isTypedEnvelope fields = true) :
    redactWorkingContextOwnText row =
      { row with
        payload := .json (.object (setField fields "text" (.text ""))) } := by
  unfold redactWorkingContextOwnText
  rw [hpayload]
  simp only [htyped, if_true]

omit [ForgetHost] in
theorem any_of_isTypedEnvelope (htyped : isTypedEnvelope fields = true) :
    fields.any (·.1 = "interpretationEnvelope") = true := by
  cases hany : fields.any (·.1 = "interpretationEnvelope") with
  | true => rfl
  | false =>
    have hnone : getField fields "interpretationEnvelope" = none := by
      unfold getField
      rw [List.find?_eq_none.mpr (any_eq_false.mp hany)]
      rfl
    unfold isTypedEnvelope at htyped
    rw [hnone] at htyped
    cases htyped

omit [ForgetHost] in
theorem redactOwn_id (row : WorkingContextRow) :
    (redactWorkingContextOwnText row).id = row.id := by
  unfold redactWorkingContextOwnText
  split
  · split <;> rfl
  · rfl

theorem unsupported_workingContext (edges : List SupportEdge)
    (row : WorkingContextRow) :
    unsupported edges targets .workingContext row =
      (forgottenSupportKeys targets).eraseDups.foldl
        (fun row sourceKey => row.supportLost edges sourceKey) row :=
  rfl

omit [ForgetHost] in
theorem isTypedEnvelope_setText (fields : List (String × JsonValue))
    (value : JsonValue) :
    isTypedEnvelope (setField fields "text" value) =
      isTypedEnvelope fields := by
  unfold isTypedEnvelope
  rw [getField_setField_of_ne _ _ (by decide)]

/-- An item loses its own text and a source in either order. -/
theorem redactOwn_withoutSupport [LawfulForgetHost] (sourceKey : String)
    (row : WorkingContextRow) :
    (redactWorkingContextOwnText row).withoutSupport sourceKey =
      redactWorkingContextOwnText (row.withoutSupport sourceKey) := by
  cases htyped : row.isTyped with
  | false =>
    rw [withoutSupport_of_untyped htyped]
    have hrepair : (redactWorkingContextOwnText row).isTyped = false := by
      unfold redactWorkingContextOwnText
      split
      · rename_i hpayload
        rw [isTyped_of_object hpayload] at htyped
        rw [if_neg (by rw [htyped]; decide)]
        rfl
      · rfl
    exact withoutSupport_of_untyped hrepair
  | true =>
    cases hpayload : row.payload.parsed with
    | object fields =>
      rw [isTyped_of_object hpayload] at htyped
      have hpayload' : ({ row with
          payload := .json (.object (setField fields "text" (.text ""))) }
          : WorkingContextRow).payload.parsed =
          .object (setField fields "text" (.text "")) := rfl
      rw [redactOwn_of_typed hpayload htyped,
        withoutSupport_eq sourceKey hpayload,
        withoutSupport_eq sourceKey hpayload',
        getField_setField_of_ne _ _ (by decide)]
      cases hloss : supportLoss sourceKey
          (getField fields "interpretationEnvelope")
          row.applicabilityLifecycle with
      | none => exact (redactOwn_of_typed hpayload htyped).symm
      | some =>
        simp only
        rw [redactOwn_of_typed rfl (supportLoss_kind hloss).2]
        have hpresent :
            fields.any (·.1 = "interpretationEnvelope") = true :=
          any_of_isTypedEnvelope htyped
        rw [setField_comm fields _ _ (by decide) hpresent]
    | _ =>
      unfold WorkingContextRow.isTyped at htyped
      rw [hpayload] at htyped
      cases htyped

/-- An item loses its own text and all its sources in either order. -/
theorem redactOwn_unsupported [LawfulForgetHost] (edges : List SupportEdge)
    (row : WorkingContextRow) :
    unsupported edges targets .workingContext
        (redactWorkingContextOwnText row) =
      redactWorkingContextOwnText
        (unsupported edges targets .workingContext row) := by
  rw [unsupported_workingContext, unsupported_workingContext]
  induction (forgottenSupportKeys targets).eraseDups generalizing row with
  | nil => rfl
  | cons sourceKey _ ih =>
    rw [foldl_cons]
    have hlost : (redactWorkingContextOwnText row).supportLost edges
        sourceKey =
        redactWorkingContextOwnText (row.supportLost edges sourceKey) := by
      have hid : (redactWorkingContextOwnText row).id = row.id :=
        redactOwn_id row
      unfold WorkingContextRow.supportLost
      rw [hid]
      split
      · exact redactOwn_withoutSupport sourceKey row
      · rfl
    rw [hlost]
    exact ih _

/-- A row that lost a source keeps its key. -/
theorem unsupported_uuid (edges : List SupportEdge) (row : Row entity) :
    entityUuid entity (unsupported edges targets entity row) =
      entityUuid entity row := by
  by_cases hcontext : entity = .workingContext
  · subst hcontext
    rw [unsupported_workingContext]
    induction (forgottenSupportKeys targets).eraseDups generalizing row with
    | nil => rfl
    | cons sourceKey _ ih =>
      rw [foldl_cons, ih]
      exact supportLost_id edges sourceKey row
  · rw [unsupported_eq_redactQuotes edges hcontext]
    exact redactQuotes_uuid _ row

theorem any_topicHits_uuid (uuidHolds : String → Bool) :
    (targetIds (planTargets topic db) entity).any uuidHolds =
      (db.topicHits topic entity).any fun hit =>
        uuidHolds (entityUuid entity hit) := by
  rw [Bool.eq_iff_iff, any_eq_true, any_eq_true,
    targetIds_planTargets]
  constructor
  · rintro ⟨_, huuid, hholds⟩
    rw [mem_listed_hitUuids] at huuid
    obtain ⟨hit, hhit, rfl⟩ := mem_map.mp huuid
    exact ⟨hit, hhit, hholds⟩
  · rintro ⟨_, hhit, hholds⟩
    exact ⟨_, mem_listed_hitUuids.mpr (mem_map_of_mem hhit), hholds⟩

/-- Losing a source makes no difference to the statements that reach a row. -/
theorem hitReaches_unsupported (edges : List SupportEdge)
    (hit row : Row entity) :
    hitReaches entity hit (unsupported edges targets entity row) =
        hitReaches entity hit row ∧
      hitReaches entity (unsupported edges targets entity hit) row =
        hitReaches entity hit row := by
  by_cases hsupported : entity ∈ supportedTables
  · have hpaired : entity.isPaired = false := by
      revert hsupported
      cases entity <;> decide
    rw [hitReaches_eq hpaired, hitReaches_eq hpaired, hitReaches_eq hpaired,
      unsupported_uuid, unsupported_uuid]
    exact ⟨rfl, rfl⟩
  · rw [unsupported_eq_id edges hsupported]
    exact ⟨rfl, rfl⟩

/-- The forgotten row of a source loses nothing more with its own sources. -/
theorem forgotten_unsupported [LawfulForgetHost] (mode : Redaction)
    (edges : List SupportEdge) (row : Row entity)
    (hsource : entity ∈ sourceOrder) :
    (forgotten mode nowMs entity row).map (unsupported edges targets entity) =
      forgotten mode nowMs entity (unsupported edges targets entity row) := by
  by_cases hsupported : entity ∈ supportedTables
  · cases entity with
    | workingContext => exact congrArg some (redactOwn_unsupported edges row)
    | concern | deskEntry => rfl
    | memorySupport => exact absurd hsource (by decide)
    | _ => exact absurd hsupported (by decide)
  · rw [unsupported_eq_id edges hsupported, Option.map_id]
    rfl

theorem forgetRows_map_unsupported [LawfulForgetHost] {edges : List SupportEdge}
    (hsource : entity ∈ sourceOrder)
    (hp : ∀ row, p (unsupported edges targets entity row) = p row)
    (rows : List (Row entity)) :
    (forgetRows mode nowMs entity p rows).map
        (unsupported edges targets entity) =
      forgetRows mode nowMs entity p
        (rows.map (unsupported edges targets entity)) := by
  unfold forgetRows
  rw [map_filterMap, filterMap_map]
  apply filterMap_congr
  intro row _
  simp only [Function.comp_apply]
  rw [hp]
  split
  · exact forgotten_unsupported mode edges row hsource
  · rfl

/-- The sources that the forget of the topic removes are those of the plan. -/
theorem unsupported_sweepSources :
    unsupported (sweepSources topic nowMs db).db.supportEdges
        (sweepSources topic nowMs db).targets entity =
      unsupported db.supportEdges (planTargets topic db) entity := by
  have hprogress : Progress topic nowMs db db (sourceOrder.reverse ++ [])
      (sourceOrder.reverse ++ []) (sweepSources topic nowMs db) :=
    sweepSources_progress
  apply unsupported_congr
  · rw [hprogress.ids _ (by decide) (by decide), targetIds_planTargets]
  · rw [hprogress.ids _ (by decide) (by decide), targetIds_planTargets]
  · rw [hprogress.ids _ (by decide) (by decide), targetIds_planTargets]

/-- Every table but that of the watches, after a forget by the topic. -/
theorem rows_sweepTopic_unsupported [LawfulForgetHost]
    (hwatch : entity ≠ .attentionWatch) :
    (sweepTopic topic nowMs db).db.rows entity =
      forgetRows (.ofTopic topic) nowMs entity
        (fun row => (db.topicHits topic entity).any (hitReaches entity · row))
        ((db.rows entity).map
          (unsupported db.supportEdges (planTargets topic db) entity)) := by
  by_cases hsource : entity ∈ sourceOrder
  · rw [sweepTopic_rows_source hsource, unsupported_sweepSources]
    apply forgetRows_map_unsupported hsource
    intro row
    congr 1
    funext hit
    exact (hitReaches_unsupported db.supportEdges hit row).1
  · have hderived : entity ∈ derivedOrder := by
      revert hsource
      cases entity <;> decide
    have hcontext : entity ≠ .workingContext := by
      rintro rfl
      exact hsource (by decide)
    rw [sweepTopic_rows_derived hderived hwatch, unsupported_sweepSources]
    apply forgetRows_congr
    intro row _
    have hhits : isHit topic (db.foundBy topic) entity ∘
        unsupported db.supportEdges (planTargets topic db) entity =
        isHit topic (db.foundBy topic) entity := by
      rw [unsupported_eq_redactQuotes _ hcontext]
      exact funext (isHit_redactQuotes _)
    rw [filter_map, hhits, any_map]
    congr 1
    funext hit
    exact (hitReaches_unsupported db.supportEdges hit row).2

/-- The tables that both forgets leave alike whatever the keys are. -/
theorem map_standing_eq [LawfulForgetHost]
    (hwatch : entity ≠ .attentionWatch) (hoccupancy : entity ≠ .occupancy) :
    ((sweepTopic topic nowMs db).db.rows entity).map (standing entity) =
      ((forgetTargets (planTargets topic db) nowMs db).rows entity).map
        (standing entity) := by
  rw [rows_sweepTopic_unsupported hwatch, rows_forgetTargets hwatch]
  apply map_standing_forgetRows
  intro _ _
  unfold listReaches
  rw [any_topicHits_uuid]
  cases entity with
  | occupancy => exact absurd rfl hoccupancy
  | _ => rfl

theorem watches_eq :
    (sweepTopic topic nowMs db).db.rows .attentionWatch =
      (forgetTargets (planTargets topic db) nowMs db).rows .attentionWatch := by
  rw [watches_sweepTopic, watches_forgetTargets]
  have hbeside : db.watchesBeside (db.hitUuids topic .settlement) =
      db.watchesBeside (targetIds (planTargets topic db) .settlement) := by
    apply watchesBeside_congr rfl rfl
    intro _
    rw [targetIds_planTargets, mem_listed_hitUuids]
  rw [hbeside]
  apply filter_congr
  intro _ hrow
  have hmem := (mem_watchesBeside.mp hrow).1
  rw [Bool.eq_iff_iff, Bool.not_eq_true', decide_eq_true_eq,
    targetIds_planTargets, mem_listed_hitUuids]
  constructor
  · intro hmissed hlisted
    obtain ⟨_, hhit, huuid⟩ := mem_map.mp hlisted
    obtain ⟨hhitMem, hhitTrue⟩ := mem_topicHits.mp hhit
    rw [watch_eq_of_uuid hhitMem hmem huuid, hmissed] at hhitTrue
    cases hhitTrue
  · intro hunlisted
    rw [← Bool.not_eq_true]
    intro hhit
    exact hunlisted (mem_map_of_mem (mem_topicHits.mpr ⟨hmem, hhit⟩))

end Outcomes

section Occupancies

variable [ForgetHost] {topic : String} {nowMs : Int} {db : ForgetDb}
variable {first second : String}

/-- A text that stands before the first colon of a joined key. -/
def isPlainId (id : String) : Bool := id ≠ "" && ':' ∉ id.toList

omit [ForgetHost] in
theorem takeWhile_join {first second : List Char} (hplain : ':' ∉ first) :
    (first ++ ':' :: second).takeWhile (· ≠ ':') = first := by
  induction first with
  | nil => rfl
  | cons c _ ih =>
    rw [mem_cons, not_or] at hplain
    rw [cons_append, takeWhile_cons_of_pos
      (by simpa using Ne.symm hplain.1), ih hplain.2]

omit [ForgetHost] in
theorem toList_join (first second : String) :
    (first ++ ":" ++ second).toList = first.toList ++ ':' :: second.toList := by
  simp

omit [ForgetHost] in
/-- A joined key is split where it was joined. -/
theorem splitKey_join (hplain : isPlainId first = true) :
    splitKey (first ++ ":" ++ second) = some (first, second) := by
  unfold isPlainId at hplain
  rw [Bool.and_eq_true, decide_eq_true_eq, decide_eq_true_eq] at hplain
  obtain ⟨hnamed, hcolon⟩ := hplain
  unfold splitKey
  rw [toList_join, takeWhile_join hcolon]
  have hfirst : first.toList ≠ [] := fun hnil =>
    hnamed (String.toList_eq_nil_iff.mp hnil)
  have hwhole : first.toList ≠ first.toList ++ ':' :: second.toList := by
    intro hsame
    have hlength := congrArg List.length hsame
    simp at hlength
  simp [hfirst, hwhole]

omit [ForgetHost] in
/-- Only a text before the first colon comes out of a split. -/
theorem splitKey_some {uuid : String}
    (hsplit : splitKey uuid = some (first, second)) :
    isPlainId first = true ∧ uuid = first ++ ":" ++ second := by
  unfold splitKey at hsplit
  simp only at hsplit
  split at hsplit
  · cases hsplit
  · rename_i hends
    push Not at hends
    obtain ⟨hnonempty, hshort⟩ := hends
    rw [Option.some.injEq] at hsplit
    obtain ⟨rfl, rfl⟩ := hsplit
    have hparts : uuid.toList.takeWhile (· ≠ ':') ++
        uuid.toList.dropWhile (· ≠ ':') = uuid.toList :=
      takeWhile_append_dropWhile
    have hclean : ':' ∉ uuid.toList.takeWhile (· ≠ ':') := by
      intro hmem
      have hne := mem_takeWhile_imp hmem
      simp at hne
    generalize hw : uuid.toList.takeWhile (· ≠ ':') = before at *
    cases hd : uuid.toList.dropWhile (· ≠ ':') with
    | nil =>
      rw [hd, append_nil] at hparts
      exact absurd hparts hshort
    | cons c rest =>
      have hcolon : c = ':' := by
        have hhead := List.head?_dropWhile_not (· ≠ ':') uuid.toList
        rw [hd] at hhead
        simpa using hhead
      subst hcolon
      rw [hd] at hparts
      have hrest : uuid.toList.drop (before.length + 1) = rest := by
        rw [← hparts, ← drop_drop, drop_left]
        rfl
      constructor
      · unfold isPlainId
        rw [Bool.and_eq_true, decide_eq_true_eq, decide_eq_true_eq,
          String.toList_ofList]
        refine ⟨fun hempty => hnonempty ?_, hclean⟩
        have hchars := congrArg String.toList hempty
        rw [String.toList_ofList] at hchars
        exact hchars
      · rw [hrest]
        apply String.toList_inj.mp
        rw [toList_join, String.toList_ofList, String.toList_ofList]
        exact hparts.symm

/-- The occupancies that are hit have no colon in their conversation. -/
def OccupanciesPlain (topic : String) (db : ForgetDb) : Prop :=
  ∀ row ∈ db.topicHits topic .occupancy, isPlainId row.conversationId = true

omit [ForgetHost] in
theorem filter_eq_filter_iff {α : Type} {p q : α → Bool} {items : List α} :
    items.filter p = items.filter q ↔ ∀ item ∈ items, p item = q item := by
  constructor
  · intro hsame item hitem
    rw [Bool.eq_iff_iff]
    have hmem : item ∈ items.filter p ↔ item ∈ items.filter q := by rw [hsame]
    rw [mem_filter, mem_filter] at hmem
    exact ⟨fun hp => (hmem.mp ⟨hitem, hp⟩).2, fun hq => (hmem.mpr ⟨hitem, hq⟩).2⟩
  · exact filter_congr

theorem forgetRows_occupancy {mode : Redaction} {p : OccupancyRow → Bool}
    (rows : List OccupancyRow) :
    forgetRows mode nowMs .occupancy p rows = rows.filter fun row => !p row := by
  unfold forgetRows
  induction rows with
  | nil => rfl
  | cons row _ ih =>
    rw [filterMap_cons, filter_cons]
    by_cases hp : p row = true
    · rw [hp]
      exact ih
    · rw [Bool.eq_false_of_not_eq_true hp, ih]
      rfl

theorem hit_occupancy {row : OccupancyRow} (hrow : row ∈ db.rows .occupancy) :
    (db.topicHits topic .occupancy).any (hitReaches .occupancy · row) =
      isHit topic (db.foundBy topic) .occupancy row := by
  rw [Bool.eq_iff_iff, any_eq_true]
  constructor
  · rintro ⟨hit, hhit, hreaches⟩
    simp only [hitReaches, Bool.and_eq_true, decide_eq_true_eq] at hreaches
    obtain ⟨hmem, htrue⟩ := mem_topicHits.mp hhit
    have hsame : hit = row :=
      eq_of_rowKey hmem hrow (congrArg₂ RowKey.pair hreaches.1 hreaches.2)
    rw [← hsame]
    exact htrue
  · intro htrue
    refine ⟨row, mem_topicHits.mpr ⟨hrow, htrue⟩, ?_⟩
    simp [hitReaches]

theorem any_topicHits_splitKey :
    ((targetIds (planTargets topic db) entity).any fun uuid =>
        splitKey uuid = some (first, second)) = true ↔
      ∃ hit ∈ db.topicHits topic entity, isPlainId first = true ∧
        entityUuid entity hit = first ++ ":" ++ second := by
  rw [any_topicHits_uuid, any_eq_true]
  constructor
  · rintro ⟨hit, hhit, hreaches⟩
    have hsplit := splitKey_some (of_decide_eq_true hreaches)
    exact ⟨hit, hhit, hsplit.1, hsplit.2⟩
  · rintro ⟨hit, hhit, hplain, huuid⟩
    refine ⟨hit, hhit, decide_eq_true ?_⟩
    rw [huuid]
    exact splitKey_join hplain

theorem listed_occupancy (row : OccupancyRow) :
    listReaches (planTargets topic db) .occupancy row = true ↔
      ∃ hit ∈ db.topicHits topic .occupancy,
        isPlainId row.conversationId = true ∧
          entityUuid .occupancy hit = entityUuid .occupancy row := by
  exact any_topicHits_splitKey

/-- The occupancies are deleted alike when their conversations are plain. -/
theorem occupancies_eq_iff [LawfulForgetHost] :
    (sweepTopic topic nowMs db).db.rows .occupancy =
        (forgetTargets (planTargets topic db) nowMs db).rows .occupancy ↔
      OccupanciesPlain topic db := by
  rw [rows_sweepTopic_unsupported (by decide), rows_forgetTargets (by decide),
    unsupported_eq_id _ (by decide), map_id, forgetRows_occupancy,
    forgetRows_occupancy, filter_eq_filter_iff]
  constructor
  · intro hsame row hrow
    obtain ⟨hmem, htrue⟩ := mem_topicHits.mp hrow
    have hreached := hsame row hmem
    rw [hit_occupancy hmem, htrue] at hreached
    have hlisted : listReaches (planTargets topic db) .occupancy row = true := by
      simpa using hreached
    obtain ⟨-, -, hplain, -⟩ := (listed_occupancy row).mp hlisted
    exact hplain
  · intro hplain row hmem
    rw [hit_occupancy hmem, Bool.eq_iff_iff, Bool.not_eq_true',
      Bool.not_eq_true', Bool.eq_false_iff, Bool.eq_false_iff]
    apply not_congr
    rw [listed_occupancy]
    constructor
    · intro htrue
      have hrow := mem_topicHits.mpr ⟨hmem, htrue⟩
      exact ⟨row, hrow, hplain row hrow, rfl⟩
    · rintro ⟨hit, hhit, hrowPlain, huuid⟩
      obtain ⟨hhitMem, hhitTrue⟩ := mem_topicHits.mp hhit
      have hsplit : splitKey (hit.conversationId ++ ":" ++ hit.concernId) =
          some (hit.conversationId, hit.concernId) :=
        splitKey_join (hplain hit hhit)
      have hrowSplit : splitKey (row.conversationId ++ ":" ++ row.concernId) =
          some (row.conversationId, row.concernId) := splitKey_join hrowPlain
      have hpairs : some (hit.conversationId, hit.concernId) =
          some (row.conversationId, row.concernId) := by
        rw [← hsplit, ← hrowSplit]
        exact congrArg splitKey huuid
      obtain ⟨hconversation, hconcern⟩ := Prod.mk.inj (Option.some.inj hpairs)
      rw [← eq_of_rowKey hhitMem hmem
        (congrArg₂ RowKey.pair hconversation hconcern)]
      exact hhitTrue

end Occupancies

section Episodes

variable [ForgetHost] {topic : String} {nowMs : Int} {db : ForgetDb}
  {targets : List ForgetTarget} {entity : ForgetEntity}

variable {sweep : Sweep} {order : List ForgetEntity}

theorem episodeIndex_forget_of_ne (hepisode : entity ≠ .episode) :
    (sweep.forget topic nowMs entity).db.episodeIndex =
      sweep.db.episodeIndex := by
  cases entity <;> first | rfl | exact absurd rfl hepisode

theorem episodeIndex_forget_self (sweep : Sweep) :
    (sweep.forget topic nowMs .episode).db.episodeIndex =
      sweep.db.episodeIndex.filter fun entry =>
        entry.1 ∉ (sweep.db.hits topic (sweep.db.found sweep.targets)
          .episode).map (entityUuid .episode) :=
  rfl

theorem episodeIndex_foldl_forget (hepisode : ForgetEntity.episode ∉ order) :
    (order.foldl (Sweep.forget topic nowMs) sweep).db.episodeIndex =
      sweep.db.episodeIndex := by
  induction order generalizing sweep with
  | nil => rfl
  | cons _ _ ih =>
    rw [mem_cons, not_or] at hepisode
    rw [foldl_cons, ih hepisode.2,
      episodeIndex_forget_of_ne (Ne.symm hepisode.1)]

theorem episodeIndex_forgetListed_of_ne (hepisode : entity ≠ .episode) :
    (db.forgetListed targets nowMs entity).episodeIndex =
      db.episodeIndex := by
  cases entity <;> first | rfl | exact absurd rfl hepisode

theorem episodeIndex_foldl_forgetListed
    (hepisode : ForgetEntity.episode ∉ order) :
    (order.foldl (ForgetDb.forgetListed targets nowMs) db).episodeIndex =
      db.episodeIndex := by
  induction order generalizing db with
  | nil => rfl
  | cons _ _ ih =>
    rw [mem_cons, not_or] at hepisode
    rw [foldl_cons, ih hepisode.2,
      episodeIndex_forgetListed_of_ne (Ne.symm hepisode.1)]

theorem episodeIndex_mark (db : ForgetDb) (sourceKeys : List String) :
    (db.markInterpretationSupportUnavailable sourceKeys).episodeIndex =
      db.episodeIndex := by
  unfold ForgetDb.markInterpretationSupportUnavailable
  induction sourceKeys.eraseDups generalizing db with
  | nil => rfl
  | cons _ _ ih =>
    rw [foldl_cons, ih]
    rfl

/-- The sweep up to the episodes. -/
def beforeEpisodes (topic : String) (nowMs : Int) (db : ForgetDb) : Sweep :=
  (derivedOrder.take 7).foldl (Sweep.forget topic nowMs)
    ⟨unsupportedDb topic nowMs db, (sweepSources topic nowMs db).targets⟩

theorem beforeEpisodes_progress :
    Progress topic nowMs db (unsupportedDb topic nowMs db)
      ((derivedOrder.take 7).reverse ++ [])
      ((derivedOrder.take 7).reverse ++ (sourceOrder.reverse ++ []))
      (beforeEpisodes topic nowMs db) :=
  unsupportedDb_progress.foldl
    (fun _ hentity => absurd hentity not_mem_nil)
    (derivedOrder.take 7) (by decide)
    fun _ hentity hwatch =>
      unsupportedDb_hits (mem_of_mem_take hentity) hwatch

theorem episodeIndex_sweepTopic :
    (sweepTopic topic nowMs db).db.episodeIndex =
      db.episodeIndex.filter fun entry =>
        entry.1 ∉ db.hitUuids topic .episode := by
  have hprogress : Progress topic nowMs db (unsupportedDb topic nowMs db)
      ((derivedOrder.take 7).reverse ++ [])
      ((derivedOrder.take 7).reverse ++ (sourceOrder.reverse ++ []))
      (beforeEpisodes topic nowMs db) := beforeEpisodes_progress
  have hhits : (((beforeEpisodes topic nowMs db).db.hits topic
      ((beforeEpisodes topic nowMs db).db.found
        (beforeEpisodes topic nowMs db).targets) .episode).map
          (entityUuid .episode)) = db.hitUuids topic .episode := by
    rw [← unsupportedDb_hits (by decide) (by decide)]
    unfold ForgetDb.hits
    rw [hprogress.isHit_eq (by decide),
      hprogress.rest .episode (by decide) (by decide)]
  have hbefore : (beforeEpisodes topic nowMs db).db.episodeIndex =
      db.episodeIndex := by
    unfold beforeEpisodes
    rw [episodeIndex_foldl_forget (by decide)]
    unfold unsupportedDb ForgetDb.forgetSupports
    rw [episodeIndex_mark]
    exact episodeIndex_foldl_forget (by decide)
  have horder : derivedOrder =
      derivedOrder.take 7 ++ .episode :: derivedOrder.drop 8 := rfl
  rw [sweepTopic_eq, horder, foldl_append, foldl_cons,
    episodeIndex_foldl_forget (by decide), episodeIndex_forget_self]
  change List.filter (fun entry => decide (entry.1 ∉
    ((beforeEpisodes topic nowMs db).db.hits topic
      ((beforeEpisodes topic nowMs db).db.found
        (beforeEpisodes topic nowMs db).targets) .episode).map
          (entityUuid .episode)))
    (beforeEpisodes topic nowMs db).db.episodeIndex = _
  rw [hbefore, hhits]

theorem episodeIndex_forgetTargets :
    (forgetTargets targets nowMs db).episodeIndex =
      db.episodeIndex.filter fun entry =>
        entry.1 ∉ targetIds targets .episode := by
  have horder : listedDerivedOrder =
      [.workingContext, .episode] ++ listedDerivedOrder.drop 2 := rfl
  have hcontext : ForgetEntity.workingContext ≠ .episode := by decide
  have hsources : ForgetEntity.episode ∉ listedSourceOrder := by decide
  have hself (db : ForgetDb) :
      (db.forgetListed targets nowMs .episode).episodeIndex =
        db.episodeIndex.filter fun entry =>
          entry.1 ∉ targetIds targets .episode := rfl
  rw [forgetTargets_eq, horder, foldl_append,
    episodeIndex_foldl_forgetListed (by decide), foldl_cons,
    foldl_cons, foldl_nil, hself,
    episodeIndex_forgetListed_of_ne hcontext, episodeIndex_mark,
    episodeIndex_foldl_forgetListed hsources]
  rfl

/-- The forget of the topic and that of its plan leave the same rows and
statuses, unless a hit occupancy has a colon in its conversation. -/
theorem sameOutcome_iff [LawfulForgetHost] :
    SameOutcome (sweepTopic topic nowMs db).db
        (forgetTargets (planTargets topic db) nowMs db) ↔
      OccupanciesPlain topic db := by
  have hoccupancies : (sweepTopic topic nowMs db).db.rows .occupancy =
      (forgetTargets (planTargets topic db) nowMs db).rows .occupancy ↔
        OccupanciesPlain topic db := occupancies_eq_iff
  rw [← hoccupancies]
  constructor
  · intro hsame
    have hrows := hsame.rows .occupancy
    have hid : standing .occupancy = id := rfl
    rw [hid, map_id, map_id] at hrows
    exact hrows
  · intro hoccupancies
    constructor
    · intro entity
      by_cases hwatch : entity = .attentionWatch
      · rw [hwatch, watches_eq]
      · by_cases hoccupancy : entity = .occupancy
        · rw [hoccupancy, hoccupancies]
        · exact map_standing_eq hwatch hoccupancy
    · rw [episodeIndex_sweepTopic, episodeIndex_forgetTargets]
      apply filter_congr
      intro _ _
      rw [targetIds_planTargets]
      exact decide_eq_decide.mpr (not_congr mem_listed_hitUuids.symm)

end Episodes

end CognitiveSidecar.Forget
