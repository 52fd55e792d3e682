/-
What a sweep does to each table.  The tables are swept one after the other and
a later one is matched against what was found in the earlier ones; the rows of
each still come out as if every match had been made on the database before.
-/
import CognitiveSidecar.ForgetTopic

namespace CognitiveSidecar.Forget

open List Relational

section Targets

/-- The texts that a loop over the hits lists. -/
def listed (uuids : List String) : List String :=
  uuids.foldl (fun seen uuid =>
    if uuid = "" ∨ uuid ∈ seen then seen else seen ++ [uuid]) []

variable {uuids : List String} {uuid : String}

theorem mem_listed_foldl {seen : List String} :
    uuid ∈ uuids.foldl (fun seen uuid =>
        if uuid = "" ∨ uuid ∈ seen then seen else seen ++ [uuid]) seen ↔
      uuid ∈ seen ∨ (uuid ≠ "" ∧ uuid ∈ uuids) := by
  induction uuids generalizing seen with
  | nil => simp
  | cons first _ ih =>
    rw [foldl_cons, ih]
    by_cases hskip : first = "" ∨ first ∈ seen
    · rw [if_pos hskip, mem_cons]
      constructor
      · rintro (hseen | ⟨hnamed, hrest⟩)
        · exact .inl hseen
        · exact .inr ⟨hnamed, .inr hrest⟩
      · rintro (hseen | ⟨hnamed, rfl | hrest⟩)
        · exact .inl hseen
        · exact .inl (hskip.resolve_left hnamed)
        · exact .inr ⟨hnamed, hrest⟩
    · rw [if_neg hskip, mem_append, mem_singleton, mem_cons]
      push Not at hskip
      constructor
      · rintro ((hseen | rfl) | ⟨hnamed, hrest⟩)
        · exact .inl hseen
        · exact .inr ⟨hskip.1, .inl rfl⟩
        · exact .inr ⟨hnamed, .inr hrest⟩
      · rintro (hseen | ⟨hnamed, rfl | hrest⟩)
        · exact .inl (.inl hseen)
        · exact .inl (.inr rfl)
        · exact .inr ⟨hnamed, hrest⟩

theorem mem_listed :
    uuid ∈ listed uuids ↔ uuid ≠ "" ∧ uuid ∈ uuids := by
  unfold listed
  rw [mem_listed_foldl]
  simp

theorem targetIds_append_self (targets : List ForgetTarget)
    (target : ForgetTarget) :
    targetIds (targets ++ [target]) target.entityType =
      targetIds targets target.entityType ++ [target.entityUuid] := by
  simp [targetIds]

variable {target : ForgetTarget}

theorem targetIds_append_of_ne (hentity : target.entityType ≠ entity) :
    targetIds (targets ++ [target]) entity = targetIds targets entity := by
  simp [targetIds, hentity]

theorem mem_targetIds :
    uuid ∈ targetIds targets entity ↔
      ∃ target ∈ targets, target.entityType = entity ∧
        target.entityUuid = uuid := by
  simp [targetIds, and_assoc]

theorem targetIds_addTarget_self (targets : List ForgetTarget)
    (entity : ForgetEntity) (uuid : String) (action : ForgetAction) :
    targetIds (addTarget targets ⟨entity, uuid, action⟩) entity =
      if uuid = "" ∨ uuid ∈ targetIds targets entity then
        targetIds targets entity
      else targetIds targets entity ++ [uuid] := by
  unfold addTarget
  by_cases hskip : uuid = "" ∨ uuid ∈ targetIds targets entity
  · rw [if_pos hskip, if_pos]
    exact hskip.imp_right mem_targetIds.mp
  · rw [if_neg hskip, if_neg]
    · exact targetIds_append_self targets ⟨entity, uuid, action⟩
    · exact fun hlisted => hskip (hlisted.imp_right mem_targetIds.mpr)

theorem targetIds_addTarget_of_ne (hentity : target.entityType ≠ entity) :
    targetIds (addTarget targets target) entity =
      targetIds targets entity := by
  unfold addTarget
  split
  · rfl
  · exact targetIds_append_of_ne hentity

variable [ForgetHost] {topic : String} {db : ForgetDb}
  {targets : List ForgetTarget} {entity other : ForgetEntity}

theorem targetIds_discover_self (hfresh : targetIds targets entity = []) :
    targetIds (db.discover topic targets entity) entity =
      listed ((db.hits topic (db.found targets) entity).map
        (entityUuid entity)) := by
  unfold ForgetDb.discover listed
  generalize db.hits topic (db.found targets) entity = rows
  suffices hfold : ∀ targets : List ForgetTarget,
      targetIds (rows.foldl (fun targets row => addTarget targets
        ⟨entity, entityUuid entity row, entity.action⟩) targets) entity =
      (rows.map (entityUuid entity)).foldl (fun seen uuid =>
        if uuid = "" ∨ uuid ∈ seen then seen else seen ++ [uuid])
        (targetIds targets entity) by
    rw [hfold, hfresh]
  induction rows with
  | nil => exact fun _ => rfl
  | cons _ _ ih =>
    intro _
    rw [foldl_cons, map_cons, foldl_cons, ih,
      targetIds_addTarget_self]

theorem targetIds_discover_of_ne (hother : other ≠ entity) :
    targetIds (db.discover topic targets entity) other =
      targetIds targets other := by
  unfold ForgetDb.discover
  generalize db.hits topic (db.found targets) entity = rows
  induction rows generalizing targets with
  | nil => rfl
  | cons _ _ ih =>
    rw [foldl_cons, ih]
    exact targetIds_addTarget_of_ne (Ne.symm hother)

/-- Each target carries the action of its kind. -/
def Proper (targets : List ForgetTarget) : Prop :=
  ∀ target ∈ targets, target.action = target.entityType.action

omit [ForgetHost] in
theorem Proper.addTarget (hproper : Proper targets) (entity : ForgetEntity)
    (uuid : String) :
    Proper (addTarget targets ⟨entity, uuid, entity.action⟩) := by
  unfold Forget.addTarget
  split
  · exact hproper
  · intro target htarget
    rcases mem_append.mp htarget with hold | hnew
    · exact hproper target hold
    · rw [mem_singleton.mp hnew]

theorem Proper.discover (hproper : Proper targets) (db : ForgetDb)
    (entity : ForgetEntity) : Proper (db.discover topic targets entity) := by
  unfold ForgetDb.discover
  generalize db.hits topic (db.found targets) entity = rows
  induction rows generalizing targets with
  | nil => exact hproper
  | cons _ _ ih => exact ih (hproper.addTarget entity _)

omit [ForgetHost] in
/-- Proper targets are known by the texts listed for each kind. -/
theorem mem_iff_of_proper (hproper : Proper targets) :
    target ∈ targets ↔ target.action = target.entityType.action ∧
      target.entityUuid ∈ targetIds targets target.entityType := by
  rw [mem_targetIds]
  constructor
  · intro htarget
    exact ⟨hproper target htarget, target, htarget, rfl, rfl⟩
  · rintro ⟨haction, listed, hlisted, htype, huuid⟩
    have hsame : listed = target := by
      cases listed
      cases target
      have hlistedAction := hproper _ hlisted
      simp only at htype huuid haction hlistedAction
      subst htype huuid
      rw [haction, hlistedAction]
    rw [← hsame]
    exact hlisted

end Targets

section Matching

variable [ForgetHost] {topic : String} {entity : ForgetEntity}
variable {source : ForgetEntity}

/-- The table whose hits a table is matched against. -/
def ForgetEntity.reads : ForgetEntity → Option ForgetEntity
  | .episode | .threadStory => some .conversationEvidence
  | .occupancy | .futureTrigger => some .concern
  | .memorySupport => some .memoryAssertion
  | .journalEntry => some .observation
  | _ => none

/-- The texts found in a table that others are matched against. -/
def Found.ids (found : Found) : ForgetEntity → List String
  | .conversationEvidence => found.evidenceIds
  | .concern => found.concernIds
  | .observation => found.observationIds
  | .memoryAssertion => found.assertionKeys
  | _ => []

/-- Two findings agree on what was found in a table. -/
structure Found.AgreesOn (found other : Found) (source : ForgetEntity) :
    Prop where
  ids : ∀ id, id ∈ found.ids source ↔ id ∈ other.ids source
  conversations : source = .conversationEvidence →
    ∀ id, id ∈ found.conversations ↔ id ∈ other.conversations

omit [ForgetHost] in
theorem any_congr_mem {ids found other : List String}
    (hagrees : ∀ id, id ∈ found ↔ id ∈ other) :
    ids.any (· ∈ found) = ids.any (· ∈ other) := by
  congr 1
  funext id
  exact decide_eq_decide.mpr (hagrees id)

/-- A table is matched against nothing but what it reads. -/
theorem isHit_congr {found other : Found}
    (hagrees : ∀ source ∈ entity.reads, found.AgreesOn other source) :
    isHit topic found entity = isHit topic other entity := by
  funext row
  cases entity with
  | episode =>
    have hevidence : ∀ id, id ∈ found.evidenceIds ↔ id ∈ other.evidenceIds :=
      (hagrees _ rfl).ids
    simp only [isHit]
    rw [any_congr_mem hevidence]
  | threadStory =>
    have hconversations := (hagrees _ rfl).conversations rfl
    simp only [isHit]
    rw [decide_eq_decide.mpr (hconversations row.conversationId)]
  | occupancy =>
    exact decide_eq_decide.mpr ((hagrees _ rfl).ids row.concernId)
  | futureTrigger =>
    have hconcerns : row.concernId ∈ found.concernIds ↔
        row.concernId ∈ other.concernIds := (hagrees _ rfl).ids row.concernId
    simp only [isHit]
    rw [decide_eq_decide.mpr hconcerns]
  | memorySupport =>
    exact decide_eq_decide.mpr ((hagrees _ rfl).ids row.assertionKey)
  | journalEntry =>
    have hobservations : ∀ id, id ∈ found.observationIds ↔
        id ∈ other.observationIds := (hagrees _ rfl).ids
    simp only [isHit]
    rw [any_congr_mem hobservations]
  | _ => rfl

/-- What is found in the database before the forget changes anything. -/
def ForgetDb.foundBy (db : ForgetDb) (topic : String) : Found :=
  let ids entity :=
    (db.hits topic ⟨[], [], [], [], []⟩ entity).map (entityUuid entity)
  { evidenceIds := ids .conversationEvidence
    conversations := ((db.rows .conversationEvidence).filter
      (·.rowId ∈ ids .conversationEvidence)).map (·.conversationId)
    concernIds := ids .concern, observationIds := ids .observation
    assertionKeys := ids .memoryAssertion }

/-- The rows that a topic is in, or that depend on one it is in. -/
def ForgetDb.topicHits (db : ForgetDb) (topic : String)
    (entity : ForgetEntity) : List (Row entity) :=
  db.hits topic (db.foundBy topic) entity

def ForgetDb.hitUuids (db : ForgetDb) (topic : String)
    (entity : ForgetEntity) : List String :=
  (db.topicHits topic entity).map (entityUuid entity)

theorem foundBy_ids (db : ForgetDb)
    (hsource : ∃ reader : ForgetEntity, reader.reads = some source) :
    (db.foundBy topic).ids source = db.hitUuids topic source := by
  obtain ⟨reader, hreads⟩ := hsource
  cases reader <;> simp only [ForgetEntity.reads, Option.some.injEq,
    reduceCtorEq] at hreads
  all_goals (subst hreads; rfl)

/-- Targets whose texts are those of the hits find what the hits are. -/
theorem found_agreesOn {db current : ForgetDb} {targets : List ForgetTarget}
    (hsource : ∃ reader : ForgetEntity, reader.reads = some source)
    (hids : ∀ id, id ∈ targetIds targets source ↔
      id ∈ db.hitUuids topic source)
    (hrows : (current.rows .conversationEvidence).map
        (fun row => (row.rowId, row.conversationId)) =
      (db.rows .conversationEvidence).map
        (fun row => (row.rowId, row.conversationId))) :
    (current.found targets).AgreesOn (db.foundBy topic) source := by
  constructor
  · intro _
    rw [foundBy_ids db hsource, ← hids]
    obtain ⟨reader, hreads⟩ := hsource
    cases reader <;> simp only [ForgetEntity.reads, Option.some.injEq,
      reduceCtorEq] at hreads
    all_goals (subst hreads; rfl)
  · rintro rfl id
    have hpairs (rows : List EvidenceRow) (ids : List String) :
        (rows.filter (·.rowId ∈ ids)).map (·.conversationId) =
          ((rows.map fun row => (row.rowId, row.conversationId)).filter
            (·.1 ∈ ids)).map Prod.snd := by
      rw [filter_map, map_map]
      rfl
    change id ∈ ((current.rows .conversationEvidence).filter (·.rowId ∈
        targetIds targets .conversationEvidence)).map (·.conversationId) ↔
      id ∈ ((db.rows .conversationEvidence).filter (·.rowId ∈
        db.hitUuids topic .conversationEvidence)).map (·.conversationId)
    rw [hpairs, hpairs, hrows]
    simp only [mem_map, mem_filter, decide_eq_true_eq]
    constructor
    · rintro ⟨pair, ⟨hpair, hmem⟩, rfl⟩
      exact ⟨pair, ⟨hpair, (hids _).mp hmem⟩, rfl⟩
    · rintro ⟨pair, ⟨hpair, hmem⟩, rfl⟩
      exact ⟨pair, ⟨hpair, (hids _).mpr hmem⟩, rfl⟩

end Matching

section Rows

variable [ForgetHost] {topic : String} {nowMs : Int} {db : ForgetDb}
  {targets : List ForgetTarget} {entity other : ForgetEntity}

variable {mode : Redaction} {p : Row entity → Bool} {ids : List String}
variable {sweep : Sweep}

/-- The rows of a table after its statement ran on some of them. -/
def forgetRows (mode : Redaction) (nowMs : Int) (entity : ForgetEntity)
    (p : Row entity → Bool) (rows : List (Row entity)) : List (Row entity) :=
  rows.filterMap fun row =>
    if p row then forgotten mode nowMs entity row else some row

/-- The rows of a table after its hits were forgotten. -/
def sweepRows (topic : String) (nowMs : Int) (found : Found)
    (entity : ForgetEntity) (rows : List (Row entity)) : List (Row entity) :=
  forgetRows (.ofTopic topic) nowMs entity
    (fun row => (rows.filter (isHit topic found entity)).any
      (hitReaches entity · row)) rows

theorem rows_forgetWhere_self :
    (db.forgetWhere mode nowMs entity p).rows entity =
      forgetRows mode nowMs entity p (db.rows entity) :=
  ForgetDb.rows_rewrite_self

theorem rows_forgetWhere_of_ne (hother : other ≠ entity) :
    (db.forgetWhere mode nowMs entity p).rows other = db.rows other :=
  ForgetDb.rows_rewrite_of_ne hother

omit [ForgetHost] in
theorem rows_deleteWatches_of_ne {cycleIds : List String}
    (hwatch : other ≠ .attentionWatch) :
    (db.deleteWatches cycleIds).rows other = db.rows other := by
  unfold ForgetDb.deleteWatches
  rw [ForgetDb.rows_rewrite_of_ne hwatch]

omit [ForgetHost] in
/-- Beside its own table a forget deletes nothing but watches. -/
theorem rows_forgetBeside (entity : ForgetEntity)
    (hwatch : other ≠ .attentionWatch) :
    (db.forgetBeside entity ids).rows other = db.rows other := by
  cases entity with
  | settlement => exact rows_deleteWatches_of_ne hwatch
  | _ => rfl

omit [ForgetHost] in
theorem rows_forgetBeside_of_ne (hsettlement : entity ≠ .settlement) :
    (db.forgetBeside entity ids).rows other = db.rows other := by
  cases entity with
  | settlement => exact absurd rfl hsettlement
  | _ => rfl

theorem rows_forget_of_ne (hother : other ≠ entity)
    (hwatch : other ≠ .attentionWatch) :
    (sweep.forget topic nowMs entity).db.rows other = sweep.db.rows other := by
  unfold Sweep.forget
  rw [rows_forgetBeside entity hwatch, rows_forgetWhere_of_ne hother]

theorem rows_forget_self (hwatch : entity ≠ .attentionWatch) :
    (sweep.forget topic nowMs entity).db.rows entity =
      sweepRows topic nowMs (sweep.db.found sweep.targets) entity
        (sweep.db.rows entity) := by
  unfold Sweep.forget
  rw [rows_forgetBeside entity hwatch, rows_forgetWhere_self]
  rfl

theorem sweepRows_congr {found other : Found} {rows : List (Row entity)}
    (hhits : isHit topic found entity = isHit topic other entity) :
    sweepRows topic nowMs found entity rows =
      sweepRows topic nowMs other entity rows := by
  unfold sweepRows
  rw [hhits]

/-- The keys of the evidence and the conversations they belong to. -/
def ForgetDb.evidenceKeys (db : ForgetDb) : List (String × String) :=
  (db.rows .conversationEvidence).map fun row =>
    (row.rowId, row.conversationId)

theorem evidenceKeys_forgetRows {p : EvidenceRow → Bool}
    (rows : List EvidenceRow) :
    (forgetRows mode nowMs .conversationEvidence p rows).map
        (fun row : EvidenceRow => (row.rowId, row.conversationId)) =
      rows.map fun row => (row.rowId, row.conversationId) := by
  unfold forgetRows
  induction rows with
  | nil => rfl
  | cons row _ ih =>
    rw [filterMap_cons]
    by_cases hp : p row = true
    · rw [if_pos hp]
      exact congrArg (List.cons (row.rowId, row.conversationId)) ih
    · rw [if_neg hp]
      exact congrArg (List.cons (row.rowId, row.conversationId)) ih

end Rows

section Progress

variable [ForgetHost] {topic : String} {nowMs : Int}
  {origin base : ForgetDb} {done known : List ForgetEntity} {sweep : Sweep}

variable {entity : ForgetEntity}

/-- A sweep of `base` that has done some tables, where others may have been
swept before: what it found is what is to be found in `origin`. -/
structure Progress (topic : String) (nowMs : Int) (origin base : ForgetDb)
    (done known : List ForgetEntity) (sweep : Sweep) : Prop where
  rest : ∀ entity, entity ∉ done → entity ≠ .attentionWatch →
    sweep.db.rows entity = base.rows entity
  swept : ∀ entity ∈ done, entity ≠ .attentionWatch →
    sweep.db.rows entity = sweepRows topic nowMs (origin.foundBy topic) entity
      (base.rows entity)
  ids : ∀ entity ∈ known, entity ≠ .attentionWatch →
    targetIds sweep.targets entity = listed (origin.hitUuids topic entity)
  fresh : ∀ entity, entity ∉ known → targetIds sweep.targets entity = []
  evidence : sweep.db.evidenceKeys = origin.evidenceKeys
  proper : Proper sweep.targets

/-- The texts of the hits are all recorded. -/
theorem mem_listed_hitUuids {id : String} :
    id ∈ listed (origin.hitUuids topic entity) ↔
      id ∈ origin.hitUuids topic entity := by
  rw [mem_listed]
  constructor
  · exact And.right
  · intro hid
    obtain ⟨_, hrow, huuid⟩ := mem_map.mp hid
    refine ⟨?_, hid⟩
    rw [← huuid]
    exact origin.entityUuid_ne_empty (mem_of_mem_filter hrow)

omit [ForgetHost] in
theorem reads_ne_watch {source : ForgetEntity} (hreads : source ∈ entity.reads) :
    source ≠ .attentionWatch := by
  cases entity <;> cases hreads <;> decide

/-- The hits of the next table are those in the database before. -/
theorem Progress.isHit_eq
    (hprogress : Progress topic nowMs origin base done known sweep)
    (hreads : ∀ source ∈ entity.reads, source ∈ known) :
    isHit topic (sweep.db.found sweep.targets) entity =
      isHit topic (origin.foundBy topic) entity := by
  apply isHit_congr
  intro source hsource
  apply found_agreesOn ⟨entity, hsource⟩ ?_ hprogress.evidence
  intro _
  rw [hprogress.ids source (hreads source hsource) (reads_ne_watch hsource)]
  exact mem_listed_hitUuids

theorem Progress.forget
    (hprogress : Progress topic nowMs origin base done known sweep)
    (hdone : entity ∉ done) (hknown : entity ∉ known)
    (hreads : ∀ source ∈ entity.reads, source ∈ known)
    (hbase : entity ≠ .attentionWatch →
      (base.hits topic (origin.foundBy topic) entity).map (entityUuid entity) =
        origin.hitUuids topic entity) :
    Progress topic nowMs origin base (entity :: done) (entity :: known)
      (sweep.forget topic nowMs entity) := by
  have hhits := hprogress.isHit_eq hreads
  have hself (hwatch : entity ≠ .attentionWatch) :
      (sweep.forget topic nowMs entity).db.rows entity =
        sweepRows topic nowMs (origin.foundBy topic) entity
          (base.rows entity) := by
    rw [rows_forget_self hwatch, hprogress.rest entity hdone hwatch]
    exact sweepRows_congr hhits
  constructor
  · intro other hother hwatch
    rw [mem_cons, not_or] at hother
    rw [rows_forget_of_ne hother.1 hwatch]
    exact hprogress.rest other hother.2 hwatch
  · intro other hother hwatch
    rcases mem_cons.mp hother with rfl | hother
    · exact hself hwatch
    · have hne : other ≠ entity := fun heq => hdone (heq ▸ hother)
      rw [rows_forget_of_ne hne hwatch]
      exact hprogress.swept other hother hwatch
  · intro other hother hwatch
    by_cases hne : other = entity
    · subst hne
      unfold Sweep.forget
      rw [targetIds_discover_self (hprogress.fresh other hknown),
        ← hbase hwatch]
      unfold ForgetDb.hits
      rw [hhits, hprogress.rest other hdone hwatch]
    · unfold Sweep.forget
      rw [targetIds_discover_of_ne hne]
      exact hprogress.ids other
        ((mem_cons.mp hother).resolve_left hne) hwatch
  · intro other hother
    rw [mem_cons, not_or] at hother
    unfold Sweep.forget
    rw [targetIds_discover_of_ne hother.1]
    exact hprogress.fresh other hother.2
  · rw [← hprogress.evidence]
    by_cases hevidence : entity = .conversationEvidence
    · subst hevidence
      exact evidenceKeys_forgetRows _
    · unfold ForgetDb.evidenceKeys
      rw [rows_forget_of_ne (Ne.symm hevidence) (by decide)]
  · exact hprogress.proper.discover sweep.db entity

/-- Each table of the order comes after the one it reads, and once. -/
def ready : List ForgetEntity → List ForgetEntity → Bool
  | [], _ => true
  | entity :: rest, known =>
    entity ∉ known && entity.reads.all (· ∈ known) &&
      ready rest (entity :: known)

theorem Progress.foldl
    (hprogress : Progress topic nowMs origin base done known sweep)
    (hsub : ∀ entity ∈ done, entity ∈ known) (order : List ForgetEntity)
    (hready : ready order known = true)
    (hbase : ∀ entity ∈ order, entity ≠ .attentionWatch →
      (base.hits topic (origin.foundBy topic) entity).map (entityUuid entity) =
        origin.hitUuids topic entity) :
    Progress topic nowMs origin base (order.reverse ++ done)
      (order.reverse ++ known)
      (order.foldl (Sweep.forget topic nowMs) sweep) := by
  induction order generalizing sweep done known with
  | nil => exact hprogress
  | cons entity _ ih =>
    rw [ready, Bool.and_eq_true, Bool.and_eq_true, decide_eq_true_eq,
      Option.all_eq_true] at hready
    obtain ⟨⟨hknown, hreads⟩, hrest⟩ := hready
    have hstep := hprogress.forget (fun hdone => hknown (hsub entity hdone))
      hknown (fun source hsource => by simpa using hreads source hsource)
      (hbase entity mem_cons_self)
    have hfold := ih hstep
      (fun other hother => by
        rcases mem_cons.mp hother with rfl | hother
        · exact mem_cons_self
        · exact mem_cons_of_mem entity (hsub other hother))
      hrest (fun other hother =>
        hbase other (mem_cons_of_mem entity hother))
    rw [reverse_cons, append_assoc, append_assoc]
    exact hfold

end Progress

section Supports

variable [ForgetHost] {topic : String} {nowMs : Int} {db : ForgetDb}
  {targets : List ForgetTarget} {entity : ForgetEntity}

variable {sourceKeys : List String}

/-- What becomes of a row whose sources are forgotten. -/
def unsupported (edges : List SupportEdge) (targets : List ForgetTarget) :
    (entity : ForgetEntity) → Row entity → Row entity
  | .workingContext, row =>
    (forgottenSupportKeys targets).eraseDups.foldl
      (fun row sourceKey => row.supportLost edges sourceKey) row
  | entity, row =>
    redactQuotes (targetIds targets .conversationEvidence) entity row

omit [ForgetHost] in
theorem rows_rewrite_map {f : Row entity → Row entity}
    {hkey : ∀ row row', some (f row) = some row' →
      rowKey entity row' = rowKey entity row} :
    (db.rewrite entity (fun row => some (f row)) hkey).rows entity =
      (db.rows entity).map f := by
  rw [ForgetDb.rows_rewrite_self, filterMap_eq_map']

omit [ForgetHost] in
/-- The three tables that quote their sources are rewritten one by one. -/
theorem rows_redactTypedSupportRefs (evidenceIds : List String) :
    (db.redactTypedSupportRefs evidenceIds).rows entity =
      (db.rows entity).map (redactQuotes evidenceIds entity) := by
  unfold ForgetDb.redactTypedSupportRefs
  rw [foldl_cons, foldl_cons, foldl_cons, foldl_nil]
  cases entity with
  | deskEntry =>
    rw [rows_rewrite_map, ForgetDb.rows_rewrite_of_ne (by decide),
      ForgetDb.rows_rewrite_of_ne (by decide)]
  | concern =>
    rw [ForgetDb.rows_rewrite_of_ne (by decide), rows_rewrite_map,
      ForgetDb.rows_rewrite_of_ne (by decide)]
  | memorySupport =>
    rw [ForgetDb.rows_rewrite_of_ne (by decide),
      ForgetDb.rows_rewrite_of_ne (by decide), rows_rewrite_map]
  | _ =>
    exact (map_id' _).symm

theorem rows_mark_of_ne (hentity : entity ≠ .workingContext) :
    (db.markInterpretationSupportUnavailable sourceKeys).rows entity =
      db.rows entity := by
  unfold ForgetDb.markInterpretationSupportUnavailable
  induction sourceKeys.eraseDups generalizing db with
  | nil => rfl
  | cons _ _ ih =>
    rw [foldl_cons, ih]
    exact ForgetDb.rows_rewrite_of_ne hentity

theorem rows_mark :
    (db.markInterpretationSupportUnavailable sourceKeys).rows .workingContext =
      (db.rows .workingContext).map fun row =>
        sourceKeys.eraseDups.foldl
          (fun row sourceKey => row.supportLost db.supportEdges sourceKey)
          row := by
  unfold ForgetDb.markInterpretationSupportUnavailable
  induction sourceKeys.eraseDups generalizing db with
  | nil => exact (map_id' _).symm
  | cons _ _ ih =>
    rw [foldl_cons, ih]
    unfold ForgetDb.markSourceUnavailable
    rw [rows_rewrite_map, map_map]
    rfl

theorem rows_forgetSupports :
    (db.forgetSupports targets).rows entity =
      (db.rows entity).map (unsupported db.supportEdges targets entity) := by
  unfold ForgetDb.forgetSupports
  by_cases hcontext : entity = .workingContext
  · subst hcontext
    rw [rows_mark, rows_redactTypedSupportRefs, map_map]
    rfl
  · rw [rows_mark_of_ne hcontext, rows_redactTypedSupportRefs]
    cases entity <;> first | rfl | exact absurd rfl hcontext

omit [ForgetHost] in
theorem redactQuotes_uuid (evidenceIds : List String) (row : Row entity) :
    entityUuid entity (redactQuotes evidenceIds entity row) =
      entityUuid entity row := by
  unfold entityUuid
  rw [redactQuotes_key evidenceIds entity row _ rfl]

/-- No table is searched for quotes. -/
theorem isHit_redactQuotes {found : Found} (evidenceIds : List String)
    (row : Row entity) :
    isHit topic found entity (redactQuotes evidenceIds entity row) =
      isHit topic found entity row := by
  cases entity <;> rfl

theorem unsupported_eq_redactQuotes (edges : List SupportEdge)
    (hentity : entity ≠ .workingContext) :
    unsupported edges targets entity =
      redactQuotes (targetIds targets .conversationEvidence) entity := by
  cases entity <;> first | rfl | exact absurd rfl hentity

/-- The keys of the sources depend on three tables only. -/
theorem unsupported_congr {other : List ForgetTarget}
    (edges : List SupportEdge)
    (hevidence : targetIds targets .conversationEvidence =
      targetIds other .conversationEvidence)
    (hobservations : targetIds targets .observation =
      targetIds other .observation)
    (hreceipts : targetIds targets .effectReceipt =
      targetIds other .effectReceipt) :
    unsupported edges targets entity = unsupported edges other entity := by
  have hkeys : forgottenSupportKeys targets = forgottenSupportKeys other := by
    unfold forgottenSupportKeys
    rw [hevidence, hobservations, hreceipts]
  funext row
  cases entity with
  | workingContext => exact congrArg (fun keys : List String =>
    keys.eraseDups.foldl (fun row sourceKey =>
      WorkingContextRow.supportLost edges sourceKey row) row) hkeys
  | _ => exact congrArg (redactQuotes · _ row) hevidence

end Supports

section Whole

variable [ForgetHost] {topic : String} {nowMs : Int} {db : ForgetDb}
  {entity : ForgetEntity}

/-- The first half of the sweep of a topic. -/
def sweepSources (topic : String) (nowMs : Int) (db : ForgetDb) : Sweep :=
  sourceOrder.foldl (Sweep.forget topic nowMs) { db }

theorem start_progress : Progress topic nowMs db db [] [] { db } := by
  constructor
  · exact fun _ _ _ => rfl
  · exact fun _ hmem => absurd hmem not_mem_nil
  · exact fun _ hmem => absurd hmem not_mem_nil
  · exact fun _ _ => rfl
  · rfl
  · exact fun _ hmem => absurd hmem not_mem_nil

theorem sweepSources_progress :
    Progress topic nowMs db db (sourceOrder.reverse ++ [])
      (sourceOrder.reverse ++ []) (sweepSources topic nowMs db) :=
  start_progress.foldl (fun _ hentity => hentity) sourceOrder (by decide)
    fun _ _ _ => rfl

/-- The database between the two halves of the sweep. -/
def unsupportedDb (topic : String) (nowMs : Int) (db : ForgetDb) : ForgetDb :=
  (sweepSources topic nowMs db).db.forgetSupports
    (sweepSources topic nowMs db).targets

theorem sweepTopic_eq :
    sweepTopic topic nowMs db =
      derivedOrder.foldl (Sweep.forget topic nowMs)
        ⟨unsupportedDb topic nowMs db, (sweepSources topic nowMs db).targets⟩ :=
  rfl

theorem unsupportedDb_hits (hentity : entity ∈ derivedOrder)
    (hwatch : entity ≠ .attentionWatch) :
    ((unsupportedDb topic nowMs db).hits topic (db.foundBy topic) entity).map
        (entityUuid entity) = db.hitUuids topic entity := by
  have hcontext : entity ≠ .workingContext := by
    rintro rfl
    exact absurd hentity (by decide)
  have hsource : entity ∉ sourceOrder.reverse ++ [] := by
    revert hentity
    cases entity <;> decide
  unfold ForgetDb.hitUuids ForgetDb.topicHits ForgetDb.hits unsupportedDb
  rw [rows_forgetSupports, unsupported_eq_redactQuotes _ hcontext,
    sweepSources_progress.rest entity hsource hwatch, filter_map,
    map_map]
  have huuid : entityUuid entity ∘ redactQuotes (targetIds
      (sweepSources topic nowMs db).targets .conversationEvidence) entity =
      entityUuid entity := funext (redactQuotes_uuid _)
  have hhit : isHit topic (db.foundBy topic) entity ∘ redactQuotes (targetIds
      (sweepSources topic nowMs db).targets .conversationEvidence) entity =
      isHit topic (db.foundBy topic) entity := funext (isHit_redactQuotes _)
  rw [huuid, hhit]

theorem unsupportedDb_progress :
    Progress topic nowMs db (unsupportedDb topic nowMs db) []
      (sourceOrder.reverse ++ [])
      ⟨unsupportedDb topic nowMs db, (sweepSources topic nowMs db).targets⟩ := by
  have hsources : Progress topic nowMs db db (sourceOrder.reverse ++ [])
      (sourceOrder.reverse ++ []) (sweepSources topic nowMs db) :=
    sweepSources_progress
  constructor
  · exact fun _ _ _ => rfl
  · exact fun _ hmem => absurd hmem not_mem_nil
  · exact hsources.ids
  · exact hsources.fresh
  · rw [← hsources.evidence]
    unfold ForgetDb.evidenceKeys unsupportedDb
    rw [rows_forgetSupports]
    exact congrArg _ (map_id' _)
  · exact hsources.proper

theorem sweepTopic_progress :
    Progress topic nowMs db (unsupportedDb topic nowMs db)
      (derivedOrder.reverse ++ []) (derivedOrder.reverse ++
        (sourceOrder.reverse ++ [])) (sweepTopic topic nowMs db) := by
  exact unsupportedDb_progress.foldl
    (fun _ hentity => absurd hentity not_mem_nil) derivedOrder
    (by decide) fun _ hentity hwatch => unsupportedDb_hits hentity hwatch

/-- The tables that are swept before the interpretations are marked. -/
theorem sweepTopic_rows_source (hentity : entity ∈ sourceOrder) :
    (sweepTopic topic nowMs db).db.rows entity =
      (sweepRows topic nowMs (db.foundBy topic) entity (db.rows entity)).map
        (unsupported (sweepSources topic nowMs db).db.supportEdges
          (sweepSources topic nowMs db).targets entity) := by
  have hwatch : entity ≠ .attentionWatch := by
    rintro rfl
    exact absurd hentity (by decide)
  have hderived : entity ∉ derivedOrder.reverse ++ [] := by
    revert hentity
    cases entity <;> decide
  have hdone : entity ∈ sourceOrder.reverse ++ [] := by
    rw [append_nil, mem_reverse]
    exact hentity
  rw [sweepTopic_progress.rest entity hderived hwatch]
  unfold unsupportedDb
  rw [rows_forgetSupports, sweepSources_progress.swept entity hdone hwatch]

/-- The tables that are swept after it. -/
theorem sweepTopic_rows_derived (hentity : entity ∈ derivedOrder)
    (hwatch : entity ≠ .attentionWatch) :
    (sweepTopic topic nowMs db).db.rows entity =
      sweepRows topic nowMs (db.foundBy topic) entity ((db.rows entity).map
        (unsupported (sweepSources topic nowMs db).db.supportEdges
          (sweepSources topic nowMs db).targets entity)) := by
  have hsource : entity ∉ sourceOrder.reverse ++ [] := by
    revert hentity
    cases entity <;> decide
  have hdone : entity ∈ derivedOrder.reverse ++ [] := by
    rw [append_nil, mem_reverse]
    exact hentity
  rw [sweepTopic_progress.swept entity hdone hwatch]
  unfold unsupportedDb
  rw [rows_forgetSupports, sweepSources_progress.rest entity hsource hwatch]

theorem sweepTopic_ids (hwatch : entity ≠ .attentionWatch) :
    targetIds (sweepTopic topic nowMs db).targets entity =
      listed (db.hitUuids topic entity) :=
  sweepTopic_progress.ids entity (by cases entity <;> decide) hwatch

end Whole

end CognitiveSidecar.Forget
