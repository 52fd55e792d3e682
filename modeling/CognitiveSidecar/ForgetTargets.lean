/-
The two ways to forget, side by side: for each table the rows that a statement
reaches and the rows that come out, once by the topic and once by a list of
recorded targets.
-/
import Mathlib
import CognitiveSidecar.ForgetSweep

namespace CognitiveSidecar.Forget

open List Relational

section Beside

variable [ForgetHost] {topic : String} {nowMs : Int} {db : ForgetDb}
  {targets : List ForgetTarget} {entity : ForgetEntity}

/-- The tables that a forget reads and never writes. -/
structure ForgetDb.SameBeside (db other : ForgetDb) : Prop where
  wakes : other.wakes = db.wakes
  supportEdges : other.supportEdges = db.supportEdges

omit [ForgetHost] in
theorem ForgetDb.SameBeside.trans {first second third : ForgetDb}
    (hfirst : first.SameBeside second) (hsecond : second.SameBeside third) :
    first.SameBeside third :=
  ⟨hsecond.wakes.trans hfirst.wakes,
    hsecond.supportEdges.trans hfirst.supportEdges⟩

omit [ForgetHost] in
theorem sameBeside_forgetBeside (db : ForgetDb) (entity : ForgetEntity)
    (ids : List String) : db.SameBeside (db.forgetBeside entity ids) := by
  cases entity <;> exact ⟨rfl, rfl⟩

theorem sameBeside_forget (sweep : Sweep) (entity : ForgetEntity) :
    sweep.db.SameBeside (sweep.forget topic nowMs entity).db := by
  refine ForgetDb.SameBeside.trans ?_ (sameBeside_forgetBeside _ entity _)
  exact ⟨rfl, rfl⟩

theorem sameBeside_forgetListed (db : ForgetDb) (entity : ForgetEntity) :
    db.SameBeside (db.forgetListed targets nowMs entity) := by
  refine ForgetDb.SameBeside.trans ?_ (sameBeside_forgetBeside _ entity _)
  exact ⟨rfl, rfl⟩

theorem sameBeside_foldl_forget (sweep : Sweep) (order : List ForgetEntity) :
    sweep.db.SameBeside (order.foldl (Sweep.forget topic nowMs) sweep).db := by
  induction order generalizing sweep with
  | nil => exact ⟨rfl, rfl⟩
  | cons entity _ ih =>
    exact (sameBeside_forget sweep entity).trans (ih _)

theorem sameBeside_foldl_forgetListed (db : ForgetDb)
    (order : List ForgetEntity) :
    db.SameBeside
      (order.foldl (ForgetDb.forgetListed targets nowMs) db) := by
  induction order generalizing db with
  | nil => exact ⟨rfl, rfl⟩
  | cons entity _ ih =>
    exact (sameBeside_forgetListed db entity).trans (ih _)

theorem sameBeside_mark (db : ForgetDb) (sourceKeys : List String) :
    db.SameBeside (db.markInterpretationSupportUnavailable sourceKeys) := by
  unfold ForgetDb.markInterpretationSupportUnavailable
  induction sourceKeys.eraseDups generalizing db with
  | nil => exact ⟨rfl, rfl⟩
  | cons sourceKey _ ih =>
    have hmarked : db.SameBeside (db.markSourceUnavailable sourceKey) :=
      ⟨rfl, rfl⟩
    exact hmarked.trans (ih _)

omit [ForgetHost] in
theorem sameBeside_redactTypedSupportRefs (db : ForgetDb)
    (evidenceIds : List String) :
    db.SameBeside (db.redactTypedSupportRefs evidenceIds) :=
  ⟨rfl, rfl⟩

theorem sameBeside_forgetSupports (db : ForgetDb)
    (targets : List ForgetTarget) :
    db.SameBeside (db.forgetSupports targets) := by
  exact (sameBeside_redactTypedSupportRefs db _).trans (sameBeside_mark _ _)

theorem sameBeside_sweepSources :
    db.SameBeside (sweepSources topic nowMs db).db :=
  sameBeside_foldl_forget { db } sourceOrder

theorem sameBeside_sweepTopic :
    db.SameBeside (sweepTopic topic nowMs db).db := by
  rw [sweepTopic_eq]
  have hmarked : db.SameBeside (unsupportedDb topic nowMs db) :=
    sameBeside_sweepSources.trans (sameBeside_forgetSupports _ _)
  exact hmarked.trans (sameBeside_foldl_forget
    ⟨unsupportedDb topic nowMs db, (sweepSources topic nowMs db).targets⟩
    derivedOrder)

/-- The database after the evidence and what quotes it. -/
def ForgetDb.forgetEvidence (db : ForgetDb) (targets : List ForgetTarget)
    (nowMs : Int) : ForgetDb :=
  (db.forgetListed targets nowMs .conversationEvidence).redactTypedSupportRefs
    (targetIds targets .conversationEvidence)

theorem forgetTargets_eq :
    forgetTargets targets nowMs db =
      listedDerivedOrder.foldl (ForgetDb.forgetListed targets nowMs)
        ((listedSourceOrder.foldl (ForgetDb.forgetListed targets nowMs)
          (db.forgetEvidence targets nowMs)
          ).markInterpretationSupportUnavailable
            (forgottenSupportKeys targets)) :=
  rfl

theorem sameBeside_forgetEvidence :
    db.SameBeside (db.forgetEvidence targets nowMs) :=
  (sameBeside_forgetListed db .conversationEvidence).trans
    (sameBeside_redactTypedSupportRefs _ _)

theorem sameBeside_forgetTargets :
    db.SameBeside (forgetTargets targets nowMs db) := by
  rw [forgetTargets_eq]
  have hsources : db.SameBeside (listedSourceOrder.foldl
      (ForgetDb.forgetListed targets nowMs)
      (db.forgetEvidence targets nowMs)) :=
    sameBeside_forgetEvidence.trans
      (sameBeside_foldl_forgetListed _ listedSourceOrder)
  exact (hsources.trans (sameBeside_mark _ _)).trans
    (sameBeside_foldl_forgetListed _ listedDerivedOrder)

end Beside

section Listed

variable [ForgetHost] {topic : String} {nowMs : Int} {db : ForgetDb}
  {targets : List ForgetTarget} {entity other : ForgetEntity}

variable {order : List ForgetEntity}

/-- The rows that the statements for a list of targets reach. -/
def listReaches (targets : List ForgetTarget) (entity : ForgetEntity)
    (row : Row entity) : Bool :=
  (targetIds targets entity).any (reaches entity · row)

theorem rows_forgetListed_self (hwatch : entity ≠ .attentionWatch) :
    (db.forgetListed targets nowMs entity).rows entity =
      forgetRows .whole nowMs entity (listReaches targets entity)
        (db.rows entity) := by
  unfold ForgetDb.forgetListed
  rw [rows_forgetBeside entity hwatch, rows_forgetWhere_self]
  rfl

theorem rows_forgetListed_of_ne (hother : other ≠ entity)
    (hwatch : other ≠ .attentionWatch) :
    (db.forgetListed targets nowMs entity).rows other = db.rows other := by
  unfold ForgetDb.forgetListed
  rw [rows_forgetBeside entity hwatch, rows_forgetWhere_of_ne hother]

theorem rows_foldl_of_not_mem (hentity : entity ∉ order)
    (hwatch : entity ≠ .attentionWatch) :
    (order.foldl (ForgetDb.forgetListed targets nowMs) db).rows entity =
      db.rows entity := by
  induction order generalizing db with
  | nil => rfl
  | cons _ _ ih =>
    rw [mem_cons, not_or] at hentity
    rw [foldl_cons, ih hentity.2,
      rows_forgetListed_of_ne hentity.1 hwatch]

theorem rows_foldl_of_mem (horder : order.Nodup) (hentity : entity ∈ order)
    (hwatch : entity ≠ .attentionWatch) :
    (order.foldl (ForgetDb.forgetListed targets nowMs) db).rows entity =
      forgetRows .whole nowMs entity (listReaches targets entity)
        (db.rows entity) := by
  induction order generalizing db with
  | nil => exact absurd hentity not_mem_nil
  | cons first _ ih =>
    rw [nodup_cons] at horder
    rw [foldl_cons]
    by_cases hfirst : entity = first
    · subst hfirst
      rw [rows_foldl_of_not_mem horder.1 hwatch,
        rows_forgetListed_self hwatch]
    · rw [ih horder.2 ((mem_cons.mp hentity).resolve_left hfirst),
        rows_forgetListed_of_ne hfirst hwatch]

/-- The tables whose rows rest on the sources of others. -/
def supportedTables : List ForgetEntity :=
  [.memorySupport, .concern, .deskEntry, .workingContext]

theorem unsupported_eq_id (edges : List SupportEdge)
    (hentity : entity ∉ supportedTables) :
    unsupported edges targets entity = id := by
  cases entity with
  | memorySupport | concern | deskEntry | workingContext =>
    exact absurd hentity (by decide)
  | _ => rfl

theorem rows_forgetEvidence_of_ne (hentity : entity ≠ .conversationEvidence)
    (hwatch : entity ≠ .attentionWatch) :
    (db.forgetEvidence targets nowMs).rows entity =
      (db.rows entity).map (redactQuotes
        (targetIds targets .conversationEvidence) entity) := by
  unfold ForgetDb.forgetEvidence
  rw [rows_redactTypedSupportRefs, rows_forgetListed_of_ne hentity hwatch]

/-- The rows that come out of a forget by recorded targets. -/
theorem rows_forgetTargets (hwatch : entity ≠ .attentionWatch) :
    (forgetTargets targets nowMs db).rows entity =
      forgetRows .whole nowMs entity (listReaches targets entity)
        ((db.rows entity).map
          (unsupported db.supportEdges targets entity)) := by
  rw [forgetTargets_eq]
  by_cases hderived : entity ∈ listedDerivedOrder
  · have hsource : entity ∉ listedSourceOrder := by
      revert hderived
      cases entity <;> decide
    have hevidence : entity ≠ .conversationEvidence := by
      rintro rfl
      exact absurd hderived (by decide)
    rw [rows_foldl_of_mem (by decide) hderived hwatch]
    by_cases hcontext : entity = .workingContext
    · subst hcontext
      rw [rows_mark, rows_foldl_of_not_mem hsource hwatch,
        rows_forgetEvidence_of_ne hevidence hwatch, map_map]
      rfl
    · rw [rows_mark_of_ne hcontext, rows_foldl_of_not_mem hsource hwatch,
        rows_forgetEvidence_of_ne hevidence hwatch,
        unsupported_eq_redactQuotes _ hcontext]
  · have hcontext : entity ≠ .workingContext := by
      rintro rfl
      exact hderived (by decide)
    have hplain : entity ∉ supportedTables := by
      revert hderived
      cases entity <;> decide
    have hquotes (evidenceIds : List String) :
        redactQuotes evidenceIds entity = id := by
      cases entity <;> first | rfl | exact absurd (by decide) hplain
    rw [rows_foldl_of_not_mem hderived hwatch, rows_mark_of_ne hcontext,
      unsupported_eq_id _ hplain, map_id]
    by_cases hevidence : entity = .conversationEvidence
    · subst hevidence
      rw [rows_foldl_of_not_mem (by decide) hwatch]
      unfold ForgetDb.forgetEvidence
      rw [rows_redactTypedSupportRefs, hquotes, map_id,
        rows_forgetListed_self hwatch]
    · have hsource : entity ∈ listedSourceOrder := by
        revert hderived hevidence hwatch
        cases entity <;> decide
      rw [rows_foldl_of_mem (by decide) hsource hwatch,
        rows_forgetEvidence_of_ne hevidence hwatch, hquotes, map_id]

end Listed

section Reached

variable [ForgetHost] {topic : String} {nowMs : Int} {db : ForgetDb}
  {targets : List ForgetTarget} {entity : ForgetEntity} {mode : Redaction}
  {reached : Row entity → Bool} {rows : List (Row entity)}

variable {row other : Row entity}

/-- The tables that are keyed by two columns. -/
def ForgetEntity.isPaired (entity : ForgetEntity) : Bool :=
  entity ∈ [ForgetEntity.occupancy, .growthGap, .attentionWatch]

omit [ForgetHost] in
/-- One column, as a text or a number, is known by its text. -/
theorem rowKey_eq_of_uuid (hpaired : entity.isPaired = false)
    (huuid : entityUuid entity row = entityUuid entity other) :
    rowKey entity row = rowKey entity other := by
  cases entity with
  | occupancy | growthGap | attentionWatch => cases hpaired
  | speechOutbox | systemNotice | causalLedger | growthRevision
  | personaSnapshot => exact congrArg RowKey.number (Nat.repr_injective huuid)
  | _ => exact congrArg RowKey.text huuid

omit [ForgetHost] in
theorem eq_of_rowKey (hrow : row ∈ db.rows entity)
    (hother : other ∈ db.rows entity)
    (hkey : rowKey entity row = rowKey entity other) : row = other :=
  inj_on_of_nodup_map (db.keys_nodup entity) hrow hother hkey

omit [ForgetHost] in
theorem reaches_eq (hpaired : entity.isPaired = false) (uuid : String)
    (row : Row entity) :
    reaches entity uuid row = decide (entityUuid entity row = uuid) := by
  cases entity with
  | occupancy | growthGap | attentionWatch => cases hpaired
  | _ => rfl

omit [ForgetHost] in
theorem hitReaches_eq (hpaired : entity.isPaired = false)
    (hit row : Row entity) :
    hitReaches entity hit row =
      decide (entityUuid entity row = entityUuid entity hit) := by
  cases entity with
  | occupancy | growthGap | attentionWatch => cases hpaired
  | _ => rfl

omit [ForgetHost] in
/-- A statement for a hit reaches that row and no other. -/
theorem any_hitReaches (hpaired : entity.isPaired = false)
    {p : Row entity → Bool} (hrow : row ∈ db.rows entity) :
    ((db.rows entity).filter p).any (hitReaches entity · row) = p row := by
  rw [Bool.eq_iff_iff, any_eq_true]
  constructor
  · rintro ⟨_, hhit, hreaches⟩
    rw [hitReaches_eq hpaired, decide_eq_true_eq] at hreaches
    rw [mem_filter] at hhit
    rw [eq_of_rowKey hrow hhit.1 (rowKey_eq_of_uuid hpaired hreaches)]
    exact hhit.2
  · intro hp
    refine ⟨row, mem_filter.mpr ⟨hrow, hp⟩, ?_⟩
    rw [hitReaches_eq hpaired, decide_eq_true_eq]

omit [ForgetHost] in
/-- The targets of a table are the rows whose texts are listed. -/
theorem listReaches_eq (hpaired : entity.isPaired = false) (row : Row entity) :
    listReaches targets entity row =
      decide (entityUuid entity row ∈ targetIds targets entity) := by
  unfold listReaches
  rw [Bool.eq_iff_iff, any_eq_true, decide_eq_true_eq]
  constructor
  · rintro ⟨_, huuid, hreaches⟩
    rw [reaches_eq hpaired, decide_eq_true_eq] at hreaches
    rw [hreaches]
    exact huuid
  · intro huuid
    refine ⟨_, huuid, ?_⟩
    rw [reaches_eq hpaired, decide_eq_true_eq]

theorem forgetRows_congr {other : Row entity → Bool}
    (hreached : ∀ row ∈ rows, reached row = other row) :
    forgetRows mode nowMs entity reached rows =
      forgetRows mode nowMs entity other rows := by
  apply filterMap_congr
  intro row hrow
  rw [hreached row hrow]

/-- The rows that come out of a forget by the topic. -/
theorem rows_sweepTopic (hplain : entity ∉ supportedTables)
    (hpaired : entity.isPaired = false) :
    (sweepTopic topic nowMs db).db.rows entity =
      forgetRows (.ofTopic topic) nowMs entity
        (isHit topic (db.foundBy topic) entity) (db.rows entity) := by
  have hwatch : entity ≠ .attentionWatch := by
    rintro rfl
    cases hpaired
  have hswept : sweepRows topic nowMs (db.foundBy topic) entity
      (db.rows entity) = forgetRows (.ofTopic topic) nowMs entity
        (isHit topic (db.foundBy topic) entity) (db.rows entity) :=
    forgetRows_congr fun _ hrow => any_hitReaches hpaired hrow
  rw [← hswept]
  by_cases hsource : entity ∈ sourceOrder
  · rw [sweepTopic_rows_source hsource, unsupported_eq_id _ hplain,
      map_id]
  · have hderived : entity ∈ derivedOrder := by
      revert hsource
      cases entity <;> decide
    rw [sweepTopic_rows_derived hderived hwatch, unsupported_eq_id _ hplain,
      map_id]

/-- The rows that come out of a forget by targets. -/
theorem rows_listed (hplain : entity ∉ supportedTables)
    (hpaired : entity.isPaired = false) :
    (forgetTargets targets nowMs db).rows entity =
      forgetRows .whole nowMs entity
        (fun row => entityUuid entity row ∈ targetIds targets entity)
        (db.rows entity) := by
  have hwatch : entity ≠ .attentionWatch := by
    rintro rfl
    cases hpaired
  rw [rows_forgetTargets hwatch, unsupported_eq_id _ hplain, map_id]
  exact forgetRows_congr fun row _ => listReaches_eq hpaired row

theorem mem_forgetRows :
    row ∈ forgetRows mode nowMs entity reached rows ↔
      ∃ old ∈ rows, (if reached old then forgotten mode nowMs entity old
        else some old) = some row :=
  mem_filterMap

/-- What a forget makes of a row is found under its key. -/
theorem forgotten_of_key {after : ForgetDb}
    (hrows : after.rows entity =
      forgetRows mode nowMs entity reached (db.rows entity))
    {old new : Row entity} (hold : old ∈ db.rows entity)
    (hnew : new ∈ after.rows entity)
    (hkey : rowKey entity new = rowKey entity old) :
    (if reached old then forgotten mode nowMs entity old else some old) =
      some new := by
  rw [hrows, mem_forgetRows] at hnew
  obtain ⟨origin, horigin, hmade⟩ := hnew
  have hsame : rowKey entity new = rowKey entity origin := by
    by_cases hreached : reached origin = true
    · rw [if_pos hreached] at hmade
      exact forgotten_key mode nowMs entity origin new hmade
    · rw [if_neg hreached, Option.some.injEq] at hmade
      rw [hmade]
  rw [eq_of_rowKey hold horigin (hkey.symm.trans hsame)]
  exact hmade

end Reached

end CognitiveSidecar.Forget
