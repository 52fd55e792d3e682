/-
The attention watches in a forget.  They are recorded by the JSON text of their
two keys, and the forget of a settlement deletes those of its cycle before
their own turn comes.
-/
import CognitiveSidecar.ForgetTargets

namespace CognitiveSidecar.Forget

open List Relational

section Quotes

/-- The value of a hexadecimal digit. -/
def hexValue (c : Char) : Nat :=
  if c.toNat < 97 then c.toNat - 48 else c.toNat - 87

/-- The character that an escaped text begins with, and what follows it. -/
def unescape : List Char → Option (Char × List Char)
  | '\\' :: 'u' :: '0' :: '0' :: high :: low :: rest =>
    some (Char.ofNat (16 * hexValue high + hexValue low), rest)
  | '\\' :: c :: rest =>
    some (if c = 'b' then Char.ofNat 8 else if c = 't' then Char.ofNat 9
      else if c = 'n' then Char.ofNat 10 else if c = 'f' then Char.ofNat 12
      else if c = 'r' then Char.ofNat 13 else c, rest)
  | c :: rest => some (c, rest)
  | [] => none

theorem unescape_control (n : Nat) (hn : n < 32) (rest : List Char) :
    unescape ((escapeChar (Char.ofNat n)).toList ++ rest) =
      some (Char.ofNat n, rest) := by
  interval_cases n <;>
    simp [escapeChar, controlEscape, unescape, hexValue, Nat.digitChar]

theorem unescape_escapeChar (c : Char) (rest : List Char) :
    unescape ((escapeChar c).toList ++ rest) = some (c, rest) := by
  by_cases hcontrol : c.toNat < 32
  · have hc := unescape_control c.toNat hcontrol rest
    rw [Char.ofNat_toNat] at hc
    exact hc
  · have hplain : ¬ c.val < 0x20 := hcontrol
    unfold escapeChar
    split
    · have hc : c = '"' := Char.ext ‹_›
      subst hc
      rfl
    · split
      · have hc : c = '\\' := Char.ext ‹_›
        subst hc
        rfl
      · rename_i hquote hslash
        have hc : c ≠ '\\' := fun heq => hslash (heq ▸ rfl)
        simp [unescape, hc]

theorem escapeChar_ne_nil (c : Char) : (escapeChar c).toList ≠ [] := by
  intro hnil
  have hread := unescape_escapeChar c []
  rw [hnil] at hread
  cases hread

/-- No escape begins with a bare quotation mark. -/
theorem escapeChar_ne_quote (c : Char) (rest : List Char) :
    (escapeChar c).toList ≠ '"' :: rest := by
  intro hquote
  have hread := unescape_escapeChar c []
  rw [hquote] at hread
  have hc : '"' = c := congrArg Prod.fst (Option.some.inj hread)
  subst hc
  have hhead : (escapeChar '"').toList.head? = some '"' := by rw [hquote]; rfl
  exact absurd hhead (by decide)

/-- The characters of an escaped text. -/
def escaped (chars : List Char) : List Char :=
  chars.flatMap fun c => (escapeChar c).toList

/-- An escaped text ends at the first bare quotation mark. -/
theorem escaped_prefix {chars others rest more : List Char}
    (hsame : escaped chars ++ '"' :: rest = escaped others ++ '"' :: more) :
    chars = others ∧ rest = more := by
  induction chars generalizing others with
  | nil =>
    cases others with
    | nil => exact ⟨rfl, tail_eq_of_cons_eq hsame⟩
    | cons d others =>
      exfalso
      unfold escaped at hsame
      rw [flatMap_cons] at hsame
      cases hd : (escapeChar d).toList with
      | nil => exact escapeChar_ne_nil d hd
      | cons first tail =>
        rw [hd] at hsame
        have hfirst : '"' = first := head_eq_of_cons_eq hsame
        exact escapeChar_ne_quote d tail (hfirst ▸ hd)
  | cons c chars ih =>
    cases others with
    | nil =>
      exfalso
      unfold escaped at hsame
      rw [flatMap_cons] at hsame
      cases hc : (escapeChar c).toList with
      | nil => exact escapeChar_ne_nil c hc
      | cons first tail =>
        rw [hc] at hsame
        have hfirst : first = '"' := head_eq_of_cons_eq hsame
        exact escapeChar_ne_quote c tail (hfirst ▸ hc)
    | cons d others =>
      unfold escaped at hsame
      rw [flatMap_cons, flatMap_cons, append_assoc,
        append_assoc] at hsame
      have hread := congrArg unescape hsame
      rw [unescape_escapeChar, unescape_escapeChar, Option.some.injEq,
        Prod.mk.injEq] at hread
      obtain ⟨rfl, hrest⟩ := hread
      obtain ⟨rfl, hmore⟩ := ih hrest
      exact ⟨rfl, hmore⟩

theorem toList_quote (text : String) :
    (quote text).toList = '"' :: (escaped text.toList ++ ['"']) := by
  unfold quote escaped
  simp [flatMap_map]

/-- The JSON text of a pair of texts tells both. -/
theorem stringify_pair_injective {first second other another : String}
    (hsame : stringify (.array [.text first, .text second]) =
      stringify (.array [.text other, .text another])) :
    first = other ∧ second = another := by
  have hchars := congrArg String.toList hsame
  simp [stringify, stringifyItems, toList_quote] at hchars
  obtain ⟨hfirst, hrest⟩ := escaped_prefix hchars
  obtain ⟨hsecond, -⟩ := escaped_prefix (List.cons.inj (List.cons.inj hrest).2).2
  exact ⟨String.toList_inj.mp hfirst, String.toList_inj.mp hsecond⟩

end Quotes

section Watches

variable [ForgetHost] {topic : String} {nowMs : Int} {db : ForgetDb}
  {targets : List ForgetTarget} {entity : ForgetEntity}

variable {ids : List String}
variable {row : WatchRow} {others : List String} {mode : Redaction}
variable {p : SettlementRow → Bool} {sweep : Sweep} {order : List ForgetEntity}

omit [ForgetHost] in
theorem watch_eq_of_uuid {other : WatchRow}
    (hrow : row ∈ db.rows .attentionWatch)
    (hother : other ∈ db.rows .attentionWatch)
    (huuid : entityUuid .attentionWatch row =
      entityUuid .attentionWatch other) : row = other := by
  obtain ⟨howner, hwatch⟩ := stringify_pair_injective huuid
  apply eq_of_rowKey hrow hother
  exact congrArg₂ RowKey.pair howner hwatch

/-- The watches that the forget of the settlements leaves. -/
def ForgetDb.watchesBeside (db : ForgetDb) (settlementIds : List String) :
    List WatchRow :=
  (db.rows .attentionWatch).filter fun row =>
    !row.cycleId.any (· ∈ db.settledCycles settlementIds)

omit [ForgetHost] in
theorem settledCycles_congr (hids : ∀ id, id ∈ ids ↔ id ∈ others) :
    db.settledCycles ids = db.settledCycles others := by
  unfold ForgetDb.settledCycles
  congr 1
  apply filter_congr
  intro row _
  exact decide_eq_decide.mpr (hids row.settlementId)

/-- A redacted settlement keeps its cycle. -/
theorem settledCycles_forgetWhere (ids : List String) :
    (db.forgetWhere mode nowMs .settlement p).settledCycles ids =
      db.settledCycles ids := by
  unfold ForgetDb.settledCycles
  rw [rows_forgetWhere_self]
  unfold forgetRows
  induction db.rows .settlement with
  | nil => rfl
  | cons row _ ih =>
    rw [filterMap_cons]
    by_cases hp : p row = true
    · have hmade : forgotten mode nowMs .settlement row = some { row with
          payload := removeAttention (mode.column row.payload) } := rfl
      rw [if_pos hp, hmade]
      simp only [filter_cons]
      split
      · rw [map_cons, map_cons, ih]
      · exact ih
    · rw [if_neg hp]
      simp only [filter_cons]
      split
      · rw [map_cons, map_cons, ih]
      · exact ih

omit [ForgetHost] in
theorem rows_deleteWatches (cycleIds : List String) :
    (db.deleteWatches cycleIds).rows .attentionWatch =
      (db.rows .attentionWatch).filter fun row =>
        !row.cycleId.any (· ∈ cycleIds) := by
  unfold ForgetDb.deleteWatches
  rw [ForgetDb.rows_rewrite_self]
  induction db.rows .attentionWatch with
  | nil => rfl
  | cons row _ ih =>
    rw [filterMap_cons, filter_cons]
    by_cases hcycle : row.cycleId.any (· ∈ cycleIds) = true
    · rw [hcycle]
      exact ih
    · rw [Bool.eq_false_of_not_eq_true hcycle, ih]
      rfl

theorem watches_forgetWhere_settlement :
    ((db.forgetWhere mode nowMs .settlement p).forgetBeside .settlement ids
      ).rows .attentionWatch = db.watchesBeside ids := by
  change ((db.forgetWhere mode nowMs .settlement p).deleteWatches
    ((db.forgetWhere mode nowMs .settlement p).settledCycles ids)).rows
      .attentionWatch = _
  rw [rows_deleteWatches, settledCycles_forgetWhere]
  rfl

theorem watches_forget_of_ne (hsettlement : entity ≠ .settlement)
    (hwatch : entity ≠ .attentionWatch) :
    (sweep.forget topic nowMs entity).db.rows .attentionWatch =
      sweep.db.rows .attentionWatch := by
  unfold Sweep.forget
  rw [rows_forgetBeside_of_ne hsettlement,
    rows_forgetWhere_of_ne (Ne.symm hwatch)]

theorem watches_foldl_forget (hsettlement : ForgetEntity.settlement ∉ order)
    (hwatch : ForgetEntity.attentionWatch ∉ order) :
    (order.foldl (Sweep.forget topic nowMs) sweep).db.rows .attentionWatch =
      sweep.db.rows .attentionWatch := by
  induction order generalizing sweep with
  | nil => rfl
  | cons _ _ ih =>
    rw [mem_cons, not_or] at hsettlement hwatch
    rw [foldl_cons, ih hsettlement.2 hwatch.2,
      watches_forget_of_ne (Ne.symm hsettlement.1) (Ne.symm hwatch.1)]

theorem watches_forgetListed_of_ne
    (hsettlement : entity ≠ .settlement) (hwatch : entity ≠ .attentionWatch) :
    (db.forgetListed targets nowMs entity).rows .attentionWatch =
      db.rows .attentionWatch := by
  unfold ForgetDb.forgetListed
  rw [rows_forgetBeside_of_ne hsettlement,
    rows_forgetWhere_of_ne (Ne.symm hwatch)]

theorem watches_foldl_forgetListed
    (hsettlement : ForgetEntity.settlement ∉ order)
    (hwatch : ForgetEntity.attentionWatch ∉ order) :
    (order.foldl (ForgetDb.forgetListed targets nowMs) db).rows
      .attentionWatch = db.rows .attentionWatch := by
  induction order generalizing db with
  | nil => rfl
  | cons _ _ ih =>
    rw [mem_cons, not_or] at hsettlement hwatch
    rw [foldl_cons, ih hsettlement.2 hwatch.2,
      watches_forgetListed_of_ne (Ne.symm hsettlement.1) (Ne.symm hwatch.1)]

omit [ForgetHost] in
theorem watchesBeside_congr {other : ForgetDb}
    (hwatches : other.rows .attentionWatch = db.rows .attentionWatch)
    (hsettlements : other.rows .settlement = db.rows .settlement)
    (hids : ∀ id, id ∈ ids ↔ id ∈ others) :
    other.watchesBeside ids = db.watchesBeside others := by
  have hcycles : other.settledCycles ids = db.settledCycles others := by
    rw [settledCycles_congr hids]
    unfold ForgetDb.settledCycles
    rw [hsettlements]
  unfold ForgetDb.watchesBeside
  rw [hwatches, hcycles]

/-- The sweep up to the settlements. -/
def beforeSettlements (topic : String) (nowMs : Int) (db : ForgetDb) : Sweep :=
  (sourceOrder.take 11).foldl (Sweep.forget topic nowMs) { db }

theorem beforeSettlements_progress :
    Progress topic nowMs db db ((sourceOrder.take 11).reverse ++ [])
      ((sourceOrder.take 11).reverse ++ [])
      (beforeSettlements topic nowMs db) :=
  start_progress.foldl (fun _ hentity => hentity) (sourceOrder.take 11)
    (by decide) fun _ _ _ => rfl

theorem watches_sweepSources :
    (sweepSources topic nowMs db).db.rows .attentionWatch =
      db.watchesBeside (db.hitUuids topic .settlement) := by
  have horder : sweepSources topic nowMs db =
      ((beforeSettlements topic nowMs db).forget topic nowMs .settlement
        ).forget topic nowMs .inboxEvent := rfl
  have hprogress : Progress topic nowMs db db
      ((sourceOrder.take 11).reverse ++ [])
      ((sourceOrder.take 11).reverse ++ [])
      (beforeSettlements topic nowMs db) := beforeSettlements_progress
  have hsettlements := hprogress.rest .settlement (by decide) (by decide)
  have hwatches : (beforeSettlements topic nowMs db).db.rows .attentionWatch =
      db.rows .attentionWatch :=
    watches_foldl_forget (by decide) (by decide)
  rw [horder, watches_forget_of_ne (by decide) (by decide)]
  unfold Sweep.forget
  rw [watches_forgetWhere_settlement]
  apply watchesBeside_congr hwatches hsettlements
  intro _
  unfold ForgetDb.hitUuids ForgetDb.topicHits ForgetDb.hits
  rw [hsettlements, hprogress.isHit_eq (by decide)]

theorem rows_watch_forgetSupports :
    (db.forgetSupports targets).rows .attentionWatch =
      db.rows .attentionWatch := by
  rw [rows_forgetSupports, unsupported_eq_id _ (by decide), map_id]

/-- The sweep up to the watches. -/
def beforeWatches (topic : String) (nowMs : Int) (db : ForgetDb) : Sweep :=
  (derivedOrder.take 18).foldl (Sweep.forget topic nowMs)
    ⟨unsupportedDb topic nowMs db, (sweepSources topic nowMs db).targets⟩

theorem sweepTopic_eq_beforeWatches :
    sweepTopic topic nowMs db =
      ((beforeWatches topic nowMs db).forget topic nowMs .attentionWatch
        ).forget topic nowMs .personaSnapshot :=
  rfl

theorem beforeWatches_progress :
    Progress topic nowMs db (unsupportedDb topic nowMs db)
      ((derivedOrder.take 18).reverse ++ [])
      ((derivedOrder.take 18).reverse ++ (sourceOrder.reverse ++ []))
      (beforeWatches topic nowMs db) :=
  unsupportedDb_progress.foldl
    (fun _ hentity => absurd hentity not_mem_nil)
    (derivedOrder.take 18) (by decide)
    fun _ hentity hwatch =>
      unsupportedDb_hits (mem_of_mem_take hentity) hwatch

theorem watches_beforeWatches :
    (beforeWatches topic nowMs db).db.rows .attentionWatch =
      db.watchesBeside (db.hitUuids topic .settlement) := by
  unfold beforeWatches
  rw [watches_foldl_forget (by decide) (by decide)]
  unfold unsupportedDb
  rw [rows_watch_forgetSupports, watches_sweepSources]

/-- The watches that mention the topic among those that are left by then. -/
theorem hits_beforeWatches :
    (beforeWatches topic nowMs db).db.hits topic
        ((beforeWatches topic nowMs db).db.found
          (beforeWatches topic nowMs db).targets) .attentionWatch =
      (db.watchesBeside (db.hitUuids topic .settlement)).filter
        (isHit topic (db.foundBy topic) .attentionWatch) := by
  unfold ForgetDb.hits
  rw [beforeWatches_progress.isHit_eq (by decide), watches_beforeWatches]

omit [ForgetHost] in
theorem mem_watchesBeside :
    row ∈ db.watchesBeside ids ↔ row ∈ db.rows .attentionWatch ∧
      row.cycleId.any (· ∈ db.settledCycles ids) = false := by
  unfold ForgetDb.watchesBeside
  rw [mem_filter, Bool.not_eq_true']

theorem forgetRows_watch {p : WatchRow → Bool} (rows : List WatchRow) :
    forgetRows mode nowMs .attentionWatch p rows =
      rows.filter fun row => !p row := by
  unfold forgetRows
  induction rows with
  | nil => rfl
  | cons row _ ih =>
    rw [filterMap_cons, filter_cons]
    by_cases hp : p row = true
    · rw [hp]
      exact ih
    · rw [Bool.eq_false_of_not_eq_true hp, ih]
      rfl

omit [ForgetHost] in
/-- Among the watches of a database a recorded text reaches its own. -/
theorem any_watch_uuid {rows : List WatchRow} (p : WatchRow → Bool)
    (hrows : ∀ row ∈ rows, row ∈ db.rows .attentionWatch)
    (hrow : row ∈ db.rows .attentionWatch) :
    (rows.filter p).any (fun hit =>
        entityUuid .attentionWatch row = entityUuid .attentionWatch hit) =
      (decide (row ∈ rows) && p row) := by
  rw [Bool.eq_iff_iff, any_eq_true, Bool.and_eq_true, decide_eq_true_eq]
  constructor
  · rintro ⟨hit, hhit, huuid⟩
    rw [mem_filter] at hhit
    rw [watch_eq_of_uuid hrow (hrows hit hhit.1) (of_decide_eq_true huuid)]
    exact hhit
  · rintro ⟨hmem, hp⟩
    exact ⟨row, mem_filter.mpr ⟨hmem, hp⟩, decide_eq_true rfl⟩

/-- The watches that come out of a forget by the topic. -/
theorem watches_sweepTopic :
    (sweepTopic topic nowMs db).db.rows .attentionWatch =
      (db.watchesBeside (db.hitUuids topic .settlement)).filter
        (fun row => !isHit topic (db.foundBy topic) .attentionWatch row) := by
  rw [sweepTopic_eq_beforeWatches,
    watches_forget_of_ne (by decide) (by decide)]
  unfold Sweep.forget
  rw [rows_forgetBeside_of_ne (by decide), rows_forgetWhere_self,
    hits_beforeWatches, watches_beforeWatches]
  rw [forgetRows_watch]
  apply filter_congr
  intro row hrow
  have hrows : ∀ row ∈ db.watchesBeside (db.hitUuids topic .settlement),
      row ∈ db.rows .attentionWatch :=
    fun _ hrow => (mem_watchesBeside.mp hrow).1
  have hreached := any_watch_uuid
    (isHit topic (db.foundBy topic) .attentionWatch) hrows (hrows row hrow)
  rw [decide_eq_true hrow, Bool.true_and] at hreached
  rw [← hreached]
  rfl

theorem targetIds_sweepTopic_watch :
    targetIds (sweepTopic topic nowMs db).targets .attentionWatch =
      listed (((db.watchesBeside (db.hitUuids topic .settlement)).filter
        (isHit topic (db.foundBy topic) .attentionWatch)).map
          (entityUuid .attentionWatch)) := by
  have hprogress : Progress topic nowMs db (unsupportedDb topic nowMs db)
      ((derivedOrder.take 18).reverse ++ [])
      ((derivedOrder.take 18).reverse ++ (sourceOrder.reverse ++ []))
      (beforeWatches topic nowMs db) := beforeWatches_progress
  rw [sweepTopic_eq_beforeWatches]
  change targetIds (ForgetDb.discover topic _ _ .personaSnapshot) _ = _
  rw [targetIds_discover_of_ne (by decide)]
  change targetIds (ForgetDb.discover topic _ _ .attentionWatch) _ = _
  rw [targetIds_discover_self (hprogress.fresh .attentionWatch (by decide)),
    hits_beforeWatches]

/-- The targets of a list up to the settlements. -/
def listedBeforeSettlements (targets : List ForgetTarget) (nowMs : Int)
    (db : ForgetDb) : ForgetDb :=
  (listedSourceOrder.take 4).foldl (ForgetDb.forgetListed targets nowMs)
    (db.forgetEvidence targets nowMs)

theorem rows_listedBeforeSettlements
    (hentity : entity ∉ listedSourceOrder.take 4)
    (hevidence : entity ≠ .conversationEvidence)
    (hplain : entity ∉ supportedTables) :
    (listedBeforeSettlements targets nowMs db).rows entity =
      db.rows entity := by
  unfold listedBeforeSettlements
  have hquotes (evidenceIds : List String) :
      redactQuotes evidenceIds entity = id := by
    cases entity <;> first | rfl | exact absurd (by decide) hplain
  by_cases hwatch : entity = .attentionWatch
  · subst hwatch
    rw [watches_foldl_forgetListed (by decide) (by decide)]
    unfold ForgetDb.forgetEvidence
    rw [rows_redactTypedSupportRefs, hquotes, map_id,
      watches_forgetListed_of_ne (by decide) (by decide)]
  · rw [rows_foldl_of_not_mem hentity hwatch,
      rows_forgetEvidence_of_ne hevidence hwatch, hquotes, map_id]

theorem watches_forgetListed_self :
    (db.forgetListed targets nowMs .attentionWatch).rows .attentionWatch =
      (db.rows .attentionWatch).filter fun row =>
        entityUuid .attentionWatch row ∉ targetIds targets .attentionWatch := by
  unfold ForgetDb.forgetListed
  rw [rows_forgetBeside_of_ne (by decide), rows_forgetWhere_self,
    forgetRows_watch]
  apply filter_congr
  intro row _
  rw [Bool.eq_iff_iff, Bool.not_eq_true', any_eq_false, decide_eq_true_eq]
  constructor
  · intro hnone huuid
    exact hnone _ huuid (decide_eq_true rfl)
  · intro hmissing uuid huuid hreaches
    have hsame : entityUuid .attentionWatch row = uuid :=
      of_decide_eq_true hreaches
    exact hmissing (hsame ▸ huuid)

/-- The watches that come out of a forget by targets. -/
theorem watches_forgetTargets :
    (forgetTargets targets nowMs db).rows .attentionWatch =
      (db.watchesBeside (targetIds targets .settlement)).filter fun row =>
        entityUuid .attentionWatch row ∉ targetIds targets .attentionWatch := by
  have hsources : (listedSourceOrder.foldl
        (ForgetDb.forgetListed targets nowMs)
        (db.forgetEvidence targets nowMs)).rows .attentionWatch =
      db.watchesBeside (targetIds targets .settlement) := by
    change (((listedBeforeSettlements targets nowMs db).forgetListed targets
      nowMs .settlement).forgetListed targets nowMs .inboxEvent).rows
        .attentionWatch = _
    rw [watches_forgetListed_of_ne (by decide) (by decide)]
    unfold ForgetDb.forgetListed
    rw [watches_forgetWhere_settlement]
    exact watchesBeside_congr
      (rows_listedBeforeSettlements (by decide) (by decide) (by decide))
      (rows_listedBeforeSettlements (by decide) (by decide) (by decide))
      fun _ => Iff.rfl
  have horder : listedDerivedOrder = listedDerivedOrder.take 12 ++
      .attentionWatch :: listedDerivedOrder.drop 13 := rfl
  rw [forgetTargets_eq, horder, foldl_append, foldl_cons,
    watches_foldl_forgetListed (by decide) (by decide),
    watches_forgetListed_self,
    watches_foldl_forgetListed (by decide) (by decide),
    rows_mark_of_ne (by decide), hsources]

end Watches

end CognitiveSidecar.Forget
