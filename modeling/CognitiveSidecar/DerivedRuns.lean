/-
Runs of the derived index: when the flag of readiness tells the truth about the
rows, and what a search then returns.
-/
import CognitiveSidecar.DerivedIndex
import Mathlib.Data.List.Infix

namespace CognitiveSidecar.Retrieval

open Option List

section Rows

variable {source : SourceDb} {table : SourceTable}
  {id text : String} {rows : List FtsRow}

variable {row : SourceRow} {other : String}

/-- A rebuild would write the text under the id. -/
def SourceDb.holds (source : SourceDb) (table : SourceTable)
    (id text : String) : Prop :=
  ∃ row, source.get table id = some row ∧ row.isIndexed = true ∧
    row.text = some text

/-- Some row has the text under the id. -/
def hasRow (rows : List FtsRow) (id text : String) : Prop :=
  ∃ row ∈ rows, row.id = id ∧ row.text = text

theorem get_eq_some :
    source.get table id = some row ↔
      row ∈ source.rows table ∧ row.id = id := by
  unfold SourceDb.get
  constructor
  · intro hget
    exact ⟨mem_of_find?_eq_some hget,
      by simpa using List.find?_some hget⟩
  · rintro ⟨hrow, rfl⟩
    cases hfind : (source.rows table).find? (·.id = row.id) with
    | none =>
      have hmissed := List.find?_eq_none.mp hfind row hrow
      exact absurd (decide_eq_true rfl) hmissed
    | some found =>
      have hid : found.id = row.id := by simpa using List.find?_some hfind
      rw [inj_on_of_nodup_map (source.ids_nodup table)
        (mem_of_find?_eq_some hfind) hrow hid]

theorem hasRow_rebuildRows :
    hasRow (rebuildRows (source.rows table)) id text ↔
      source.holds table id text := by
  constructor
  · rintro ⟨_, hfts, rfl, rfl⟩
    obtain ⟨row, hrow, rfl⟩ := List.mem_map.mp hfts
    obtain ⟨hmem, hindexed⟩ := mem_filter.mp hrow
    refine ⟨row, get_eq_some.mpr ⟨hmem, rfl⟩, hindexed, ?_⟩
    unfold SourceRow.isIndexed at hindexed
    simp only [Bool.and_eq_true] at hindexed
    obtain ⟨_, htext⟩ := isSome_iff_exists.mp hindexed.1.2
    simp [SourceRow.toFts, htext]
  · rintro ⟨row, hget, hindexed, htext⟩
    obtain ⟨hmem, hid⟩ := get_eq_some.mp hget
    refine ⟨row.toFts, List.mem_map_of_mem
      (mem_filter.mpr ⟨hmem, hindexed⟩), hid, ?_⟩
    simp [SourceRow.toFts, htext]

/-- What a sync writes under an id. -/
def SourceDb.syncs (source : SourceDb) (table : SourceTable)
    (id text : String) : Prop :=
  ∃ row, source.get table id = some row ∧ row.isSynced = true ∧
    row.text = some text

/-- One step of a sync replaces the rows of its id and no others. -/
def syncRow (source : SourceDb) (table : SourceTable) (rows : List FtsRow)
    (id : String) : List FtsRow :=
  match source.get table id with
  | some row =>
    if row.isSynced then rows.filter (·.id ≠ id) ++ [row.toFts]
    else rows.filter (·.id ≠ id)
  | none => rows.filter (·.id ≠ id)

theorem syncRows_eq (ids : List String) :
    syncRows source table ids rows = ids.foldl (syncRow source table) rows :=
  rfl

theorem hasRow_filter_ne :
    hasRow (rows.filter (·.id ≠ other)) id text ↔
      id ≠ other ∧ hasRow rows id text := by
  constructor
  · rintro ⟨row, hrow, rfl, rfl⟩
    obtain ⟨hmem, hne⟩ := mem_filter.mp hrow
    exact ⟨of_decide_eq_true hne, row, hmem, rfl, rfl⟩
  · rintro ⟨hne, row, hmem, rfl, rfl⟩
    exact ⟨row, mem_filter.mpr ⟨hmem, decide_eq_true hne⟩, rfl, rfl⟩

theorem hasRow_append {row : FtsRow} :
    hasRow (rows ++ [row]) id text ↔
      hasRow rows id text ∨ (row.id = id ∧ row.text = text) := by
  unfold hasRow
  simp only [mem_append, mem_singleton, or_and_right, exists_or,
    exists_eq_left]

theorem text_of_isSynced (hsynced : row.isSynced = true) :
    row.text = some row.toFts.text := by
  unfold SourceRow.isSynced at hsynced
  cases htext : row.text with
  | none => simp [htext] at hsynced
  | some => simp [SourceRow.toFts, htext]

theorem hasRow_syncRow :
    hasRow (syncRow source table rows other) id text ↔
      if id = other then source.syncs table id text
      else hasRow rows id text := by
  unfold syncRow SourceDb.syncs
  by_cases hid : id = other
  · subst hid
    cases hget : source.get table id with
    | none =>
      rw [hasRow_filter_ne]
      simp
    | some row =>
      by_cases hsynced : row.isSynced = true
      · simp only [hsynced, if_true]
        rw [hasRow_append, hasRow_filter_ne]
        have hrowId : row.toFts.id = id := (get_eq_some.mp hget).2
        simp [hrowId, hsynced, text_of_isSynced hsynced]
      · simp only [hsynced, Bool.false_eq_true, if_false]
        rw [hasRow_filter_ne]
        simp [hsynced]
  · cases hget : source.get table other with
    | none =>
      rw [hasRow_filter_ne]
      simp [hid]
    | some row =>
      have hrowId : row.toFts.id = other := (get_eq_some.mp hget).2
      by_cases hsynced : row.isSynced = true
      · simp only [hsynced, if_true]
        rw [hasRow_append, hasRow_filter_ne, hrowId]
        simp [hid, Ne.symm hid]
      · simp only [hsynced, Bool.false_eq_true, if_false]
        rw [hasRow_filter_ne]
        simp [hid]

/-- A sync replaces the rows of the ids it names and no others. -/
theorem hasRow_syncRows {ids : List String} :
    hasRow (syncRows source table ids rows) id text ↔
      if id ∈ ids then source.syncs table id text else hasRow rows id text := by
  rw [syncRows_eq]
  induction ids generalizing rows with
  | nil => rfl
  | cons first rest ih =>
    rw [foldl_cons, ih, hasRow_syncRow]
    by_cases hrest : id ∈ rest
    · rw [if_pos hrest, if_pos (mem_cons_of_mem first hrest)]
    · rw [if_neg hrest]
      by_cases hfirst : id = first
      · rw [if_pos hfirst, if_pos (hfirst ▸ mem_cons_self)]
      · rw [if_neg hfirst, if_neg]
        rw [mem_cons, not_or]
        exact ⟨hfirst, hrest⟩

end Rows

section Truth

variable {index : DerivedIndex} {source : SourceDb}

/-- The index holds, as a set of ids with texts, what a rebuild would write. -/
def RowsRight (index : DerivedIndex) (source : SourceDb) : Prop :=
  ∀ table id text, hasRow (index.fts table) id text ↔
    hasRow (rebuildRows (source.rows table)) id text

def DerivedIndex.isMarked (index : DerivedIndex) : Bool :=
  index.state.any IndexState.isMarked

/-- The flag is set over right rows only. -/
def Truthful (index : DerivedIndex) (source : SourceDb) : Prop :=
  index.isMarked = true → RowsRight index source

theorem markInvalid_truthful (call : IndexCall)
    (htruthful : Truthful index source) :
    Truthful (index.markInvalid call) source := by
  unfold DerivedIndex.markInvalid
  split
  · exact htruthful
  · intro hmarked
    cases hstate : index.state with
    | none | some =>
      simp [DerivedIndex.isMarked, hstate, IndexState.isMarked] at hmarked

/-- An index that was marked invalid is not marked ready. -/
theorem markInvalid_not_marked {call : IndexCall}
    (hmarks : call.markFails = false) :
    (index.markInvalid call).isMarked = false := by
  unfold DerivedIndex.markInvalid
  rw [hmarks]
  cases hstate : index.state with
  | none | some => simp [DerivedIndex.isMarked, IndexState.isMarked]

/-- A call that ends well leaves right rows; any call keeps a true flag. -/
structure CallSound (source : SourceDb) (index : DerivedIndex)
    (answer : Bool × DerivedIndex) : Prop where
  truthful : Truthful index source → Truthful answer.2 source
  right : Truthful index source → answer.1 = true → RowsRight answer.2 source

theorem callSound_markInvalid (call : IndexCall) :
    CallSound source index (false, index.markInvalid call) where
  truthful := markInvalid_truthful call
  right _ hfalse := by cases hfalse

theorem callSound_same : CallSound source index (false, index) where
  truthful := id
  right _ hfalse := by cases hfalse

theorem callSound_written {written : DerivedIndex}
    (hrows : written.fts = fun table => rebuildRows (source.rows table)) :
    CallSound source index (true, written) := by
  have hright : RowsRight written source := by
    intro _ _ _
    rw [hrows]
  exact ⟨fun _ _ => hright, fun _ _ => hright⟩

theorem callSound_marked {p : IndexState → Bool}
    (hmarked : (index.state.any fun state => state.isMarked && p state) =
      true) : CallSound source index (true, index) := by
  refine ⟨id, fun htruthful _ => htruthful ?_⟩
  unfold DerivedIndex.isMarked
  rw [Option.any_eq_true] at hmarked ⊢
  obtain ⟨state, hstate, hboth⟩ := hmarked
  rw [Bool.and_eq_true] at hboth
  exact ⟨state, hstate, hboth.1⟩

variable [IndexHost]

theorem rebuild_sound (call : IndexCall) :
    CallSound source index (index.rebuild source call) := by
  unfold DerivedIndex.rebuild
  split
  · exact callSound_same
  · exact callSound_markInvalid call
  · split
    · exact callSound_same
    · split
      · exact callSound_markInvalid call
      · exact callSound_written rfl
  · split
    · exact callSound_same
    · split
      · exact callSound_markInvalid call
      · exact callSound_written rfl

theorem compared_sound (call : IndexCall) (authority : AuthorityReading) :
    CallSound source index
      (if call.readFails then (false, index.markInvalid call)
      else if index.state.any fun state => state.isMarked &&
          state.isFingerprint source && state.isBound authority then
        (true, index)
      else
        match index.rebuild source call with
        | (true, rebuilt) => (true, rebuilt)
        | (false, left) => (false, left.markInvalid call)) := by
  split
  · exact callSound_markInvalid call
  · split
    · rename_i hmarked
      refine @callSound_marked index source (fun state =>
        state.isFingerprint source && state.isBound authority) ?_
      simpa only [Bool.and_assoc] using hmarked
    · have hrebuild : CallSound source index (index.rebuild source call) :=
        rebuild_sound call
      generalize index.rebuild source call = answer at hrebuild
      obtain ⟨done, _⟩ := answer
      cases done with
      | true => exact hrebuild
      | false =>
        refine ⟨fun htruthful => ?_, fun _ hfalse => by cases hfalse⟩
        exact markInvalid_truthful call (hrebuild.truthful htruthful)

theorem reconcile_sound (call : IndexCall) :
    CallSound source index (index.reconcile source call) := by
  unfold DerivedIndex.reconcile
  simp only
  split
  · exact callSound_markInvalid call
  · exact callSound_markInvalid call
  · exact compared_sound call call.authority

theorem isReady_sound (call : IndexCall) :
    CallSound source index (index.isReady source call) := by
  unfold DerivedIndex.isReady
  split
  · exact callSound_markInvalid call
  · exact callSound_markInvalid call
  · split
    · rename_i hmarked
      exact callSound_marked hmarked
    · exact reconcile_sound call

end Truth

section Runs

/-- The sidecar and its index. -/
structure IndexWorld where
  source : SourceDb
  index : DerivedIndex

/-- What happens to the index: a commit with the sync that follows it, or one
of the other calls. -/
inductive IndexStep
  | commit (source : SourceDb) (changed : SourceTable → List String)
    (call : IndexCall)
  | markInvalid (call : IndexCall)
  | isReady (call : IndexCall)
  | reconcile (call : IndexCall)
  | rebuild (call : IndexCall)

/-- The sync names every row that the commit changed. -/
def NamesChanges (source committed : SourceDb)
    (changed : SourceTable → List String) : Prop :=
  ∀ table id, id ∉ changed table →
    committed.get table id = source.get table id

/-- Every commit of the step is followed by a sync that names its changes. -/
def IndexStep.names (world : IndexWorld) : IndexStep → Prop
  | .commit source changed _ => NamesChanges world.source source changed
  | _ => True

/-- The step does not set the flag over rows that are not right: a sync that
is carried out finds the index marked or right, the two filters judge the rows
it writes alike, and a sync that fails marks the index unless there is nothing
to mark. -/
def IndexStep.meets (world : IndexWorld) : IndexStep → Prop
  | .commit source changed call =>
    (∀ table, changed table = []) ∨
    if call.throws then
      call.markFails = false ∨ world.index.isMarked = false ∨
        ∀ table id text,
          source.holds table id text ↔ world.source.holds table id text
    else
      (world.index.isMarked = true ∨ RowsRight world.index world.source) ∧
        ∀ table, ∀ id ∈ changed table, ∀ row,
          source.get table id = some row → row.isSynced = row.isIndexed
  | _ => True

variable [IndexHost]

def indexStep (world : IndexWorld) : IndexStep → IndexWorld
  | .commit source changed call =>
    { source, index := world.index.syncAfterCommit source changed call }
  | .markInvalid call => { world with index := world.index.markInvalid call }
  | .isReady call =>
    { world with index := (world.index.isReady world.source call).2 }
  | .reconcile call =>
    { world with index := (world.index.reconcile world.source call).2 }
  | .rebuild call =>
    { world with index := (world.index.rebuild world.source call).2 }

def runIndex (world : IndexWorld) (steps : List IndexStep) : IndexWorld :=
  steps.foldl indexStep world

/-- Each step of the run, in the state that it finds. -/
def EachStep (p : IndexWorld → IndexStep → Prop) :
    IndexWorld → List IndexStep → Prop
  | _, [] => True
  | world, step :: rest => p world step ∧ EachStep p (indexStep world step) rest

variable {world : IndexWorld} {source : SourceDb}
  {changed : SourceTable → List String} {call : IndexCall}

omit [IndexHost] in
theorem rowsRight_congr {index : DerivedIndex} {other : SourceDb}
    (hsame : ∀ table id text,
      other.holds table id text ↔ source.holds table id text) :
    RowsRight index source ↔ RowsRight index other := by
  unfold RowsRight
  simp only [hasRow_rebuildRows, hsame]

omit [IndexHost] in
theorem holds_of_unnamed (hnames : NamesChanges world.source source changed)
    {table : SourceTable} {id text : String} (hid : id ∉ changed table) :
    source.holds table id text ↔ world.source.holds table id text := by
  unfold SourceDb.holds
  rw [hnames table id hid]

omit [IndexHost] in
/-- A sync of rows that both filters judge alike makes the index right. -/
theorem syncRows_right (hnames : NamesChanges world.source source changed)
    (hright : RowsRight world.index world.source)
    (hjudged : ∀ table, ∀ id ∈ changed table, ∀ row,
      source.get table id = some row → row.isSynced = row.isIndexed)
    (table : SourceTable) (id text : String) :
    hasRow (syncRows source table (changed table) (world.index.fts table))
        id text ↔ hasRow (rebuildRows (source.rows table)) id text := by
  rw [hasRow_syncRows, hasRow_rebuildRows]
  by_cases hid : id ∈ changed table
  · rw [if_pos hid]
    constructor
    · rintro ⟨row, hget, hsynced, htext⟩
      rw [hjudged table id hid row hget] at hsynced
      exact ⟨row, hget, hsynced, htext⟩
    · rintro ⟨row, hget, hindexed, htext⟩
      rw [← hjudged table id hid row hget] at hindexed
      exact ⟨row, hget, hindexed, htext⟩
  · rw [if_neg hid, hright, hasRow_rebuildRows]
    exact (holds_of_unnamed hnames hid).symm

omit [IndexHost] in
/-- A commit and its sync keep the flag true. -/
theorem commit_truthful (htruthful : Truthful world.index world.source)
    (hnames : NamesChanges world.source source changed)
    (hmeets : (IndexStep.commit source changed call).meets world) :
    Truthful (world.index.syncAfterCommit source changed call) source := by
  unfold DerivedIndex.syncAfterCommit
  by_cases hnone : changed .memory = [] ∧ changed .conversation = []
  · rw [if_pos hnone]
    intro hmarked
    have hsame : ∀ table id text,
        world.source.holds table id text ↔ source.holds table id text := by
      intro table id _
      have hid : id ∉ changed table := by
        cases table with
        | memory => simp [hnone.1]
        | conversation => simp [hnone.2]
      exact (holds_of_unnamed hnames hid).symm
    exact (rowsRight_congr hsame).mpr (htruthful hmarked)
  · rw [if_neg hnone]
    have hcase := hmeets.resolve_left fun hempty =>
      hnone ⟨hempty .memory, hempty .conversation⟩
    by_cases hthrows : call.throws = true
    · rw [if_pos hthrows] at hcase ⊢
      intro hmarked
      rcases hcase with hmarks | hunmarked | hsame
      · rw [markInvalid_not_marked hmarks] at hmarked
        cases hmarked
      · have hunset : Truthful world.index source := by
          intro hset
          rw [hunmarked] at hset
          cases hset
        exact markInvalid_truthful call hunset hmarked
      · have hkept := markInvalid_truthful call htruthful
        exact (rowsRight_congr fun table id text =>
          (hsame table id text).symm).mpr (hkept hmarked)
    · rw [if_neg hthrows] at hcase ⊢
      intro _
      have hright : RowsRight world.index world.source :=
        hcase.1.elim htruthful id
      exact syncRows_right hnames hright hcase.2

theorem indexStep_truthful (htruthful : Truthful world.index world.source)
    {step : IndexStep} (hnames : step.names world)
    (hmeets : step.meets world) :
    Truthful (indexStep world step).index (indexStep world step).source := by
  cases step with
  | commit =>
    exact commit_truthful htruthful hnames hmeets
  | markInvalid call => exact markInvalid_truthful call htruthful
  | isReady call => exact (isReady_sound call).truthful htruthful
  | reconcile call => exact (reconcile_sound call).truthful htruthful
  | rebuild call => exact (rebuild_sound call).truthful htruthful

theorem runIndex_truthful (steps : List IndexStep)
    (htruthful : Truthful world.index world.source)
    (hnames : EachStep (fun world step => step.names world) world steps)
    (hmeets : EachStep (fun world step => step.meets world) world steps) :
    Truthful (runIndex world steps).index (runIndex world steps).source := by
  induction steps generalizing world with
  | nil => exact htruthful
  | cons _ _ ih =>
    exact ih (indexStep_truthful htruthful hnames.1 hmeets.1) hnames.2
      hmeets.2

end Runs

section Searches

variable [IndexHost] {index after : DerivedIndex} {source : SourceDb}
  {query : String} {call : SearchCall} {rows : List RawFtsMemoryRow}

variable {invalidated : List String} {row : FtsRow} {limit : Nat}

omit [IndexHost] in
theorem trustedRow_some {raw : RawFtsMemoryRow}
    (htrusted : trustedRow source invalidated row = some raw) :
    raw.assertionKey = row.id ∧ raw.statement = row.text := by
  unfold trustedRow at htrusted
  split at htrusted
  · cases htrusted
  · split at htrusted
    · split at htrusted
      · cases htrusted
        exact ⟨rfl, rfl⟩
      · cases htrusted
    · cases htrusted

/-- A search that answers ready found the index ready and trusts its rows. -/
theorem searchMemoryFts_ready (hnamed : blank query = false)
    (hready : searchMemoryFts index source (some query) call =
      (.ready rows, after)) :
    index.isReady source call.toIndexCall = (true, after) ∧
      (after.bestMatches query call.limit).mapM
        (trustedRow source call.invalidated) = some rows := by
  unfold searchMemoryFts at hready
  have hquery : (some query).filter (!blank ·) = some query := by
    simp [hnamed]
  rw [hquery] at hready
  simp only at hready
  split at hready
  · cases hready
  · split at hready
    · cases hready
    · rename_i hisReady
      split at hready
      · cases hready
      · rename_i hfound
        split at hready
        · cases hready
          exact ⟨hisReady, hfound⟩
        · cases hready

theorem mem_bestMatches :
    row ∈ index.bestMatches query limit →
      row ∈ index.fts .memory ∧ IndexHost.isMatch query row.text = true := by
  intro hrow
  have hsorted := mem_of_mem_take hrow
  rw [mem_insertionSort, mem_filter] at hsorted
  exact hsorted

/-- All matches are among the best when the limit cuts none off. -/
theorem mem_bestMatches_of_room
    (hroom : (index.bestMatches query limit).length < limit)
    (hrow : row ∈ index.fts .memory)
    (hmatch : IndexHost.isMatch query row.text = true) :
    row ∈ index.bestMatches query limit := by
  unfold DerivedIndex.bestMatches at hroom ⊢
  rw [length_take, length_insertionSort] at hroom
  rw [take_of_length_le]
  · rw [mem_insertionSort, mem_filter]
    exact ⟨hrow, hmatch⟩
  · rw [length_insertionSort]
    omega

omit [IndexHost] in
/-- Every match gives one trusted row, in order. -/
theorem mapM_trustedRow {found : List FtsRow}
    (htrusted : found.mapM (trustedRow source invalidated) = some rows) :
    List.Forall₂ (fun row raw => trustedRow source invalidated row = some raw)
      found rows := by
  induction found generalizing rows with
  | nil =>
    cases htrusted
    exact .nil
  | cons _ _ ih =>
    rw [mapM_cons] at htrusted
    simp only [Option.pure_def, bind_eq_bind,
      bind_eq_some_iff, some.injEq] at htrusted
    obtain ⟨_, hraw, _, hothers, rfl⟩ := htrusted
    exact .cons hraw (ih hothers)

omit [IndexHost] in
theorem exists_of_forall₂ {α β : Type} {R : α → β → Prop} {left : List α}
    {right : List β} (hpairs : List.Forall₂ R left right) :
    (∀ b ∈ right, ∃ a ∈ left, R a b) ∧ ∀ a ∈ left, ∃ b ∈ right, R a b := by
  induction hpairs with
  | nil =>
    constructor
    · intro b hb
      cases hb
    · intro a ha
      cases ha
  | cons hab _ ih =>
    constructor
    · intro b hb
      rcases mem_cons.mp hb with rfl | hb
      · exact ⟨_, mem_cons_self, hab⟩
      · obtain ⟨a, ha, hR⟩ := ih.1 b hb
        exact ⟨a, mem_cons_of_mem _ ha, hR⟩
    · intro a ha
      rcases mem_cons.mp ha with rfl | ha
      · exact ⟨_, mem_cons_self, hab⟩
      · obtain ⟨b, hb, hR⟩ := ih.2 a ha
        exact ⟨b, mem_cons_of_mem _ hb, hR⟩

/-- What a search answers from right rows is stored and may be shown, and it
leaves out no row that matches, unless the limit cuts it off. -/
structure AnswerRight (source : SourceDb) (query : String) (limit : Nat)
    (rows : List RawFtsMemoryRow) : Prop where
  stored : ∀ row ∈ rows, source.holds .memory row.assertionKey row.statement
  complete : rows.length < limit → ∀ id text,
    source.holds .memory id text → IndexHost.isMatch query text = true →
      ∃ row ∈ rows, row.assertionKey = id ∧ row.statement = text

theorem searchMemoryFts_right (htruthful : Truthful index source)
    (hnamed : blank query = false)
    (hready : searchMemoryFts index source (some query) call =
      (.ready rows, after)) :
    AnswerRight source query call.limit rows := by
  obtain ⟨hisReady, hrows⟩ := searchMemoryFts_ready hnamed hready
  have hsound : CallSound source index (true, after) := by
    rw [← hisReady]
    exact isReady_sound call.toIndexCall
  have hright := hsound.right htruthful rfl
  have hpairs := mapM_trustedRow hrows
  obtain ⟨hfound, hkept⟩ := exists_of_forall₂ hpairs
  constructor
  · intro row hrow
    obtain ⟨fts, hfts, htrusted⟩ := hfound row hrow
    obtain ⟨hkey, hstatement⟩ := trustedRow_some htrusted
    rw [← hasRow_rebuildRows, ← hright]
    exact ⟨fts, (mem_bestMatches hfts).1, hkey.symm, hstatement.symm⟩
  · intro hroom _ _ hholds hmatch
    rw [← hasRow_rebuildRows, ← hright] at hholds
    obtain ⟨fts, hfts, rfl, rfl⟩ := hholds
    rw [← hpairs.length_eq] at hroom
    have hbest := mem_bestMatches_of_room hroom hfts hmatch
    obtain ⟨row, hrow, htrusted⟩ := hkept fts hbest
    exact ⟨row, hrow, trustedRow_some htrusted⟩

/-- Over a run whose steps all meet the condition, an index that answers ready
has the rows that a rebuild would write, and a search from it is right. -/
theorem ready_index_right (world : IndexWorld) (steps : List IndexStep)
    (htruthful : Truthful world.index world.source)
    (hnames : EachStep (fun world step => step.names world) world steps)
    (hmeets : EachStep (fun world step => step.meets world) world steps) :
    (∀ call after,
      (runIndex world steps).index.isReady (runIndex world steps).source call =
        (true, after) → RowsRight after (runIndex world steps).source) ∧
    ∀ query call rows after, blank query = false →
      searchMemoryFts (runIndex world steps).index
        (runIndex world steps).source (some query) call =
          (.ready rows, after) →
      AnswerRight (runIndex world steps).source query call.limit rows := by
  have hend := runIndex_truthful steps htruthful hnames hmeets
  constructor
  · intro call after hready
    have hsound : CallSound (runIndex world steps).source
        (runIndex world steps).index (true, after) := by
      rw [← hready]
      exact isReady_sound call
    exact hsound.right hend rfl
  · intro _ _ _ _ hnamed hready
    exact searchMemoryFts_right hend hnamed hready

end Searches

section FirstSync

/-- A platform whose search looks for the text as a part. -/
@[reducible]
def plainIndexHost : IndexHost where
  sha256 text := text
  isMatch query text := decide (query.toList <:+: text.toList)
  rank _ _ := 0

attribute [local instance] plainIndexHost

/-- A memory assertion. -/
def assertion (id text : String) : SourceRow :=
  { id, text := some text, scope := "fact", dataClassification := "ordinary"
    fingerprint := text }

/-- The assertions of a sidecar. -/
def memoryOf (rows : List SourceRow)
    (hids : (rows.map SourceRow.id).Nodup) : SourceDb where
  rows
    | .memory => rows
    | .conversation => []
  ids_nodup table := by
    cases table with
    | memory => exact hids
    | conversation => exact nodup_nil

/-- One assertion, and an index that was never built. -/
def unbuilt : IndexWorld :=
  { source := memoryOf [assertion "old" "the first"] (by decide)
    index := { fts := fun _ => [], state := none } }

/-- The commit of a second assertion, with its sync. -/
def secondCommit : IndexStep :=
  .commit (memoryOf [assertion "old" "the first", assertion "new" "the second"]
    (by decide)) (fun table => if table = .memory then ["new"] else []) {}

theorem secondCommit_names : secondCommit.names unbuilt := by
  intro table id hid
  cases table with
  | conversation => rfl
  | memory =>
    have hne : id ≠ "new" := by simpa using hid
    change List.find? _ ([assertion "old" "the first"] ++
      [assertion "new" "the second"]) = List.find? _ _
    rw [List.find?_append]
    have hmissed : [assertion "new" "the second"].find? (·.id = id) = none := by
      simp [assertion, Ne.symm hne]
    rw [hmissed, or_none]
    rfl

/-- A first sync marks an index that lacks every other row. -/
theorem first_sync_incomplete :
    ¬ ∀ world steps, world.index.state = none →
      world.index.fts = (fun _ => []) →
      EachStep (fun world step => step.names world) world steps →
      ∀ call after,
        (runIndex world steps).index.isReady (runIndex world steps).source
          call = (true, after) →
        RowsRight after (runIndex world steps).source := by
  intro hall
  have hready : (runIndex unbuilt [secondCommit]).index.isReady
      (runIndex unbuilt [secondCommit]).source {} =
      (true, (runIndex unbuilt [secondCommit]).index) := rfl
  have hright := hall unbuilt [secondCommit] rfl rfl
    ⟨secondCommit_names, trivial⟩ {} _ hready .memory "old" "the first"
  have hrow : hasRow (rebuildRows ((runIndex unbuilt [secondCommit]).source.rows
      .memory)) "old" "the first" :=
    ⟨⟨"old", "the first", "fact"⟩, by decide, rfl, rfl⟩
  obtain ⟨row, hmem, hid, -⟩ := hright.mpr hrow
  have hnew : row ∈ [FtsRow.mk "new" "the second" "fact"] := hmem
  rw [List.mem_singleton.mp hnew] at hid
  exact absurd hid (by decide)

/-- After a reconciliation the second commit meets the condition. -/
theorem built_index_right :
    RowsRight (runIndex unbuilt [.reconcile {}, secondCommit]).index
      (runIndex unbuilt [.reconcile {}, secondCommit]).source :=
  (ready_index_right unbuilt [.reconcile {}, secondCommit]
    (fun hmarked => by cases hmarked)
    ⟨trivial, secondCommit_names, trivial⟩
    ⟨trivial, .inr ⟨.inl rfl, by
      intro table _ _ _ hget
      have hrow := (get_eq_some.mp hget).1
      cases table with
      | conversation => cases hrow
      | memory =>
        rcases List.mem_cons.mp hrow with rfl | hrow
        · decide
        · rw [List.mem_singleton.mp hrow]
          decide⟩, trivial⟩).1 {} _ rfl

end FirstSync

end CognitiveSidecar.Retrieval
