/-
Runs of the owner transport: what is captured stays as it is, and where pages
bring Discord identifiers and repeat what they bring again, every page that
follows its cursor is recorded and the cursor only moves on past it.
-/
import CognitiveSidecar.Lib.Run
import CognitiveSidecar.OwnerTransport

namespace CognitiveSidecar.OwnerTransport

variable {db db' : TransportDb}
variable {nowMs : Int} {result : HistoryPageResult} {reading : RoomReading}

open Option List Relational

inductive TransportOp
  | capture (input : CaptureInput) (reading : RoomReading)
  | ensureCursor (surface : Surface) (reading : RoomReading)
      (activeThread : String) (nowMs : Int)
  | historyPage (page : HistoryPage) (reading : RoomReading) (nowMs : Int)
  | listPending (ownerId : String) (surfaceKey : Option String)
      (limit : Option Int) (nowMs : Int)
  | markAdmitted (ownerId : String) (ids : List String) (nowMs : Int)
  | sidecarWork (sidecar : Sidecar)

def transportStep (op : TransportOp) (db : TransportDb) : TransportDb :=
  match op with
  | .capture input reading => settle db (captureOwnerTransport input reading db)
  | .ensureCursor surface reading activeThread nowMs =>
    settle db (ensureOwnerTransportCursor surface reading activeThread nowMs db)
  | .historyPage page reading nowMs =>
    settle db (recordOwnerTransportHistoryPage page reading nowMs db)
  | .listPending ownerId surfaceKey limit nowMs =>
    settle db (listPendingOwnerTransport ownerId surfaceKey limit nowMs db)
  | .markAdmitted ownerId ids nowMs =>
    settle db (markOwnerTransportAdmitted ownerId ids nowMs db)
  | .sidecarWork sidecar => { db with sidecar }

/-! Captures. -/

/-- A capture without its admission. -/
def Capture.content (row : Capture) : Capture := { row with admittedAtMs := none }

/-- Every stored capture is stored still, with its content. -/
def CapturesKept (captures captures' : Table Capture) : Prop :=
  ∀ id row, captures.get? id = some row →
    ∃ row', captures'.get? id = some row' ∧ row'.content = row.content

theorem CapturesKept.refl (captures : Table Capture) :
    CapturesKept captures captures :=
  fun _ row hrow => ⟨row, hrow, rfl⟩

theorem CapturesKept.trans {first second third : Table Capture}
    (hfirst : CapturesKept first second) (hsecond : CapturesKept second third) :
    CapturesKept first third := by
  intro id row hrow
  obtain ⟨row', hrow', hcontent⟩ := hfirst id row hrow
  obtain ⟨row'', hrow'', hcontent'⟩ := hsecond id row' hrow'
  exact ⟨row'', hrow'', hcontent'.trans hcontent⟩

variable {captures captures' : Table Capture} {input : Capture}
variable {inserted : Bool}

/-- A capture is inserted under a free identifier, or repeats the stored one. -/
theorem insertCapture_cases (hok : insertCaptureInTransaction captures input =
      .ok (inserted, captures')) :
    (∃ existing, captures.get? input.discordMessageId = some existing ∧
      captureMatches existing input = true ∧ captures' = captures) ∨
    (captures.get? input.discordMessageId = none ∧
      captures' = captures.insertNew input) := by
  unfold insertCaptureInTransaction at hok
  cases hstored : captures.get? input.discordMessageId with
  | some existing =>
    rw [hstored] at hok
    obtain ⟨hmatches, hok⟩ := of_require hok
    cases of_pure hok
    exact .inl ⟨existing, rfl, hmatches, rfl⟩
  | none =>
    rw [hstored] at hok
    cases of_pure hok
    exact .inr ⟨rfl, rfl⟩

theorem insertCapture_kept (hok : insertCaptureInTransaction captures input =
      .ok (inserted, captures')) :
    CapturesKept captures captures' ∧
      (captures'.get? input.discordMessageId).isSome = true := by
  rcases insertCapture_cases hok with ⟨_, hstored, _, rfl⟩ |
    ⟨hfree, rfl⟩
  · exact ⟨CapturesKept.refl _, by rw [hstored]; rfl⟩
  · refine ⟨fun _ row hrow => ⟨row, ?_, rfl⟩, ?_⟩
    · rw [Table.get?_insertNew hfree, if_neg, hrow]
      rintro rfl
      rw [show key input = input.discordMessageId from rfl, hfree] at hrow
      cases hrow
    · rw [Table.get?_insertNew hfree]
      exact congrArg Option.isSome (if_pos rfl)

theorem insertCaptures_kept {rows : List Capture}
    {newlyCaptured duplicates : Nat}
    (hok : insertCaptures rows captures =
      .ok (newlyCaptured, duplicates, captures')) :
    CapturesKept captures captures' ∧
      ∀ row ∈ rows, (captures'.get? row.discordMessageId).isSome = true := by
  induction rows generalizing captures newlyCaptured duplicates with
  | nil =>
    cases of_pure hok
    exact ⟨CapturesKept.refl _, fun _ hrow => absurd hrow not_mem_nil⟩
  | cons _ _ ih =>
    obtain ⟨⟨inserted, _⟩, hfirst, hok⟩ := of_bind hok
    obtain ⟨⟨_, _, last⟩, hrest, hok⟩ := of_bind hok
    have hlast : last = captures' := by
      cases inserted <;> cases of_pure hok <;> rfl
    subst hlast
    obtain ⟨hkept, hstored⟩ := insertCapture_kept hfirst
    obtain ⟨hkept', hstored'⟩ := ih hrest
    refine ⟨hkept.trans hkept', ?_⟩
    intro other hother
    rcases mem_cons.mp hother with rfl | hin
    · obtain ⟨found, hfound⟩ := isSome_iff_exists.mp hstored
      obtain ⟨_, hfound', _⟩ := hkept' _ found hfound
      rw [hfound']
      rfl
    · exact hstored' other hin

theorem admitCaptures_kept (ownerId : String) (nowMs : Int)
    (p : Capture → Bool) (db : TransportDb) :
    CapturesKept db.captures (admitCaptures ownerId nowMs p db).captures := by
  intro id _ hrow
  cases hnew : (admitCaptures ownerId nowMs p db).captures.get? id with
  | none =>
    unfold admitCaptures at hnew
    rw [get?_update, hrow] at hnew
    cases hnew
  | some row' =>
    refine ⟨row', rfl, ?_⟩
    unfold admitCaptures at hnew
    rw [get?_update, hrow, map_some] at hnew
    rw [← some.inj hnew]
    split <;> rfl

/-! Pages. -/

/-- What `captureMatches` compares. -/
def Capture.essence (row : Capture) : Capture :=
  { row with
    discordMessageId := "", capturedAtMs := 0, source := .live
    admittedAtMs := none }

theorem captureMatches_iff {existing : Capture} :
    captureMatches existing input = true ↔
      existing.essence = input.essence := by
  unfold captureMatches Capture.essence
  simp [and_assoc]

/-- The rows of a page repeat what is stored of their messages, and each other
where they are of one message. -/
def Repeats (captures : Table Capture) (rows : List Capture) : Prop :=
  (∀ row ∈ rows, ∀ existing ∈ captures.get? row.discordMessageId,
    captureMatches existing row = true) ∧
  rows.Pairwise fun first second =>
    first.discordMessageId = second.discordMessageId →
      captureMatches first second = true

instance (captures : Table Capture) (rows : List Capture) :
    Decidable (Repeats captures rows) :=
  inferInstanceAs (Decidable (_ ∧ _))

/-- The captures of a page are inserted exactly when they repeat what is stored
of their messages. -/
theorem insertCaptures_ok_iff (rows : List Capture) (captures : Table Capture) :
    (∃ result, insertCaptures rows captures = .ok result) ↔
      Repeats captures rows := by
  induction rows generalizing captures with
  | nil =>
    exact ⟨fun _ => ⟨fun _ hrow => absurd hrow not_mem_nil,
      List.Pairwise.nil⟩, fun _ => ⟨_, rfl⟩⟩
  | cons row rest ih =>
    have hfirst : (∃ result, insertCaptures (row :: rest) captures =
        .ok result) ↔
        ∃ inserted mid, insertCaptureInTransaction captures row =
          .ok (inserted, mid) ∧ Repeats mid rest := by
      constructor
      · rintro ⟨_, hok⟩
        obtain ⟨⟨inserted, mid⟩, hinsert, hok⟩ := of_bind hok
        obtain ⟨others, hothers, _⟩ := of_bind hok
        exact ⟨inserted, mid, hinsert, (ih mid).mp ⟨others, hothers⟩⟩
      · rintro ⟨inserted, mid, hinsert, hrepeats⟩
        obtain ⟨⟨_, _⟩, hothers⟩ := (ih mid).mpr hrepeats
        unfold insertCaptures
        rw [hinsert, ok_bind]
        dsimp only
        rw [hothers]
        cases inserted <;> exact ⟨_, rfl⟩
    rw [hfirst]
    cases hstored : captures.get? row.discordMessageId with
    | some existing =>
      constructor
      · rintro ⟨_, _, hinsert, hrest⟩
        rcases insertCapture_cases hinsert with
          ⟨_, hkept, hmatches, rfl⟩ | ⟨hfree, _⟩
        · cases hstored.symm.trans hkept
          refine ⟨?_, pairwise_cons.mpr ⟨?_, hrest.2⟩⟩
          · intro other hother found hfound
            rcases mem_cons.mp hother with rfl | hin
            · rw [← some.inj (hkept.symm.trans hfound)]
              exact hmatches
            · exact hrest.1 other hin found hfound
          · intro other hother hsame
            have hmatches' := hrest.1 other hother existing
              (hsame ▸ hstored)
            rw [captureMatches_iff] at hmatches hmatches' ⊢
            exact hmatches.symm.trans hmatches'
        · rw [hstored] at hfree
          cases hfree
      · rintro ⟨hrows, hpairs⟩
        refine ⟨false, captures, ?_, ?_⟩
        · unfold insertCaptureInTransaction
          rw [hstored]
          dsimp only
          rw [require_pos (hrows row mem_cons_self existing hstored)]
          rfl
        · exact ⟨fun other hin => hrows other (mem_cons_of_mem _ hin),
            (pairwise_cons.mp hpairs).2⟩
    | none =>
      have hget := Table.get?_insertNew
        (show captures.get? (key row) = none from hstored)
      constructor
      · rintro ⟨_, _, hinsert, hrest⟩
        rcases insertCapture_cases hinsert with ⟨found, hfound, _⟩ |
          ⟨_, rfl⟩
        · rw [hstored] at hfound
          cases hfound
        · refine ⟨?_, pairwise_cons.mpr ⟨?_, hrest.2⟩⟩
          · intro other hother found hfound
            rcases mem_cons.mp hother with rfl | hin
            · rw [hstored] at hfound
              cases hfound
            · refine hrest.1 other hin found ?_
              rw [hget, if_neg]
              · exact hfound
              intro hsame
              rw [hsame, show key row = row.discordMessageId from rfl,
                hstored] at hfound
              cases hfound
          · intro other hother hsame
            refine hrest.1 other hother row ?_
            rw [hget]
            exact if_pos hsame.symm
      · rintro ⟨hrows, hpairs⟩
        obtain ⟨hhead, htail⟩ := pairwise_cons.mp hpairs
        refine ⟨true, captures.insertNew row, ?_, ?_, htail⟩
        · unfold insertCaptureInTransaction
          rw [hstored]
          rfl
        · intro other hin found hfound
          rw [hget] at hfound
          by_cases hsame : other.discordMessageId = key row
          · rw [if_pos hsame] at hfound
            cases some.inj hfound
            exact hhead other hin hsame.symm
          · rw [if_neg hsame] at hfound
            exact hrows other (mem_cons_of_mem _ hin) found hfound

/-! Cursors. -/

def cursorAt (db : TransportDb) (surfaceKey : String) : Option String :=
  (db.cursors.get? surfaceKey).map Cursor.afterMessageId

variable {page : NormalizedPage}

/-- A page that follows its cursor is recorded exactly when its captures repeat
what is stored of their messages. -/
theorem recordPage_ok_iff
    (hcursor : cursorAt db page.surface.key = some page.afterMessageId) :
    (∃ result, recordPage page nowMs db = .ok result) ↔
      Repeats db.captures page.captures := by
  rw [← insertCaptures_ok_iff]
  have hfollows : (db.cursors.get? page.surface.key).any
      (·.afterMessageId = page.afterMessageId) = true := by
    obtain ⟨_, hrow, hafter⟩ := map_eq_some_iff.mp hcursor
    rw [hrow]
    exact decide_eq_true hafter
  unfold recordPage
  rw [require_pos hfollows, ok_bind]
  constructor
  · rintro ⟨_, hok⟩
    obtain ⟨inserted, hinserted, _⟩ := of_bind hok
    exact ⟨inserted, hinserted⟩
  · rintro ⟨⟨_, _⟩, hinserted⟩
    rw [hinserted]
    exact ⟨_, rfl⟩

/-- A recorded page moves the cursor of its surface past it. -/
theorem recordPage_cases (hok : recordPage page nowMs db = .ok (result, db')) :
    cursorAt db page.surface.key = some page.afterMessageId ∧
      cursorAt db' page.surface.key = some page.nextAfterMessageId ∧
      (∀ surfaceKey, surfaceKey ≠ page.surface.key →
        cursorAt db' surfaceKey = cursorAt db surfaceKey) ∧
      CapturesKept db.captures db'.captures ∧
      ∀ row ∈ page.captures,
        (db'.captures.get? row.discordMessageId).isSome = true := by
  obtain ⟨hfollows, hok⟩ := of_require hok
  obtain ⟨⟨_, _⟩, hinserted, hok⟩ := of_bind hok
  cases of_pure hok
  obtain ⟨cursor, hcursor, hafter⟩ := (any_eq_true _ _).mp hfollows
  rw [decide_eq_true_eq] at hafter
  have hkey : cursor.surfaceKey = page.surface.key := key_of_get? hcursor
  obtain ⟨hkept, hstored⟩ := insertCaptures_kept hinserted
  refine ⟨?_, ?_, ?_, hkept, hstored⟩
  · unfold cursorAt
    rw [hcursor, map_some, hafter]
  · unfold cursorAt
    rw [get?_update, hcursor, map_some, map_some,
      if_pos (by simp [hkey, hafter])]
  · intro surfaceKey hne
    unfold cursorAt
    rw [get?_update, map_get?_self]
    intro other (hother : other.surfaceKey = surfaceKey)
    simp [hother, hne]

/-- Every cursor is a Discord identifier. -/
def CursorsDiscord (db : TransportDb) : Prop :=
  ∀ surfaceKey afterMessageId, cursorAt db surfaceKey = some afterMessageId →
    isDiscordSnowflake afterMessageId = true

theorem canonicalBoundary_discord {sidecar : Sidecar} {conversationId : String}
    {boundary : String}
    (hboundary : canonicalBoundary sidecar conversationId = some boundary) :
    isDiscordSnowflake boundary = true := by
  have hmem := mem_of_getLast? hboundary
  rw [(perm_insertionSort _ _).mem_iff] at hmem
  exact (mem_filter.mp hmem).2

variable {activeThread : String} {state : CursorState}

/-- A surface with a Discord cursor keeps it; another surface gets one. -/
theorem ensure_cases {input : Surface} (hcursors : CursorsDiscord db)
    (hok : ensureOwnerTransportCursor input reading activeThread nowMs db =
      .ok (state, db')) :
    db'.captures = db.captures ∧ CursorsDiscord db' ∧
      ∀ surfaceKey afterMessageId,
        cursorAt db surfaceKey = some afterMessageId →
          cursorAt db' surfaceKey = some afterMessageId := by
  obtain ⟨surface, _, hok⟩ := of_bind hok
  obtain ⟨_, _, hok⟩ := of_bind hok
  split at hok
  · cases of_pure hok
    exact ⟨rfl, hcursors, fun _ _ hafter => hafter⟩
  rename_i hnone
  split at hok
  · cases of_pure hok
    exact ⟨rfl, hcursors, fun _ _ hafter => hafter⟩
  rename_i boundary hboundary
  cases of_pure hok
  -- the surface has no cursor, for it would be a Discord identifier
  have hfree : db.cursors.get? surface.key = none := by
    cases hrow : db.cursors.get? surface.key with
    | none => rfl
    | some cursor =>
      have hdiscord := hcursors surface.key cursor.afterMessageId
        (by unfold cursorAt; rw [hrow]; rfl)
      rw [hrow] at hnone
      simp [hdiscord] at hnone
  have hget (surfaceKey : String) := Table.get?_upsert db.cursors
    ⟨surface.key, surface, boundary, nowMs⟩
    (fun old => ⟨old.surfaceKey, surface, boundary, nowMs⟩)
    (fun _ => rfl) surfaceKey
  refine ⟨rfl, ?_, ?_⟩
  · intro surfaceKey afterMessageId hafter
    unfold cursorAt at hafter
    rw [hget] at hafter
    by_cases hkey : surfaceKey = surface.key
    · rw [if_pos (show surfaceKey = key _ from hkey), hkey, hfree] at hafter
      cases hafter
      exact canonicalBoundary_discord hboundary
    · rw [if_neg (show surfaceKey ≠ key _ from hkey)] at hafter
      exact hcursors surfaceKey afterMessageId hafter
  · intro _ _ hafter
    unfold cursorAt at hafter ⊢
    rw [hget, if_neg]
    · exact hafter
    · rintro rfl
      rw [show db.cursors.get? (key _) = none from hfree] at hafter
      cases hafter

/-! Steps. -/

theorem capture_cases {input : CaptureInput} {result : CaptureResult}
    (hok : captureOwnerTransport input reading db = .ok (result, db')) :
    db'.cursors = db.cursors ∧ CapturesKept db.captures db'.captures := by
  obtain ⟨_, _, hok⟩ := of_bind hok
  obtain ⟨⟨_, _⟩, hinsert, hok⟩ := of_bind hok
  cases of_pure hok
  exact ⟨rfl, (insertCapture_kept hinsert).1⟩

variable {ownerId : String}

theorem listPending_cases {surfaceKey : Option String} {limit : Option Int}
    {pending : List Capture}
    (hok : listPendingOwnerTransport ownerId surfaceKey limit nowMs db =
      .ok (pending, db')) :
    db'.cursors = db.cursors ∧ CapturesKept db.captures db'.captures := by
  obtain ⟨_, _, hok⟩ := of_bind hok
  cases of_pure hok
  exact ⟨rfl, admitCaptures_kept _ _ _ _⟩

theorem markAdmitted_cases {ids : List String} {result : MarkResult}
    (hok : markOwnerTransportAdmitted ownerId ids nowMs db =
      .ok (result, db')) :
    db'.cursors = db.cursors ∧ CapturesKept db.captures db'.captures := by
  obtain ⟨_, _, hok⟩ := of_bind hok
  obtain ⟨_, _, hok⟩ := of_bind hok
  replace hok := passed hok
  cases of_pure hok
  exact ⟨rfl, admitCaptures_kept _ _ _ _⟩

theorem settle_keeps {α : Type} {P : TransportDb → Prop}
    {outcome : TransportOutcome (α × TransportDb)} (hdb : P db)
    (hok : ∀ value db', outcome = .ok (value, db') → P db') :
    P (settle db outcome) := by
  unfold settle
  split
  · exact hok _ _ rfl
  · exact hdb

theorem ensure_captures {input : Surface}
    (hok : ensureOwnerTransportCursor input reading activeThread nowMs db =
      .ok (state, db')) : db'.captures = db.captures := by
  obtain ⟨_, _, hok⟩ := of_bind hok
  obtain ⟨_, _, hok⟩ := of_bind hok
  split at hok
  · cases of_pure hok
    rfl
  split at hok <;> cases of_pure hok <;> rfl

theorem history_cases {page : HistoryPage}
    (hok : recordOwnerTransportHistoryPage page reading nowMs db =
      .ok (result, db')) :
    ∃ normalized, normalizePage page reading nowMs = .ok normalized ∧
      recordPage normalized nowMs db = .ok (result, db') := by
  exact of_bind hok

/-- No step drops a capture or changes its content. -/
theorem transportStep_captures (op : TransportOp) (db : TransportDb) :
    CapturesKept db.captures (transportStep op db).captures := by
  have hsame := CapturesKept.refl db.captures
  cases op with
  | capture =>
    exact settle_keeps (P := fun db' => CapturesKept db.captures db'.captures)
      hsame fun _ _ hok => (capture_cases hok).2
  | ensureCursor =>
    refine settle_keeps
      (P := fun db' => CapturesKept db.captures db'.captures) hsame ?_
    intro _ _ hok
    rw [ensure_captures hok]
    exact hsame
  | historyPage =>
    refine settle_keeps
      (P := fun db' => CapturesKept db.captures db'.captures) hsame ?_
    intro _ _ hok
    obtain ⟨_, _, hrecord⟩ := history_cases hok
    exact (recordPage_cases hrecord).2.2.2.1
  | listPending =>
    exact settle_keeps (P := fun db' => CapturesKept db.captures db'.captures)
      hsame fun _ _ hok => (listPending_cases hok).2
  | markAdmitted =>
    exact settle_keeps (P := fun db' => CapturesKept db.captures db'.captures)
      hsame fun _ _ hok => (markAdmitted_cases hok).2
  | sidecarWork => exact hsame

/-- A page that follows its cursor brings a Discord identifier to go on from,
and repeats what is stored of the messages it brings again. -/
def Recoverable (op : TransportOp) (db : TransportDb) : Prop :=
  match op with
  | .historyPage page reading nowMs => ∀ normalized,
      normalizePage page reading nowMs = .ok normalized →
      cursorAt db normalized.surface.key = some normalized.afterMessageId →
        isDiscordSnowflake normalized.nextAfterMessageId = true ∧
          Repeats db.captures normalized.captures
  | _ => True

/-- The operation is a page from one identifier to another, and its captures are
stored. -/
def PassedPage (op : TransportOp) (surfaceKey before next : String)
    (db' : TransportDb) : Prop :=
  ∃ page reading nowMs normalized, op = .historyPage page reading nowMs ∧
    normalizePage page reading nowMs = .ok normalized ∧
    normalized.surface.key = surfaceKey ∧
    normalized.afterMessageId = before ∧
    normalized.nextAfterMessageId = next ∧
    ∀ row ∈ normalized.captures,
      (db'.captures.get? row.discordMessageId).isSome = true

/-- The cursors stay Discord identifiers, and each is kept, or moves past a page
that is captured. -/
structure MovesOn (op : TransportOp) (db db' : TransportDb) : Prop where
  discord : CursorsDiscord db'
  moved : ∀ surfaceKey before, cursorAt db surfaceKey = some before →
    ∃ next, cursorAt db' surfaceKey = some next ∧
      (next = before ∨ PassedPage op surfaceKey before next db')

variable {op : TransportOp}

theorem MovesOn.of_cursors_eq (hcursors : CursorsDiscord db)
    (heq : db'.cursors = db.cursors) :
    MovesOn op db db' := by
  have hcursor (surfaceKey : String) :
      cursorAt db' surfaceKey = cursorAt db surfaceKey := by
    unfold cursorAt
    rw [heq]
  refine ⟨?_, fun surfaceKey before hbefore =>
    ⟨before, (hcursor surfaceKey).trans hbefore, .inl rfl⟩⟩
  intro surfaceKey afterMessageId hafter
  rw [hcursor] at hafter
  exact hcursors surfaceKey afterMessageId hafter

theorem MovesOn.of_page {page : HistoryPage} (hcursors : CursorsDiscord db)
    (hrecoverable : Recoverable (.historyPage page reading nowMs) db)
    (hok : recordOwnerTransportHistoryPage page reading nowMs db =
      .ok (result, db')) :
    MovesOn (.historyPage page reading nowMs) db db' := by
  obtain ⟨normalized, hnormalized, hrecord⟩ := history_cases hok
  obtain ⟨hfollows, hmoved, hothers, _, hstored⟩ := recordPage_cases hrecord
  obtain ⟨hnext, _⟩ := hrecoverable normalized hnormalized hfollows
  constructor
  · intro surfaceKey afterMessageId hafter
    by_cases hkey : surfaceKey = normalized.surface.key
    · rw [hkey, hmoved] at hafter
      cases hafter
      exact hnext
    · rw [hothers surfaceKey hkey] at hafter
      exact hcursors surfaceKey afterMessageId hafter
  · intro surfaceKey before hbefore
    by_cases hkey : surfaceKey = normalized.surface.key
    · subst hkey
      rw [hfollows] at hbefore
      exact ⟨_, hmoved, .inr ⟨page, reading, nowMs, normalized, rfl,
        hnormalized, rfl, some.inj hbefore, rfl, hstored⟩⟩
    · exact ⟨before, (hothers surfaceKey hkey).trans hbefore, .inl rfl⟩

theorem transportStep_movesOn (hcursors : CursorsDiscord db)
    (hrecoverable : Recoverable op db) :
    MovesOn op db (transportStep op db) := by
  have hsame : MovesOn op db db := .of_cursors_eq hcursors rfl
  cases op with
  | capture =>
    exact settle_keeps hsame fun _ _ hok =>
      .of_cursors_eq hcursors (capture_cases hok).1
  | listPending =>
    exact settle_keeps hsame fun _ _ hok =>
      .of_cursors_eq hcursors (listPending_cases hok).1
  | markAdmitted =>
    exact settle_keeps hsame fun _ _ hok =>
      .of_cursors_eq hcursors (markAdmitted_cases hok).1
  | sidecarWork => exact .of_cursors_eq hcursors rfl
  | ensureCursor =>
    refine settle_keeps hsame ?_
    intro _ _ hok
    obtain ⟨_, hdiscord, hkept⟩ := ensure_cases hcursors hok
    exact ⟨hdiscord, fun surfaceKey before hbefore =>
      ⟨before, hkept surfaceKey before hbefore, .inl rfl⟩⟩
  | historyPage =>
    exact settle_keeps hsame fun _ _ hok =>
      .of_page hcursors hrecoverable hok

/-- A page goes on from its cursor in the order of numbers. -/
theorem PassedPage.decimal_lt {surfaceKey before next : String}
    (hpassed : PassedPage op surfaceKey before next db')
    (hbefore : isDiscordSnowflake before = true)
    (hnext : isDiscordSnowflake next = true) :
    decimal before < decimal next := by
  obtain ⟨_, _, _, _, _, hnormalized, _, rfl, rfl, _⟩ := hpassed
  obtain ⟨_, _, hnormalized⟩ := of_bind hnormalized
  obtain ⟨_, _, hnormalized⟩ := of_bind hnormalized
  obtain ⟨_, _, hnormalized⟩ := of_bind hnormalized
  obtain ⟨hless, hnormalized⟩ := of_require hnormalized
  obtain ⟨_, _, hnormalized⟩ := of_bind hnormalized
  cases of_pure hnormalized
  have hdigits {text : String} (htext : isDiscordSnowflake text = true) :
      isDigits text = true := by
    simp only [isDiscordSnowflake, Bool.and_eq_true,
      decide_eq_true_eq] at htext
    unfold isDigits
    rw [htext.2, Bool.and_true]
    refine decide_eq_true ?_
    rintro rfl
    exact absurd htext.1.1 (by decide)
  unfold transportLess at hless
  rw [hdigits hbefore, hdigits hnext, Bool.and_true, if_pos rfl,
    decide_eq_true_eq] at hless
  exact hless

/-! Whole runs. -/

/-- The transport loses nothing and does not wedge: captures are kept with their
content, each cursor moves on in the order of numbers and only with the page
that it passes, and every page that follows its cursor is recorded. -/
structure Backfilled (ops : List TransportOp) : Prop where
  captured : ∀ before after, ops = before ++ after →
    CapturesKept (run transportStep {} before).captures
      (run transportStep {} ops).captures
  ordered : ∀ before op after, ops = before ++ op :: after →
    ∀ surfaceKey first,
      cursorAt (run transportStep {} before) surfaceKey = some first →
      ∃ second,
        cursorAt (run transportStep {} (before ++ [op])) surfaceKey =
          some second ∧ decimal first ≤ decimal second ∧
        (second = first ∨ PassedPage op surfaceKey first second
          (run transportStep {} (before ++ [op])))
  recorded : ∀ before page reading nowMs after normalized,
    ops = before ++ .historyPage page reading nowMs :: after →
    normalizePage page reading nowMs = .ok normalized →
    cursorAt (run transportStep {} before) normalized.surface.key =
      some normalized.afterMessageId →
    cursorAt (run transportStep {}
        (before ++ [.historyPage page reading nowMs])) normalized.surface.key =
      some normalized.nextAfterMessageId

theorem cursorsDiscord_run {ops : List TransportOp}
    (hmeets : Meets transportStep Recoverable {} ops) :
    CursorsDiscord (run transportStep {} ops) := by
  have hstep : ∀ op db, Recoverable op db → CursorsDiscord db →
      CursorsDiscord (transportStep op db) :=
    fun _ _ hop hdb => (transportStep_movesOn hdb hop).discord
  refine meets_preserves hstep ?_ hmeets
  intro _ _ hafter
  cases hafter

/-- Recoverable pages are backfilled. -/
theorem recoverable_backfilled (ops : List TransportOp)
    (hmeets : Meets transportStep Recoverable {} ops) : Backfilled ops := by
  constructor
  · rintro before after rfl
    rw [run_append]
    exact run_preserves (P := fun db => CapturesKept
        (run transportStep {} before).captures db.captures)
      (fun op db hkept => hkept.trans (transportStep_captures op db))
      (CapturesKept.refl _) after
  · rintro _ _ _ rfl surfaceKey first hfirst
    obtain ⟨hbefore, hop, _⟩ := meets_append.mp hmeets
    have hcursors := cursorsDiscord_run hbefore
    have hmoves := transportStep_movesOn hcursors hop
    obtain ⟨second, hsecond, hmoved⟩ := hmoves.moved surfaceKey first hfirst
    rw [run_append]
    refine ⟨second, hsecond, ?_, hmoved⟩
    rcases hmoved with rfl | hpassed
    · exact Nat.le_refl _
    · exact (hpassed.decimal_lt (hcursors _ _ hfirst)
        (hmoves.discord _ _ hsecond)).le
  · rintro before page reading nowMs _ normalized rfl hnormalized hfollows
    obtain ⟨_, hop, _⟩ := meets_append.mp hmeets
    obtain ⟨_, hrepeats⟩ := hop normalized hnormalized hfollows
    obtain ⟨⟨result, db'⟩, hrecord⟩ := (recordPage_ok_iff hfollows).mpr hrepeats
    have hok : recordOwnerTransportHistoryPage page reading nowMs
        (run transportStep {} before) = .ok (result, db') := by
      unfold recordOwnerTransportHistoryPage
      rw [hnormalized]
      exact hrecord
    have hstep : transportStep (.historyPage page reading nowMs)
        (run transportStep {} before) = db' := by
      show settle _ (recordOwnerTransportHistoryPage _ _ _ _) = db'
      rw [hok]
      rfl
    rw [run_append, run_cons, hstep]
    exact (recordPage_cases hrecord).2.1

section Runs

/-- A direct message of the Owner, with its text. -/
def direct (id text : String) : CaptureInput where
  surface := { ownerId := "owner", channelId := "dm" }
  discordMessageId := id
  text := text
  sentAtMs := 10
  capturedAtMs := 20

/-- The evidence binds one Discord message of the thread. -/
def bound : Sidecar where
  discordIds := Table.empty.insertNew
    ⟨"100000000000000001", "thread", "lineage", 0⟩

/-- A page that brings one message. -/
def paged (next text : String) : TransportOp :=
  .historyPage
    { surface := { ownerId := "owner", channelId := "dm" }
      afterMessageId := "100000000000000001", nextAfterMessageId := next
      captures := [direct "100000000000000002" text] } {} 30

/-- A live capture, the cursor set to what is admitted, and a page that brings
the captured message again. -/
def overlapped (next text : String) : List TransportOp :=
  [.sidecarWork bound, .capture (direct "100000000000000002" "hello") {},
    .ensureCursor { ownerId := "owner", channelId := "dm" } {} "thread" 20,
    paged next text]

/-- The page as it is recorded. -/
def normalizedPage (next text : String) : NormalizedPage where
  surface := { ownerId := "owner", channelId := "dm" }
  afterMessageId := "100000000000000001"
  nextAfterMessageId := next
  captures :=
    [{ discordMessageId := "100000000000000002", ownerId := "owner"
       surfaceKey := "owner-dm:owner:dm", channelId := "dm", guildId := none
       text := text, attachments := [], ownerRoomContext := none
       sentAtMs := 10, capturedAtMs := 20, source := .history }]

theorem overlapped_backfilled :
    Backfilled (overlapped "100000000000000003" "hello") :=
  recoverable_backfilled _ (by
    simp only [overlapped, paged, Meets, Recoverable]
    refine ⟨trivial, trivial, trivial, ?_, trivial⟩
    intro _ hnormalized _
    have hpage : normalizePage
        { surface := { ownerId := "owner", channelId := "dm" }
          afterMessageId := "100000000000000001"
          nextAfterMessageId := "100000000000000003"
          captures := [direct "100000000000000002" "hello"] } {} 30 =
        .ok (normalizedPage "100000000000000003" "hello") := by
      decide +kernel
    rw [hpage] at hnormalized
    cases hnormalized
    decide +kernel)

/-- The message was edited after its capture, and no page gets past it; and a
cursor of more digits than a Discord identifier is set back. -/
theorem backfill_wedges :
    ¬ Backfilled (overlapped "100000000000000003" "hello, edited") ∧
      ¬ Backfilled (overlapped "999999999999999999999" "hello" ++
        [.ensureCursor { ownerId := "owner", channelId := "dm" } {} "thread"
          40]) := by
  constructor
  · intro hbackfilled
    have hrecorded := hbackfilled.recorded
      ((overlapped "100000000000000003" "hello, edited").take 3) _ _ _ []
      (normalizedPage "100000000000000003" "hello, edited") rfl
      (by decide +kernel) (by decide +kernel)
    revert hrecorded
    decide +kernel
  · intro hbackfilled
    obtain ⟨_, hsecond, hle, _⟩ := hbackfilled.ordered
      (overlapped "999999999999999999999" "hello") _ [] rfl "owner-dm:owner:dm"
      "999999999999999999999" (by decide +kernel)
    have hback : cursorAt (run transportStep {}
        (overlapped "999999999999999999999" "hello" ++
          [.ensureCursor { ownerId := "owner", channelId := "dm" } {} "thread"
            40])) "owner-dm:owner:dm" = some "100000000000000001" := by
      decide +kernel
    rw [hback] at hsecond
    cases hsecond
    revert hle
    decide +kernel

end Runs

end CognitiveSidecar.OwnerTransport
