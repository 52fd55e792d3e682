/-
The observations that a game helper reports, and the notifications that admit
them: every observation is named once, and in the order of its receipt.
-/
import Mathlib.Data.Prod.Lex
import Mathlib.Data.String.Basic
import CognitiveSidecar.Lib.Passes
import CognitiveSidecar.Lib.Run
import CognitiveSidecar.Lib.Table

namespace CognitiveSidecar.Domus

open List Relational Table

inductive AdmissionState
  | stored | admitted | dropped
deriving DecidableEq

structure DomusObservation where
  (observationId digest attachment : String)
  (seq expiresAtMs receiptTimeMs : Int)
  admissionState : AdmissionState := .stored
  undone : Bool := false
deriving DecidableEq

instance : Keyed DomusObservation String := ⟨DomusObservation.observationId⟩

/-- The payload of an inbox event of kind `domus_notification`. -/
structure DomusNotification where
  (id attachment : String)
  observationIds : List String

instance : Keyed DomusNotification String := ⟨DomusNotification.id⟩

structure DomusDb where
  observations : Table DomusObservation := Table.empty
  notifications : Table DomusNotification := Table.empty

inductive AdmitResult
  | admitted (receiptTimeMs : Int)
  | duplicate (receiptTimeMs : Int)
  | conflict

def admitObservation (row : DomusObservation) (db : DomusDb) :
    AdmitResult × DomusDb :=
  match db.observations.get? row.observationId with
  | some existing =>
    (if existing.digest = row.digest then .duplicate existing.receiptTimeMs
      else .conflict, db)
  | none =>
    (.admitted row.receiptTimeMs, { db with
      observations := db.observations.insertNew
        { row with admissionState := .stored, undone := false } })

/-- `ORDER BY receipt_time_ms, seq, observation_id`. -/
def DomusObservation.rank (row : DomusObservation) : Int ×ₗ Int ×ₗ String :=
  toLex (row.receiptTimeMs, toLex (row.seq, row.observationId))

def domusPendingLimit : Nat := 32

def DomusObservation.isPending (row : DomusObservation) (attachment : String)
    (nowMs throughReceiptMs : Int) : Bool :=
  row.attachment = attachment && row.admissionState = .stored && !row.undone &&
    nowMs < row.expiresAtMs && row.receiptTimeMs ≤ min nowMs throughReceiptMs

/-- The newest pending rows, in the order of their receipt. -/
def pendingRows (db : DomusDb) (attachment : String)
    (nowMs throughReceiptMs : Int) : List DomusObservation :=
  ((orderedBy (OrderDual.toDual ·.rank) (db.observations.rows.filter
    (·.isPending attachment nowMs throughReceiptMs))).take
      domusPendingLimit).reverse

inductive DomusFault
  | observationMissing
  | observationNotPending
  | uniqueConstraint
  | raised (reason : String)

/-- What a selection reads besides the observations: whether the attachment is
armed and the budget available, what the append and the binding raise before
the commit, and what the reservation raises behind it. -/
structure SelectInput where
  observationId : String
  nowMs : Int
  (armed budgetAvailable : Bool)
  bindRaises : Option String := none
  reserveRaises : Option String := none

inductive SelectResult
  | existing
  | disarmed
  | deferred
  | selected (included : List DomusObservation)

/-- Admit the included rows, and drop the older ones that did not fit, or
expired while waiting. -/
def admitIncluded (included : List DomusObservation) (attachment : String)
    (nowMs : Int) (observations : Table DomusObservation) :
    Table DomusObservation :=
  (observations.update
    (fun row => row.observationId ∈ included.map (·.observationId) &&
      row.admissionState = .stored)
    ({ · with admissionState := .admitted }) fun _ => rfl).update
    (fun row => row.attachment = attachment && row.admissionState = .stored &&
      (included.head?.any (row.receiptTimeMs < ·.receiptTimeMs) ||
        row.expiresAtMs ≤ nowMs))
    ({ · with admissionState := .dropped }) fun _ => rfl

def notificationId (observationId : String) : String :=
  "domus-notification:" ++ observationId

/-- The event and the admission of its rows commit together. -/
def selectDomusNotification (input : SelectInput) (db : DomusDb) :
    Except DomusFault SelectResult × DomusDb :=
  match db.notifications.get? (notificationId input.observationId),
      db.observations.get? input.observationId with
  | some _, _ => (.ok .existing, db)
  | none, none => (.error .observationMissing, db)
  | none, some newest =>
    if !input.armed then (.ok .disarmed, db)
    else if !input.budgetAvailable then (.ok .deferred, db)
    else
      let attachment := newest.attachment
      let included := pendingRows db attachment input.nowMs newest.receiptTimeMs
      if included.all (·.observationId ≠ input.observationId) then
        (.error .observationNotPending, db)
      else match input.bindRaises, db.notifications.insert?
          ⟨notificationId input.observationId, attachment,
            included.map (·.observationId)⟩ with
        | some reason, _ => (.error (.raised reason), db)
        | none, none => (.error .uniqueConstraint, db)
        | none, some notifications =>
          (match input.reserveRaises with
            | some reason => .error (.raised reason)
            | none => .ok (.selected included),
          { notifications
            observations := admitIncluded included attachment input.nowMs
              db.observations })

/-- What happens to the observations: an arrival, a selection, or a span of play
that is undone. -/
inductive DomusOp
  | arrive (row : DomusObservation)
  | select (input : SelectInput)
  | undo (span : DomusObservation → Bool)

def domusStep (op : DomusOp) (db : DomusDb) : DomusDb :=
  match op with
  | .arrive row => (admitObservation row db).2
  | .select input => (selectDomusNotification input db).2
  | .undo span => { db with
      observations := db.observations.update span
        ({ · with undone := true }) fun _ => rfl }

variable {db : DomusDb} {input : SelectInput} {attachment : String}
variable {nowMs throughReceiptMs : Int} {row other : DomusObservation}
variable {included : List DomusObservation}
variable {observationId : String}

/-! Pages. -/

theorem isPending_iff :
    row.isPending attachment nowMs throughReceiptMs = true ↔
      row.attachment = attachment ∧ row.admissionState = .stored ∧
        row.undone = false ∧ nowMs < row.expiresAtMs ∧
        row.receiptTimeMs ≤ min nowMs throughReceiptMs := by
  simp [DomusObservation.isPending, and_assoc]

theorem of_mem_pendingRows
    (hrow : row ∈ pendingRows db attachment nowMs throughReceiptMs) :
    db.observations.get? row.observationId = some row ∧
      row.isPending attachment nowMs throughReceiptMs = true := by
  unfold pendingRows at hrow
  have hmem := mem_of_mem_take (mem_reverse.mp hrow)
  rw [mem_orderedBy, mem_filter] at hmem
  exact ⟨get?_key hmem.1, hmem.2⟩

theorem nodup_pendingRows :
    ((pendingRows db attachment nowMs throughReceiptMs).map
      (·.observationId)).Nodup := by
  unfold pendingRows
  rw [map_reverse, nodup_reverse]
  refine List.Nodup.sublist ((take_sublist _ _).map _) ?_
  unfold orderedBy
  rw [((perm_insertionSort _ _).map _).nodup_iff]
  exact db.observations.keys_nodup.sublist (filter_sublist.map _)

/-- What does not fit on the page was not received after a row of it. -/
theorem receipt_le_of_left_out (hrow : row ∈ db.observations.rows)
    (hpending : row.isPending attachment nowMs throughReceiptMs = true)
    (hleft : row ∉ pendingRows db attachment nowMs throughReceiptMs)
    (hother : other ∈ pendingRows db attachment nowMs throughReceiptMs) :
    row.receiptTimeMs ≤ other.receiptTimeMs := by
  unfold pendingRows at hleft hother
  rw [mem_reverse] at hleft hother
  have hle := rank_le_of_left_out (mem_filter.mpr ⟨hrow, hpending⟩) hleft
    hother
  rcases Prod.Lex.le_iff.mp (OrderDual.toDual_le_toDual.mp hle) with
    hlt | ⟨heq, _⟩
  · exact le_of_lt hlt
  · exact le_of_eq heq

/-! Steps. -/

/-- A selection that commits. -/
structure Commits (input : SelectInput) (db : DomusDb)
    (newest : DomusObservation) (included : List DomusObservation)
    (after : DomusDb) : Prop where
  stored : db.observations.get? input.observationId = some newest
  page : included =
    pendingRows db newest.attachment input.nowMs newest.receiptTimeMs
  anchored : included ≠ []
  notified : db.notifications.insert?
    ⟨notificationId input.observationId, newest.attachment,
      included.map (·.observationId)⟩ = some after.notifications
  admitted : after.observations =
    admitIncluded included newest.attachment input.nowMs db.observations

/-- A selection leaves everything as it was, or commits; then it answers with
what it included unless the reservation raises. -/
theorem select_cases (input : SelectInput) (db : DomusDb) :
    ((selectDomusNotification input db).2 = db ∧
      ∀ included, (selectDomusNotification input db).1 ≠
        .ok (.selected included)) ∨
    ∃ newest included, Commits input db newest included
        (selectDomusNotification input db).2 ∧
      (∀ answer, (selectDomusNotification input db).1 = .ok answer →
        answer = .selected included) ∧
      (input.reserveRaises = none → (selectDomusNotification input db).1 =
        .ok (.selected included)) := by
  unfold selectDomusNotification
  split
  · exact .inl ⟨rfl, fun _ hok => by cases hok⟩
  · exact .inl ⟨rfl, fun _ hok => by cases hok⟩
  rename_i newest _ hnewest
  dsimp only
  split_ifs with _ _ hpage
  · exact .inl ⟨rfl, fun _ hok => by cases hok⟩
  · exact .inl ⟨rfl, fun _ hok => by cases hok⟩
  · exact .inl ⟨rfl, fun _ hok => by cases hok⟩
  split
  · exact .inl ⟨rfl, fun _ hok => by cases hok⟩
  · exact .inl ⟨rfl, fun _ hok => by cases hok⟩
  rename_i hinsert
  refine .inr ⟨newest, _, ⟨hnewest, rfl, ?_, hinsert, rfl⟩, ?_, ?_⟩
  · intro hnone
    exact hpage (by rw [hnone]; rfl)
  · intro _ hok
    split at hok
    · cases hok
    · exact (Except.ok.inj hok).symm
  · intro hreserves
    rw [hreserves]

/-- The row of an observation after a selection. -/
theorem get?_admitIncluded {observations : Table DomusObservation} :
    (admitIncluded included attachment nowMs observations).get? observationId =
      (observations.get? observationId).map fun row =>
        if row.admissionState ≠ .stored then row
        else if row.observationId ∈ included.map (·.observationId) then
          { row with admissionState := .admitted }
        else if row.attachment = attachment ∧
            (included.head?.any (row.receiptTimeMs < ·.receiptTimeMs) = true ∨
              row.expiresAtMs ≤ nowMs) then
          { row with admissionState := .dropped }
        else row := by
  unfold admitIncluded
  rw [get?_update, get?_update, Option.map_map]
  congr 1
  funext row
  rw [Function.comp_apply]
  by_cases hstored : row.admissionState = .stored
  · by_cases hmem : row.observationId ∈ included.map (·.observationId)
    · simp only [hmem, hstored, decide_true, Bool.and_self, if_true]
      simp
    · simp [-mem_map, hmem, hstored]
  · simp [hstored]

variable {newest : DomusObservation} {after : DomusDb}

/-- A row whose identifier is on a page is pending. -/
theorem Commits.pending (hcommits : Commits input db newest included after)
    (hrow : db.observations.get? row.observationId = some row)
    (hmem : row.observationId ∈ included.map (·.observationId)) :
    row.isPending newest.attachment input.nowMs newest.receiptTimeMs =
      true := by
  obtain ⟨_, hfound, hsame⟩ := mem_map.mp hmem
  rw [hcommits.page] at hfound
  obtain ⟨hstored, hpending⟩ := of_mem_pendingRows hfound
  rw [hsame, hrow] at hstored
  cases hstored
  exact hpending

/-! What a run keeps. -/

/-- The observation is not admitted, and never will be. -/
def Retired (observationId : String) (db : DomusDb) : Prop :=
  ∃ row, db.observations.get? observationId = some row ∧
    row.admissionState ≠ .admitted ∧
    (row.admissionState = .stored → row.undone = true)

/-- No notification names an observation that another one names, and those it
names are admitted. -/
structure Named (db : DomusDb) : Prop where
  once : (db.notifications.rows.flatMap (·.observationIds)).Nodup
  admitted : ∀ observationId ∈
      db.notifications.rows.flatMap (·.observationIds),
    ∃ row, db.observations.get? observationId = some row ∧
      row.admissionState = .admitted

/-- What a step makes of an observation. -/
inductive Moved (row : DomusObservation) : DomusObservation → Prop
  | kept : Moved row row
  | undone : Moved row { row with undone := true }
  | admitted (hstored : row.admissionState = .stored)
      (hplayed : row.undone = false) :
    Moved row { row with admissionState := .admitted }
  | dropped (hstored : row.admissionState = .stored) :
    Moved row { row with admissionState := .dropped }

theorem step_moved (op : DomusOp)
    (hrow : db.observations.get? observationId = some row) :
    ∃ row', (domusStep op db).observations.get? observationId = some row' ∧
      Moved row row' := by
  have hkey : row.observationId = observationId := key_of_get? hrow
  cases op with
  | arrive new =>
    refine ⟨row, ?_, .kept⟩
    unfold domusStep admitObservation
    dsimp only
    split
    · exact hrow
    · rename_i hfree
      refine (@get?_insertNew _ _ _ _ { new with
        admissionState := .stored, undone := false } _ hfree _).trans ?_
      rw [if_neg, hrow]
      rintro rfl
      cases hfree.symm.trans hrow
  | undo =>
    rw [domusStep, get?_update, hrow]
    refine ⟨_, rfl, ?_⟩
    dsimp only
    split_ifs
    · exact .undone
    · exact .kept
  | select input =>
    rcases select_cases input db with ⟨hsame, _⟩ | ⟨_, _,
      hcommits, _⟩
    · exact ⟨row, by rw [domusStep, hsame]; exact hrow, .kept⟩
    · rw [domusStep, hcommits.admitted, get?_admitIncluded, hrow]
      refine ⟨_, rfl, ?_⟩
      dsimp only
      split_ifs with hstored hmem hdropped
      · exact .kept
      · obtain ⟨_, hstored, hplayed, _⟩ := isPending_iff.mp
          (hcommits.pending (by rw [hkey]; exact hrow) hmem)
        exact .admitted hstored hplayed
      · exact .dropped (not_ne_iff.mp hstored)
      · exact .kept

theorem step_retired (op : DomusOp) (db : DomusDb)
    (hretired : Retired observationId db) :
    Retired observationId (domusStep op db) := by
  obtain ⟨_, hrow, hopen, hundone⟩ := hretired
  obtain ⟨row', hrow', hmoved⟩ := step_moved op hrow
  refine ⟨row', hrow', ?_⟩
  cases hmoved with
  | kept => exact ⟨hopen, hundone⟩
  | undone => exact ⟨hopen, fun _ => rfl⟩
  | admitted hstored hplayed => cases hplayed.symm.trans (hundone hstored)
  | dropped =>
    exact ⟨(by intro hdropped; cases hdropped),
      (by intro hstored; cases hstored)⟩

theorem step_named (op : DomusOp) (db : DomusDb) (hnamed : Named db) :
    Named (domusStep op db) := by
  have hkept : ∀ observationId ∈
      db.notifications.rows.flatMap (·.observationIds),
      ∃ row, (domusStep op db).observations.get? observationId = some row ∧
        row.admissionState = .admitted := by
    intro observationId hmem
    obtain ⟨_, hrow, hadmitted⟩ := hnamed.admitted observationId hmem
    obtain ⟨row', hrow', hmoved⟩ := step_moved op hrow
    refine ⟨row', hrow', ?_⟩
    cases hmoved with
    | kept | undone => exact hadmitted
    | admitted => exact rfl
    | dropped hstored => cases hadmitted.symm.trans hstored
  cases op with
  | arrive row =>
    have hsame : (domusStep (.arrive row) db).notifications =
        db.notifications := by
      unfold domusStep admitObservation
      dsimp only
      split <;> rfl
    exact ⟨by rw [hsame]; exact hnamed.once, by rw [hsame]; exact hkept⟩
  | undo => exact ⟨hnamed.once, hkept⟩
  | select input =>
    rcases select_cases input db with ⟨hsame, _⟩ | ⟨_, included,
      hcommits, _⟩
    · rw [domusStep, hsame]
      exact hnamed
    have hrows := (insert?_eq_some hcommits.notified).2
    have hpage : ∀ observationId ∈ included.map (·.observationId), ∃ row,
        db.observations.get? observationId = some row ∧
          row.admissionState = .stored := by
      intro _ hmem
      obtain ⟨row, hrow, rfl⟩ := mem_map.mp hmem
      rw [hcommits.page] at hrow
      obtain ⟨hstored, hpending⟩ := of_mem_pendingRows hrow
      exact ⟨row, hstored, (isPending_iff.mp hpending).2.1⟩
    constructor
    · rw [domusStep, hrows, flatMap_append, nodup_append]
      refine ⟨hnamed.once, ?_, ?_⟩
      · rw [flatMap_singleton, hcommits.page]
        exact nodup_pendingRows
      · rintro _ hold _ hnew rfl
        rw [flatMap_singleton] at hnew
        obtain ⟨_, hrow, hadmitted⟩ := hnamed.admitted _ hold
        obtain ⟨_, hrow', hstored⟩ := hpage _ hnew
        cases hrow.symm.trans hrow'
        cases hadmitted.symm.trans hstored
    · intro observationId hmem
      rw [domusStep, hrows, flatMap_append, mem_append,
        flatMap_singleton] at hmem
      rcases hmem with hold | hnew
      · exact hkept observationId hold
      · obtain ⟨row, hrow, hstored⟩ := hpage _ hnew
        rw [domusStep, hcommits.admitted, get?_admitIncluded, hrow]
        refine ⟨_, rfl, ?_⟩
        dsimp only
        rw [if_neg (not_not.mpr hstored), if_pos (by
          rw [show row.observationId = observationId from key_of_get? hrow]
          exact hnew)]

/-! Order. -/

/-- The reservation of a selection does not raise, and no pending row that does
not fit on its page was received at the same time as the page's first row. -/
def DomusOp.Fits (op : DomusOp) (db : DomusDb) : Prop :=
  ∀ input, op = .select input → input.reserveRaises = none ∧
    ∀ newest first row,
      db.observations.get? input.observationId = some newest →
      (pendingRows db newest.attachment input.nowMs
        newest.receiptTimeMs).head? = some first →
      row ∈ db.observations.rows →
      row.isPending newest.attachment input.nowMs newest.receiptTimeMs =
        true →
      row.receiptTimeMs = first.receiptTimeMs →
      row ∈ pendingRows db newest.attachment input.nowMs newest.receiptTimeMs

/-- Where no row ties with the first one, what precedes an admitted row is
admitted with it or never. -/
theorem Commits.retires (hcommits : Commits input db newest included after)
    (hfits : (DomusOp.select input).Fits db) (hother : other ∈ included)
    (hrow : after.observations.get? row.observationId = some row)
    (hsame : row.attachment = newest.attachment)
    (hbefore : row.rank < other.rank) (hopen : row.admissionState ≠ .admitted) :
    Retired row.observationId after := by
  refine ⟨row, hrow, hopen, fun hstored => ?_⟩
  by_contra hundone
  rw [hcommits.admitted, get?_admitIncluded] at hrow
  obtain ⟨old, hold, hrow⟩ := Option.map_eq_some_iff.mp hrow
  have hkey : old.observationId = row.observationId := key_of_get? hold
  split_ifs at hrow with hopen' hmem hdropped
  · exact absurd (by rw [hrow]; exact hstored) hopen'
  · rw [← hrow] at hstored
    cases hstored
  · rw [← hrow] at hstored
    cases hstored
  subst hrow
  have hreceived : old.receiptTimeMs ≤ other.receiptTimeMs := by
    rcases Prod.Lex.le_iff.mp hbefore.le with hlt | ⟨heq, _⟩
    · exact le_of_lt hlt
    · exact le_of_eq heq
  rw [hcommits.page] at hother
  have hin := (of_mem_pendingRows hother).2
  simp only [not_and, not_or, not_le] at hdropped
  have hfirst := hdropped hsame
  have hpending : old.isPending newest.attachment input.nowMs
      newest.receiptTimeMs = true :=
    isPending_iff.mpr ⟨hsame, hstored, by simpa using hundone, hfirst.2,
      hreceived.trans (isPending_iff.mp hin).2.2.2.2⟩
  have hleft : old ∉ pendingRows db newest.attachment input.nowMs
      newest.receiptTimeMs := by
    rw [← hcommits.page]
    exact fun hin => hmem (mem_map_of_mem hin)
  cases hpage : pendingRows db newest.attachment input.nowMs
      newest.receiptTimeMs with
  | nil => rw [hpage] at hother; cases hother
  | cons first =>
    have hle := receipt_le_of_left_out (mem_of_get? hold) hpending hleft
      (show first ∈ _ by rw [hpage]; exact mem_cons_self)
    have hge := hfirst.1
    rw [hcommits.page, hpage] at hge
    refine hleft ((hfits input rfl).2 newest first old hcommits.stored
      (by rw [hpage]; rfl) (mem_of_get? hold) hpending ?_)
    have hge : ¬ old.receiptTimeMs < first.receiptTimeMs := by simpa using hge
    omega

/-- The arrival of an observation, and a selection at it. -/
def arrival (seq : Nat) : DomusOp :=
  .arrive
    { observationId := toString seq, digest := "", attachment := "a", seq
      expiresAtMs := 9, receiptTimeMs := 1 }

def selection (seq : Nat) : DomusOp :=
  .select
    { observationId := toString seq, nowMs := 2, armed := true
      budgetAvailable := true }

end CognitiveSidecar.Domus
