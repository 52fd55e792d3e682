/-
Salvage of a settlement: its faulty optional parts are removed, one at a time,
until what is left is accepted.
-/
import Mathlib.Data.List.Sort

namespace CognitiveSidecar.Salvage

open Option List

/-- A JSON value. -/
inductive Value
  | object (members : List (String × Value))
  | array (items : List Value)
  | text (s : String)
  | other (source : String)

/-- The own properties of an object. -/
abbrev Members := List (String × Value)

/-- `delete record[key]`. -/
def without (key : String) (record : Members) : Members :=
  record.filter (·.1 ≠ key)

/-- The record with another value under a key that it has. -/
def put (key : String) (value : Value) (record : Members) : Members :=
  record.map fun member => if member.1 = key then (key, value) else member

def maxRemovals : Nat := 6

def droppableKeys : List String :=
  ["journal", "reflection", "webPlaces", "growth", "interests", "learned",
    "pursuits", "nextOwnTime", "attention", "senses", "home", "intents",
    "domusAct", "domusSnapshot", "domusPromise", "domusPromiseSettled", "touch",
    "correct", "callback", "pin", "card", "face", "quiet"]

/-- The rhythm fields of speech, by their names in it. -/
def speechRhythmFields : List String :=
  ["shape", "bubbles", "afterthought", "replyTo"]

def effectBearingKeys : List String :=
  ["domusAct", "domusSnapshot", "domusPromise", "domusPromiseSettled",
    "intents", "home", "pursuits", "nextOwnTime", "webPlaces", "senses",
    "touch", "correct", "callback", "pin", "card", "face", "quiet"]

def protectedKeys : List String :=
  ["kind", "speech", "interactionIntent", "initiativePreference",
    "interpretation", "commitments", "durableNominations", "placeRules",
    "contactStop", "forget", "night", "evidenceUse"]

inductive FailureCode
  | invalidJson | rootNotObject | wrongKind | unknownField | emptyWhenPresent
  | requiredFieldMissing | wrongType | invalidEnum | referenceNotAllowlisted
  | commitmentBindingInvalid | aliasInvalid | aliasCollidesWithExistingRef
  | operationNotRegistered
deriving DecidableEq

def closedCodes : List FailureCode :=
  [.invalidJson, .rootNotObject, .wrongKind, .requiredFieldMissing,
    .referenceNotAllowlisted, .commitmentBindingInvalid, .aliasInvalid,
    .aliasCollidesWithExistingRef, .operationNotRegistered]

/-- A failure names its field; `repairs` when it asks for epistemic repairs. -/
structure ParseFailure where
  code : FailureCode
  field : Option String := none
  repairs : Bool := false

/-- The outcome of the parser on a settlement; `none` when it accepts. -/
abbrev Reparse := Members → Option ParseFailure

/-- A part that may be removed. -/
inductive Removal
  | nomination (index : Nat)
  | rhythm (key : String)
  | optional (key : String)

/-- The name under which a removal is reported. -/
def Removal.dropped : Removal → String
  | nomination index => "durableNominations[" ++ toString index ++ "]"
  | rhythm key => "speech." ++ key
  | optional key => key

def hasDraftSpeech (record : Members) : Bool :=
  match record.lookup "speech" with
  | some (.object members) =>
    match members.lookup "mode" with
    | some (.text mode) => mode = "draft"
    | _ => false
  | _ => false

/-- The root object of a settlement. -/
def isSettlement (record : Members) : Bool :=
  match record.lookup "kind" with
  | some (.text kind) => kind = "settlement"
  | _ => false

/-- The index in `durableNominations[index]`, at the end or before a dot. -/
def nominationIndex (field : String) : Option Nat :=
  let lead := "durableNominations[".toList
  if lead <+: field.toList then
    let rest := field.toList.drop lead.length
    let digits := rest.takeWhile Char.isDigit
    match rest.dropWhile Char.isDigit with
    | [']'] | ']' :: '.' :: _ =>
      if digits = [] then none
      else some (digits.foldl (fun n c => 10 * n + (c.toNat - 48)) 0)
    | _ => none
  else none

/-- What a failure lets be removed. -/
def removalFor (failure : ParseFailure) : Option Removal :=
  if failure.repairs ∨ failure.code ∈ closedCodes then none
  else match failure.field.filter (· ≠ "") with
  | none => none
  | some field =>
    match nominationIndex field with
    | some index => some (.nomination index)
    | none =>
      if field = "durableNominations" ∨
          "durableNominations.".toList <+: field.toList then none
      else match speechRhythmFields.find? ("speech." ++ · = field) with
      | some key => some (.rhythm key)
      | none =>
        if failure.code = .unknownField then
          if '.' ∈ field.toList ∨ '[' ∈ field.toList ∨
              "Deltas".toList <:+ field.toList ∨ field ∈ protectedKeys then none
          else some (.optional field)
        else
          -- A field goes on behind its first part with a dot or a bracket.
          let top := String.ofList
            (field.toList.takeWhile fun c => c ≠ '.' && c ≠ '[')
          if top ∈ droppableKeys then some (.optional top) else none

/-- The record without the part; `none` when it is not there. -/
def Removal.apply (record : Members) : Removal → Option Members
  | nomination index =>
    match record.lookup "durableNominations" with
    | some (.array items) =>
      if index < items.length then
        some (put "durableNominations" (.array (items.eraseIdx index)) record)
      else none
    | _ => none
  | rhythm key =>
    match record.lookup "speech" with
    | some (.object members) =>
      if (members.lookup key).isSome then
        some (put "speech" (.object (without key members)) record)
      else none
    | _ => none
  | optional key =>
    if (record.lookup key).isSome then some (without key record) else none

/-- Words about an act may not stay without the act. -/
def leavesWords (removal : Removal) (record : Members) : Bool :=
  removal.dropped ∈ effectBearingKeys && hasDraftSpeech record

/-- The rounds of `salvageSettlement` that remain. -/
def salvageRounds (reparse : Reparse) :
    Nat → Members → Option ParseFailure → List String →
      Option (Members × List String)
  | _, record, none, dropped => some (record, dropped)
  | 0, _, some _, _ => none
  | rounds + 1, record, some failure, dropped => do
    let removal ← removalFor failure
    guard (isSettlement record)
    let record ← removal.apply record
    guard (!leavesWords removal record)
    salvageRounds reparse rounds record (reparse record)
      (dropped ++ [removal.dropped])

def salvageSettlement (record : Members) (failure : ParseFailure)
    (reparse : Reparse) : Option (Members × List String) := do
  guard (isSettlement record)
  salvageRounds reparse maxRemovals record (some failure) []

/-- The removals for a list of paths, each part once. -/
def removalsAt : List String → List Removal → Option (List Removal)
  | [], removals => some removals
  | path :: rest, removals => do
    let removal ← removalFor { code := .wrongType, field := some path }
    removalsAt rest
      (if removals.any (·.dropped = removal.dropped) then removals
        else removals ++ [removal])

/-- The place of a nomination; any other part comes after them. -/
def Removal.place : Removal → Int
  | nomination index => index
  | _ => -1

/-- The removals one after the other; an absent part is no fault. -/
def applyAll : List Removal → Members → List String →
    Option (Members × List String)
  | [], record, dropped => some (record, dropped)
  | removal :: rest, record, dropped => do
    let record := (removal.apply record).getD record
    guard (!leavesWords removal record)
    applyAll rest record (dropped ++ [removal.dropped])

def dropOptionalPartsAt (record : Members) (paths : List String)
    (reparse : Reparse) : Option (Members × List String) := do
  guard (isSettlement record && !paths.isEmpty)
  let removals ← removalsAt paths []
  let (record, dropped) ← applyAll
    (removals.insertionSort fun left right => right.place ≤ left.place) record []
  guard (reparse record).isNone
  pure (record, dropped)

/-! What a salvage may do. -/

/-- A removal is of a nomination entry, of a rhythm field or of an optional
key. -/
def Removal.IsAllowed : Removal → Prop
  | nomination _ => True
  | rhythm key => key ∈ speechRhythmFields
  | optional key => key ∉ protectedKeys ∧ ¬ "Deltas".toList <:+ key.toList

/-- One deletion, which leaves no words about its act. -/
def Drop (record after : Members) : Prop :=
  ∃ removal : Removal, removal.IsAllowed ∧
    removal.apply record = some after ∧ leavesWords removal after = false

/-- Deletions only; protected keys keep their values, apart from the two that
lose parts, and so do effect-bearing keys beside draft speech. -/
structure Salvaged (record result : Members) : Prop where
  drops : Relation.ReflTransGen Drop record result
  protects : ∀ key ∈ protectedKeys, key ≠ "speech" →
    key ≠ "durableNominations" → result.lookup key = record.lookup key
  words : hasDraftSpeech result = hasDraftSpeech record ∧
    (hasDraftSpeech result = true → ∀ key ∈ effectBearingKeys,
      result.lookup key = record.lookup key)

variable {record after : Members} {removal : Removal}
variable {key other : String} {before dropped : List String}

theorem lookup_without (hne : other ≠ key) (record : Members) :
    (without key record).lookup other = record.lookup other := by
  induction record with
  | nil => rfl
  | cons member _ ih =>
    obtain ⟨name, _⟩ := member
    unfold without at ih ⊢
    by_cases hname : name = key
    · rw [filter_cons_of_neg (by simpa using hname), ih, lookup_cons,
        beq_false_of_ne (hname ▸ hne)]
    · rw [filter_cons_of_pos (by simpa using hname), lookup_cons,
        lookup_cons, ih]

theorem lookup_put (hne : other ≠ key) (value : Value) (record : Members) :
    (put key value record).lookup other = record.lookup other := by
  induction record with
  | nil => rfl
  | cons member _ ih =>
    obtain ⟨name, _⟩ := member
    unfold put at ih ⊢
    rw [map_cons, lookup_cons, lookup_cons, ih]
    by_cases hname : name = key
    · rw [if_pos hname, hname, beq_false_of_ne hne]
    · rw [if_neg hname]

theorem lookup_put_self {value held : Value}
    (hheld : record.lookup key = some held) :
    (put key value record).lookup key = some value := by
  induction record with
  | nil => cases hheld
  | cons member _ ih =>
    obtain ⟨name, _⟩ := member
    unfold put at ih ⊢
    rw [map_cons]
    by_cases hname : name = key
    · rw [if_pos hname, lookup_cons_self]
    · rw [lookup_cons, beq_false_of_ne (Ne.symm hname)] at hheld
      rw [if_neg hname, lookup_cons, beq_false_of_ne (Ne.symm hname)]
      exact ih hheld

theorem removalFor_allowed {failure : ParseFailure}
    (hremoval : removalFor failure = some removal) : removal.IsAllowed := by
  have hdroppable : ∀ key ∈ droppableKeys,
      key ∉ protectedKeys ∧ ¬ "Deltas".toList <:+ key.toList := by
    decide +kernel
  unfold removalFor at hremoval
  split at hremoval
  · cases hremoval
  split at hremoval
  · cases hremoval
  split at hremoval
  · cases hremoval
    trivial
  split at hremoval
  · cases hremoval
  split at hremoval
  · rename_i hfind
    cases hremoval
    exact mem_of_find?_eq_some hfind
  split at hremoval
  · split at hremoval
    · cases hremoval
    · rename_i hopen
      cases hremoval
      simp only [not_or] at hopen
      exact ⟨hopen.2.2.2, hopen.2.2.1⟩
  · dsimp only at hremoval
    split at hremoval
    · rename_i htop
      cases hremoval
      exact hdroppable _ htop
    · cases hremoval

/-- The key whose value a removal changes. -/
def Removal.target : Removal → String
  | nomination _ => "durableNominations"
  | rhythm _ => "speech"
  | optional key => key

theorem Removal.lookup_apply (happly : removal.apply record = some after)
    (hother : other ≠ removal.target) :
    after.lookup other = record.lookup other := by
  unfold Removal.apply at happly
  cases removal with
  | nomination | rhythm =>
    dsimp only at happly
    split at happly
    · split at happly
      · cases happly
        exact lookup_put hother _ _
      · cases happly
    · cases happly
  | optional =>
    dsimp only at happly
    split at happly
    · cases happly
      exact lookup_without hother _
    · cases happly

/-- Speech stays a draft, or none. -/
theorem Drop.hasDraftSpeech_eq (hdrop : Drop record after) :
    hasDraftSpeech after = hasDraftSpeech record := by
  obtain ⟨removal, hallowed, happly, _⟩ := hdrop
  unfold hasDraftSpeech
  cases removal with
  | nomination =>
    rw [Removal.lookup_apply happly (show "speech" ≠ "durableNominations" by decide)]
  | optional =>
    rw [Removal.lookup_apply happly]
    rintro rfl
    exact hallowed.1 (by decide)
  | rhythm =>
    unfold Removal.apply at happly
    dsimp only at happly
    split at happly
    · rename_i hspeech
      split at happly
      · cases happly
        rw [lookup_put_self hspeech]
        dsimp only
        rw [lookup_without]
        rintro rfl
        exact absurd (show "mode" ∈ speechRhythmFields from hallowed) (by decide)
      · cases happly
    · cases happly

theorem Drop.salvaged (hdrop : Drop record after) : Salvaged record after := by
  have hdraft := hdrop.hasDraftSpeech_eq
  refine ⟨.single hdrop, ?_, hdraft, ?_⟩
  · intro _ hkey hspeech hnominations
    obtain ⟨removal, hallowed, happly, _⟩ := hdrop
    refine Removal.lookup_apply happly ?_
    cases removal with
    | nomination _ => exact hnominations
    | rhythm _ => exact hspeech
    | optional =>
      rintro rfl
      exact hallowed.1 hkey
  · intro hwords key hkey
    obtain ⟨removal, _, happly, hleaves⟩ := hdrop
    refine Removal.lookup_apply happly ?_
    cases removal with
    | nomination _ =>
      exact ne_of_mem_of_not_mem hkey
        (show "durableNominations" ∉ effectBearingKeys by decide)
    | rhythm _ =>
      exact ne_of_mem_of_not_mem hkey
        (show "speech" ∉ effectBearingKeys by decide)
    | optional =>
      rintro rfl
      unfold leavesWords Removal.dropped at hleaves
      rw [hwords, show decide (key ∈ effectBearingKeys) = true from
        decide_eq_true hkey] at hleaves
      cases hleaves

theorem Salvaged.refl (record : Members) : Salvaged record record :=
  ⟨.refl, fun _ _ _ _ => rfl, rfl, fun _ _ _ => rfl⟩

theorem Salvaged.trans {result : Members} (hfirst : Salvaged record after)
    (hrest : Salvaged after result) : Salvaged record result where
  drops := hfirst.drops.trans hrest.drops
  protects key hkey hspeech hnominations :=
    (hrest.protects key hkey hspeech hnominations).trans
      (hfirst.protects key hkey hspeech hnominations)
  words := by
    refine ⟨hrest.words.1.trans hfirst.words.1, fun hwords key hkey => ?_⟩
    rw [hrest.words.2 hwords key hkey]
    exact hfirst.words.2 (hrest.words.1 ▸ hwords) key hkey

/-! Both passes. -/

theorem salvageRounds_salvaged {reparse : Reparse} {rounds : Nat}
    {outcome : Option ParseFailure}
    (hok : salvageRounds reparse rounds record outcome before =
      some (after, dropped)) : Salvaged record after := by
  induction rounds generalizing record outcome before with
  | zero =>
    cases outcome with
    | none =>
      cases hok
      exact .refl _
    | some => cases hok
  | succ _ ih =>
    cases outcome with
    | none =>
      cases hok
      exact .refl _
    | some =>
      simp only [salvageRounds, bind_eq_bind, bind_eq_some_iff,
        guard_eq_some', Bool.not_eq_true'] at hok
      obtain ⟨removal, hremoval, _, _, next, happly, _, hwords, hok⟩ := hok
      have hdrop : Drop record next :=
        ⟨removal, removalFor_allowed hremoval, happly, hwords⟩
      exact hdrop.salvaged.trans (ih hok)

variable {removals : List Removal}

theorem removalsAt_allowed {paths : List String} {before : List Removal}
    (hbefore : ∀ removal ∈ before, removal.IsAllowed)
    (hok : removalsAt paths before = some removals) :
    ∀ removal ∈ removals, removal.IsAllowed := by
  induction paths generalizing before with
  | nil =>
    cases hok
    exact hbefore
  | cons _ _ ih =>
    simp only [removalsAt, bind_eq_bind, bind_eq_some_iff] at hok
    obtain ⟨_, hremoval, hok⟩ := hok
    refine ih ?_ hok
    split
    · exact hbefore
    · intro other hother
      rcases mem_append.mp hother with hold | hnew
      · exact hbefore other hold
      · rw [mem_singleton.mp hnew]
        exact removalFor_allowed hremoval

theorem applyAll_salvaged (hallowed : ∀ removal ∈ removals, removal.IsAllowed)
    (hok : applyAll removals record before = some (after, dropped)) :
    Salvaged record after := by
  induction removals generalizing record before with
  | nil =>
    cases hok
    exact .refl _
  | cons removal _ ih =>
    simp only [applyAll, bind_eq_bind, bind_eq_some_iff,
      guard_eq_some', Bool.not_eq_true'] at hok
    obtain ⟨_, hwords, hok⟩ := hok
    have hrest := ih (fun other hother =>
      hallowed other (mem_cons_of_mem _ hother)) hok
    cases happly : removal.apply record with
    | none =>
      rw [happly] at hrest
      exact hrest
    | some next =>
      rw [happly] at hrest hwords
      have hdrop : Drop record next :=
        ⟨removal, hallowed removal mem_cons_self, happly, hwords⟩
      exact hdrop.salvaged.trans hrest

end CognitiveSidecar.Salvage
