/-
Canonical paths of the sandbox policy: a path is resolved by its segments, and
is confined to a root by whole segments.
-/
import CognitiveSidecar.Lib.Outcome
import CognitiveSidecar.Lib.Separated
import Mathlib.Data.List.Infix

namespace CognitiveSidecar.SandboxPolicy

open List Relational

inductive PathErrorReason
  | pathEmpty | pathInvalidNul | pathNotAbsolute | pathEscapeAboveRoot
  | pathNotWithinRoot | pathMalformed
deriving DecidableEq

abbrev PathResult := Except PathErrorReason String

/-- A segment of a path, as its characters. -/
abbrev Segment := List Char

def normalizeSeparators (input : String) : String :=
  String.ofList (input.toList.map fun c => if c = '\\' then '/' else c)

/-- `..` takes the last segment away; above the filesystem root it is an
error. -/
def resolve (segments : List Segment) :
    List Segment → Except PathErrorReason (List Segment)
  | [] => pure segments
  | segment :: rest =>
    if segment = [] ∨ segment = ['.'] then resolve segments rest
    else if segment = ['.', '.'] then
      if segments = [] then throw .pathEscapeAboveRoot
      else resolve segments.dropLast rest
    else resolve (segments ++ [segment]) rest

/-- The path of segments; the root has none. -/
def joinSegments (segments : List Segment) : String :=
  String.ofList ('/' :: ['/'].intercalate segments)

/-- The canonical form of an absolute path, without touching the filesystem. -/
def canonicalizePath (input : String) : PathResult := do
  require (input ≠ "") .pathEmpty
  require ('\x00' ∉ input.toList) .pathInvalidNul
  let posix := normalizeSeparators input
  require (posix.toList.head? = some '/') .pathNotAbsolute
  let segments ← resolve [] (posix.toList.splitOn '/')
  pure (joinSegments segments)

def isCanonicalForm (path : String) : Bool :=
  path ≠ "" && (canonicalizePath path).toOption = some path

def segments (path : String) : List Segment :=
  if path = "/" then [] else (path.toList.splitOn '/').filter (· ≠ [])

/-- Containment, segment by segment; what is not canonical fails closed. -/
def isWithin (root target : String) : Bool :=
  isCanonicalForm root && isCanonicalForm target &&
    (segments root = [] ||
      ((segments root).length ≤ (segments target).length &&
        (List.range (segments root).length).all fun i =>
          (segments root)[i]? = (segments target)[i]?))

/-- An absolute candidate stands for itself, a relative one is resolved against
the root. -/
def resolveCandidate (root posix : String) : PathResult :=
  if posix.toList.head? = some '/' then canonicalizePath posix
  else (canonicalizePath (root ++ "/" ++ posix)).mapError fun reason =>
    if reason = .pathEscapeAboveRoot then reason else .pathMalformed

/-- A path within the root; escapes are refused. -/
def canonicalizeWithinRoot (root candidate : String) : PathResult := do
  let root ← canonicalizePath root
  require (candidate ≠ "") .pathEmpty
  let value ← resolveCandidate root (normalizeSeparators candidate)
  require (isWithin root value) .pathNotWithinRoot
  pure value

/-! Canonical paths. -/

/-- A segment that stands for itself. -/
def IsName (segment : Segment) : Prop :=
  (segment ≠ [] ∧ segment ≠ ['.'] ∧ segment ≠ ['.', '.']) ∧
    '/' ∉ segment ∧ '\\' ∉ segment ∧ '\x00' ∉ segment

/-- The names from the root down to a place. -/
@[ext]
structure CanonicalPath where
  names : List Segment
  proper : ∀ name ∈ names, IsName name

def CanonicalPath.text (path : CanonicalPath) : String :=
  joinSegments path.names

/-- A place lies within another when it is below it by whole names. -/
instance : PartialOrder CanonicalPath where
  le root target := root.names <+: target.names
  le_refl path := prefix_refl path.names
  le_trans _ _ _ := List.IsPrefix.trans
  le_antisymm _ _ hle hge := CanonicalPath.ext
    (hle.eq_of_length_le hge.length_le)

variable {path root target : CanonicalPath} {names pieces result : List Segment}
variable {input value : String}

variable {stack : List Segment}
variable {c : Char}

/-- What a resolution leaves is proper when the pieces have no separator and no
character that a path must not have. -/
theorem resolve_proper (hstack : ∀ name ∈ stack, IsName name)
    (hpieces : ∀ piece ∈ pieces,
      '/' ∉ piece ∧ '\\' ∉ piece ∧ '\x00' ∉ piece)
    (hok : resolve stack pieces = .ok result) :
    ∀ name ∈ result, IsName name := by
  induction pieces generalizing stack with
  | nil =>
    cases hok
    exact hstack
  | cons piece _ ih =>
    have hrest := fun other hother =>
      hpieces other (mem_cons_of_mem piece hother)
    unfold resolve at hok
    split_ifs at hok with hskipped hparent hroot
    · exact ih hstack hrest hok
    · exact ih (fun name hname => hstack name (mem_of_mem_dropLast hname))
        hrest hok
    · rw [not_or] at hskipped
      refine ih (fun name hname => ?_) hrest hok
      rcases mem_append.mp hname with hname | hname
      · exact hstack name hname
      · rw [mem_singleton.mp hname]
        exact ⟨⟨hskipped.1, hskipped.2, hparent⟩,
          hpieces piece mem_cons_self⟩

/-- Names are left as they are. -/
theorem resolve_names (hnames : ∀ name ∈ names, IsName name) :
    resolve stack names = .ok (stack ++ names) := by
  induction names generalizing stack with
  | nil => rw [append_nil]; rfl
  | cons name _ ih =>
    obtain ⟨⟨hempty, hdot, hparent⟩, _⟩ := hnames name mem_cons_self
    unfold resolve
    rw [if_neg (not_or.mpr ⟨hempty, hdot⟩), if_neg hparent,
      ih fun other hother => hnames other (mem_cons_of_mem name hother),
      append_assoc, singleton_append]

/-- The text of a canonical path gives its names back. -/
theorem splitOn_text (path : CanonicalPath) :
    path.text.toList.splitOn '/' =
      [] :: (if path.names = [] then [[]] else path.names) := by
  unfold CanonicalPath.text joinSegments
  rw [String.toList_ofList]
  have hsplit := splitOn_append_cons_self (a := '/') []
    (['/'].intercalate path.names)
  rw [nil_append, splitOn_nil, singleton_append] at hsplit
  rw [hsplit]
  split_ifs with hroot
  · rw [hroot]
    rfl
  · rw [splitOn_intercalate '/' (fun name hname =>
      (path.proper name hname).2.1) hroot]

/-- The text of a canonical path has separators, and characters of names. -/
theorem mem_text (hc : c ∈ path.text.toList) :
    c = '/' ∨ ∃ name ∈ path.names, c ∈ name := by
  unfold CanonicalPath.text joinSegments at hc
  rw [String.toList_ofList] at hc
  rcases mem_cons.mp hc with heq | hc
  · exact .inl heq
  · exact of_mem_intercalate hc

theorem plain_text (hc : c ∈ path.text.toList) :
    c ≠ '\\' ∧ c ≠ '\x00' := by
  rcases mem_text hc with rfl | ⟨name, hname, hc⟩
  · decide
  · obtain ⟨_, _, hback, hzero⟩ := path.proper name hname
    exact ⟨fun heq => hback (heq ▸ hc), fun heq => hzero (heq ▸ hc)⟩

theorem normalizeSeparators_text (path : CanonicalPath) :
    normalizeSeparators path.text = path.text := by
  unfold normalizeSeparators
  have hplain : path.text.toList.map (fun c => if c = '\\' then '/' else c) =
      path.text.toList.map id :=
    map_congr_left fun c hc => if_neg (plain_text hc).1
  rw [hplain, map_id, String.ofList_toList]

theorem head_text (path : CanonicalPath) :
    path.text.toList.head? = some '/' := by
  unfold CanonicalPath.text joinSegments
  rw [String.toList_ofList]
  rfl

theorem text_ne_empty (path : CanonicalPath) : path.text ≠ "" := by
  intro hempty
  have hhead := head_text path
  rw [hempty] at hhead
  cases hhead

/-- Canonicalizing a canonical path changes nothing. -/
theorem canonicalizePath_text (path : CanonicalPath) :
    canonicalizePath path.text = .ok path.text := by
  have hresolve : resolve [] (path.text.toList.splitOn '/') =
      .ok path.names := by
    rw [splitOn_text, resolve, if_pos (.inl rfl)]
    split_ifs with hroot
    · rw [hroot]
      rfl
    · exact resolve_names path.proper
  unfold canonicalizePath
  have hnul : '\x00' ∉ path.text.toList := fun hzero => (plain_text hzero).2 rfl
  rw [require_pos (text_ne_empty path), require_pos hnul]
  simp only [normalizeSeparators_text, head_text, require_pos, hresolve]
  rfl

/-- What a canonicalization gives is the text of a canonical path. -/
theorem canonicalizePath_ok (hok : canonicalizePath input = .ok value) :
    ∃ path : CanonicalPath, value = path.text := by
  unfold canonicalizePath at hok
  replace hok := passed hok
  obtain ⟨hnul, hok⟩ := of_require hok
  replace hok := passed hok
  obtain ⟨names, hnames, hok⟩ := of_bind hok
  cases of_pure hok
  refine ⟨⟨names, resolve_proper (fun _ hname => by cases hname)
    (fun piece hpiece => ?_) hnames⟩, rfl⟩
  have hchars : ∀ c ∈ piece, c ≠ '/' ∧ c ≠ '\\' ∧ c ≠ '\x00' := by
    intro c hc
    obtain ⟨hmem, hslash⟩ := of_mem_splitOn hpiece hc
    unfold normalizeSeparators at hmem
    rw [String.toList_ofList, mem_map] at hmem
    obtain ⟨given, hgiven, rfl⟩ := hmem
    refine ⟨hslash, ?_⟩
    split_ifs with hback
    · decide
    · exact ⟨hback, fun hzero => hnul (hzero ▸ hgiven)⟩
  exact ⟨fun hc => (hchars _ hc).1 rfl, fun hc => (hchars _ hc).2.1 rfl,
    fun hc => (hchars _ hc).2.2 rfl⟩

theorem isCanonicalForm_iff : isCanonicalForm input = true ↔
    ∃ path : CanonicalPath, input = path.text := by
  unfold isCanonicalForm
  rw [Bool.and_eq_true, decide_eq_true_eq, decide_eq_true_eq]
  constructor
  · rintro ⟨_, hcanonical⟩
    cases hok : canonicalizePath input with
    | error => rw [hok] at hcanonical; cases hcanonical
    | ok =>
      rw [hok] at hcanonical
      cases hcanonical
      exact canonicalizePath_ok hok
  · rintro ⟨path, rfl⟩
    rw [canonicalizePath_text]
    exact ⟨text_ne_empty path, rfl⟩

/-- What is not canonical fails closed. -/
theorem isWithin_canonical {root target : String}
    (hwithin : isWithin root target = true) :
    isCanonicalForm root = true ∧ isCanonicalForm target = true := by
  unfold isWithin at hwithin
  rw [Bool.and_eq_true, Bool.and_eq_true] at hwithin
  exact hwithin.1

theorem segments_text (path : CanonicalPath) :
    segments path.text = path.names := by
  have hsplit := splitOn_text path
  unfold segments
  by_cases hroot : path.names = []
  · rw [show path.text = "/" by unfold CanonicalPath.text; rw [hroot]; rfl,
      if_pos rfl, hroot]
  · rw [if_neg hroot] at hsplit
    rw [if_neg, hsplit, filter_cons_of_neg (by simp), filter_eq_self]
    · exact fun name hname => decide_eq_true (path.proper name hname).1.1
    · intro hslash
      rw [hslash] at hsplit
      have hempty : path.names = [[]] := (List.cons.inj hsplit).2.symm
      exact (path.proper [] (by rw [hempty]; exact mem_cons_self)).1.1 rfl

/-- Containment is the order of the places. -/
theorem isWithin_text_iff :
    isWithin root.text target.text = true ↔ root ≤ target := by
  have hbelow : root ≤ target ↔ ∀ i, ∀ hi : i < root.names.length,
      target.names[i]? = some root.names[i] := prefix_iff_getElem?
  unfold isWithin
  rw [isCanonicalForm_iff.mpr ⟨root, rfl⟩,
    isCanonicalForm_iff.mpr ⟨target, rfl⟩, segments_text, segments_text,
    hbelow]
  simp only [Bool.true_and, Bool.or_eq_true, Bool.and_eq_true,
    decide_eq_true_eq, all_eq_true, mem_range]
  constructor
  · rintro (hroot | ⟨_, hall⟩) i hi
    · rw [hroot] at hi
      cases hi
    · rw [← hall i hi, List.getElem?_eq_getElem hi]
  · intro hall
    refine .inr ⟨?_, fun i hi => ?_⟩
    · exact (hbelow.mpr hall : root.names <+: target.names).length_le
    · rw [hall i hi, List.getElem?_eq_getElem hi]

/-- Canonicalization is idempotent; what is resolved within a root is canonical
and lies within the canonical root; and containment is the order of the
canonical paths by whole names, and holds of nothing else. -/
theorem paths_confined :
    (∀ input value, canonicalizePath input = .ok value →
      canonicalizePath value = .ok value) ∧
    (∀ root candidate value,
      canonicalizeWithinRoot root candidate = .ok value →
      ∃ within target : CanonicalPath,
        canonicalizePath root = .ok within.text ∧ value = target.text ∧
          within ≤ target) ∧
    (∀ root target : CanonicalPath,
      isWithin root.text target.text = true ↔ root ≤ target) ∧
    ∀ root target, isWithin root target = true →
      ∃ within below : CanonicalPath, root = within.text ∧
        target = below.text := by
  refine ⟨fun input value hok => ?_, fun root candidate value hok => ?_,
    fun _ _ => isWithin_text_iff, fun root target hwithin => ?_⟩
  · obtain ⟨path, rfl⟩ := canonicalizePath_ok hok
    exact canonicalizePath_text path
  · unfold canonicalizeWithinRoot at hok
    obtain ⟨canonical, hroot, hok⟩ := of_bind hok
    replace hok := passed hok
    obtain ⟨found, _, hok⟩ := of_bind hok
    obtain ⟨hwithin, hok⟩ := of_require hok
    cases of_pure hok
    obtain ⟨within, rfl⟩ := canonicalizePath_ok hroot
    obtain ⟨target, rfl⟩ :=
      isCanonicalForm_iff.mp (isWithin_canonical hwithin).2
    exact ⟨within, target, hroot, rfl, isWithin_text_iff.mp hwithin⟩
  · obtain ⟨hroot, htarget⟩ := isWithin_canonical hwithin
    obtain ⟨within, hroot⟩ := isCanonicalForm_iff.mp hroot
    obtain ⟨below, htarget⟩ := isCanonicalForm_iff.mp htarget
    exact ⟨within, below, hroot, htarget⟩

example : canonicalizeWithinRoot "/a" "b\\./../c" = .ok "/a/c" := by
  decide +kernel

end CognitiveSidecar.SandboxPolicy
