/-
The bubbles of a message: a text is cut at its blank lines and, where a
paragraph is too long for a message, at the limit of one.
-/
import CognitiveSidecar.Lib.JsonText
import CognitiveSidecar.Sidecar
import Mathlib.Data.List.DropRight

namespace CognitiveSidecar.Bubbles

open List JsonText

/-- The units of a Discord message. -/
def discordContentLimit : Nat := 1990

def isSpace (c : UInt16) : Bool := isTrimmed (Char.ofNat c.toNat)

def trimUnits (text : Text) : Text :=
  (text.dropWhile isSpace).rdropWhile isSpace

/-- `text.split(/\n\n+/)`. -/
def splitBlankLines (text : Text) : List Text :=
  match text with
  | [] => [[]]
  | c :: rest =>
    if c = unit '\n' ∧ rest.head? = some (unit '\n') then
      [] :: splitBlankLines (rest.dropWhile (· = unit '\n'))
    else (splitBlankLines rest).modifyHead (c :: ·)
termination_by text.length
decreasing_by
  · exact Nat.lt_succ_of_le (dropWhile_suffix _).length_le
  · exact Nat.lt_succ_self _

/-- Where the first slice of a text ends: never on a high surrogate whose low
half would open the next one. -/
def sliceEnd (text : Text) : Nat :=
  let last := min discordContentLimit text.length
  if last < text.length ∧ 1 < last ∧ text[last - 1]?.any isHighSurrogate then
    last - 1
  else last

theorem sliceEnd_pos (hsome : text ≠ []) :
    0 < sliceEnd text := by
  have hlength := length_pos_of_ne_nil hsome
  unfold sliceEnd discordContentLimit
  dsimp only
  split <;> omega

def hardSlice (text : Text) : List Text :=
  if text = [] then []
  else text.take (sliceEnd text) :: hardSlice (text.drop (sliceEnd text))
termination_by text.length
decreasing_by
  rename_i hsome
  rw [length_drop]
  have hpos := sliceEnd_pos hsome
  have hlength := length_pos_of_ne_nil hsome
  omega

def paragraphs (trimmed : Text) : List Text :=
  ((splitBlankLines trimmed).map trimUnits).filter (· ≠ [])

/-- A long paragraph is sliced instead of truncated. -/
def sliced (para : Text) : List Text :=
  if para.length ≤ discordContentLimit then [para] else hardSlice para

def splitMessage (text : Text) : List Text :=
  let trimmed := trimUnits text
  if trimmed = [] then [] else (paragraphs trimmed).flatMap sliced

structure DeliveryBubblePlan where
  ordinal : Nat
  text : Text

def planned (texts : List Text) : List DeliveryBubblePlan :=
  texts.zipIdx.map fun (text, ordinal) => ⟨ordinal, text⟩

def planContentBubbles (draftText : Text) : List DeliveryBubblePlan :=
  planned (splitMessage draftText)

/-- `text.replace(/\s+/g, " ")`. -/
def joinSpaces (text : Text) : Text :=
  match text with
  | [] => []
  | c :: rest =>
    if isSpace c then unit ' ' :: joinSpaces (rest.dropWhile isSpace)
    else c :: joinSpaces rest
termination_by text.length
decreasing_by
  · exact Nat.lt_succ_of_le (dropWhile_suffix _).length_le
  · exact Nat.lt_succ_self _

def squash (text : Text) : Text := trimUnits (joinSpaces text)

structure Rhythm where
  shape : Option String := none
  bubbles : Option (List Text) := none

/-- The bubbles that a rhythm proposes. -/
def Rhythm.own (rhythm : Rhythm) : List Text :=
  ((rhythm.bubbles.getD []).map trimUnits).filter (· ≠ [])

/-- A single or a letter arrives as one message. -/
def Rhythm.takesWhole (rhythm : Rhythm) (trimmed : Text) : Bool :=
  (rhythm.shape = some "single" || rhythm.shape = some "letter") &&
    trimmed.length ≤ discordContentLimit

/-- Her own bubbles are exactly the text being sent, and each fits. -/
def Rhythm.takesOwn (rhythm : Rhythm) (trimmed : Text) : Bool :=
  1 < rhythm.own.length &&
    squash ([unit ' '].intercalate rhythm.own) = squash trimmed &&
    rhythm.own.all (·.length ≤ discordContentLimit)

def planRhythmBubbles (draftText : Text) (rhythm : Option Rhythm) :
    List DeliveryBubblePlan :=
  let trimmed := trimUnits draftText
  match rhythm with
  | none => planContentBubbles draftText
  | some rhythm =>
    if trimmed = [] then planContentBubbles draftText
    else if rhythm.takesOwn trimmed then planned rhythm.own
    else if rhythm.takesWhole trimmed then [⟨0, trimmed⟩]
    else planContentBubbles draftText

/-! What a text carries. -/

/-- The characters of a text: the pairs of surrogates, and the other units. -/
def points : Text → List Text
  | [] => []
  | [c] => [[c]]
  | c :: d :: rest =>
    if isHighSurrogate c && isLowSurrogate d then [c, d] :: points rest
    else [c] :: points (d :: rest)

/-- The characters of a text that are no white space. -/
def carried (text : Text) : List Text := (points text).filter (!·.all isSpace)

/-- Every bubble can be sent, and in order they carry the text: its characters
whole, so that no bubble begins or ends inside a pair. -/
structure Sendable (text : Text) (bubbles : List Text) : Prop where
  nonblank : ∀ bubble ∈ bubbles, bubble.all isSpace = false
  bounded : ∀ bubble ∈ bubbles,
    1 ≤ bubble.length ∧ bubble.length ≤ discordContentLimit
  carries : bubbles.flatMap carried = carried text

variable {text first second para : Text} {c : UInt16}

theorem plain_of_isSpace (hc : isSpace c = true) :
    isHighSurrogate c = false ∧ isLowSurrogate c = false := by
  have hvalid : c.toNat.isValidChar := by
    by_contra hnot
    have hzero : Char.ofNat c.toNat = Char.ofNat 0 := by
      unfold Char.ofNat
      rw [dif_neg hnot]
      rfl
    unfold isSpace at hc
    rw [hzero] at hc
    revert hc
    decide
  simp only [isHighSurrogate, isLowSurrogate, Bool.and_eq_false_iff,
    decide_eq_false_iff_not, UInt16.le_iff_toNat_le, UInt16.reduceToNat]
  unfold Nat.isValidChar at hvalid
  omega

/-- No pair lies over the seam of two texts. -/
def Seam (first second : Text) : Prop :=
  ¬ (first.getLast?.any isHighSurrogate = true ∧
    second.head?.any isLowSurrogate = true)

theorem points_append (hseam : Seam first second) :
    points (first ++ second) = points first ++ points second := by
  induction first using points.induct with
  | case1 => rfl
  | case2 c =>
    cases second with
    | nil => rfl
    | cons d =>
      have hpair : (isHighSurrogate c && isLowSurrogate d) = false := by
        simpa [Seam] using hseam
      simp [points, hpair]
  | case3 c d rest hpair ih =>
    have hrest : Seam rest second := by
      cases rest with
      | nil => simp [Seam]
      | cons => simpa [Seam] using hseam
    simp [points, hpair, ih hrest]
  | case4 c d rest hpair ih =>
    have hrest : Seam (d :: rest) second := by simpa [Seam] using hseam
    have hlater := ih hrest
    rw [cons_append] at hlater
    simp [points, hpair, hlater]

theorem carried_append (hseam : Seam first second) :
    carried (first ++ second) = carried first ++ carried second := by
  unfold carried
  rw [points_append hseam, filter_append]

theorem seam_of_isSpace (hc : isSpace c = true) : Seam first (c :: second) :=
  fun hpair => by simp [plain_of_isSpace hc] at hpair

theorem carried_cons_space (hc : isSpace c = true) (rest : Text) :
    carried (c :: rest) = carried rest := by
  have hseam : Seam [c] rest := fun hpair => by
    simp [plain_of_isSpace hc] at hpair
  have hspace : carried [c] = [] := by simp [carried, points, hc]
  rw [← singleton_append, carried_append hseam, hspace, nil_append]

theorem carried_dropWhile {p : UInt16 → Bool}
    (hp : ∀ c, p c = true → isSpace c = true) (text : Text) :
    carried (text.dropWhile p) = carried text := by
  induction text with
  | nil => rfl
  | cons c _ ih =>
    rw [dropWhile_cons]
    split
    · rename_i hc
      rw [ih, carried_cons_space (hp c hc)]
    · rfl

theorem carried_blank (hblank : ∀ c ∈ text, isSpace c = true) :
    carried text = [] := by
  rw [← carried_dropWhile (fun _ hc => hc) text,
    dropWhile_eq_nil_iff.mpr hblank]
  rfl

/-- White space behind a text carries nothing. -/
theorem carried_append_blank (hblank : ∀ c ∈ second, isSpace c = true) :
    carried (first ++ second) = carried first := by
  cases second with
  | nil => rw [append_nil]
  | cons c =>
    rw [carried_append (seam_of_isSpace (hblank c mem_cons_self)),
      carried_blank hblank, append_nil]

theorem carried_trimUnits (text : Text) :
    carried (trimUnits text) = carried text := by
  have hend : ∀ c ∈ (text.dropWhile isSpace).rtakeWhile isSpace,
      isSpace c = true := fun c hc => mem_rtakeWhile_imp hc
  unfold trimUnits
  rw [← carried_append_blank hend, rdropWhile_append_rtakeWhile,
    carried_dropWhile fun _ hc => hc]

/-! The cut at blank lines. -/

theorem isSpace_newline : isSpace (unit '\n') = true := by decide

theorem isSpace_blank : isSpace (unit ' ') = true := by decide

theorem carried_splitBlankLines (front : Text) :
    ((splitBlankLines text).modifyHead (front ++ ·)).flatMap carried =
      carried (front ++ text) := by
  induction text using splitBlankLines.induct generalizing front with
  | case1 => simp [splitBlankLines]
  | case2 c rest hlines ih =>
    obtain ⟨rfl, hhead⟩ := hlines
    have hlines : ∀ c, decide (c = unit '\n') = true → isSpace c = true := by
      intro c hc
      rw [show c = unit '\n' from of_decide_eq_true hc]
      exact isSpace_newline
    have hlater := ih []
    rw [show (([] : Text) ++ ·) = id from rfl, modifyHead_id] at hlater
    rw [carried_append (seam_of_isSpace isSpace_newline),
      carried_cons_space isSpace_newline, ← carried_dropWhile hlines rest]
    unfold splitBlankLines
    rw [if_pos ⟨rfl, hhead⟩, modifyHead_cons, append_nil,
      flatMap_cons]
    exact congrArg (carried front ++ ·) hlater
  | case3 c _ hlines ih =>
    unfold splitBlankLines
    rw [if_neg hlines, modifyHead_modifyHead]
    simpa [Function.comp_def] using ih (front ++ [c])

theorem carried_paragraphs (text : Text) :
    (paragraphs text).flatMap carried = carried text := by
  have hfilter : ∀ pieces : List Text,
      (pieces.filter (· ≠ [])).flatMap carried = pieces.flatMap carried := by
    intro pieces
    induction pieces with
    | nil => rfl
    | cons piece _ ih =>
      by_cases hempty : piece = []
      · subst hempty
        simpa [carried, points] using ih
      · simpa [hempty] using ih
  have hsplit := @carried_splitBlankLines text []
  rw [show (([] : Text) ++ ·) = id from rfl, modifyHead_id] at hsplit
  unfold paragraphs
  rw [hfilter, flatMap_map, funext carried_trimUnits]
  exact hsplit

/-- The text ends with a character. -/
def Ends (text : Text) : Prop :=
  ∃ hsome : text ≠ [], isSpace (text.getLast hsome) = false

theorem Ends.nonblank (hends : Ends text) : text.all isSpace = false := by
  obtain ⟨hsome, hlast⟩ := hends
  rw [all_eq_false]
  exact ⟨_, getLast_mem hsome, Bool.eq_false_iff.mp hlast⟩

theorem Ends.drop {k : Nat} (hends : Ends text) (hlong : k < text.length) :
    Ends (text.drop k) := by
  obtain ⟨_, _⟩ := hends
  exact ⟨fun hnone => Nat.not_le.mpr hlong (drop_eq_nil_iff.mp hnone),
    by rwa [getLast_drop]⟩

/-- What a trim leaves ends with a character. -/
theorem ends_trimUnits (hsome : trimUnits text ≠ []) : Ends (trimUnits text) :=
  ⟨hsome, Bool.eq_false_iff.mpr
    (rdropWhile_last_not isSpace (text.dropWhile isSpace) hsome)⟩

/-! Slices. -/

/-- In a long text the cut is at the limit, or before it where the limit falls
inside a pair. -/
theorem sliceEnd_long (hlong : discordContentLimit < text.length) :
    ∃ last, text[discordContentLimit - 1]? = some last ∧
      sliceEnd text = if isHighSurrogate last then discordContentLimit - 1
        else discordContentLimit := by
  have hlast := List.getElem?_eq_getElem
    (show discordContentLimit - 1 < text.length by omega)
  refine ⟨_, hlast, ?_⟩
  unfold sliceEnd
  rw [Nat.min_eq_left (Nat.le_of_lt hlong)]
  simp only [hlong, hlast, Option.any_some, true_and,
    show 1 < discordContentLimit by decide]

theorem sliceEnd_le (text : Text) : sliceEnd text ≤ discordContentLimit := by
  unfold sliceEnd
  dsimp only
  split <;> omega

theorem sliceEnd_short (hshort : text.length ≤ discordContentLimit) :
    sliceEnd text = text.length := by
  unfold sliceEnd
  rw [Nat.min_eq_right hshort]
  exact if_neg fun hless => Nat.lt_irrefl _ hless.1

theorem seam_sliceEnd (text : Text) :
    Seam (text.take (sliceEnd text)) (text.drop (sliceEnd text)) := by
  rintro ⟨hhigh, hlow⟩
  rcases Nat.lt_or_ge discordContentLimit text.length with hlong | hshort
  · obtain ⟨_, hlast, hend⟩ := sliceEnd_long hlong
    rw [hend] at hhigh hlow
    split at hlow
    · rename_i hcut
      rw [List.head?_drop, hlast, Option.any_some] at hlow
      simp [isHighSurrogate, isLowSurrogate, UInt16.le_iff_toNat_le]
        at hcut hlow
      omega
    · rename_i hcut
      rw [if_neg hcut, List.getLast?_take, if_neg (by decide), hlast] at hhigh
      exact hcut hhigh
  · rw [sliceEnd_short hshort, drop_length] at hlow
    cases hlow

theorem carried_hardSlice (text : Text) :
    (hardSlice text).flatMap carried = carried text := by
  induction text using hardSlice.induct with
  | case1 => simp [hardSlice, carried, points]
  | case2 text hsome ih =>
    unfold hardSlice
    rw [if_neg hsome, flatMap_cons, ih, ← carried_append
      (seam_sliceEnd text), take_append_drop]

theorem hardSlice_bounded (text : Text) : ∀ slice ∈ hardSlice text,
    1 ≤ slice.length ∧ slice.length ≤ discordContentLimit := by
  induction text using hardSlice.induct with
  | case1 => simp [hardSlice]
  | case2 text hsome ih =>
    unfold hardSlice
    rw [if_neg hsome, forall_mem_cons]
    refine ⟨?_, ih⟩
    have hpos := sliceEnd_pos hsome
    have hlength := length_pos_of_ne_nil hsome
    have hle := sliceEnd_le text
    rw [length_take]
    omega

/-- A slice that the limit ends is blank. -/
inductive BlankCut : Text → Prop
  | here {text : Text} (hlong : discordContentLimit < text.length)
      (hblank : (text.take (sliceEnd text)).all isSpace = true) : BlankCut text
  | later {text : Text} (hlong : discordContentLimit < text.length)
      (hrest : BlankCut (text.drop (sliceEnd text))) : BlankCut text

theorem hardSlice_nonblank_iff (hends : Ends text) :
    (∀ slice ∈ hardSlice text, slice.all isSpace = false) ↔
      ¬ BlankCut text := by
  induction text using hardSlice.induct with
  | case1 => exact absurd rfl hends.1
  | case2 text hsome ih =>
    unfold hardSlice
    rw [if_neg hsome, forall_mem_cons]
    by_cases hlong : discordContentLimit < text.length
    · rw [ih (hends.drop (Nat.lt_of_le_of_lt (sliceEnd_le text) hlong))]
      constructor
      · rintro ⟨hfirst, hothers⟩ (⟨_, hblank⟩ | ⟨_, hlater⟩)
        · rw [hfirst] at hblank
          cases hblank
        · exact hothers hlater
      · intro hnone
        exact ⟨Bool.eq_false_iff.mpr fun hblank => hnone (.here hlong hblank),
          fun hlater => hnone (.later hlong hlater)⟩
    -- The last slice holds the last character.
    · refine iff_of_true ⟨?_, ?_⟩ (by rintro (h | h) <;> exact hlong h)
      · rw [sliceEnd_short (Nat.le_of_not_lt hlong), take_length]
        exact hends.nonblank
      · rw [sliceEnd_short (Nat.le_of_not_lt hlong), drop_length]
        simp [hardSlice]

/-! Messages. -/

/-- A paragraph that is too long for a message has a slice that is blank. -/
def BlankSlice (text : Text) : Prop :=
  ∃ para ∈ paragraphs (trimUnits text), BlankCut para

theorem ends_of_trimmed {pieces : List Text}
    (hpara : para ∈ (pieces.map trimUnits).filter (· ≠ [])) : Ends para := by
  obtain ⟨hmem, hsome⟩ := mem_filter.mp hpara
  obtain ⟨_, _, rfl⟩ := mem_map.mp hmem
  exact ends_trimUnits (of_decide_eq_true hsome)

theorem carried_sliced (para : Text) :
    (sliced para).flatMap carried = carried para := by
  unfold sliced
  split
  · exact flatMap_singleton ..
  · exact carried_hardSlice para

theorem sliced_bounded (hends : Ends para) :
    ∀ slice ∈ sliced para,
      1 ≤ slice.length ∧ slice.length ≤ discordContentLimit := by
  unfold sliced
  split
  · rename_i hshort
    rw [forall_mem_singleton]
    exact ⟨length_pos_of_ne_nil hends.1, hshort⟩
  · exact hardSlice_bounded para

theorem sliced_nonblank_iff (hends : Ends para) :
    (∀ slice ∈ sliced para, slice.all isSpace = false) ↔
      ¬ BlankCut para := by
  unfold sliced
  split
  · rename_i hshort
    rw [forall_mem_singleton]
    refine iff_of_true hends.nonblank ?_
    rintro (hlong | hlong) <;> exact Nat.not_lt.mpr hshort hlong
  · exact hardSlice_nonblank_iff hends

theorem splitMessage_eq (text : Text) :
    splitMessage text = (paragraphs (trimUnits text)).flatMap sliced := by
  unfold splitMessage
  dsimp only
  split
  · rename_i hnone
    rw [hnone]
    simp [paragraphs, splitBlankLines, trimUnits]
  · rfl

theorem splitMessage_sendable_iff (text : Text) :
    Sendable text (splitMessage text) ↔ ¬ BlankSlice text := by
  have hnonblank : (∀ bubble ∈ splitMessage text,
      bubble.all isSpace = false) ↔ ¬ BlankSlice text := by
    unfold BlankSlice
    rw [splitMessage_eq, forall_mem_flatMap]
    push Not
    exact forall₂_congr fun _ hpara =>
      sliced_nonblank_iff (ends_of_trimmed hpara)
  refine ⟨fun hsendable => hnonblank.mp hsendable.nonblank, fun hfits =>
    ⟨hnonblank.mpr hfits, ?_, ?_⟩⟩
  · rw [splitMessage_eq, forall_mem_flatMap]
    exact fun _ hpara => sliced_bounded (ends_of_trimmed hpara)
  · rw [splitMessage_eq, flatMap_assoc, funext carried_sliced,
      carried_paragraphs, carried_trimUnits]

theorem map_planned (texts : List Text) :
    (planned texts).map (·.text) = texts := by
  unfold planned
  rw [map_map]
  exact zipIdx_map_fst 0 texts

/-! Rhythm. -/

theorem carried_joinSpaces (front : Text) :
    carried (front ++ joinSpaces text) = carried (front ++ text) := by
  induction text using joinSpaces.induct generalizing front with
  | case1 =>
    unfold joinSpaces
    rfl
  | case2 c _ hspace ih =>
    have hlater := ih []
    rw [nil_append, nil_append, carried_dropWhile fun _ hc => hc]
      at hlater
    unfold joinSpaces
    rw [if_pos hspace, carried_append (seam_of_isSpace isSpace_blank),
      carried_append (seam_of_isSpace hspace),
      carried_cons_space isSpace_blank, carried_cons_space hspace, hlater]
  | case3 c _ hspace ih =>
    unfold joinSpaces
    rw [if_neg hspace]
    simpa using ih (front ++ [c])

theorem carried_squash (text : Text) : carried (squash text) = carried text := by
  unfold squash
  rw [carried_trimUnits]
  exact carried_joinSpaces []

theorem carried_intercalate (bubbles : List Text) :
    carried ([unit ' '].intercalate bubbles) = bubbles.flatMap carried := by
  induction bubbles with
  | nil => simp [carried, points]
  | cons _ rest ih =>
    by_cases hrest : rest = []
    · simp [hrest]
    · rw [intercalate_cons_of_ne_nil hrest, append_assoc,
        singleton_append, carried_append (seam_of_isSpace isSpace_blank),
        carried_cons_space isSpace_blank, ih, flatMap_cons]

theorem own_sendable {rhythm : Rhythm}
    (htakes : rhythm.takesOwn (trimUnits text) = true) :
    Sendable text rhythm.own := by
  unfold Rhythm.takesOwn at htakes
  simp only [Bool.and_eq_true, decide_eq_true_eq, all_eq_true] at htakes
  obtain ⟨⟨_, hsame⟩, hshort⟩ := htakes
  have hown : ∀ bubble ∈ rhythm.own, Ends bubble :=
    fun _ hbubble => ends_of_trimmed hbubble
  refine ⟨fun bubble hbubble => (hown bubble hbubble).nonblank,
    fun bubble hbubble => ⟨length_pos_of_ne_nil (hown bubble hbubble).1,
      hshort bubble hbubble⟩, ?_⟩
  rw [← carried_intercalate, ← carried_squash, hsame, carried_squash,
    carried_trimUnits]

/-- The rhythm takes the text in her own bubbles, or whole. -/
def shapes (rhythm : Option Rhythm) (trimmed : Text) : Bool :=
  trimmed ≠ [] && rhythm.any fun rhythm =>
    rhythm.takesOwn trimmed || rhythm.takesWhole trimmed

/-- The bubbles that a message and a content plan cut a text into can be sent
exactly if no slice of a long paragraph is blank; those of a rhythm also where
it takes the text in bubbles of its own, or whole. -/
theorem bubbles_sendable_iff (text : Text) (rhythm : Option Rhythm) :
    (Sendable text (splitMessage text) ↔ ¬ BlankSlice text) ∧
      (Sendable text ((planContentBubbles text).map (·.text)) ↔
        ¬ BlankSlice text) ∧
      (Sendable text ((planRhythmBubbles text rhythm).map (·.text)) ↔
        shapes rhythm (trimUnits text) = true ∨ ¬ BlankSlice text) := by
  have hmessage := splitMessage_sendable_iff text
  have hcontent : Sendable text ((planContentBubbles text).map (·.text)) ↔
      ¬ BlankSlice text := by
    unfold planContentBubbles
    rw [map_planned]
    exact hmessage
  refine ⟨hmessage, hcontent, ?_⟩
  unfold planRhythmBubbles shapes
  dsimp only
  cases rhythm with
  | none => simpa using hcontent
  | some =>
    rw [Option.any_some]
    dsimp only
    split_ifs with hnone hown hsingle
    · simpa [hnone] using hcontent
    · rw [map_planned]
      exact iff_of_true (own_sendable hown) (.inl (by simp [hnone, hown]))
    · refine iff_of_true ⟨?_, ?_, ?_⟩
        (.inl (by simp [hnone, hsingle]))
      · simpa using (ends_trimUnits hnone).nonblank
      · simpa using ⟨List.length_pos_of_ne_nil hnone, of_decide_eq_true
          (Bool.and_eq_true_iff.mp hsingle).2⟩
      · simpa using carried_trimUnits text
    · simpa [hown, hsingle] using hcontent

/-- Words with as much white space between them as a message holds. -/
def spacedText : Text :=
  List.replicate discordContentLimit (unit 'a') ++
    List.replicate discordContentLimit (unit ' ') ++ [unit 'b']

/-- The white space of a long paragraph goes out as a bubble. -/
theorem blank_bubble_planned :
    ¬ Sendable spacedText (splitMessage spacedText) := by
  have hplain : ∀ text : Text, unit '\n' ∉ text →
      splitBlankLines text = [text] := by
    intro text hnone
    induction text with
    | nil => rw [splitBlankLines]
    | cons c _ ih =>
      rw [List.mem_cons, not_or] at hnone
      obtain ⟨hc, hrest⟩ := hnone
      unfold splitBlankLines
      rw [if_neg fun hlines => hc hlines.1.symm, ih hrest]
      rfl
  rw [splitMessage_sendable_iff, not_not]
  have htrim : trimUnits spacedText = spacedText := by decide +kernel
  refine ⟨spacedText, ?_, .later (by decide +kernel)
    (.here (by decide +kernel) (by decide +kernel))⟩
  unfold paragraphs
  rw [htrim, hplain _ (by decide +kernel), List.map_singleton, htrim]
  decide +kernel

end CognitiveSidecar.Bubbles
