/-
The texts of JSON as sequences of UTF-16 code units: strings with their escapes
and numbers with their decimals, each written and read back.
-/
import CognitiveSidecar.Lib.Binary64
import Mathlib.Data.Nat.Digits.Lemmas

namespace JsonText

variable {n : Nat} {c : UInt16}

open Option List Binary64

abbrev Text := List UInt16

/-- The code unit of a basic character. -/
def unit (c : Char) : UInt16 := c.toNat.toUInt16

/-! Strings. -/

def isHighSurrogate (c : UInt16) : Bool := 0xD800 ≤ c && c ≤ 0xDBFF

def isLowSurrogate (c : UInt16) : Bool := 0xDC00 ≤ c && c ≤ 0xDFFF

/-- The units that have an escape of one letter, with the letter. -/
def shortEscapes : List (UInt16 × UInt16) :=
  [(8, unit 'b'), (9, unit 't'), (10, unit 'n'), (12, unit 'f'),
    (13, unit 'r'), (unit '"', unit '"'), (unit '\\', unit '\\')]

def hexDigit (n : Nat) : UInt16 :=
  if n < 10 then (48 + n).toUInt16 else (87 + n).toUInt16

def hexDigits (c : UInt16) : Text :=
  [hexDigit (c.toNat / 4096), hexDigit (c.toNat / 256 % 16),
    hexDigit (c.toNat / 16 % 16), hexDigit (c.toNat % 16)]

/-- A unit that does not belong to a pair of surrogates. -/
def escape (c : UInt16) : Text :=
  match shortEscapes.find? (·.1 = c) with
  | some (_, letter) => [unit '\\', letter]
  | none =>
    if c < 0x20 || isHighSurrogate c || isLowSurrogate c then
      unit '\\' :: unit 'u' :: hexDigits c
    else [c]

/-- The units between the quotation marks. -/
def quoteUnits : Text → Text
  | [] => []
  | [c] => escape c
  | c :: d :: rest =>
    if isHighSurrogate c && isLowSurrogate d then c :: d :: quoteUnits rest
    else escape c ++ quoteUnits (d :: rest)

def quote (s : Text) : Text := unit '"' :: quoteUnits s ++ [unit '"']

def hexValue (c : UInt16) : Option Nat :=
  if 48 ≤ c && c ≤ 57 then some (c.toNat - 48)
  else if 97 ≤ c && c ≤ 102 then some (c.toNat - 87)
  else if 65 ≤ c && c ≤ 70 then some (c.toNat - 55)
  else none

def hexUnit (h₁ h₂ h₃ h₄ : UInt16) : Option UInt16 := do
  let d₁ ← hexValue h₁
  let d₂ ← hexValue h₂
  let d₃ ← hexValue h₃
  let d₄ ← hexValue h₄
  pure (d₁ * 4096 + d₂ * 256 + d₃ * 16 + d₄).toUInt16

/-- The unit that a letter after a backslash stands for. -/
def escapedUnit (letter : UInt16) : Option UInt16 :=
  if letter = unit '/' then some letter
  else (shortEscapes.find? (·.2 = letter)).map (·.1)

/-- Read up to the closing quotation mark. -/
def readUnits : Text → Option (Text × Text)
  | [] => none
  | c :: rest =>
    if c = unit '"' then some ([], rest)
    else if c = unit '\\' then
      match rest with
      | [] => none
      | letter :: rest =>
        if letter = unit 'u' then
          match rest with
          | h₁ :: h₂ :: h₃ :: h₄ :: rest => do
            let u ← hexUnit h₁ h₂ h₃ h₄
            let (units, rest) ← readUnits rest
            some (u :: units, rest)
          | _ => none
        else do
          let u ← escapedUnit letter
          let (units, rest) ← readUnits rest
          some (u :: units, rest)
    else if c < 0x20 then none
    else do
      let (units, rest) ← readUnits rest
      some (c :: units, rest)

/-- A unit in front of what was read. -/
def consRead (c : UInt16) (read : Option (Text × Text)) : Option (Text × Text) :=
  read.map fun found => (c :: found.1, found.2)

theorem hexValue_hexDigit (hn : n < 16) :
    hexValue (hexDigit n) = some n := by
  revert n
  decide

theorem hexUnit_hexDigits (c : UInt16) :
    hexUnit (hexDigit (c.toNat / 4096)) (hexDigit (c.toNat / 256 % 16))
      (hexDigit (c.toNat / 16 % 16)) (hexDigit (c.toNat % 16)) = some c := by
  have hc : c.toNat < 65536 := c.toNat_lt
  unfold hexUnit
  rw [hexValue_hexDigit (by omega), hexValue_hexDigit (by omega),
    hexValue_hexDigit (by omega), hexValue_hexDigit (by omega)]
  have hsum : c.toNat / 4096 * 4096 + c.toNat / 256 % 16 * 256 +
      c.toNat / 16 % 16 * 16 + c.toNat % 16 = c.toNat := by omega
  show some (c.toNat / 4096 * 4096 + c.toNat / 256 % 16 * 256 +
    c.toNat / 16 % 16 * 16 + c.toNat % 16).toUInt16 = some c
  rw [hsum]
  exact congrArg some (UInt16.ofNat_toNat)

/-- A unit that needs no escape is read as it is. -/
theorem readUnits_plain (hquote : c ≠ unit '"') (hslash : c ≠ unit '\\')
    (hcontrol : ¬ c < 0x20) (rest : Text) :
    readUnits (c :: rest) = consRead c (readUnits rest) := by
  conv_lhs => unfold readUnits
  rw [if_neg hquote, if_neg hslash, if_neg hcontrol]
  cases readUnits rest <;> rfl

/-- An escaped unit is read back. -/
theorem readUnits_escape (c : UInt16) (rest : Text) :
    readUnits (escape c ++ rest) = consRead c (readUnits rest) := by
  unfold escape
  cases hshort : shortEscapes.find? (·.1 = c) with
  | some found =>
    have hfirst : found.1 = c := by simpa using List.find?_some hshort
    have hin := mem_of_find?_eq_some hshort
    have hletter : found.2 ≠ unit 'u' ∧ escapedUnit found.2 = some found.1 := by
      revert hin
      generalize found = pair
      revert pair
      unfold shortEscapes
      simp only [mem_cons, not_mem_nil, or_false, forall_eq_or_imp,
        forall_eq]
      decide
    show readUnits (unit '\\' :: found.2 :: rest) = _
    conv_lhs => unfold readUnits
    dsimp only
    rw [if_neg hletter.1, hletter.2, hfirst]
    cases readUnits rest <;> rfl
  | none =>
    by_cases hspecial :
        (c < 0x20 || isHighSurrogate c || isLowSurrogate c) = true
    · rw [if_pos hspecial]
      unfold hexDigits
      simp only [cons_append, nil_append]
      conv_lhs => unfold readUnits
      dsimp only
      rw [hexUnit_hexDigits]
      cases readUnits rest <;> rfl
    · rw [if_neg hspecial]
      have hnone := List.find?_eq_none.mp hshort
      refine readUnits_plain ?_ ?_ ?_ rest
      · rintro rfl
        exact hnone (unit '"', unit '"') (by decide) (by decide)
      · rintro rfl
        exact hnone (unit '\\', unit '\\') (by decide) (by decide)
      · intro hlt
        exact hspecial (by simp [hlt])

/-- A surrogate needs no escape in a pair. -/
theorem readUnits_surrogate
    (hc : isHighSurrogate c = true ∨ isLowSurrogate c = true) (rest : Text) :
    readUnits (c :: rest) = consRead c (readUnits rest) := by
  have hle : 0xD800 ≤ c := by
    rcases hc with hhigh | hlow
    · exact of_decide_eq_true (Bool.and_eq_true_iff.mp hhigh).1
    · have hlow := of_decide_eq_true (Bool.and_eq_true_iff.mp hlow).1
      exact UInt16.le_trans (by decide) hlow
  have hlarge : 0xD800 ≤ c.toNat := UInt16.le_iff_toNat_le.mp hle
  refine readUnits_plain ?_ ?_ ?_ rest
  · rintro rfl
    exact absurd hlarge (by decide)
  · rintro rfl
    exact absurd hlarge (by decide)
  · intro hlt
    have hlt : c.toNat < 0x20 := UInt16.lt_iff_toNat_lt.mp hlt
    omega

theorem readUnits_end (rest : Text) :
    readUnits (unit '"' :: rest) = some ([], rest) := by
  unfold readUnits
  exact if_pos rfl

/-- A quoted string is read back. -/
theorem readUnits_quoteUnits (s rest : Text) :
    readUnits (quoteUnits s ++ unit '"' :: rest) = some (s, rest) := by
  induction s using quoteUnits.induct with
  | case1 => exact readUnits_end rest
  | case2 c =>
    unfold quoteUnits
    rw [readUnits_escape, readUnits_end]
    rfl
  | case3 c d tail hpair ih =>
    obtain ⟨hhigh, hlow⟩ := Bool.and_eq_true_iff.mp hpair
    unfold quoteUnits
    rw [if_pos hpair, cons_append, cons_append,
      readUnits_surrogate (.inl hhigh), readUnits_surrogate (.inr hlow),
      ih]
    rfl
  | case4 c d tail hpair ih =>
    unfold quoteUnits
    rw [if_neg hpair, append_assoc, readUnits_escape, ih]
    rfl

/-! Digits. -/

def isDigit (c : UInt16) : Bool := 48 ≤ c && c ≤ 57

def digitUnit (d : Nat) : UInt16 := (48 + d).toUInt16

/-- A natural number in decimal notation. -/
def naturalText (n : Nat) : Text :=
  if n = 0 then [digitUnit 0] else (Nat.digits 10 n).reverse.map digitUnit

def zeros (n : Nat) : Text := List.replicate n (digitUnit 0)

def digitsValue (digits : Text) : Nat :=
  digits.foldl (fun value c => 10 * value + (c.toNat - 48)) 0

theorem digitUnit_value {d : Nat} (hd : d < 10) :
    isDigit (digitUnit d) = true ∧ (digitUnit d).toNat - 48 = d := by
  revert d
  decide

theorem digitsValue_append (first last : Text) :
    digitsValue (first ++ last) =
      digitsValue first * 10 ^ last.length + digitsValue last := by
  unfold digitsValue
  rw [foldl_append]
  generalize first.foldl _ 0 = value
  induction last using List.reverseRecOn generalizing value with
  | nil => simp
  | append_singleton _ c ih =>
    rw [foldl_append, foldl_append, ih, length_append]
    simp only [foldl_cons, foldl_nil, length_singleton]
    ring

theorem digitsValue_zeros (n : Nat) : digitsValue (zeros n) = 0 := by
  induction n with
  | zero => rfl
  | succ n ih =>
    unfold zeros at ih ⊢
    rw [replicate_succ', digitsValue_append, ih]
    rfl

theorem isDigit_zeros : ∀ c ∈ zeros n, isDigit c = true := by
  intro c hc
  rw [eq_of_mem_replicate hc]
  decide

theorem isDigit_naturalText :
    ∀ c ∈ naturalText n, isDigit c = true := by
  intro c hc
  unfold naturalText at hc
  split at hc
  · rw [mem_singleton.mp hc]
    decide
  · obtain ⟨d, hd, rfl⟩ := mem_map.mp hc
    have hlt := Nat.digits_lt_base (by decide) (mem_reverse.mp hd)
    exact (digitUnit_value hlt).1

theorem naturalText_ne_nil (n : Nat) : naturalText n ≠ [] := by
  unfold naturalText
  split
  · exact cons_ne_nil _ _
  · rename_i hne
    have hdigits : Nat.digits 10 n ≠ [] := Nat.digits_ne_nil_iff_ne_zero.mpr hne
    simpa using hdigits

theorem digitsValue_map {digits : List Nat} (hdigits : ∀ d ∈ digits, d < 10) :
    digitsValue (digits.reverse.map digitUnit) = Nat.ofDigits 10 digits := by
  induction digits with
  | nil => rfl
  | cons d _ ih =>
    have hd := (digitUnit_value (hdigits d mem_cons_self)).2
    have hrest := ih fun d hd => hdigits d (mem_cons_of_mem _ hd)
    rw [reverse_cons, map_append, digitsValue_append, hrest,
      Nat.ofDigits_cons]
    simp only [map_cons, map_nil, length_singleton,
      digitsValue, foldl_cons, foldl_nil, hd]
    ring

/-- A natural number is read back. -/
theorem digitsValue_naturalText (n : Nat) : digitsValue (naturalText n) = n := by
  unfold naturalText
  split
  · rename_i hzero
    rw [hzero]
    decide
  · rw [digitsValue_map fun d hd => Nat.digits_lt_base (by decide) hd,
      Nat.ofDigits_digits]

/-- The first digit of a number is not zero. -/
theorem head_naturalText (hn : n ≠ 0) :
    ∃ d rest, naturalText n = d :: rest ∧ d ≠ digitUnit 0 := by
  unfold naturalText
  rw [if_neg hn]
  have hne : Nat.digits 10 n ≠ [] := Nat.digits_ne_nil_iff_ne_zero.mpr hn
  have hlast := Nat.getLast_digit_ne_zero 10 hn
  have hlt := Nat.digits_lt_base (b := 10) (by decide)
    (getLast_mem (l := Nat.digits 10 n) hne)
  refine ⟨digitUnit ((Nat.digits 10 n).getLast hne),
    ((Nat.digits 10 n).dropLast.reverse).map digitUnit, ?_, ?_⟩
  · conv_lhs => rw [← dropLast_append_getLast hne]
    simp
  · intro heq
    have hvalue := (digitUnit_value hlt).2
    rw [heq] at hvalue
    exact hlast hvalue.symm

/-! Numbers. -/

/-- The parts of the text of a number; no exponent stands for zero. -/
structure NumberText where
  integer : Text
  fraction : Text := []
  exponent : Int := 0

def NumberText.units (t : NumberText) : Text :=
  t.integer ++
    (if t.fraction = [] then [] else unit '.' :: t.fraction) ++
    (if t.exponent = 0 then []
      else unit 'e' :: (if t.exponent < 0 then unit '-' else unit '+') ::
        naturalText t.exponent.natAbs)

/-- The text of `digits * 10 ^ point`. -/
def NumberText.ofDecimal (digits : Nat) (point : Int) : NumberText :=
  let text := naturalText digits
  let n : Int := text.length + point
  if 0 ≤ point ∧ n ≤ 21 then { integer := text ++ zeros point.toNat }
  else if 0 < n ∧ n ≤ 21 then
    { integer := text.take n.toNat, fraction := text.drop n.toNat }
  else if -6 < n ∧ n ≤ 0 then
    { integer := [digitUnit 0], fraction := zeros (-n).toNat ++ text }
  else
    { integer := text.take 1, fraction := text.drop 1, exponent := n - 1 }

/-- The text of a number; negative zero has the text of zero. -/
def numberText (x : Double) : Text :=
  if x.significand = 0 then [digitUnit 0]
  else (if x.negative then [unit '-'] else []) ++
    (NumberText.ofDecimal x.shortest.1 x.shortest.2).units

def readFraction : Text → Option (Text × Text)
  | [] => some ([], [])
  | c :: rest =>
    if c = unit '.' then
      if rest.takeWhile isDigit = [] then none
      else some (rest.takeWhile isDigit, rest.dropWhile isDigit)
    else some ([], c :: rest)

/-- The sign in front of an exponent. -/
def readSign : Text → Bool × Text
  | [] => (false, [])
  | c :: rest =>
    if c = unit '-' then (true, rest)
    else if c = unit '+' then (false, rest)
    else (false, c :: rest)

def readExponent : Text → Option (Int × Text)
  | [] => some (0, [])
  | c :: rest =>
    if c = unit 'e' ∨ c = unit 'E' then
      let (negative, rest) := readSign rest
      if rest.takeWhile isDigit = [] then none
      else
        let size : Int := digitsValue (rest.takeWhile isDigit)
        some (if negative then -size else size, rest.dropWhile isDigit)
    else some (0, c :: rest)

/-- Read the digits, the fraction and the exponent of a number; a number out of
range is not read. -/
def readUnsigned (negative : Bool) (text : Text) : Option (Double × Text) :=
  let integer := text.takeWhile isDigit
  if integer = [] ∨
      (integer.head? = some (digitUnit 0) ∧ integer.length ≠ 1) then none
  else do
    let (fraction, rest) ← readFraction (text.dropWhile isDigit)
    let (exponent, rest) ← readExponent rest
    let x ← ofDecimal negative (digitsValue (integer ++ fraction))
      (exponent - fraction.length)
    some (x, rest)

def readNumber : Text → Option (Double × Text)
  | [] => none
  | c :: rest =>
    if c = unit '-' then readUnsigned true rest
    else readUnsigned false (c :: rest)

/-- What follows a number in a text. -/
def Ends (tail : Text) : Prop :=
  ∀ c ∈ tail.head?, isDigit c = false ∧ c ≠ unit '.' ∧ c ≠ unit 'e' ∧
    c ≠ unit 'E'

theorem takeWhile_digits {digits tail : Text}
    (hdigits : ∀ c ∈ digits, isDigit c = true)
    (htail : ∀ c ∈ tail.head?, isDigit c = false) :
    (digits ++ tail).takeWhile isDigit = digits ∧
      (digits ++ tail).dropWhile isDigit = tail := by
  have hnone : tail.takeWhile isDigit = [] ∧ tail.dropWhile isDigit = tail := by
    cases tail with
    | nil => exact ⟨rfl, rfl⟩
    | cons c =>
      have hc := htail c rfl
      rw [takeWhile_cons, dropWhile_cons, hc]
      exact ⟨rfl, rfl⟩
  rw [takeWhile_append_of_pos hdigits, dropWhile_append_of_pos hdigits,
    hnone.1, hnone.2, append_nil]
  exact ⟨rfl, rfl⟩

namespace NumberText

/-- The text after the integer and the fraction. -/
def exponentText (exponent : Int) : Text :=
  if exponent = 0 then []
  else unit 'e' :: (if exponent < 0 then unit '-' else unit '+') ::
    naturalText exponent.natAbs

variable {tail : Text}

variable {exponent : Int}

theorem readExponent_text (htail : Ends tail) :
    readExponent (exponentText exponent ++ tail) = some (exponent, tail) := by
  unfold exponentText
  by_cases hzero : exponent = 0
  · rw [hzero]
    cases tail with
    | nil => rfl
    | cons c =>
      obtain ⟨_, _, hlower, hupper⟩ := htail c rfl
      exact if_neg (by simp [hlower, hupper])
  · rw [if_neg hzero]
    obtain ⟨htake, hdrop⟩ :=
      @takeWhile_digits (naturalText exponent.natAbs) tail
        isDigit_naturalText fun c hc => (htail c hc).1
    simp only [cons_append]
    unfold readExponent
    dsimp only
    by_cases hnegative : exponent < 0
    · rw [if_pos hnegative]
      have hsign : readSign (unit '-' :: (naturalText exponent.natAbs ++ tail)) =
          (true, naturalText exponent.natAbs ++ tail) := by
        unfold readSign
        exact if_pos rfl
      rw [hsign]
      rw [htake, hdrop, if_neg (naturalText_ne_nil _), digitsValue_naturalText,
        if_pos rfl]
      exact congrArg some (Prod.ext (by omega) rfl)
    · rw [if_neg hnegative]
      have hsign : readSign (unit '+' :: (naturalText exponent.natAbs ++ tail)) =
          (false, naturalText exponent.natAbs ++ tail) := by
        unfold readSign
        exact (if_neg (by decide)).trans (if_pos rfl)
      rw [hsign]
      rw [htake, hdrop, if_neg (naturalText_ne_nil _), digitsValue_naturalText,
        if_neg Bool.false_ne_true]
      exact congrArg some (Prod.ext (by omega) rfl)

/-- The exponent, or what follows the number, begins with no digit and no
point. -/
theorem head_exponentText (htail : Ends tail) :
    ∀ c ∈ (exponentText exponent ++ tail).head?,
      isDigit c = false ∧ c ≠ unit '.' := by
  intro c hc
  unfold exponentText at hc
  split at hc
  · have hends := htail c hc
    exact ⟨hends.1, hends.2.1⟩
  · cases hc
    decide

/-- The parts are digits, and the integer has no zero in front. -/
structure Proper (t : NumberText) : Prop where
  integer : ∀ c ∈ t.integer, isDigit c = true
  fraction : ∀ c ∈ t.fraction, isDigit c = true
  present : t.integer ≠ []
  leading : t.integer.head? = some (digitUnit 0) → t.integer.length = 1

/-- A proper text is read back as its decimal. -/
theorem readUnsigned_units {t : NumberText} (ht : t.Proper) (htail : Ends tail)
    (negative : Bool) :
    readUnsigned negative (t.units ++ tail) =
      (Binary64.ofDecimal negative (digitsValue (t.integer ++ t.fraction))
        (t.exponent - t.fraction.length)).map fun x => (x, tail) := by
  have hunits : t.units ++ tail = t.integer ++
      ((if t.fraction = [] then [] else unit '.' :: t.fraction) ++
        (exponentText t.exponent ++ tail)) := by
    unfold units exponentText
    simp only [append_assoc]
  have hfraction :
      readFraction ((if t.fraction = [] then [] else unit '.' :: t.fraction) ++
        (exponentText t.exponent ++ tail)) =
        some (t.fraction, exponentText t.exponent ++ tail) := by
    have hhead : ∀ c ∈ (exponentText t.exponent ++ tail).head?,
        isDigit c = false ∧ c ≠ unit '.' := head_exponentText htail
    by_cases hnone : t.fraction = []
    · rw [hnone]
      revert hhead
      cases exponentText t.exponent ++ tail with
      | nil => exact fun _ => rfl
      | cons c => exact fun hhead => if_neg (hhead c rfl).2
    · obtain ⟨htake, hdrop⟩ := takeWhile_digits ht.fraction
        (fun c hc => (hhead c hc).1)
      rw [if_neg hnone]
      show readFraction (unit '.' ::
        (t.fraction ++ (exponentText t.exponent ++ tail))) = _
      unfold readFraction
      dsimp only
      rw [if_pos rfl, htake, hdrop, if_neg hnone]
  have hdigits : ∀ c ∈ ((if t.fraction = [] then [] else
      unit '.' :: t.fraction) ++ (exponentText t.exponent ++ tail)).head?,
      isDigit c = false := by
    intro c hc
    split at hc
    · exact (head_exponentText htail c hc).1
    · cases hc
      decide
  obtain ⟨htake, hdrop⟩ := takeWhile_digits ht.integer hdigits
  rw [hunits]
  unfold readUnsigned
  dsimp only
  rw [htake, hdrop, if_neg, hfraction]
  · show (readExponent (exponentText t.exponent ++ tail)).bind _ = _
    rw [readExponent_text htail, bind_some]
    cases Binary64.ofDecimal negative (digitsValue (t.integer ++ t.fraction))
      (t.exponent - t.fraction.length) <;> rfl
  · rintro (hnone | ⟨hhead, hlength⟩)
    · exact ht.present hnone
    · exact hlength (ht.leading hhead)

variable {digits : Nat} {point : Int}

/-- What is written for a decimal is proper and has its value. -/
theorem ofDecimal_proper (hdigits : digits ≠ 0) :
    (ofDecimal digits point).Proper := by
  obtain ⟨d, _, htext, hd⟩ := head_naturalText hdigits
  have hall := isDigit_naturalText (n := digits)
  have hlead (n : Nat) (hn : n ≠ 0) (more : Text)
      (hhead : ((naturalText digits).take n ++ more).head? =
        some (digitUnit 0)) : False := by
    obtain ⟨m, rfl⟩ := Nat.exists_eq_succ_of_ne_zero hn
    rw [htext] at hhead
    exact hd (some.inj hhead)
  have htake (n : Nat) (hn : n ≠ 0) : (naturalText digits).take n ≠ [] := by
    obtain ⟨m, rfl⟩ := Nat.exists_eq_succ_of_ne_zero hn
    rw [htext]
    exact cons_ne_nil _ _
  unfold ofDecimal
  dsimp only
  split
  · refine ⟨?_, (fun _ hc => nomatch hc), ?_, ?_⟩
    · intro c hc
      rcases mem_append.mp hc with hc | hc
      · exact hall c hc
      · exact isDigit_zeros c hc
    · exact append_ne_nil_of_left_ne_nil (naturalText_ne_nil _) _
    · intro hhead
      rw [htext] at hhead
      exact absurd (some.inj hhead) hd
  · split
    · have hpos : ((naturalText digits).length + point).toNat ≠ 0 := by omega
      refine ⟨fun c hc => hall c (mem_of_mem_take hc),
        fun c hc => hall c (mem_of_mem_drop hc), htake _ hpos, ?_⟩
      intro hhead
      exact (hlead _ hpos [] (by rw [append_nil]; exact hhead)).elim
    · split
      · refine ⟨?_, ?_, cons_ne_nil _ _, fun _ => rfl⟩
        · intro c hc
          rw [mem_singleton.mp hc]
          decide
        · intro c hc
          rcases mem_append.mp hc with hc | hc
          · exact isDigit_zeros c hc
          · exact hall c hc
      · refine ⟨fun c hc => hall c (mem_of_mem_take hc),
          fun c hc => hall c (mem_of_mem_drop hc),
          htake 1 (by decide), ?_⟩
        intro hhead
        exact (hlead 1 (by decide) []
          (by rw [append_nil]; exact hhead)).elim

/-- The parts give the decimal again. -/
theorem ofDecimal_value (negative : Bool) (hdigits : digits ≠ 0) :
    Binary64.ofDecimal negative
      (digitsValue ((ofDecimal digits point).integer ++
        (ofDecimal digits point).fraction))
      ((ofDecimal digits point).exponent -
        (ofDecimal digits point).fraction.length) =
      Binary64.ofDecimal negative digits point := by
  obtain ⟨d, _, htext, _⟩ := head_naturalText hdigits
  have hlength : 1 ≤ (naturalText digits).length := by
    rw [htext, length_cons]
    omega
  unfold ofDecimal
  dsimp only
  split
  · rw [append_nil, digitsValue_append, digitsValue_naturalText,
      digitsValue_zeros, Nat.add_zero]
    unfold zeros
    rw [length_replicate, ofDecimal_shift]
    congr 1
    simp only [length_nil]
    omega
  · split
    · dsimp only
      rw [take_append_drop, digitsValue_naturalText, length_drop]
      congr 1
      omega
    · split
      · dsimp only
        rw [← append_assoc, digitsValue_append, digitsValue_append,
          digitsValue_zeros, digitsValue_naturalText]
        have hzero : digitsValue [digitUnit 0] = 0 := by decide
        rw [hzero, Nat.zero_mul, Nat.zero_mul, Nat.zero_add,
          length_append]
        unfold zeros
        rw [length_replicate]
        congr 1
        omega
      · dsimp only
        rw [take_append_drop, digitsValue_naturalText, length_drop]
        congr 1
        omega

/-- What is written for a decimal is read back as it. -/
theorem readUnsigned_ofDecimal {tail : Text} (hdigits : digits ≠ 0)
    (htail : Ends tail) (negative : Bool) :
    readUnsigned negative ((ofDecimal digits point).units ++ tail) =
      (Binary64.ofDecimal negative digits point).map fun x => (x, tail) := by
  rw [readUnsigned_units (ofDecimal_proper hdigits) htail,
    ofDecimal_value negative hdigits]

theorem readUnsigned_zero (htail : Ends tail) :
    readUnsigned false (digitUnit 0 :: tail) =
      some (Double.zero false, tail) := by
  have hproper : Proper { integer := [digitUnit 0] } := by
    refine ⟨?_, (fun _ hc => nomatch hc), cons_ne_nil _ _, fun _ => rfl⟩
    intro c hc
    rw [mem_singleton.mp hc]
    decide
  have hvalue : digitsValue ([digitUnit 0] ++ []) = 0 := by decide
  have hread := readUnsigned_units hproper htail false
  rw [hvalue, ofDecimal_zero] at hread
  exact hread

/-- The text of a decimal begins with a digit. -/
theorem units_cons (hdigits : digits ≠ 0) :
    ∃ c rest, (ofDecimal digits point).units = c :: rest ∧ isDigit c = true := by
  have hproper : (ofDecimal digits point).Proper := ofDecimal_proper hdigits
  obtain ⟨c, _, hinteger⟩ := exists_cons_of_ne_nil hproper.present
  have hdigit := hproper.integer c (hinteger ▸ mem_cons_self)
  unfold units
  rw [hinteger]
  exact ⟨c, _, rfl, hdigit⟩

end NumberText

/-- Negative zero is written as zero. -/
def normalZero (x : Double) : Double :=
  if x.significand = 0 then Double.zero false else x

theorem numberText_normalZero (x : Double) :
    numberText (normalZero x) = numberText x := by
  unfold normalZero
  by_cases hzero : x.significand = 0
  · rw [if_pos hzero]
    unfold numberText
    rw [if_pos hzero]
    rfl
  · rw [if_neg hzero]

theorem shortest_ne_zero {x : Double} (hx : x.significand ≠ 0) :
    x.shortest.1 ≠ 0 := by
  intro hnone
  have hreads := ofDecimal_shortest x
  rw [hnone, ofDecimal_zero] at hreads
  rw [← some.inj hreads] at hx
  exact hx rfl

/-- A text that begins with a digit is read without a sign. -/
theorem readNumber_digit (hc : isDigit c = true) (rest : Text) :
    readNumber (c :: rest) = readUnsigned false (c :: rest) := by
  refine if_neg ?_
  rintro rfl
  exact absurd hc (by decide)

/-- A number is read back, and negative zero as zero. -/
theorem readNumber_numberText (x : Double) {tail : Text} (htail : Ends tail) :
    readNumber (numberText x ++ tail) = some (normalZero x, tail) := by
  unfold numberText normalZero
  by_cases hzero : x.significand = 0
  · rw [if_pos hzero, if_pos hzero]
    exact NumberText.readUnsigned_zero htail
  · rw [if_neg hzero, if_neg hzero]
    have hdigits := shortest_ne_zero hzero
    have hread := @NumberText.readUnsigned_ofDecimal _ x.shortest.2 _ hdigits
      htail x.negative
    rw [ofDecimal_shortest, map_some] at hread
    cases hnegative : x.negative with
    | true =>
      rw [hnegative] at hread
      rw [if_pos rfl, append_assoc, cons_append, nil_append]
      unfold readNumber
      dsimp only
      rw [if_pos rfl, hread]
    | false =>
      rw [hnegative] at hread
      obtain ⟨c, _, hunits, hc⟩ := @NumberText.units_cons _ x.shortest.2 hdigits
      rw [if_neg Bool.false_ne_true, nil_append, hunits,
        cons_append, readNumber_digit hc, ← cons_append, ← hunits,
        hread]

end JsonText
