/-
JSON values as trees: their compact text, the reader of texts, equality up to
the order of keys, and the canonical form that has the keys in order.
-/
import CognitiveSidecar.Lib.JsonText

open Option List Binary64 JsonText

/-- A value that JSON can write. -/
inductive Json
  | null
  | bool (b : Bool)
  | number (x : Double)
  | string (s : Text)
  | array (items : List Json)
  | object (members : List (Text × Json))

namespace Json

instance : Inhabited Json := ⟨.null⟩

/-- A property of all values by the values inside. -/
theorem induct {motive : Json → Prop} (null : motive .null)
    (bool : ∀ b, motive (.bool b)) (number : ∀ x, motive (.number x))
    (string : ∀ s, motive (.string s))
    (array : ∀ items, (∀ v ∈ items, motive v) → motive (.array items))
    (object : ∀ members, (∀ p ∈ members, motive p.2) →
      motive (.object members)) : ∀ v, motive v
  | .null => null
  | .bool b => bool b
  | .number x => number x
  | .string s => string s
  | .array items => array items fun v hv =>
    have := sizeOf_lt_of_mem hv
    induct null bool number string array object v
  | .object members => object members fun p hp =>
    have := sizeOf_lt_of_mem hp
    have : sizeOf p.2 < sizeOf p := by cases p; simp
    induct null bool number string array object p.2

/-! Texts. -/

def word (s : String) : Text := s.toList.map unit

/-- `parts.join(",")`. -/
def joined : List Text → Text
  | [] => []
  | [part] => part
  | part :: next :: rest => part ++ unit ',' :: joined (next :: rest)

mutual

/-- The text of a value, with the members of an object in their order. -/
def text : Json → Text
  | .null => word "null"
  | .bool true => word "true"
  | .bool false => word "false"
  | .number x => numberText x
  | .string s => quote s
  | .array items => unit '[' :: joined (itemTexts items) ++ [unit ']']
  | .object members => unit '\x7b' :: joined (memberTexts members) ++
      [unit '\x7d']

def itemTexts : List Json → List Text
  | [] => []
  | v :: rest => v.text :: itemTexts rest

def memberTexts : List (Text × Json) → List Text
  | [] => []
  | (key, v) :: rest => (quote key ++ unit ':' :: v.text) :: memberTexts rest

end

def memberText (member : Text × Json) : Text :=
  quote member.1 ++ unit ':' :: member.2.text

theorem itemTexts_eq (items : List Json) : itemTexts items = items.map text := by
  induction items with
  | nil => rfl
  | cons v _ ih => rw [itemTexts, ih, map_cons]

theorem memberTexts_eq (members : List (Text × Json)) :
    memberTexts members = members.map memberText := by
  induction members with
  | nil => rfl
  | cons _ _ ih =>
    rw [memberTexts, ih]
    rfl

/-! Reading. -/

def isSpace (c : UInt16) : Bool :=
  c = unit ' ' || c = 9 || c = 10 || c = 13

def skipSpace (text : Text) : Text := text.dropWhile isSpace

def readWord (s : String) (v : Json) (text : Text) : Option (Json × Text) :=
  if (word s).isPrefixOf text then some (v, text.drop (word s).length) else none

/-- A key that occurs again gets the new value in its old place. -/
def setMember (members : List (Text × Json)) (member : Text × Json) :
    List (Text × Json) :=
  if members.any (·.1 = member.1) then
    members.map fun old => if old.1 = member.1 then member else old
  else members ++ [member]

/-- Behind an element comes a comma with more of them, or the end. -/
def readSeparated {α : Type} (close : UInt16) (element : α)
    (more : Text → Option (List α × Text)) (text : Text) :
    Option (List α × Text) :=
  match skipSpace text with
  | [] => none
  | c :: rest =>
    if c = unit ',' then
      (more rest).map fun found => (element :: found.1, found.2)
    else if c = close then some ([element], rest)
    else none

/-- The key of a member, with the colon. -/
def readKey (text : Text) : Option (Text × Text) :=
  match skipSpace text with
  | [] => none
  | c :: rest =>
    if c = unit '"' then
      (readUnits rest).bind fun found =>
        match skipSpace found.2 with
        | [] => none
        | c :: rest => if c = unit ':' then some (found.1, rest) else none
    else none

/-- A value by its first unit. -/
def readFrom (items : Text → Option (List Json × Text))
    (members : Text → Option (List (Text × Json) × Text)) (c : UInt16)
    (rest : Text) : Option (Json × Text) :=
  if c = unit '"' then
    (readUnits rest).map fun found => (.string found.1, found.2)
  else if c = unit '[' then
    if (skipSpace rest).head? = some (unit ']') then
      some (.array [], (skipSpace rest).drop 1)
    else (items rest).map fun found => (.array found.1, found.2)
  else if c = unit '\x7b' then
    if (skipSpace rest).head? = some (unit '\x7d') then
      some (.object [], (skipSpace rest).drop 1)
    else (members rest).map fun found =>
      (.object (found.1.foldl setMember []), found.2)
  else if c = unit 'n' then readWord "null" .null (c :: rest)
  else if c = unit 't' then readWord "true" (.bool true) (c :: rest)
  else if c = unit 'f' then readWord "false" (.bool false) (c :: rest)
  else (readNumber (c :: rest)).map fun found => (.number found.1, found.2)

mutual

/-- `JSON.parse`, up to what follows the value. -/
def readValue : Nat → Text → Option (Json × Text)
  | 0, _ => none
  | fuel + 1, text =>
    match skipSpace text with
    | [] => none
    | c :: rest => readFrom (readItems fuel) (readMembers fuel) c rest

def readItems : Nat → Text → Option (List Json × Text)
  | 0, _ => none
  | fuel + 1, text =>
    (readValue fuel text).bind fun found =>
      readSeparated (unit ']') found.1 (readItems fuel) found.2

def readMembers : Nat → Text → Option (List (Text × Json) × Text)
  | 0, _ => none
  | fuel + 1, text =>
    (readKey text).bind fun key =>
      (readValue fuel key.2).bind fun found =>
        readSeparated (unit '\x7d') (key.1, found.1) (readMembers fuel) found.2

end

/-- `JSON.parse`; a text with a number out of range is not read. -/
def parse (text : Text) : Option Json :=
  match readValue (2 * text.length + 2) text with
  | none => none
  | some (v, rest) => if skipSpace rest = [] then some v else none

/-! What is written is read. -/

/-- The keys of an object are distinct, in the value and inside it. -/
inductive Distinct : Json → Prop
  | null : Distinct .null
  | bool (b : Bool) : Distinct (.bool b)
  | number (x : Double) : Distinct (.number x)
  | string (s : Text) : Distinct (.string s)
  | array {items : List Json} (hitems : ∀ v ∈ items, Distinct v) :
      Distinct (.array items)
  | object {members : List (Text × Json)}
      (hkeys : (members.map Prod.fst).Nodup)
      (hmembers : ∀ p ∈ members, Distinct p.2) : Distinct (.object members)

/-- No number of the value is negative zero. -/
inductive Unsigned : Json → Prop
  | null : Unsigned .null
  | bool (b : Bool) : Unsigned (.bool b)
  | number {x : Double} (hx : normalZero x = x) : Unsigned (.number x)
  | string (s : Text) : Unsigned (.string s)
  | array {items : List Json} (hitems : ∀ v ∈ items, Unsigned v) :
      Unsigned (.array items)
  | object {members : List (Text × Json)}
      (hmembers : ∀ p ∈ members, Unsigned p.2) : Unsigned (.object members)

variable {members : List (Text × Json)}

/-- A member with a new key comes last. -/
theorem foldl_setMember :
    ∀ {before : List (Text × Json)},
      ((before ++ members).map Prod.fst).Nodup →
      members.foldl setMember before = before ++ members := by
  induction members with
  | nil =>
    intro _ _
    rw [foldl_nil, append_nil]
  | cons member _ ih =>
    intro before hnodup
    have hnew : (before.any (·.1 = member.1)) = false := by
      rw [List.any_eq_false]
      intro old hold hsame
      rw [map_append] at hnodup
      have hapart := (nodup_append.mp hnodup).2.2
      exact hapart old.1 (List.mem_map_of_mem hold) member.1
        mem_cons_self (of_decide_eq_true hsame)
    rw [foldl_cons]
    have hset : setMember before member = before ++ [member] := by
      unfold setMember
      rw [hnew]
      exact if_neg Bool.false_ne_true
    rw [hset, ih (by simpa using hnodup), append_assoc]
    rfl

variable {c : UInt16}

theorem skipSpace_cons (hc : isSpace c = false) (rest : Text) :
    skipSpace (c :: rest) = c :: rest := by
  unfold skipSpace
  rw [dropWhile_cons, hc]
  rfl

/-- A unit that begins the text of a number. -/
def BeginsNumber (c : UInt16) : Prop := isDigit c = true ∨ c = unit '-'

theorem numberText_cons (x : Double) :
    ∃ c rest, numberText x = c :: rest ∧ BeginsNumber c := by
  unfold numberText
  by_cases hzero : x.significand = 0
  · rw [if_pos hzero]
    exact ⟨_, _, rfl, .inl (by decide)⟩
  · rw [if_neg hzero]
    by_cases hnegative : x.negative = true
    · rw [if_pos hnegative, cons_append]
      exact ⟨_, _, rfl, .inr rfl⟩
    · obtain ⟨c, rest, hunits, hc⟩ :=
        @NumberText.units_cons _ x.shortest.2 (shortest_ne_zero hzero)
      rw [if_neg hnegative, nil_append, hunits]
      exact ⟨c, rest, rfl, .inl hc⟩

/-- The units that mean something else begin no number. -/
theorem BeginsNumber.ne (hc : BeginsNumber c) :
    isSpace c = false ∧ c ≠ unit '"' ∧ c ≠ unit '[' ∧ c ≠ unit '\x7b' ∧
      c ≠ unit 'n' ∧ c ≠ unit 't' ∧ c ≠ unit 'f' ∧ c ≠ unit ']' ∧
      c ≠ unit '\x7d' := by
  rcases hc with hdigit | rfl
  · have hbounds : 48 ≤ c.toNat ∧ c.toNat ≤ 57 := by
      obtain ⟨hlower, hupper⟩ := Bool.and_eq_true_iff.mp hdigit
      exact ⟨UInt16.le_iff_toNat_le.mp (of_decide_eq_true hlower),
        UInt16.le_iff_toNat_le.mp (of_decide_eq_true hupper)⟩
    have hother (d : UInt16) (hd : d.toNat < 48 ∨ 57 < d.toNat) : c ≠ d := by
      rintro rfl
      omega
    refine ⟨?_, hother _ (by decide), hother _ (by decide),
      hother _ (by decide), hother _ (by decide), hother _ (by decide),
      hother _ (by decide), hother _ (by decide), hother _ (by decide)⟩
    unfold isSpace
    simp [hother (unit ' ') (by decide), hother 9 (by decide),
      hother 10 (by decide), hother 13 (by decide)]
  · decide

/-- A text begins with no space and with no closing bracket. -/
theorem text_cons (v : Json) :
    ∃ c rest, v.text = c :: rest ∧ isSpace c = false ∧ c ≠ unit ']' ∧
      c ≠ unit '\x7d' := by
  cases v with
  | null | string s | array | object => exact ⟨_, _, rfl, by decide⟩
  | bool b => cases b <;> exact ⟨_, _, rfl, by decide⟩
  | number x =>
    obtain ⟨c, rest, htext, hc⟩ := numberText_cons x
    obtain ⟨hspace, _, _, _, _, _, _, hbracket, hbrace⟩ := hc.ne
    exact ⟨c, rest, htext, hspace, hbracket, hbrace⟩

/-- The reader gets the value back, whatever follows it. -/
def ReadsBack (v : Json) : Prop :=
  ∀ fuel tail, Ends tail → 2 * v.text.length ≤ fuel →
    readValue fuel (v.text ++ tail) = some (v, tail)

theorem ends_of_not (rest : Text)
    (hc : isDigit c = false ∧ c ≠ unit '.' ∧ c ≠ unit 'e' ∧ c ≠ unit 'E') :
    Ends (c :: rest) := by
  rintro d ⟨⟩
  exact hc

section Separated

variable {α : Type} {close : UInt16} {element : α}
  {more : Text → Option (List α × Text)}

theorem readSeparated_close (hspace : isSpace close = false)
    (hcomma : close ≠ unit ',') (tail : Text) :
    readSeparated close element more (close :: tail) =
      some ([element], tail) := by
  unfold readSeparated
  rw [skipSpace_cons hspace]
  dsimp only
  rw [if_neg hcomma, if_pos rfl]

theorem readSeparated_comma {rest tail : Text} {elements : List α}
    (hmore : more rest = some (elements, tail)) :
    readSeparated close element more (unit ',' :: rest) =
      some (element :: elements, tail) := by
  unfold readSeparated
  rw [skipSpace_cons (by decide)]
  dsimp only
  rw [if_pos rfl, hmore, map_some]

end Separated

theorem readKey_quote (key rest : Text) :
    readKey (quote key ++ unit ':' :: rest) = some (key, rest) := by
  unfold readKey quote
  simp only [cons_append, append_assoc, nil_append]
  rw [skipSpace_cons (by decide)]
  dsimp only
  rw [readUnits_quoteUnits, bind_some]
  exact if_pos rfl

theorem joined_cons (part next : Text) (rest : List Text) :
    joined (part :: next :: rest) =
      part ++ unit ',' :: joined (next :: rest) := rfl

variable {items : List Json}

/-- The items of an array are read up to its bracket. -/
theorem readItems_joined (hne : items ≠ []) (hitems : ∀ v ∈ items, ReadsBack v)
    (tail : Text) (fuel : Nat)
    (hfuel : 2 * (joined (items.map text)).length + 1 ≤ fuel) :
    readItems fuel (joined (items.map text) ++ unit ']' :: tail) =
      some (items, tail) := by
  induction items generalizing fuel with
  | nil => exact absurd rfl hne
  | cons v rest ih =>
    obtain ⟨left, rfl⟩ := Nat.exists_eq_succ_of_ne_zero
      (Nat.ne_of_gt (Nat.lt_of_lt_of_le (Nat.succ_pos _) hfuel))
    have hv := hitems v mem_cons_self
    cases rest with
    | nil =>
      have htext : joined ([v].map text) = v.text := rfl
      rw [htext] at hfuel
      have hread := hv left (unit ']' :: tail)
        (ends_of_not tail (by decide)) (by omega)
      rw [htext]
      unfold readItems
      rw [hread, bind_some]
      exact readSeparated_close (by decide) (by decide) tail
    | cons w others =>
      rw [map_cons, map_cons, joined_cons, length_append,
        length_cons] at hfuel
      have hread := hv left
        (unit ',' :: (joined ((w :: others).map text) ++ unit ']' :: tail))
        (ends_of_not _ (by decide)) (by omega)
      have hrest := ih (cons_ne_nil _ _)
        (fun v hv => hitems v (mem_cons_of_mem _ hv)) left
        (by rw [map_cons]; omega)
      rw [map_cons, map_cons, joined_cons, append_assoc,
        cons_append]
      unfold readItems
      rw [← map_cons, hread, bind_some]
      exact readSeparated_comma hrest

/-- The members of an object are read up to its brace. -/
theorem readMembers_joined (hne : members ≠ [])
    (hmembers : ∀ p ∈ members, ReadsBack p.2) (tail : Text) (fuel : Nat)
    (hfuel : 2 * (joined (members.map memberText)).length + 1 ≤ fuel) :
    readMembers fuel (joined (members.map memberText) ++ unit '\x7d' :: tail) =
      some (members, tail) := by
  induction members generalizing fuel with
  | nil => exact absurd rfl hne
  | cons p rest ih =>
    obtain ⟨left, rfl⟩ := Nat.exists_eq_succ_of_ne_zero
      (Nat.ne_of_gt (Nat.lt_of_lt_of_le (Nat.succ_pos _) hfuel))
    have hp := hmembers p mem_cons_self
    have hlength : p.2.text.length ≤ (memberText p).length := by
      unfold memberText
      rw [length_append, length_cons]
      omega
    cases rest with
    | nil =>
      have htext : joined ([p].map memberText) = memberText p := rfl
      rw [htext] at hfuel
      have hread := hp left (unit '\x7d' :: tail)
        (ends_of_not tail (by decide)) (by omega)
      rw [htext]
      unfold readMembers memberText
      rw [append_assoc, cons_append, readKey_quote,
        bind_some, hread, bind_some]
      exact readSeparated_close (by decide) (by decide) tail
    | cons q others =>
      rw [map_cons, map_cons, joined_cons, length_append,
        length_cons] at hfuel
      have hread := hp left
        (unit ',' ::
          (joined ((q :: others).map memberText) ++ unit '\x7d' :: tail))
        (ends_of_not _ (by decide)) (by omega)
      have hrest := ih (cons_ne_nil _ _)
        (fun p hp => hmembers p (mem_cons_of_mem _ hp)) left
        (by rw [map_cons]; omega)
      rw [map_cons, map_cons, joined_cons, append_assoc,
        cons_append]
      unfold readMembers
      rw [← map_cons]
      conv_lhs => rw [memberText]
      rw [append_assoc, cons_append, readKey_quote,
        bind_some, hread, bind_some]
      exact readSeparated_comma hrest

theorem readWord_word (s : String) (v : Json) (tail : Text) :
    readWord s v (word s ++ tail) = some (v, tail) := by
  unfold readWord
  rw [if_pos ( isPrefixOf_iff_prefix.mpr (prefix_append _ _)),
    drop_left]

/-- The text of the elements begins like the first one. -/
theorem joined_begins {part : Text} {parts : List Text} {c : UInt16}
    {rest : Text} (hpart : part = c :: rest) :
    ∃ more, joined (part :: parts) = c :: more := by
  cases parts with
  | nil => exact ⟨rest, hpart⟩
  | cons next others =>
    rw [hpart]
    exact ⟨_, rfl⟩

theorem readValue_cons (hc : isSpace c = false) (fuel : Nat) (rest : Text) :
    readValue (fuel + 1) (c :: rest) =
      readFrom (readItems fuel) (readMembers fuel) c rest := by
  unfold readValue
  rw [skipSpace_cons hc]

section ReadFrom

variable {items : Text → Option (List Json × Text)}
  {members : Text → Option (List (Text × Json) × Text)}

variable {rest tail : Text}

theorem readFrom_quote (s tail : Text) :
    readFrom items members (unit '"') (quoteUnits s ++ unit '"' :: tail) =
      some (.string s, tail) := by
  unfold readFrom
  rw [if_pos rfl, readUnits_quoteUnits, map_some]

theorem readFrom_number {x : Double} (hc : BeginsNumber c)
    (hread : readNumber (c :: rest) = some (x, tail)) :
    readFrom items members c rest = some (.number x, tail) := by
  obtain ⟨_, hquote, hbracket, hbrace, hn, ht, hf, _, _⟩ := hc.ne
  unfold readFrom
  rw [if_neg hquote, if_neg hbracket, if_neg hbrace, if_neg hn, if_neg ht,
    if_neg hf, hread, map_some]

theorem readFrom_array {rest tail : Text} {found : List Json}
    (hfirst : (skipSpace rest).head? ≠ some (unit ']'))
    (hread : items rest = some (found, tail)) :
    readFrom items members (unit '[') rest = some (.array found, tail) := by
  unfold readFrom
  rw [if_neg (by decide), if_pos rfl, if_neg hfirst, hread, map_some]

theorem readFrom_emptyArray (tail : Text) :
    readFrom items members (unit '[') (unit ']' :: tail) =
      some (.array [], tail) := by
  rfl

theorem readFrom_emptyObject (tail : Text) :
    readFrom items members (unit '\x7b') (unit '\x7d' :: tail) =
      some (.object [], tail) := by
  rfl

theorem readFrom_object {found : List (Text × Json)}
    (hfirst : (skipSpace rest).head? ≠ some (unit '\x7d'))
    (hkeys : (found.map Prod.fst).Nodup)
    (hread : members rest = some (found, tail)) :
    readFrom items members (unit '\x7b') rest =
      some (.object found, tail) := by
  unfold readFrom
  rw [if_neg hfirst, hread,
    map_some, foldl_setMember (by simpa using hkeys)]
  rfl

/-- The words of JSON, by their first letters. -/
theorem readFrom_word (tail : Text) :
    readFrom items members (unit 'n') (word "ull" ++ tail) =
        some (.null, tail) ∧
      readFrom items members (unit 't') (word "rue" ++ tail) =
        some (.bool true, tail) ∧
      readFrom items members (unit 'f') (word "alse" ++ tail) =
        some (.bool false, tail) := by
  refine ⟨?_, ?_, ?_⟩ <;> unfold readFrom <;>
    rw [if_neg (by decide)]
  · exact readWord_word "null" .null tail
  · exact readWord_word "true" (.bool true) tail
  · exact readWord_word "false" (.bool false) tail

end ReadFrom

variable {v : Json}

/-- A value has a text, so the reader has fuel for its first unit. -/
theorem readsBack_of_succ
    (hread : ∀ fuel tail, Ends tail → 2 * v.text.length ≤ fuel + 1 →
      readValue (fuel + 1) (v.text ++ tail) = some (v, tail)) :
    ReadsBack v := by
  intro fuel tail htail hfuel
  obtain ⟨c, _, hbegins, _⟩ := text_cons v
  cases fuel with
  | zero =>
    rw [hbegins, length_cons] at hfuel
    omega
  | succ left => exact hread left tail htail hfuel

theorem readsBack_array (hitems : ∀ v ∈ items, ReadsBack v) :
    ReadsBack (.array items) := by
  refine readsBack_of_succ fun fuel tail _ hfuel => ?_
  unfold text at hfuel ⊢
  rw [itemTexts_eq] at hfuel ⊢
  simp only [cons_append, append_assoc, nil_append,
    length_cons, length_append, length_nil] at hfuel ⊢
  cases items with
  | nil => exact readFrom_emptyArray tail
  | cons v rest =>
    obtain ⟨c, _, hbegins, hspace, hbracket, _⟩ := text_cons v
    obtain ⟨_, hjoined⟩ := @joined_begins _ (rest.map text) _ _ hbegins
    refine readFrom_array ?_ ?_
    · rw [map_cons, hjoined, cons_append, skipSpace_cons hspace]
      exact fun heq => hbracket (some.inj heq)
    · exact readItems_joined (cons_ne_nil _ _) hitems tail fuel (by omega)

theorem readsBack_object (hkeys : (members.map Prod.fst).Nodup)
    (hmembers : ∀ p ∈ members, ReadsBack p.2) :
    ReadsBack (.object members) := by
  refine readsBack_of_succ fun fuel tail _ hfuel => ?_
  unfold text at hfuel ⊢
  rw [memberTexts_eq] at hfuel ⊢
  simp only [cons_append, append_assoc, nil_append,
    length_cons, length_append, length_nil] at hfuel ⊢
  cases members with
  | nil => exact readFrom_emptyObject tail
  | cons p rest =>
    have hbegins : memberText p = unit '"' :: (quoteUnits p.1 ++ [unit '"'] ++
        unit ':' :: p.2.text) := rfl
    obtain ⟨_, hjoined⟩ := @joined_begins _ (rest.map memberText) _ _ hbegins
    refine readFrom_object ?_ hkeys ?_
    · rw [map_cons, hjoined, cons_append,
        skipSpace_cons (by decide), List.head?_cons]
      decide
    · exact readMembers_joined (cons_ne_nil _ _) hmembers tail fuel
        (by omega)

/-- A value without double keys and without negative zero is read back from its
text. -/
theorem readsBack (hdistinct : Distinct v) (hunsigned : Unsigned v) :
    ReadsBack v := by
  induction v using induct with
  | null =>
    refine readsBack_of_succ fun _ tail _ _ => ?_
    exact (readValue_cons (by decide) _ _).trans (readFrom_word tail).1
  | bool b =>
    refine readsBack_of_succ fun _ tail _ _ => ?_
    cases b with
    | true =>
      exact (readValue_cons (by decide) _ _).trans (readFrom_word tail).2.1
    | false =>
      exact (readValue_cons (by decide) _ _).trans (readFrom_word tail).2.2
  | number x =>
    refine readsBack_of_succ fun _ _ htail _ => ?_
    cases hunsigned with
    | number hx =>
      obtain ⟨c, _, htext, hc⟩ := numberText_cons x
      have hread := readNumber_numberText x htail
      unfold text
      rw [htext, cons_append] at hread ⊢
      rw [readValue_cons hc.ne.1]
      exact readFrom_number hc (hx ▸ hread)
  | string s =>
    refine readsBack_of_succ fun _ tail _ _ => ?_
    unfold text quote
    simp only [cons_append, append_assoc, nil_append]
    exact readFrom_quote s tail
  | array _ ih =>
    cases hdistinct with
    | array hdistinct =>
      cases hunsigned with
      | array hunsigned =>
        exact readsBack_array fun v hv =>
          ih v hv (hdistinct v hv) (hunsigned v hv)
  | object _ ih =>
    cases hdistinct with
    | object hkeys hdistinct =>
      cases hunsigned with
      | object hunsigned =>
        exact readsBack_object hkeys fun p hp =>
          ih p hp (hdistinct p hp) (hunsigned p hp)

/-- `JSON.parse` gets the value back. -/
theorem parse_text (hdistinct : Distinct v) (hunsigned : Unsigned v) :
    parse v.text = some v := by
  have hread := readsBack hdistinct hunsigned (2 * v.text.length + 2) []
    (fun _ hc => nomatch hc) (by omega)
  unfold parse
  rw [append_nil] at hread
  rw [hread]
  rfl

/-! Equality up to the order of keys. -/

mutual

/-- Structural equality: objects have the same keys with the same values, and
zero is equal to negative zero. -/
def same : Json → Json → Bool
  | .null, .null => true
  | .bool a, .bool b => a = b
  | .number x, .number y => x.equals y
  | .string s, .string t => s = t
  | .array items, .array others => sameItems items others
  | .object members, .object others =>
    members.length = others.length && sameMembers members others
  | _, _ => false

def sameItems : List Json → List Json → Bool
  | [], [] => true
  | v :: rest, w :: others => v.same w && sameItems rest others
  | _, _ => false

def sameMembers : List (Text × Json) → List (Text × Json) → Bool
  | [], _ => true
  | (key, v) :: rest, others =>
    (match others.find? (·.1 = key) with
      | some found => v.same found.2
      | none => false) && sameMembers rest others

end

/-! The canonical form. -/

/-- Keys compare by their code units. -/
def keyLe : Text → Text → Bool
  | [], _ => true
  | _ :: _, [] => false
  | c :: s, d :: t => if c = d then keyLe s t else c < d

def memberLe (p q : Text × Json) : Prop := keyLe p.1 q.1 = true

instance : DecidableRel memberLe := fun p q =>
  inferInstanceAs (Decidable (keyLe p.1 q.1 = true))

mutual

/-- Keys in order, and no negative zero. -/
def canonical : Json → Json
  | .number x => .number (normalZero x)
  | .array items => .array (canonicalItems items)
  | .object members =>
    .object ((canonicalMembers members).insertionSort memberLe)
  | v => v

def canonicalItems : List Json → List Json
  | [] => []
  | v :: rest => v.canonical :: canonicalItems rest

def canonicalMembers : List (Text × Json) → List (Text × Json)
  | [] => []
  | (key, v) :: rest => (key, v.canonical) :: canonicalMembers rest

end

theorem keyLe_total (s t : Text) : keyLe s t = true ∨ keyLe t s = true := by
  induction s generalizing t with
  | nil => exact .inl rfl
  | cons c s ih =>
    cases t with
    | nil => exact .inr rfl
    | cons d t =>
      unfold keyLe
      by_cases heq : c = d
      · rw [if_pos heq, if_pos heq.symm]
        exact ih t
      · rw [if_neg heq, if_neg (Ne.symm heq), decide_eq_true_iff,
          decide_eq_true_iff]
        exact UInt16.lt_or_lt_of_ne heq

variable {s t : Text}

theorem keyLe_antisymm (hst : keyLe s t = true) (hts : keyLe t s = true) :
    s = t := by
  induction s generalizing t with
  | nil =>
    cases t with
    | nil => rfl
    | cons d t => cases hts
  | cons c s ih =>
    cases t with
    | nil => cases hst
    | cons d t =>
      unfold keyLe at hst hts
      by_cases heq : c = d
      · rw [if_pos heq] at hst
        rw [if_pos heq.symm] at hts
        rw [heq, ih hst hts]
      · rw [if_neg heq, decide_eq_true_iff] at hst
        rw [if_neg (Ne.symm heq), decide_eq_true_iff] at hts
        exact absurd hts (UInt16.lt_asymm hst)

theorem keyLe_trans {u : Text} (hst : keyLe s t = true) (htu : keyLe t u = true) :
    keyLe s u = true := by
  induction s generalizing t u with
  | nil => rfl
  | cons c s ih =>
    cases t with
    | nil => cases hst
    | cons d t =>
      cases u with
      | nil => cases htu
      | cons e u =>
        unfold keyLe at hst htu ⊢
        by_cases hcd : c = d
        · rw [if_pos hcd] at hst
          by_cases hde : d = e
          · rw [if_pos hde] at htu
            rw [if_pos (hcd.trans hde)]
            exact ih hst htu
          · rw [if_neg hde] at htu
            rw [if_neg (hcd ▸ hde), hcd]
            exact htu
        · rw [if_neg hcd, decide_eq_true_iff] at hst
          by_cases hde : d = e
          · rw [if_neg (hde ▸ hcd), decide_eq_true_iff, ← hde]
            exact hst
          · rw [if_neg hde, decide_eq_true_iff] at htu
            have hlt := UInt16.lt_trans hst htu
            rw [if_neg (UInt16.ne_of_lt hlt), decide_eq_true_iff]
            exact hlt

instance : Std.Total memberLe := ⟨fun p q => keyLe_total p.1 q.1⟩

instance : IsTrans (Text × Json) memberLe := ⟨fun _ _ _ => keyLe_trans⟩

variable {others : List (Text × Json)}

/-- Members with distinct keys have one order. -/
theorem insertionSort_eq_iff (hmembers : (members.map Prod.fst).Nodup) :
    members.insertionSort memberLe = others.insertionSort memberLe ↔
      members.Perm others := by
  constructor
  · intro heq
    have hperm := perm_insertionSort memberLe members
    rw [heq] at hperm
    exact hperm.symm.trans (perm_insertionSort memberLe others)
  · intro hperm
    have hsorted := (perm_insertionSort memberLe members).trans
      (hperm.trans (perm_insertionSort memberLe others).symm)
    refine hsorted.eq_of_pairwise ?_
      (pairwise_insertionSort memberLe members)
      (pairwise_insertionSort memberLe others)
    intro p q hp hq hpq hqp
    have hin : p ∈ members := (mem_insertionSort memberLe).mp hp
    have hin' : q ∈ members :=
      hperm.mem_iff.mpr ((mem_insertionSort memberLe).mp hq)
    exact inj_on_of_nodup_map hmembers hin hin' (keyLe_antisymm hpq hqp)

def canonicalMember (member : Text × Json) : Text × Json :=
  (member.1, member.2.canonical)

theorem canonicalItems_eq (items : List Json) :
    canonicalItems items = items.map canonical := by
  induction items with
  | nil => rfl
  | cons v _ ih => rw [canonicalItems, ih, map_cons]

theorem canonicalMembers_eq (members : List (Text × Json)) :
    canonicalMembers members = members.map canonicalMember := by
  induction members with
  | nil => rfl
  | cons _ _ ih =>
    rw [canonicalMembers, ih]
    rfl

theorem keys_canonicalMembers (members : List (Text × Json)) :
    (members.map canonicalMember).map Prod.fst = members.map Prod.fst := by
  rw [List.map_map]
  rfl

theorem sameItems_iff {others : List Json} :
    sameItems items others = true ↔
      List.Forall₂ (fun v w => v.same w = true) items others := by
  induction items generalizing others with
  | nil =>
    cases others with
    | nil => exact ⟨fun _ => List.Forall₂.nil, fun _ => rfl⟩
    | cons w => exact ⟨(fun h => nomatch h), (fun h => nomatch h)⟩
  | cons v _ ih =>
    cases others with
    | nil => exact ⟨(fun h => nomatch h), (fun h => nomatch h)⟩
    | cons w =>
      rw [sameItems, Bool.and_eq_true_iff, List.forall₂_cons, ih]

theorem sameMembers_iff :
    sameMembers members others = true ↔
      ∀ p ∈ members, ∃ q, others.find? (·.1 = p.1) = some q ∧
        p.2.same q.2 = true := by
  induction members with
  | nil => exact ⟨(fun _ _ hp => nomatch hp), fun _ => rfl⟩
  | cons member _ ih =>
    rw [sameMembers, Bool.and_eq_true_iff, ih, forall_mem_cons]
    refine and_congr_left fun _ => ?_
    cases others.find? (·.1 = member.1) with
    | none => exact ⟨(fun h => nomatch h), (fun ⟨_, h, _⟩ => nomatch h)⟩
    | some q =>
      constructor
      · intro hsame
        exact ⟨q, rfl, hsame⟩
      · rintro ⟨_, ⟨⟩, hsame⟩
        exact hsame

theorem equals_iff {x y : Double} :
    x.equals y = true ↔ normalZero x = normalZero y := by
  unfold Double.equals normalZero
  rw [Bool.or_eq_true, Bool.and_eq_true, decide_eq_true_iff,
    decide_eq_true_iff, decide_eq_true_iff]
  constructor
  · rintro (rfl | ⟨hx, hy⟩)
    · rfl
    · rw [if_pos hx, if_pos hy]
  · intro heq
    by_cases hx : x.significand = 0
    · by_cases hy : y.significand = 0
      · exact .inr ⟨hx, hy⟩
      · rw [if_pos hx, if_neg hy] at heq
        rw [← heq] at hy
        exact absurd rfl hy
    · by_cases hy : y.significand = 0
      · rw [if_neg hx, if_pos hy] at heq
        rw [heq] at hx
        exact absurd rfl hx
      · rw [if_neg hx, if_neg hy] at heq
        exact .inl heq

/-- A member is found under its key. -/
theorem find?_key (hkeys : (members.map Prod.fst).Nodup) {p : Text × Json}
    (hp : p ∈ members) : members.find? (·.1 = p.1) = some p := by
  cases hfound : members.find? (·.1 = p.1) with
  | none =>
    have hno := List.find?_eq_none.mp hfound p hp
    exact absurd (decide_eq_true rfl) hno
  | some q =>
    have hkey : q.1 = p.1 := by simpa using List.find?_some hfound
    have hin := mem_of_find?_eq_some hfound
    rw [inj_on_of_nodup_map hkeys hin hp hkey]

theorem items_iff :
    ∀ {others : List Json},
      (∀ v ∈ items, ∀ w ∈ others,
        (v.same w = true ↔ v.canonical = w.canonical)) →
      (List.Forall₂ (fun v w => v.same w = true) items others ↔
        items.map canonical = others.map canonical) := by
  induction items with
  | nil =>
    intro others _
    cases others <;> simp
  | cons v _ ih =>
    intro others hitems
    cases others with
    | nil => simp
    | cons w others =>
      have hrest := @ih others fun v hv w hw => hitems v
        (mem_cons_of_mem _ hv) w (mem_cons_of_mem _ hw)
      rw [List.forall₂_cons, map_cons, map_cons,
        List.cons.injEq, hrest,
        hitems v mem_cons_self w mem_cons_self]

/-- Objects of the same keys and values, in any order. -/
theorem members_iff (hmembers : (members.map Prod.fst).Nodup)
    (hothers : (others.map Prod.fst).Nodup) :
    (members.length = others.length ∧
      ∀ p ∈ members, ∃ q, others.find? (·.1 = p.1) = some q ∧
        p.2.canonical = q.2.canonical) ↔
      (members.map canonicalMember).Perm (others.map canonicalMember) := by
  constructor
  · rintro ⟨hlength, hall⟩
    have hnodup : (members.map canonicalMember).Nodup :=
      List.Nodup.of_map Prod.fst (keys_canonicalMembers members ▸ hmembers)
    have hsubset :
        members.map canonicalMember ⊆ others.map canonicalMember := by
      intro _ hfound
      obtain ⟨p, hp, rfl⟩ := List.mem_map.mp hfound
      obtain ⟨q, hfind, hsame⟩ := hall p hp
      have hkey : q.1 = p.1 := by simpa using List.find?_some hfind
      refine List.mem_map.mpr ⟨q, mem_of_find?_eq_some hfind, ?_⟩
      unfold canonicalMember
      rw [hkey, hsame]
    refine (subperm_of_subset hnodup hsubset).perm_of_length_le ?_
    rw [length_map, length_map, hlength]
  · intro hperm
    constructor
    · have hlength := hperm.length_eq
      rwa [length_map, length_map] at hlength
    · intro p hp
      obtain ⟨q, hq, heq⟩ :=
        List.mem_map.mp (hperm.subset (List.mem_map_of_mem hp))
      obtain ⟨hkey, hvalue⟩ := Prod.mk.inj heq
      refine ⟨q, ?_, hvalue.symm⟩
      rw [← hkey]
      exact find?_key hothers hq

variable {w : Json}

/-- Values with distinct keys are the same when their canonical forms are. -/
theorem same_iff (hv : Distinct v) (hw : Distinct w) :
    v.same w = true ↔ v.canonical = w.canonical := by
  induction v using induct generalizing w with
  | null | bool b | string s => cases w <;> simp [same, canonical]
  | number x => cases w <;> simp [same, canonical, equals_iff]
  | array _ ih =>
    cases w with
    | array =>
      cases hv with
      | array hitems =>
        cases hw with
        | array hothers =>
          rw [same, sameItems_iff, canonical, canonical,
            canonicalItems_eq, canonicalItems_eq, array.injEq]
          exact items_iff fun v hv w hw =>
            ih v hv (hitems v hv) (hothers w hw)
    | _ => simp [same, canonical]
  | object members ih =>
    cases w with
    | object =>
      cases hv with
      | object hkeys hmembers =>
        cases hw with
        | object hkeys' hothers =>
          rw [same, Bool.and_eq_true_iff, decide_eq_true_iff,
            sameMembers_iff, canonical, canonical,
            canonicalMembers_eq, canonicalMembers_eq, object.injEq,
            insertionSort_eq_iff
              (keys_canonicalMembers members ▸ hkeys),
            ← members_iff hkeys hkeys']
          refine and_congr_right fun _ => forall₂_congr fun p hp => ?_
          refine exists_congr fun q => and_congr_right fun hfound => ?_
          have hq := mem_of_find?_eq_some hfound
          exact ih p hp (hmembers p hp) (hothers q hq)
    | _ => simp [same, canonical]

/-- The canonical form has its keys, and no negative zero. -/
theorem canonical_proper (hv : Distinct v) :
    Distinct v.canonical ∧ Unsigned v.canonical := by
  induction hv with
  | null => exact ⟨.null, .null⟩
  | bool b => exact ⟨.bool b, .bool b⟩
  | number x =>
    refine ⟨.number _, .number ?_⟩
    unfold normalZero
    by_cases hzero : x.significand = 0
    · rw [if_pos hzero]
      rfl
    · rw [if_neg hzero, if_neg hzero]
  | string s => exact ⟨.string s, .string s⟩
  | array hitems ih =>
    rw [canonical, canonicalItems_eq]
    constructor <;> constructor <;> intro w hw <;>
      obtain ⟨v, hv, rfl⟩ := List.mem_map.mp hw
    · exact (ih v hv).1
    · exact (ih v hv).2
  | @object members hkeys hmembers ih =>
    have hperm := perm_insertionSort memberLe
      (members.map canonicalMember)
    rw [canonical, canonicalMembers_eq]
    constructor
    · refine .object ?_ fun p hp => ?_
      · have hmap := hperm.map Prod.fst
        exact hmap.nodup_iff.mpr (keys_canonicalMembers members ▸ hkeys)
      · obtain ⟨q, hq, rfl⟩ := List.mem_map.mp (hperm.mem_iff.mp hp)
        exact (ih q hq).1
    · refine .object fun p hp => ?_
      obtain ⟨q, hq, rfl⟩ := List.mem_map.mp (hperm.mem_iff.mp hp)
      exact (ih q hq).2

theorem normalZero_idem (x : Double) :
    normalZero (normalZero x) = normalZero x := by
  unfold normalZero
  by_cases hzero : x.significand = 0
  · rw [if_pos hzero]
    rfl
  · rw [if_neg hzero, if_neg hzero]

/-- A canonical form is its own. -/
theorem canonical_idem (hv : Distinct v) :
    v.canonical.canonical = v.canonical := by
  induction hv with
  | null | bool b | string s => rfl
  | number x => rw [canonical, canonical, normalZero_idem]
  | @array _ _ ih =>
    rw [canonical, canonicalItems_eq, canonical, canonicalItems_eq,
      List.map_map]
    exact congrArg array (map_congr_left ih)
  | @object members hkeys _ ih =>
    rw [canonical, canonicalMembers_eq, canonical, canonicalMembers_eq]
    have hfixed : (members.map canonicalMember).map canonicalMember =
        members.map canonicalMember := by
      rw [List.map_map]
      refine map_congr_left fun p hp => ?_
      exact congrArg (Prod.mk p.1) (ih p hp)
    have hperm := (perm_insertionSort memberLe
      (members.map canonicalMember)).map canonicalMember
    rw [hfixed] at hperm
    have hnodup : ((members.map canonicalMember).map Prod.fst).Nodup :=
      keys_canonicalMembers members ▸ hkeys
    exact congrArg object
      ((insertionSort_eq_iff hnodup).mpr hperm.symm).symm

/-- A value is the same as its canonical form. -/
theorem same_canonical (hv : Distinct v) :
    v.same v.canonical = true :=
  (same_iff hv (canonical_proper hv).1).mpr (canonical_idem hv).symm

/-- `JSON.parse` gets the canonical form back from its text. -/
theorem parse_canonical (hv : Distinct v) :
    parse v.canonical.text = some v.canonical :=
  parse_text (canonical_proper hv).1 (canonical_proper hv).2

/-- Canonical texts are equal for the values that are the same. -/
theorem text_canonical_eq_iff (hv : Distinct v) (hw : Distinct w) :
    v.canonical.text = w.canonical.text ↔ v.same w = true := by
  rw [same_iff hv hw]
  constructor
  · intro htext
    have hparse := parse_canonical hv
    rw [htext, parse_canonical hw] at hparse
    exact (some.inj hparse).symm
  · exact congrArg text

end Json
