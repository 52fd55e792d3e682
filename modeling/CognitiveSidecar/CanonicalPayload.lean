/-
The canonical payload of an owner-signed policy.  Values are those of the
language, with objects that may be shared and may refer to themselves; a payload
is the text of the tree that a value unfolds to, with its keys in order.
-/
import CognitiveSidecar.Lib.JsonTree
import CognitiveSidecar.Lib.Outcome

namespace CognitiveSidecar.SandboxPolicy

open List Relational Binary64 JsonText

inductive JsNumber
  | nan
  | infinite (negative : Bool)
  | finite (x : Double)

/-- A value; arrays and objects are references to one of `n` objects. -/
inductive JsValue (n : Nat)
  | null | bigint | undefined | function | symbol
  | bool (b : Bool)
  | number (x : JsNumber)
  | string (s : Text)
  | reference (address : Fin n)

inductive Prototype
  | objectPrototype | null | other
deriving DecidableEq

/-- An own property with a string for its key. -/
structure Property (n : Nat) where
  key : Text
  value : JsValue n
  enumerable : Bool := true

/-- An array, where a hole reads as `undefined`, or an object with its own
properties. -/
inductive HeapObject (n : Nat)
  | array (items : List (JsValue n))
  | object (prototype : Prototype) (properties : List (Property n))
      (hkeys : (properties.map Property.key).Nodup)

abbrev Heap (n : Nat) := Fin n → HeapObject n

/-- The reasons why a payload is refused. -/
inductive Refusal
  | nonFiniteNumber | bigintUnsupported | undefinedUnsupported
  | functionUnsupported | symbolUnsupported | circularReference
  | nonPlainObject | reservedKey

/-- The objects that are being written. -/
abbrev Stack (n : Nat) := { addresses : List (Fin n) // addresses.Nodup }

def Stack.push {n : Nat} (stack : Stack n) {address : Fin n}
    (hnew : address ∉ stack.val) : Stack n :=
  ⟨address :: stack.val, nodup_cons.mpr ⟨hnew, stack.property⟩⟩

theorem Stack.length_push_le (stack : Stack n) {address : Fin n}
    (hnew : address ∉ stack.val) : stack.val.length + 1 ≤ n := by
  have hle := (stack.push hnew).property.length_le_card
  rwa [Fintype.card_fin] at hle

variable {n m : Nat}

/-- `Object.keys` keeps the enumerable properties. -/
def enumerable (properties : List (Property n)) : List (Property n) :=
  properties.filter (·.enumerable)

def propertyLe (p q : Property n) : Prop := Json.keyLe p.key q.key = true

instance : DecidableRel (@propertyLe n) := fun p q =>
  inferInstanceAs (Decidable (Json.keyLe p.key q.key = true))

def reservedKey : Text := Json.word "__proto__"

def serialize (heap : Heap n) (stack : Stack n) : JsValue n →
    Except Refusal Text
  | .null => .ok (Json.word "null")
  | .string s => .ok (quote s)
  | .number (.finite x) => .ok (numberText x)
  | .number _ => .error .nonFiniteNumber
  | .bool b => .ok (if b then Json.word "true" else Json.word "false")
  | .bigint => .error .bigintUnsupported
  | .undefined => .error .undefinedUnsupported
  | .function => .error .functionUnsupported
  | .symbol => .error .symbolUnsupported
  | .reference address =>
    match heap address with
    | .array items =>
      if hnew : address ∈ stack.val then .error .circularReference
      else do
        let parts ← items.mapM fun item =>
          serialize heap (stack.push hnew) item
        .ok (unit '[' :: Json.joined parts ++ [unit ']'])
    | .object prototype properties _ =>
      if prototype = .other then .error .nonPlainObject
      else if properties.any (·.key = reservedKey) then .error .reservedKey
      else if hnew : address ∈ stack.val then .error .circularReference
      else do
        let parts ← ((enumerable properties).insertionSort propertyLe).mapM
          fun property => do
            let part ← serialize heap (stack.push hnew) property.value
            .ok (quote property.key ++ unit ':' :: part)
        .ok (unit '\x7b' :: Json.joined parts ++ [unit '\x7d'])
termination_by n - stack.val.length
decreasing_by
  all_goals
    have hroom := stack.length_push_le hnew
    show n - (address :: stack.val).length < _
    rw [length_cons]
    omega

def canonicalizeSandboxPolicyPayload (heap : Heap n) (value : JsValue n) :
    Except Refusal Text :=
  serialize heap ⟨[], nodup_nil⟩ value

/-! What a value means. -/

/-- The tree that a value unfolds to: plain objects of allowed kinds, without
the reserved key. -/
inductive Denotes (heap : Heap n) : JsValue n → Json → Prop
  | null : Denotes heap .null .null
  | bool (b : Bool) : Denotes heap (.bool b) (.bool b)
  | number (x : Double) : Denotes heap (.number (.finite x)) (.number x)
  | string (s : Text) : Denotes heap (.string s) (.string s)
  | array {address : Fin n} {items : List (JsValue n)} {trees : List Json}
      (hobject : heap address = .array items)
      (hlength : trees.length = items.length)
      (hitems : ∀ pair ∈ items.zip trees, Denotes heap pair.1 pair.2) :
      Denotes heap (.reference address) (.array trees)
  | object {address : Fin n} {prototype : Prototype}
      {properties : List (Property n)}
      {hkeys : (properties.map Property.key).Nodup}
      {members : List (Text × Json)}
      (hobject : heap address = .object prototype properties hkeys)
      (hplain : prototype ≠ .other)
      (hreserved : ∀ property ∈ properties, property.key ≠ reservedKey)
      (hmembers : members.map Prod.fst = (enumerable properties).map
        Property.key)
      (hvalues : ∀ pair ∈ (enumerable properties).zip members,
        Denotes heap pair.1.value pair.2.2) :
      Denotes heap (.reference address) (.object members)

/-- The value is one that the payload allows. -/
def Admissible (heap : Heap n) (value : JsValue n) : Prop :=
  ∃ tree, Denotes heap value tree

/-- Structural equality up to the order of keys. -/
def StructurallyEqual (heap : Heap n) (value : JsValue n) (other : Heap m)
    (value' : JsValue m) : Prop :=
  ∃ tree tree', Denotes heap value tree ∧ Denotes other value' tree' ∧
    tree.same tree' = true

/-! Accepted values. -/

variable {heap : Heap n} {other : Heap m}
variable {tree : Json} {payload : Text}

theorem nodup_enumerable {properties : List (Property n)}
    (hkeys : (properties.map Property.key).Nodup) :
    ((enumerable properties).map Property.key).Nodup :=
  hkeys.sublist (filter_sublist.map Property.key)

/-- The keys of a tree are distinct. -/
theorem Denotes.distinct {value : JsValue n} (hvalue : Denotes heap value tree) :
    tree.Distinct := by
  induction hvalue with
  | null => exact .null
  | bool b => exact .bool b
  | number x => exact .number x
  | string s => exact .string s
  | @array _ items trees _ hlength _ ih =>
    refine .array fun _ htree => ?_
    obtain ⟨i, hi, rfl⟩ := mem_iff_getElem.mp htree
    have hin : (items[i], trees[i]) ∈ items.zip trees :=
      mem_iff_getElem.mpr ⟨i, by simpa [hlength] using hi, by simp⟩
    exact ih _ hin
  | @object _ _ properties hkeys members _ _ _ hmembers _ ih =>
    have hlength : members.length = (enumerable properties).length := by
      have hlengths := congrArg List.length hmembers
      rwa [length_map, length_map] at hlengths
    refine .object (hmembers ▸ nodup_enumerable hkeys) fun p hp => ?_
    obtain ⟨i, hi, rfl⟩ := mem_iff_getElem.mp hp
    have hin : ((enumerable properties)[i], members[i]) ∈
        (enumerable properties).zip members :=
      mem_iff_getElem.mpr ⟨i, by simpa [hlength] using hi, by simp⟩
    exact ih _ hin

/-- The members of an object in canonical order. -/
theorem canonical_members (properties : List (Property n))
    (treeOf : Property n → Json) :
    ((properties.map fun p => (p.key, treeOf p)).map
        Json.canonicalMember).insertionSort Json.memberLe =
      (properties.insertionSort propertyLe).map fun p =>
        (p.key, (treeOf p).canonical) := by
  rw [map_map]
  refine (map_insertionSort propertyLe Json.memberLe _ properties ?_).symm
  exact fun _ _ _ _ => Iff.rfl

section Equations

variable {stack : Stack n} {address : Fin n}

theorem serialize_array {items : List (JsValue n)}
    (hobject : heap address = .array items) (hnew : address ∉ stack.val) :
    serialize heap stack (.reference address) = (do
      let parts ← items.mapM fun item => serialize heap (stack.push hnew) item
      .ok (unit '[' :: Json.joined parts ++ [unit ']'])) := by
  rw [serialize, hobject]
  exact dif_neg hnew

theorem serialize_object {prototype : Prototype} {properties : List (Property n)}
    {hkeys : (properties.map Property.key).Nodup}
    (hobject : heap address = .object prototype properties hkeys)
    (hplain : prototype ≠ .other)
    (hreserved : (properties.any (·.key = reservedKey)) = false)
    (hnew : address ∉ stack.val) :
    serialize heap stack (.reference address) = (do
      let parts ← ((enumerable properties).insertionSort propertyLe).mapM
        fun property => do
          let part ← serialize heap (stack.push hnew) property.value
          .ok (quote property.key ++ unit ':' :: part)
      .ok (unit '\x7b' :: Json.joined parts ++ [unit '\x7d'])) := by
  rw [serialize, hobject]
  dsimp only
  rw [if_neg hplain, hreserved, if_neg Bool.false_ne_true, dif_neg hnew]

end Equations

/-- The text of an array from the texts of its items. -/
theorem text_array (trees : List Json) :
    (Json.array trees).canonical.text =
      unit '[' :: Json.joined (trees.map fun tree => tree.canonical.text) ++
        [unit ']'] := by
  rw [Json.canonical, Json.canonicalItems_eq, Json.text, Json.itemTexts_eq,
    map_map]
  rfl

/-- The text of an object from the texts of its members in order. -/
theorem text_object (properties : List (Property n))
    (treeOf : Property n → Json) :
    (Json.object (properties.map fun p => (p.key, treeOf p))).canonical.text =
      unit '\x7b' :: Json.joined ((properties.insertionSort propertyLe).map
        fun p => quote p.key ++ unit ':' :: (treeOf p).canonical.text) ++
        [unit '\x7d'] := by
  rw [Json.canonical, Json.canonicalMembers_eq, canonical_members, Json.text,
    Json.memberTexts_eq, map_map]
  rfl

/-- The tree of an array, from trees of its items. -/
theorem Denotes.of_items {address : Fin n} {items : List (JsValue n)}
    {treeOf : JsValue n → Json} (hobject : heap address = .array items)
    (hitems : ∀ item ∈ items, Denotes heap item (treeOf item)) :
    Denotes heap (.reference address) (.array (items.map treeOf)) := by
  refine .array hobject (length_map treeOf) fun _ hpair => ?_
  obtain ⟨i, _, rfl⟩ := mem_iff_getElem.mp hpair
  rw [getElem_zip, getElem_map]
  exact hitems _ (getElem_mem _)

/-- The tree of an object, from trees of its values. -/
theorem Denotes.of_properties {address : Fin n} {prototype : Prototype}
    {properties : List (Property n)}
    {hkeys : (properties.map Property.key).Nodup}
    {treeOf : Property n → Json}
    (hobject : heap address = .object prototype properties hkeys)
    (hplain : prototype ≠ .other)
    (hreserved : ∀ property ∈ properties, property.key ≠ reservedKey)
    (hvalues : ∀ property ∈ enumerable properties,
      Denotes heap property.value (treeOf property)) :
    Denotes heap (.reference address)
      (.object ((enumerable properties).map fun p => (p.key, treeOf p))) := by
  refine .object hobject hplain hreserved ?_ fun _ hpair => ?_
  · rw [map_map]
    rfl
  · obtain ⟨i, _, rfl⟩ := mem_iff_getElem.mp hpair
    rw [getElem_zip, getElem_map]
    exact hvalues _ (getElem_mem _)

variable {stack : Stack n}

/-- What is written for a value is the canonical text of its tree. -/
theorem serialize_sound {value : JsValue n}
    (hok : serialize heap stack value = .ok payload) :
    ∃ tree, Denotes heap value tree ∧ payload = tree.canonical.text := by
  induction stack, value using serialize.induct heap generalizing payload with
  | case1 =>
    rw [serialize] at hok
    exact ⟨_, .null, (Except.ok.inj hok).symm⟩
  | case2 _ s =>
    rw [serialize] at hok
    exact ⟨_, .string s, (Except.ok.inj hok).symm⟩
  | case3 _ x =>
    rw [serialize] at hok
    refine ⟨_, .number x, (Except.ok.inj hok).symm.trans ?_⟩
    exact (numberText_normalZero x).symm
  | case4 _ x hx =>
    rw [serialize] at hok
    · cases hok
    · exact hx
  | case5 _ b =>
    rw [serialize] at hok
    refine ⟨_, .bool b, (Except.ok.inj hok).symm.trans ?_⟩
    cases b <;> rfl
  | case11 stack _ items hobject hnew ih =>
    rw [serialize_array hobject hnew] at hok
    obtain ⟨_, hparts, hok⟩ := of_bind hok
    have hall : ∀ item ∈ items, ∃ tree, Denotes heap item tree ∧
        serialize heap (stack.push hnew) item = .ok tree.canonical.text := by
      intro item hitem
      obtain ⟨_, hpart⟩ := exists_of_mapM_ok hparts item hitem
      obtain ⟨tree, htree, rfl⟩ := ih item hpart
      exact ⟨tree, htree, hpart⟩
    choose! treeOf htrees using hall
    rw [mapM_ok fun item hitem => (htrees item hitem).2] at hparts
    cases Except.ok.inj hparts
    refine ⟨_, .of_items hobject fun item hitem => (htrees item hitem).1, ?_⟩
    rw [text_array, map_map]
    exact (Except.ok.inj hok).symm
  | case15 stack _ _ properties _ hobject hplain hreserved hnew ih =>
    have hreserved := Bool.eq_false_iff.mpr hreserved
    rw [serialize_object hobject hplain hreserved hnew] at hok
    obtain ⟨_, hparts, hok⟩ := of_bind hok
    have hall : ∀ p ∈ enumerable properties, ∃ tree,
        Denotes heap p.value tree ∧
          serialize heap (stack.push hnew) p.value =
            .ok tree.canonical.text := by
      intro p hp
      have hin := (mem_insertionSort propertyLe).mpr hp
      obtain ⟨_, hpart⟩ := exists_of_mapM_ok hparts p hin
      obtain ⟨_, htext, _⟩ := of_bind hpart
      obtain ⟨tree, htree, rfl⟩ := ih p htext
      exact ⟨tree, htree, htext⟩
    choose! treeOf htrees using hall
    have hwritten : ∀ p ∈ (enumerable properties).insertionSort propertyLe,
        (do
          let part ← serialize heap (stack.push hnew) p.value
          .ok (quote p.key ++ unit ':' :: part)) =
          Except.ok (quote p.key ++ unit ':' ::
            (treeOf p).canonical.text) := by
      intro p hp
      rw [(htrees p ((mem_insertionSort propertyLe).mp hp)).2, ok_bind]
    rw [mapM_ok hwritten] at hparts
    cases Except.ok.inj hparts
    refine ⟨_, .of_properties hobject hplain ?_
      fun p hp => (htrees p hp).1, ?_⟩
    · intro p hp hreservedKey
      have hno := any_eq_false.mp hreserved p hp
      exact hno (decide_eq_true hreservedKey)
    · rw [text_object]
      exact (Except.ok.inj hok).symm
  | case6 | case7 | case8 | case9 =>
    rw [serialize] at hok
    cases hok
  | case10 _ _ _ hobject hold =>
    rw [serialize, hobject] at hok
    dsimp only at hok
    rw [dif_pos hold] at hok
    cases hok
  | case12 _ _ _ _ hobject =>
    rw [serialize, hobject] at hok
    cases hok
  | case13 _ _ _ _ _ hobject hplain hreserved =>
    rw [serialize, hobject] at hok
    dsimp only at hok
    rw [if_neg hplain, if_pos hreserved] at hok
    cases hok
  | case14 _ _ _ _ _ hobject hplain hreserved hold =>
    rw [serialize, hobject] at hok
    dsimp only at hok
    rw [if_neg hplain, if_neg hreserved, dif_pos hold] at hok
    cases hok

/-! Allowed values. -/

/-- A value unfolds to one tree. -/
theorem Denotes.unique {value : JsValue n} {tree tree' : Json}
    (hvalue : Denotes heap value tree) (hvalue' : Denotes heap value tree') :
    tree = tree' := by
  induction hvalue generalizing tree' with
  | null | bool b | number x | string s => cases hvalue'; rfl
  | @array _ items trees hobject hlength _ ih =>
    cases hvalue' with
    | @array _ _ trees' hobject' hlength' hitems' =>
      cases hobject.symm.trans hobject'
      refine congrArg Json.array (ext_getElem ?_ fun i hi hi' => ?_)
      · rw [hlength, hlength']
      · have hi'' : i < items.length := hlength ▸ hi
        exact ih (items[i], trees[i])
          (mem_iff_getElem.mpr ⟨i, by simpa [hlength] using hi,
            by simp⟩)
          (hitems' (items[i], trees'[i]) (mem_iff_getElem.mpr
            ⟨i, by simpa [hlength'] using hi', by simp⟩))
    | object hobject' => cases hobject.symm.trans hobject'
  | @object _ _ properties _ members hobject _ _ hmembers _ ih =>
    cases hvalue' with
    | array hobject' => cases hobject.symm.trans hobject'
    | @object _ _ _ _ members' hobject' _ _ hmembers' hvalues' =>
      cases hobject.symm.trans hobject'
      have hlength {found : List (Text × Json)}
          (hfound : found.map Prod.fst =
            (enumerable properties).map Property.key) :
          found.length = (enumerable properties).length := by
        have hlengths := congrArg List.length hfound
        rwa [length_map, length_map] at hlengths
      refine congrArg Json.object (ext_getElem ?_ fun i hi hi' => ?_)
      · rw [hlength hmembers, hlength hmembers']
      · have hi'' : i < (enumerable properties).length :=
          hlength hmembers ▸ hi
        have hvalue := ih ((enumerable properties)[i], members[i])
          (mem_iff_getElem.mpr
            ⟨i, by simpa [hlength hmembers] using hi, by simp⟩)
          (hvalues' ((enumerable properties)[i], members'[i])
            (mem_iff_getElem.mpr
              ⟨i, by simpa [hlength hmembers'] using hi', by simp⟩))
        have hkey : members[i].1 = members'[i].1 := by
          rw [← getElem_map (f := Prod.fst) (h := by simpa using hi),
            ← getElem_map (f := Prod.fst) (h := by simpa using hi')]
          simp only [hmembers, hmembers']
        exact Prod.ext hkey hvalue

theorem exists_mem_zip {α β : Type} {items : List α} {others : List β}
    (hlength : others.length = items.length) {item : α} (hitem : item ∈ items) :
    ∃ o ∈ others, (item, o) ∈ items.zip others := by
  obtain ⟨i, hi, rfl⟩ := mem_iff_getElem.mp hitem
  have hi' : i < others.length := hlength.symm ▸ hi
  refine ⟨others[i], getElem_mem hi', mem_iff_getElem.mpr ⟨i, ?_, ?_⟩⟩
  · simp [hi, hi']
  · simp

/-- No object that is being written lies inside the tree. -/
def Outside (heap : Heap n) (stack : Stack n) (tree : Json) : Prop :=
  ∀ address ∈ stack.val, ∀ enclosing,
    Denotes heap (.reference address) enclosing →
    sizeOf tree < sizeOf enclosing

theorem Outside.notMem {address : Fin n} (houtside : Outside heap stack tree)
    (htree : Denotes heap (.reference address) tree) :
    address ∉ stack.val := fun hin =>
  Nat.lt_irrefl _ (houtside address hin tree htree)

theorem Outside.push {address : Fin n} {inner : Json}
    (houtside : Outside heap stack tree)
    (htree : Denotes heap (.reference address) tree)
    (hnew : address ∉ stack.val) (hinner : sizeOf inner < sizeOf tree) :
    Outside heap (stack.push hnew) inner := by
  intro found hfound enclosing henclosing
  rcases mem_cons.mp hfound with rfl | hold
  · rw [← htree.unique henclosing]
    exact hinner
  · exact Nat.lt_trans hinner (houtside found hold enclosing henclosing)

/-- An allowed value is written as the canonical text of its tree. -/
theorem serialize_complete {value : JsValue n}
    (hvalue : Denotes heap value tree) (houtside : Outside heap stack tree) :
    serialize heap stack value = .ok tree.canonical.text := by
  induction hvalue generalizing stack with
  | null | string s => rw [serialize]; rfl
  | bool b => rw [serialize]; cases b <;> rfl
  | number x =>
    rw [serialize]
    exact congrArg Except.ok (numberText_normalZero x).symm
  | @array address items trees hobject hlength hitems ih =>
    have htree : Denotes heap (.reference address) (.array trees) :=
      .array hobject hlength hitems
    have hnew := houtside.notMem htree
    have hall : ∀ item ∈ items, ∃ tree, Denotes heap item tree ∧
        serialize heap (stack.push hnew) item = .ok tree.canonical.text := by
      intro _ hitem
      obtain ⟨inner, hinner, hpair⟩ := exists_mem_zip hlength hitem
      have hsize : sizeOf inner < sizeOf (Json.array trees) := by
        have hlt := sizeOf_lt_of_mem hinner
        simp only [Json.array.sizeOf_spec]
        omega
      exact ⟨inner, hitems _ hpair,
        ih _ hpair (houtside.push htree hnew hsize)⟩
    choose! treeOf htrees using hall
    have hsame := htree.unique
      (.of_items hobject fun item hitem => (htrees item hitem).1)
    rw [serialize_array hobject hnew,
      mapM_ok fun item hitem => (htrees item hitem).2, hsame,
      text_array, map_map]
    rfl
  | @object address _ properties _ members hobject hplain hreserved hmembers
      hvalues ih =>
    have htree : Denotes heap (.reference address) (.object members) :=
      .object hobject hplain hreserved hmembers hvalues
    have hnew := houtside.notMem htree
    have hlength : members.length = (enumerable properties).length := by
      have hlengths := congrArg List.length hmembers
      rwa [length_map, length_map] at hlengths
    have hall : ∀ p ∈ enumerable properties, ∃ tree,
        Denotes heap p.value tree ∧
          serialize heap (stack.push hnew) p.value =
            .ok tree.canonical.text := by
      intro p hp
      obtain ⟨member, hmember, hpair⟩ := exists_mem_zip hlength hp
      have hsize : sizeOf member.2 < sizeOf (Json.object members) := by
        have hlt := sizeOf_lt_of_mem hmember
        cases member
        simp only [Json.object.sizeOf_spec, Prod.mk.sizeOf_spec] at hlt ⊢
        omega
      exact ⟨member.2, hvalues _ hpair,
        ih _ hpair (houtside.push htree hnew hsize)⟩
    choose! treeOf htrees using hall
    have hsame := htree.unique (.of_properties hobject hplain hreserved
      fun p hp => (htrees p hp).1)
    have hfree : (properties.any (·.key = reservedKey)) = false := by
      rw [any_eq_false]
      intro p hp hkey
      exact hreserved p hp (of_decide_eq_true hkey)
    have hwritten : ∀ p ∈ (enumerable properties).insertionSort propertyLe,
        (do
          let part ← serialize heap (stack.push hnew) p.value
          .ok (quote p.key ++ unit ':' :: part)) =
          Except.ok (quote p.key ++ unit ':' ::
            (treeOf p).canonical.text) := by
      intro p hp
      rw [(htrees p ((mem_insertionSort propertyLe).mp hp)).2, ok_bind]
    rw [serialize_object hobject hplain hfree hnew, mapM_ok hwritten, ok_bind,
      hsame, text_object]

/-- The payload accepts the allowed values, and writes the canonical text. -/
theorem canonicalize_eq_ok_iff {value : JsValue n} :
    canonicalizeSandboxPolicyPayload heap value = .ok payload ↔
      ∃ tree, Denotes heap value tree ∧ payload = tree.canonical.text := by
  constructor
  · exact serialize_sound
  · rintro ⟨_, htree, rfl⟩
    exact serialize_complete htree fun _ hin => nomatch hin

/-- Two allowed values have one payload exactly when they are structurally equal
up to the order of keys, and the payload is read as a value that is structurally
equal to the first. -/
theorem payload_injective {value : JsValue n} {value' : JsValue m}
    (hvalue : Admissible heap value) (hvalue' : Admissible other value') :
    ∃ payload payload',
      canonicalizeSandboxPolicyPayload heap value = .ok payload ∧
      canonicalizeSandboxPolicyPayload other value' = .ok payload' ∧
      (payload = payload' ↔ StructurallyEqual heap value other value') ∧
      ∃ parsed, Json.parse payload = some parsed ∧
        ∃ tree, Denotes heap value tree ∧ tree.same parsed = true := by
  obtain ⟨tree, htree⟩ := hvalue
  obtain ⟨tree', htree'⟩ := hvalue'
  refine ⟨_, _, canonicalize_eq_ok_iff.mpr ⟨tree, htree, rfl⟩,
    canonicalize_eq_ok_iff.mpr ⟨tree', htree', rfl⟩, ?_, ?_⟩
  · rw [Json.text_canonical_eq_iff htree.distinct htree'.distinct]
    constructor
    · exact fun hsame => ⟨tree, tree', htree, htree', hsame⟩
    · rintro ⟨_, _, hfound, hfound', hsame⟩
      rw [htree.unique hfound, htree'.unique hfound']
      exact hsame
  · exact ⟨tree.canonical, Json.parse_canonical htree.distinct, tree, htree,
      Json.same_canonical htree.distinct⟩

section Plain

/-- An object with a number and an array in it. -/
def policyHeap : Heap 2 := fun address =>
  if address = 0 then
    .object .objectPrototype
      [⟨Json.word "b", .reference 1, true⟩,
        ⟨Json.word "a", .number (.finite (Double.zero true)), true⟩] (by decide)
  else .array [.bool true, .string (Json.word "x")]

theorem policyHeap_denotes :
    Denotes policyHeap (.reference 0) (.object
      [(Json.word "b", .array [.bool true, .string (Json.word "x")]),
        (Json.word "a", .number (Double.zero true))]) := by
  refine @Denotes.object _ policyHeap 0 .objectPrototype _ (by decide) _ rfl
    (by decide) (by decide) rfl ?_
  intro _ hpair
  rcases mem_cons.mp hpair with rfl | hpair
  · refine @Denotes.array _ policyHeap 1 _ _ rfl rfl ?_
    intro _ hitem
    rcases mem_cons.mp hitem with rfl | hitem
    · exact .bool true
    · rw [mem_singleton.mp hitem]
      exact .string _
  · rw [mem_singleton.mp hpair]
    exact .number _

/-- The keys come in order, and negative zero as zero. -/
example : canonicalizeSandboxPolicyPayload policyHeap (.reference 0) =
    .ok (Json.word "\x7b\"a\":0,\"b\":[true,\"x\"]\x7d") := by
  rw [canonicalize_eq_ok_iff]
  exact ⟨_, policyHeap_denotes, by decide +kernel⟩

theorem policyHeap_injective :
    ∃ payload payload',
      canonicalizeSandboxPolicyPayload policyHeap (.reference 0) =
        .ok payload ∧
      canonicalizeSandboxPolicyPayload policyHeap (.reference 0) =
        .ok payload' ∧
      (payload = payload' ↔
        StructurallyEqual policyHeap (.reference 0) policyHeap
          (.reference 0)) ∧
      ∃ parsed, Json.parse payload = some parsed ∧
        ∃ tree, Denotes policyHeap (.reference 0) tree ∧
          tree.same parsed = true :=
  payload_injective ⟨_, policyHeap_denotes⟩ ⟨_, policyHeap_denotes⟩

end Plain

end CognitiveSidecar.SandboxPolicy
