/-
What a forget looks for and what it leaves: the topic in a text, in the raw
text of a JSON column or in its parsed value, and the redacted values.
-/
import CognitiveSidecar.Publication
import Mathlib.Data.List.Infix

namespace CognitiveSidecar.Forget

/-- The case mappings of the platform, and the reader of a stored
interpretation envelope: from its fields and the lifecycle stored beside it to
the fields it accepts. -/
class ForgetHost where
  toLocaleLowerCase : String → String
  toLowerCase : String → String
  parseStoredEnvelope :
    List (String × JsonValue) → String → Option (List (String × JsonValue))

/-- `REDACTED_MEMORY_STATEMENT`. -/
def redactedMemoryStatement : String := "[redacted]"

/-- `String.prototype.includes`. -/
def includes (text needle : String) : Bool :=
  decide (needle.toList <:+: text.toList)

section Json

/-- The escape that `JSON.stringify` writes for a control character. -/
def controlEscape (c : Char) : String :=
  if c.val = 0x08 then "\\b"
  else if c.val = 0x09 then "\\t"
  else if c.val = 0x0a then "\\n"
  else if c.val = 0x0c then "\\f"
  else if c.val = 0x0d then "\\r"
  else
    "\\u00" ++ String.ofList [Nat.digitChar (c.toNat / 16),
      Nat.digitChar (c.toNat % 16)]

def escapeChar (c : Char) : String :=
  if c.val = 0x22 then "\\\""
  else if c.val = 0x5c then "\\\\"
  else if c.val < 0x20 then controlEscape c
  else c.toString

def quote (text : String) : String :=
  "\"" ++ String.join (text.toList.map escapeChar) ++ "\""

mutual

/-- `JSON.stringify`. -/
def stringify : JsonValue → String
  | .null => "null"
  | .bool value => if value then "true" else "false"
  | .number text => text
  | .text value => quote value
  | .array items => "[" ++ String.intercalate "," (stringifyItems items) ++ "]"
  | .object fields =>
    "\x7b" ++ String.intercalate "," (stringifyFields fields) ++ "\x7d"

def stringifyItems : List JsonValue → List String
  | [] => []
  | item :: rest => stringify item :: stringifyItems rest

def stringifyFields : List (String × JsonValue) → List String
  | [] => []
  | (name, value) :: rest =>
    (quote name ++ ":" ++ stringify value) :: stringifyFields rest

end

/-- A field of a parsed object. -/
def getField (fields : List (String × JsonValue)) (name : String) :
    Option JsonValue :=
  (fields.find? (·.1 = name)).map Prod.snd

/-- `{ ...fields, [name]: value }`. -/
def setField (fields : List (String × JsonValue)) (name : String)
    (value : JsonValue) : List (String × JsonValue) :=
  if fields.any (·.1 = name) then
    fields.map fun field => if field.1 = name then (name, value) else field
  else fields ++ [(name, value)]

/-- A JSON column: the text that `JSON.stringify` wrote for a value, or a text
that does not parse. -/
inductive JsonColumn
  | json (value : JsonValue)
  | unreadable (text : String)

/-- The stored text of the column. -/
def JsonColumn.raw : JsonColumn → String
  | .json value => stringify value
  | .unreadable text => text

/-- `parseJson`: an unreadable column is null. -/
def JsonColumn.parsed : JsonColumn → JsonValue
  | .json value => value
  | .unreadable _ => .null

/-- A text field of the object that the column holds. -/
def JsonColumn.textField (column : JsonColumn) (name : String) :
    Option String :=
  match column.parsed with
  | .object fields =>
    match getField fields name with
    | some (.text value) => some value
    | _ => none
  | _ => none

/-- The column that every whole redaction writes. -/
def redactedColumn : JsonColumn := .json (.object [("redacted", .bool true)])

/-- The emptied payload of a cancelled trigger or subscription. -/
def emptyColumn : JsonColumn := .json (.object [])

end Json

variable [ForgetHost]

/-- `hasTopic` on a text. -/
def mentions (text topic : String) : Bool :=
  includes (ForgetHost.toLocaleLowerCase text)
    (ForgetHost.toLocaleLowerCase topic)

/-- The needle of the growth and interest tables. -/
def needleOf (topic : String) : String := ForgetHost.toLowerCase (trim topic)

/-- The topic is in a text, in the case mapping that ignores the locale. -/
def mentionsLower (text topic : String) : Bool :=
  needleOf topic ≠ "" && includes (ForgetHost.toLowerCase text) (needleOf topic)

mutual

/-- `hasTopic` on a parsed value. -/
def hasTopic (topic : String) : JsonValue → Bool
  | .text value => mentions value topic
  | .array items => anyHasTopic topic items
  | .object fields => anyFieldHasTopic topic fields
  | _ => false

def anyHasTopic (topic : String) : List JsonValue → Bool
  | [] => false
  | item :: rest => hasTopic topic item || anyHasTopic topic rest

def anyFieldHasTopic (topic : String) : List (String × JsonValue) → Bool
  | [] => false
  | (_, value) :: rest => hasTopic topic value || anyFieldHasTopic topic rest

end

/-- A text of a redacted value. -/
def redactText (topic value : String) : String :=
  if mentions value topic then redactedMemoryStatement else value

mutual

def redactValue (topic : String) : JsonValue → JsonValue
  | .text value => .text (redactText topic value)
  | .array items => .array (redactItems topic items)
  | .object fields => .object (redactFields topic fields)
  | value => value

def redactItems (topic : String) : List JsonValue → List JsonValue
  | [] => []
  | item :: rest => redactValue topic item :: redactItems topic rest

def redactFields (topic : String) :
    List (String × JsonValue) → List (String × JsonValue)
  | [] => []
  | (name, value) :: rest =>
    (name, redactValue topic value) :: redactFields topic rest

end

/-- `redactJson`. -/
def redactJson (topic : String) : JsonColumn → JsonColumn
  | .json value => .json (redactValue topic value)
  | .unreadable _ => redactedColumn

/-- Redaction reaches the fields of an object one by one. -/
theorem getField_redactFields (topic : String)
    (fields : List (String × JsonValue)) (name : String) :
    getField (redactFields topic fields) name =
      (getField fields name).map (redactValue topic) := by
  induction fields with
  | nil => rfl
  | cons field _ ih =>
    obtain ⟨other, _⟩ := field
    unfold getField at ih ⊢
    rw [redactFields]
    by_cases hname : other = name
    · simp [hname]
    · simpa [hname] using ih

/-- The redaction of a text field of a column. -/
theorem textField_redactJson (topic : String) (value : JsonValue)
    (name : String) :
    (redactJson topic (.json value)).textField name =
      ((JsonColumn.json value).textField name).map (redactText topic) := by
  cases value with
  | object fields =>
    have hfield := getField_redactFields topic fields name
    simp only [redactJson, JsonColumn.textField, JsonColumn.parsed,
      redactValue, hfield]
    cases hvalue : getField fields name with
    | none => rfl
    | some found => cases found <;> rfl
  | _ => rfl

end CognitiveSidecar.Forget
