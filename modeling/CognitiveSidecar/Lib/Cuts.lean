/-
A text cut into pieces of a bounded number of code units, none of which ends
within a character.
-/
import CognitiveSidecar.Lib.Text

namespace Relational

/-- The pieces of the rest of a text, the current one given backwards with its
code units. -/
def cutChars (limit : Nat) : List Char → Nat → List Char → List (List Char)
  | [], _, current => if current = [] then [] else [current.reverse]
  | c :: rest, used, current =>
    if current = [] ∨ used + codeUnits c ≤ limit then
      cutChars limit rest (used + codeUnits c) (c :: current)
    else current.reverse :: cutChars limit rest (codeUnits c) [c]

/-- The pieces of a text. -/
def cuts (limit : Nat) (text : String) : List String :=
  (cutChars limit text.toList 0 []).map String.ofList

end Relational
