/-
Trimmed texts: what `trim` leaves has nothing more to trim, and a text that is
not blank leaves something.
-/
import CognitiveSidecar.Sidecar
import Mathlib.Data.List.DropRight

namespace CognitiveSidecar

open List

theorem trim_trim (text : String) : trim (trim text) = trim text := by
  have hkept : ∀ chars : List Char, List.dropWhile isTrimmed
      (List.rdropWhile isTrimmed (chars.dropWhile isTrimmed)) =
        List.rdropWhile isTrimmed (chars.dropWhile isTrimmed) := by
    intro chars
    rw [dropWhile_eq_self_iff]
    intro hpos
    -- The front of what is kept is the front of the text without its blanks.
    have hfront := @List.rdropWhile_prefix _ isTrimmed
      (chars.dropWhile isTrimmed)
    have hlong : 0 < (chars.dropWhile isTrimmed).length :=
      Nat.lt_of_lt_of_le hpos hfront.length_le
    rw [hfront.getElem hpos]
    exact dropWhile_get_zero_not _ chars hlong
  have hchars : (trim text).toList =
      List.rdropWhile isTrimmed (text.toList.dropWhile isTrimmed) := by
    rw [trim, String.toList_ofList]
    rfl
  have htrim : trim (trim text) = String.ofList (List.rdropWhile isTrimmed
      ((trim text).toList.dropWhile isTrimmed)) := rfl
  rw [htrim, hchars, hkept, rdropWhile_idempotent]
  rfl

end CognitiveSidecar
