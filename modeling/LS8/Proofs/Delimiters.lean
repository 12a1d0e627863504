import Mathlib.Data.List.Basic
import LS8.Numeral

namespace LS8

/-!
# Delimited texts

A text that ends before its first delimiter can be told from what follows it
(`append_delimiter_inj`). A numeral is as long as its number needs, and any
character that is no digit delimits it (`NumeralStyle.characters_append_inj`).
-/

/-- Two texts without the delimiter that stands after them are the same. -/
theorem append_delimiter_inj
    {delimiter : Char}
    {left right rest after : List Char}
    (notInLeft : delimiter ∉ left)
    (notInRight : delimiter ∉ right)
    (same : left ++ delimiter :: rest = right ++ delimiter :: after) :
    left = right ∧ rest = after := by
  have place := congrArg (List.idxOf delimiter) same
  rw [List.idxOf_append_of_notMem notInLeft,
    List.idxOf_append_of_notMem notInRight,
    List.idxOf_cons_self, List.idxOf_cons_self] at place
  obtain ⟨sameText, sameEnd⟩ := List.append_inj same place
  exact ⟨sameText, (List.cons.inj sameEnd).2⟩

namespace NumeralStyle

/-- A character that is no digit does not occur in a numeral. -/
theorem notMem_characters
    {style : NumeralStyle}
    {stop : Char}
    (noDigit : ∀ digit < 16, style.letters.digit digit ≠ stop)
    (value : Nat) :
    stop ∉ style.characters value := by
  intro member
  obtain ⟨digit, isDigit, same⟩ := List.mem_map.mp member
  exact noDigit digit (lt_of_mem_paddedDigits isDigit) same

/-- A text begins with one numeral only before a character that is no digit. -/
theorem characters_append_inj
    (style : NumeralStyle)
    {left right : Nat}
    {stop : Char}
    {rest after : List Char}
    (noDigit : ∀ digit < 16, style.letters.digit digit ≠ stop)
    (same :
      style.characters left ++ stop :: rest =
        style.characters right ++ stop :: after) :
    left = right ∧ rest = after := by
  obtain ⟨sameNumeral, sameRest⟩ :=
    append_delimiter_inj (notMem_characters noDigit left)
      (notMem_characters noDigit right) same
  exact ⟨style.characters_injective sameNumeral, sameRest⟩

end NumeralStyle

end LS8
