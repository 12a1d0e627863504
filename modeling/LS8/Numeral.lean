namespace LS8

/-!
# Numerals

Every number that the simulator writes is a numeral in one of four styles.
A style fixes the base, the letters used for digits above nine, and the least
number of digits; shorter numerals are filled up with zeros on the left.

`digits` lists the digits of a number, most significant first, and `ofDigits`
is the number of such a list (`ofDigits_digits`). `NumeralStyle.write` turns
them into text; different numbers have different numerals (`write_injective`).
-/

/-- Whether digits above nine are written `A`, `B`, … or `a`, `b`, …. -/
inductive LetterCase where
  | upper
  | lower
  deriving Repr, DecidableEq

/-- The letter that stands for the digit ten. -/
def LetterCase.ten : LetterCase → Char
  | .upper => 'A'
  | .lower => 'a'

/-- How a number is written. -/
structure NumeralStyle where
  base : Nat
  letters : LetterCase
  /-- The least number of digits. -/
  width : Nat
  two_le_base : 2 ≤ base := by decide
  base_le_sixteen : base ≤ 16 := by decide

/-- The digits of `value`, most significant first; zero has one digit. -/
def digits
    (base : Nat)
    (two_le_base : 2 ≤ base)
    (value : Nat) :
    List Nat :=
  if value < base then
    [value]
  else
    digits base two_le_base (value / base) ++ [value % base]
termination_by value
decreasing_by
  exact Nat.div_lt_self (by omega) (by omega)

/-- The number that a list of digits stands for, most significant first. -/
def ofDigits (base : Nat) (digits : List Nat) : Nat :=
  digits.foldl (fun value digit => base * value + digit) 0

/-- One more digit at the end multiplies by the base and adds the digit. -/
theorem ofDigits_append_singleton
    (base : Nat)
    (leading : List Nat)
    (digit : Nat) :
    ofDigits base (leading ++ [digit]) =
      base * ofDigits base leading + digit := by
  simp [ofDigits, List.foldl_append]

/-- The digits of a number stand for that number. -/
theorem ofDigits_digits
    (base : Nat)
    (two_le_base : 2 ≤ base)
    (value : Nat) :
    ofDigits base (digits base two_le_base value) = value := by
  induction value using Nat.strongRecOn with
  | ind value inductionHypothesis =>
      rw [digits]
      split
      · simp [ofDigits]
      · have smaller : value / base < value :=
          Nat.div_lt_self (by omega) (by omega)
        rw [ofDigits_append_singleton, inductionHypothesis _ smaller]
        exact Nat.div_add_mod value base

/-- Zeros in front do not change the number. -/
theorem ofDigits_leftpad
    (base width : Nat)
    (numeral : List Nat) :
    ofDigits base (numeral.leftpad width 0) = ofDigits base numeral := by
  have zeros (count : Nat) :
      (List.replicate count 0).foldl
          (fun value digit => base * value + digit) 0 = 0 := by
    induction count with
    | zero => rfl
    | succ count inductionHypothesis =>
        simpa [List.replicate_succ] using inductionHypothesis
  simp [ofDigits, List.leftpad, List.foldl_append, zeros]

/-- Every digit is smaller than the base. -/
theorem lt_of_mem_digits
    {base : Nat}
    {two_le_base : 2 ≤ base}
    {value digit : Nat}
    (member : digit ∈ digits base two_le_base value) :
    digit < base := by
  induction value using Nat.strongRecOn with
  | ind value inductionHypothesis =>
      rw [digits] at member
      split at member
      · simp only [List.mem_singleton] at member
        omega
      · rcases List.mem_append.mp member with inLeading | isLast
        · exact inductionHypothesis _
            (Nat.div_lt_self (by omega) (by omega)) inLeading
        · rw [List.mem_singleton.mp isLast]
          exact Nat.mod_lt _ (by omega)

/-- The character for one digit: the decimal digits first, then letters. -/
def LetterCase.digit (letters : LetterCase) (digit : Nat) : Char :=
  if digit < 10 then
    Char.ofNat ('0'.toNat + digit)
  else
    Char.ofNat (letters.ten.toNat + (digit - 10))

/-- Different digits up to fifteen have different characters. -/
theorem LetterCase.digit_injective
    (letters : LetterCase)
    {left right : Nat}
    (leftBound : left < 16)
    (rightBound : right < 16)
    (same : letters.digit left = letters.digit right) :
    left = right := by
  have distinct :
      ∀ first second : Fin 16,
        letters.digit first = letters.digit second → first = second := by
    cases letters <;> decide
  exact congrArg Fin.val
    (distinct ⟨left, leftBound⟩ ⟨right, rightBound⟩ same)

namespace NumeralStyle

/-- The digits of a number, with zeros in front up to the style's width. -/
def paddedDigits (style : NumeralStyle) (value : Nat) : List Nat :=
  (digits style.base style.two_le_base value).leftpad style.width 0

/-- The characters of a numeral. -/
def characters (style : NumeralStyle) (value : Nat) : List Char :=
  (style.paddedDigits value).map style.letters.digit

/-- The numeral of `value` in a style. -/
def write (style : NumeralStyle) (value : Nat) : String :=
  String.ofList (style.characters value)

/-- Every digit of a numeral has a character of its own. -/
theorem lt_of_mem_paddedDigits
    {style : NumeralStyle}
    {value digit : Nat}
    (member : digit ∈ style.paddedDigits value) :
    digit < 16 := by
  have small := style.base_le_sixteen
  rcases List.mem_append.mp member with inZeros | inDigits
  · rw [List.eq_of_mem_replicate inZeros]
    decide
  · exact Nat.lt_of_lt_of_le (lt_of_mem_digits inDigits) small

/-- Equal characters come from equal digits. -/
theorem map_digit_injective
    (letters : LetterCase)
    {left right : List Nat}
    (leftBound : ∀ digit, digit ∈ left → digit < 16)
    (rightBound : ∀ digit, digit ∈ right → digit < 16)
    (same : left.map letters.digit = right.map letters.digit) :
    left = right := by
  induction left generalizing right with
  | nil => simpa using same.symm
  | cons first rest inductionHypothesis =>
      cases right with
      | nil => simp at same
      | cons other others =>
          simp only [List.map_cons, List.cons.injEq] at same
          have heads : first = other :=
            letters.digit_injective
              (leftBound first (by simp))
              (rightBound other (by simp))
              same.1
          have tails : rest = others :=
            inductionHypothesis
              (fun digit member => leftBound digit (by simp [member]))
              (fun digit member => rightBound digit (by simp [member]))
              same.2
          rw [heads, tails]

/-- Different numbers have different numerals. -/
theorem characters_injective
    (style : NumeralStyle)
    {left right : Nat}
    (same : style.characters left = style.characters right) :
    left = right := by
  have samePadded : style.paddedDigits left = style.paddedDigits right :=
    map_digit_injective style.letters
      (fun _ member => lt_of_mem_paddedDigits member)
      (fun _ member => lt_of_mem_paddedDigits member)
      same
  have sameNumber := congrArg (ofDigits style.base) samePadded
  simpa only [paddedDigits, ofDigits_leftpad, ofDigits_digits] using sameNumber

/-- Different numbers have different numerals, as texts. -/
theorem write_injective
    (style : NumeralStyle)
    {left right : Nat}
    (same : style.write left = style.write right) :
    left = right := by
  apply style.characters_injective
  simpa only [write, String.toList_ofList] using congrArg String.toList same

/-- Decimal, as many digits as needed. -/
def decimal : NumeralStyle :=
  { base := 10, letters := .upper, width := 1 }

/-- Upper-case hexadecimal of at least two digits: bytes and addresses. -/
def hexadecimal : NumeralStyle :=
  { base := 16, letters := .upper, width := 2 }

/-- Binary of at least three digits: the flags register. -/
def flagBits : NumeralStyle :=
  { base := 2, letters := .upper, width := 3 }

/-- Lower-case hexadecimal without filling: the code point in an escape. -/
def codePoint : NumeralStyle :=
  { base := 16, letters := .lower, width := 1 }

end NumeralStyle

/-- The greatest number of 64 bits: no count or limit is larger. -/
def greatestWord : Nat :=
  0xFFFFFFFFFFFFFFFF

/-- A number in decimal. -/
def decimal (value : Nat) : String :=
  NumeralStyle.decimal.write value

/-- A number in upper-case hexadecimal of at least two digits. -/
def hexadecimal (value : Nat) : String :=
  NumeralStyle.hexadecimal.write value

/-- An address as it stands in messages: `0x` and its hexadecimal numeral. -/
def addressText (address : Nat) : String :=
  "0x" ++ hexadecimal address

/-- The digits of a number are those that `Nat.toDigits` lists. -/
theorem map_digit_digits
    {base : Nat}
    (two_le_base : 2 ≤ base)
    {letters : LetterCase}
    {spelling : Char → Char}
    (agree :
      ∀ digit, digit < base →
        letters.digit digit = spelling (Nat.digitChar digit))
    (value : Nat) :
    (digits base two_le_base value).map letters.digit =
      (Nat.toDigits base value).map spelling := by
  induction value using Nat.strongRecOn with
  | ind value inductionHypothesis =>
      rw [digits]
      split
      next small =>
        simpa [Nat.toDigits_of_lt_base small] using agree value small
      next large =>
        have smaller : value / base < value :=
          Nat.div_lt_self (by omega) (by omega)
        have last := agree (value % base) (Nat.mod_lt _ (by omega))
        rw [List.map_append, inductionHypothesis _ smaller,
          Nat.toDigits_of_base_le (n := value) (by omega) (by omega),
          List.map_append]
        simpa using last

/-- A decimal numeral is what `Nat.repr` writes. -/
theorem decimal_eq_repr (value : Nat) :
    decimal value = value.repr := by
  have agree :
      ∀ digit, digit < 10 →
        LetterCase.upper.digit digit = id (Nat.digitChar digit) := by
    decide
  have written := map_digit_digits (by decide) agree value
  rw [List.map_id] at written
  have nonempty : 1 ≤ (digits 10 (by decide) value).length := by
    rw [← List.length_map, written]
    exact Nat.length_toDigits_pos
  have unpadded :
      NumeralStyle.decimal.paddedDigits value =
        digits 10 (by decide) value := by
    simp [NumeralStyle.paddedDigits, NumeralStyle.decimal, List.leftpad,
      Nat.sub_eq_zero_of_le nonempty]
  rw [Nat.repr_eq_ofList_toDigits, ← written, ← unpadded]
  rfl

/-- A hexadecimal numeral is what `Nat.toDigits` lists, in upper case. -/
theorem toList_hexadecimal (value : Nat) :
    (hexadecimal value).toList =
      ((Nat.toDigits 16 value).map Char.toUpper).leftpad 2 '0' := by
  have agree :
      ∀ digit, digit < 16 →
        LetterCase.upper.digit digit = (Nat.digitChar digit).toUpper := by
    decide
  have zero : LetterCase.upper.digit 0 = '0' := by decide
  rw [← map_digit_digits (by decide) agree value]
  simp [hexadecimal, NumeralStyle.write, NumeralStyle.characters,
    NumeralStyle.paddedDigits, NumeralStyle.hexadecimal, List.leftpad, zero]

/-- A byte has two hexadecimal digits. -/
theorem toList_hexadecimal_of_lt
    {value : Nat}
    (byte : value < 256) :
    (hexadecimal value).toList =
      [LetterCase.upper.digit (value / 16),
        LetterCase.upper.digit (value % 16)] := by
  have two :
      NumeralStyle.hexadecimal.paddedDigits value =
        [value / 16, value % 16] := by
    by_cases small : value < 16
    · have low := Nat.mod_eq_of_lt small
      have high := Nat.div_eq_of_lt small
      simp [NumeralStyle.paddedDigits, NumeralStyle.hexadecimal, digits, small,
        List.leftpad, low, high]
    · have high : value / 16 < 16 := by omega
      have both :
          digits 16 (by decide) value = [value / 16, value % 16] := by
        rw [digits, if_neg small, digits, if_pos high]
        rfl
      simp [NumeralStyle.paddedDigits, NumeralStyle.hexadecimal, List.leftpad,
        both]
  rw [hexadecimal, NumeralStyle.write, String.toList_ofList,
    NumeralStyle.characters, two]
  rfl

/-- A numeral is made of digits. -/
theorem exists_digit_of_mem_write
    {style : NumeralStyle}
    {value : Nat}
    {character : Char}
    (member : character ∈ (style.write value).toList) :
    ∃ digit, digit < 16 ∧ style.letters.digit digit = character := by
  rw [NumeralStyle.write, String.toList_ofList] at member
  obtain ⟨digit, isDigit, same⟩ := List.mem_map.mp member
  exact ⟨digit, NumeralStyle.lt_of_mem_paddedDigits isDigit, same⟩

end LS8
