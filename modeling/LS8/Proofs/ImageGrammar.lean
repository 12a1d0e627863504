import Mathlib.Data.List.Forall2
import Mathlib.Data.List.TakeWhile
import Mathlib.Tactic.Ring
import LS8.Image
import LS8.Proofs.TextLines

namespace LS8

/-!
# The grammar of program images

A text is a list of lines (`TextLines`), and each line says something before
its comment (`HasCode`). `Describes` tells what the lines of a text say together:
an image, or the reason why there is none. Reading a text finds just what the
grammar says (`parse_eq_iff`).

The grammar knows no carriage returns. Those that stand before a line feed are
blanks at the end of a line or belong to its comment, so that it makes no
difference whether they count as part of the line (`HasCode.withReturn`).
-/

/-- Whether a text neither begins nor ends with a blank. -/
structure Trimmed (text : List Char) : Prop where
  first : ∀ character, text.head? = some character → isBlank character = false
  last :
    ∀ character, text.getLast? = some character → isBlank character = false

theorem head?_dropWhile_isBlank
    {text : List Char}
    {character : Char}
    (first : (text.dropWhile isBlank).head? = some character) :
    isBlank character = false := by
  have plain := List.head?_dropWhile_not isBlank text
  rw [first] at plain
  exact plain

theorem trimEnd_append
    {text trailing : List Char}
    (blank : ∀ character ∈ trailing, isBlank character) :
    trimEnd (text ++ trailing) = trimEnd text := by
  unfold trimEnd
  rw [List.reverse_append, List.dropWhile_append_of_pos]
  intro character member
  exact blank character (List.mem_reverse.mp member)

theorem dropWhile_isBlank_of_head
    {text : List Char}
    (first :
      ∀ character, text.head? = some character → isBlank character = false) :
    text.dropWhile isBlank = text := by
  cases text with
  | nil => rfl
  | cons character rest =>
      rw [List.dropWhile_cons, first character rfl]
      rfl

theorem trimEnd_of_last
    {text : List Char}
    (last :
      ∀ character,
        text.getLast? = some character → isBlank character = false) :
    trimEnd text = text := by
  unfold trimEnd
  rw [dropWhile_isBlank_of_head, List.reverse_reverse]
  simpa using last

/-- What is left of a text without the blanks around it. -/
theorem trim_append
    {leading text trailing : List Char}
    (blankBefore : ∀ character ∈ leading, isBlank character)
    (blankAfter : ∀ character ∈ trailing, isBlank character)
    (trimmed : Trimmed text) :
    trim (leading ++ text ++ trailing) = text := by
  unfold trim
  rw [List.append_assoc, List.dropWhile_append_of_pos blankBefore]
  cases text with
  | nil =>
      rw [List.nil_append, List.dropWhile_eq_nil_iff.mpr blankAfter]
      rfl
  | cons character rest =>
      rw [List.cons_append, List.dropWhile_cons, trimmed.first character rfl]
      rw [← List.cons_append]
      exact (trimEnd_append blankAfter).trans (trimEnd_of_last trimmed.last)

/-- A text is its trimmed form with blanks around it. -/
theorem exists_blanks_trim (text : List Char) :
    ∃ leading trailing,
      text = leading ++ trim text ++ trailing ∧
        (∀ character ∈ leading, isBlank character) ∧
        (∀ character ∈ trailing, isBlank character) ∧
        Trimmed (trim text) := by
  let middle := text.dropWhile isBlank
  let trailing := (middle.reverse.takeWhile isBlank).reverse
  have middle_eq : middle = trim text ++ trailing := by
    rw [trim, trimEnd, ← List.reverse_append,
      List.takeWhile_append_dropWhile, List.reverse_reverse]
  refine ⟨text.takeWhile isBlank, trailing, ?_, ?_, ?_, ?_⟩
  · rw [List.append_assoc, ← middle_eq, List.takeWhile_append_dropWhile]
  · intro character member
    exact List.mem_takeWhile_imp member
  · intro character member
    exact List.mem_takeWhile_imp (List.mem_reverse.mp member)
  · constructor
    · intro character first
      have alsoFirst : middle.head? = some character := by
        rw [middle_eq, List.head?_append, first]
        rfl
      exact head?_dropWhile_isBlank alsoFirst
    · intro character last
      rw [trim, trimEnd, List.getLast?_reverse] at last
      exact head?_dropWhile_isBlank last

/-- What a line says: its part before the first `#`, without blanks around it. -/
inductive HasCode : List Char → List Char → Prop where
  | intro
      {leading code trailing comment : List Char}
      (noHash : '#' ∉ leading ++ code ++ trailing)
      (begins : comment = [] ∨ comment.head? = some '#')
      (blankBefore : ∀ character ∈ leading, isBlank character)
      (blankAfter : ∀ character ∈ trailing, isBlank character)
      (trimmed : Trimmed code) :
      HasCode (leading ++ code ++ trailing ++ comment) code

/-- One to eight binary digits. -/
structure IsNumeral (code : List Char) : Prop where
  nonempty : 1 ≤ code.length
  short : code.length ≤ 8
  digits : ∀ character ∈ code, character = '0' ∨ character = '1'

/-- Whether a line says something else than a numeral. -/
def Malformed (code : List Char) : Prop :=
  code ≠ [] ∧ ¬ IsNumeral code

/-- The value of a binary numeral by the places of its ones. -/
def placeValue : List Char → Nat
  | [] => 0
  | digit :: rest =>
      (if digit = '1' then 2 ^ rest.length else 0) + placeValue rest

/-- The numerals among the things that lines say, in order. -/
def numerals (codes : List (List Char)) : List (List Char) :=
  codes.filter (· ≠ [])

/-- What lines amount to that say these things. -/
inductive Describes
    (codes : List (List Char)) :
    Except LoadError (List UInt8) → Prop where
  /-- The first malformed line decides, wherever it is. -/
  | malformed
      {earlier later : List (List Char)}
      {code : List Char}
      (split : codes = earlier ++ code :: later)
      (wellFormed : ∀ other ∈ earlier, ¬ Malformed other)
      (malformed : Malformed code) :
      Describes codes
        (.error
          (.malformedLiteral (earlier.length + 1) (String.ofList code)))
  | tooLarge
      (wellFormed : ∀ code ∈ codes, ¬ Malformed code)
      (large : 256 < (numerals codes).length) :
      Describes codes (.error (.tooLarge (numerals codes).length))
  | image
      {bytes : List UInt8}
      (wellFormed : ∀ code ∈ codes, ¬ Malformed code)
      (fits : (numerals codes).length ≤ 256)
      (values : bytes.map UInt8.toNat = (numerals codes).map placeValue) :
      Describes codes (.ok bytes)

theorem takeWhile_no_hash
    {part comment : List Char}
    (noHash : '#' ∉ part)
    (begins : comment = [] ∨ comment.head? = some '#') :
    (part ++ comment).takeWhile (· ≠ '#') = part := by
  rw [List.takeWhile_append_of_pos]
  · rcases begins with rfl | hash
    · simp
    · obtain ⟨rest, rfl⟩ := List.head?_eq_some_iff.mp hash
      simp
  · intro character member
    simp only [decide_eq_true_eq]
    rintro rfl
    exact noHash member

/-- A line says what is read from it. -/
theorem hasCode_code (line : List Char) : HasCode line (Image.code line) := by
  let part := line.takeWhile (· ≠ '#')
  obtain ⟨leading, trailing, whole, blankBefore, blankAfter, trimmed⟩ :=
    exists_blanks_trim part
  have noHash : '#' ∉ part := by
    intro member
    simpa using List.mem_takeWhile_imp member
  have begins :
      line.dropWhile (· ≠ '#') = [] ∨
        (line.dropWhile (· ≠ '#')).head? = some '#' := by
    cases rest : line.dropWhile (· ≠ '#') with
    | nil => exact Or.inl rfl
    | cons character later =>
        have isHash := List.head?_dropWhile_not (· ≠ '#') line
        rw [rest] at isHash
        exact Or.inr (by simpa using isHash)
  have split : line = part ++ line.dropWhile (· ≠ '#') :=
    List.takeWhile_append_dropWhile.symm
  rw [whole] at split noHash
  have hasCode := HasCode.intro noHash begins blankBefore blankAfter trimmed
  rwa [← split] at hasCode

/-- What a line says is read from it. -/
theorem HasCode.code_eq
    {line code : List Char}
    (hasCode : HasCode line code) :
    Image.code line = code := by
  cases hasCode with
  | intro noHash begins blankBefore blankAfter trimmed =>
      rw [Image.code, takeWhile_no_hash noHash begins]
      exact trim_append blankBefore blankAfter trimmed

/-- A carriage return at its end does not change what a line says. -/
theorem HasCode.withReturn
    {line code : List Char}
    (hasCode : HasCode line code) :
    HasCode (line ++ ['\r']) code := by
  cases hasCode with
  | @intro leading code trailing comment noHash begins blankBefore blankAfter
      trimmed =>
      rcases begins with rfl | hash
      · have noHashAfter : '#' ∉ leading ++ code ++ (trailing ++ ['\r']) := by
          simpa using noHash
        have blank :
            ∀ character ∈ trailing ++ ['\r'], isBlank character := by
          intro character member
          rcases List.mem_append.mp member with inTrailing | isReturn
          · exact blankAfter character inTrailing
          · rw [List.mem_singleton.mp isReturn]
            decide
        simpa using
          HasCode.intro noHashAfter (Or.inl rfl) blankBefore blank trimmed
      · have begins : (comment ++ ['\r']).head? = some '#' := by
          rw [List.head?_append, hash]
          rfl
        simpa using
          HasCode.intro noHash (Or.inr begins) blankBefore blankAfter trimmed

theorem code_withoutReturn (line : List Char) :
    Image.code (Image.withoutReturn line) = Image.code line := by
  unfold Image.withoutReturn
  split
  next ends =>
    have whole := List.dropLast_append_getLast? '\r' ends
    have same := (hasCode_code line.dropLast).withReturn.code_eq
    rw [whole] at same
    exact same.symm
  next => rfl

theorem lines_append_feed
    {line : List Char}
    (noFeed : '\n' ∉ line)
    (rest : List Char) :
    Image.lines (line ++ '\n' :: rest) =
      Image.withoutReturn line :: Image.lines rest := by
  have pieces := splitOn_append_feed noFeed rest
  have nonempty : rest.splitOn '\n' ≠ [] := List.splitOn_ne_nil _ _
  simp only [Image.lines, pieces, List.dropLast_cons_of_ne_nil nonempty,
    List.getLast?_cons_of_ne_nil nonempty, List.map_cons, List.cons_append]
  split <;> rfl

/-- The lines that are read say what the lines of the text say. -/
theorem TextLines.map_code_eq
    {text : List Char}
    {lines : List (List Char)}
    (textLines : TextLines text lines) :
    (Image.lines text).map Image.code = lines.map Image.code := by
  induction textLines with
  | empty => rfl
  | last nonempty noFeed =>
      simp [Image.lines, List.splitOn_eq_singleton noFeed]
  | feed noFeed others inductionHypothesis =>
      rw [lines_append_feed noFeed, List.map_cons, List.map_cons,
        code_withoutReturn, inductionHypothesis]

/-- What the lines of a text say, line by line. -/
def HasCodes (text : List Char) (codes : List (List Char)) : Prop :=
  ∃ lines, TextLines text lines ∧ List.Forall₂ HasCode lines codes

theorem hasCodes_iff
    {text : List Char}
    {codes : List (List Char)} :
    HasCodes text codes ↔ codes = (Image.lines text).map Image.code := by
  constructor
  · rintro ⟨lines, textLines, hasCodes⟩
    rw [textLines.map_code_eq]
    clear textLines
    induction hasCodes with
    | nil => rfl
    | cons hasCode _ inductionHypothesis =>
        rw [List.map_cons, hasCode.code_eq, inductionHypothesis]
  · rintro rfl
    obtain ⟨lines, textLines⟩ := exists_textLines text
    refine ⟨lines, textLines, ?_⟩
    rw [textLines.map_code_eq, List.forall₂_map_right_iff, List.forall₂_same]
    exact fun line _ => hasCode_code line

theorem foldl_digits_eq
    (numeral : List Char)
    (start : Nat) :
    (numeral.map fun digit => if digit = '1' then 1 else 0).foldl
        (fun value digit => 2 * value + digit) start =
      start * 2 ^ numeral.length + placeValue numeral := by
  induction numeral generalizing start with
  | nil => simp [placeValue]
  | cons digit rest inductionHypothesis =>
      rw [List.map_cons, List.foldl_cons, inductionHypothesis, placeValue,
        List.length_cons, Nat.pow_succ]
      split <;> ring

theorem binaryValue_eq_placeValue (numeral : List Char) :
    Image.binaryValue numeral = placeValue numeral := by
  have folded := foldl_digits_eq numeral 0
  simpa [Image.binaryValue, ofDigits] using folded

theorem placeValue_lt (numeral : List Char) :
    placeValue numeral < 2 ^ numeral.length := by
  induction numeral with
  | nil => simp [placeValue]
  | cons digit rest inductionHypothesis =>
      rw [placeValue, List.length_cons, Nat.pow_succ]
      split <;> omega

theorem IsNumeral.placeValue_lt
    {code : List Char}
    (isNumeral : IsNumeral code) :
    placeValue code < 256 := by
  calc placeValue code
      < 2 ^ code.length := LS8.placeValue_lt code
    _ ≤ 2 ^ 8 := Nat.pow_le_pow_right (by decide) isNumeral.short

/-- Numerals are what is read as a byte. -/
theorem literal?_of_isNumeral
    {code : List Char}
    (isNumeral : IsNumeral code) :
    ∃ byte,
      Image.literal? code = some byte ∧ byte.toNat = placeValue code := by
  have nonempty : code ≠ [] := List.length_pos_iff.mp isNumeral.nonempty
  have digits : code.all Image.isBinaryDigit := by
    rw [List.all_eq_true]
    intro character member
    simpa [Image.isBinaryDigit] using isNumeral.digits character member
  refine ⟨UInt8.ofNat (Image.binaryValue code), ?_, ?_⟩
  · rw [Image.literal?, if_pos ⟨nonempty, isNumeral.short, digits⟩]
  · rw [binaryValue_eq_placeValue, UInt8.toNat_ofNat']
    exact Nat.mod_eq_of_lt isNumeral.placeValue_lt

theorem literal?_of_not_isNumeral
    {code : List Char}
    (notNumeral : ¬ IsNumeral code) :
    Image.literal? code = none := by
  rw [Image.literal?, if_neg]
  rintro ⟨nonempty, short, digits⟩
  refine notNumeral ⟨List.length_pos_iff.mpr nonempty, short, ?_⟩
  intro character member
  have isDigit := List.all_eq_true.mp digits character member
  simpa [Image.isBinaryDigit] using isDigit

section

variable
  {line : List Char}
  {rest : List (List Char)}
  (number : Nat)

/-- A line that adds nothing. -/
theorem readLines_of_blank (blank : Image.code line = []) :
    Image.readLines number (line :: rest) =
      Image.readLines (number + 1) rest := by
  rw [Image.readLines, blank]

/-- A line that adds a byte. -/
theorem readLines_of_literal
    {byte : UInt8}
    (literal : Image.literal? (Image.code line) = some byte) :
    Image.readLines number (line :: rest) =
      (Image.readLines (number + 1) rest).map (byte :: ·) := by
  have nonempty : Image.code line ≠ [] := by
    intro blank
    simp [blank, Image.literal?] at literal
  rw [Image.readLines]
  split
  next blank => exact (nonempty blank).elim
  next =>
    rw [literal]
    rfl

/-- A line that ends the reading. -/
theorem readLines_of_malformed (malformed : Malformed (Image.code line)) :
    Image.readLines number (line :: rest) =
      .error
        (.malformedLiteral number (String.ofList (Image.code line))) := by
  obtain ⟨nonempty, notNumeral⟩ := malformed
  rw [Image.readLines]
  split
  next blank => exact (nonempty blank).elim
  next => rw [literal?_of_not_isNumeral notNumeral]

end

/-- The first malformed line is found, whatever comes before or after it. -/
theorem readLines_eq_malformed
    {lines earlier later : List (List Char)}
    {code : List Char}
    (split : lines.map Image.code = earlier ++ code :: later)
    (wellFormed : ∀ other ∈ earlier, ¬ Malformed other)
    (malformed : Malformed code)
    (number : Nat) :
    Image.readLines number lines =
      .error
        (.malformedLiteral (number + earlier.length)
          (String.ofList code)) := by
  induction earlier generalizing lines number with
  | nil =>
      obtain ⟨line, rest, rfl, rfl, -⟩ := List.map_eq_cons_iff.mp split
      exact readLines_of_malformed number malformed
  | cons other others inductionHypothesis =>
      obtain ⟨line, rest, rfl, rfl, restSplit⟩ := List.map_eq_cons_iff.mp split
      have onRest :=
        inductionHypothesis restSplit
          (fun other member => wellFormed other (List.mem_cons_of_mem _ member))
          (number + 1)
      rw [Nat.add_right_comm, Nat.add_assoc] at onRest
      by_cases blank : Image.code line = []
      · rw [readLines_of_blank number blank]
        exact onRest
      · have isNumeral : IsNumeral (Image.code line) := by
          by_contra notNumeral
          exact wellFormed _ List.mem_cons_self ⟨blank, notNumeral⟩
        obtain ⟨byte, literal, -⟩ := literal?_of_isNumeral isNumeral
        rw [readLines_of_literal number literal, onRest]
        rfl

/-- Without a malformed line, the numerals are read in their order. -/
theorem readLines_eq_ok
    {lines : List (List Char)}
    (wellFormed : ∀ code ∈ lines.map Image.code, ¬ Malformed code)
    (number : Nat) :
    ∃ bytes,
      Image.readLines number lines = .ok bytes ∧
        bytes.map UInt8.toNat =
          (numerals (lines.map Image.code)).map placeValue := by
  induction lines generalizing number with
  | nil => exact ⟨[], rfl, rfl⟩
  | cons line rest inductionHypothesis =>
      obtain ⟨bytes, restRead, values⟩ :=
        inductionHypothesis
          (fun code member => wellFormed code (List.mem_cons_of_mem _ member))
          (number + 1)
      by_cases blank : Image.code line = []
      · refine ⟨bytes, ?_, ?_⟩
        · rw [readLines_of_blank number blank, restRead]
        · simpa [numerals, blank] using values
      · have isNumeral : IsNumeral (Image.code line) := by
          by_contra notNumeral
          exact wellFormed _ List.mem_cons_self ⟨blank, notNumeral⟩
        obtain ⟨byte, literal, value⟩ := literal?_of_isNumeral isNumeral
        refine ⟨byte :: bytes, ?_, ?_⟩
        · rw [readLines_of_literal number literal, restRead]
          rfl
        · simpa [numerals, blank, value] using values

/-- Some line is the first malformed one. -/
theorem exists_first_malformed
    {codes : List (List Char)}
    (notWellFormed : ¬ ∀ code ∈ codes, ¬ Malformed code) :
    ∃ earlier code later,
      codes = earlier ++ code :: later ∧
        (∀ other ∈ earlier, ¬ Malformed other) ∧
        Malformed code := by
  induction codes with
  | nil => simp at notWellFormed
  | cons first rest inductionHypothesis =>
      by_cases malformed : Malformed first
      · exact ⟨[], first, rest, rfl, by simp, malformed⟩
      · have inRest : ¬ ∀ code ∈ rest, ¬ Malformed code := by
          simpa [malformed] using notWellFormed
        obtain ⟨earlier, code, later, split, wellFormed, isMalformed⟩ :=
          inductionHypothesis inRest
        refine ⟨first :: earlier, code, later, by rw [split]; rfl, ?_,
          isMalformed⟩
        simpa [malformed] using wellFormed

/-- What lines say describes an image or an error. -/
theorem exists_describes (lines : List (List Char)) :
    ∃ result, Describes (lines.map Image.code) result := by
  by_cases wellFormed : ∀ code ∈ lines.map Image.code, ¬ Malformed code
  · by_cases fits : (numerals (lines.map Image.code)).length ≤ 256
    · obtain ⟨bytes, -, values⟩ := readLines_eq_ok wellFormed 1
      exact ⟨_, .image wellFormed fits values⟩
    · exact ⟨_, .tooLarge wellFormed (Nat.lt_of_not_le fits)⟩
  · obtain ⟨earlier, code, later, split, earlierWellFormed, malformed⟩ :=
      exists_first_malformed wellFormed
    exact ⟨_, .malformed split earlierWellFormed malformed⟩

theorem parse_of_readLines
    {text : String}
    {bytes : List UInt8}
    (read : Image.readLines 1 (Image.lines text.toList) = .ok bytes) :
    Image.parse text =
      if 256 < bytes.length then
        .error (.tooLarge bytes.length)
      else
        .ok bytes := by
  rw [Image.parse, read]
  rfl

/-- What is read is what the lines describe. -/
theorem Describes.parse_eq
    {text : String}
    {result : Except LoadError (List UInt8)}
    (describes :
      Describes ((Image.lines text.toList).map Image.code) result) :
    Image.parse text = result := by
  cases describes with
  | malformed split wellFormed malformed =>
      rw [Image.parse, readLines_eq_malformed split wellFormed malformed,
        Nat.add_comm]
      rfl
  | tooLarge wellFormed large =>
      obtain ⟨bytes, read, values⟩ := readLines_eq_ok wellFormed 1
      have length := congrArg List.length values
      rw [List.length_map, List.length_map] at length
      rw [← length] at large ⊢
      rw [parse_of_readLines read, if_pos large]
  | @image expected wellFormed fits expectedValues =>
      obtain ⟨bytes, read, values⟩ := readLines_eq_ok wellFormed 1
      have same : bytes = expected :=
        List.map_injective_iff.mpr (fun _ _ => UInt8.toNat_inj.mp)
          (values.trans expectedValues.symm)
      have length := congrArg List.length expectedValues
      rw [List.length_map, List.length_map] at length
      rw [← length] at fits
      rw [parse_of_readLines read, same, if_neg (Nat.not_lt.mpr fits)]

/--
Reading a text finds what the grammar says about it: the first malformed line
if there is one, wherever it is; the number of bytes if they are too many; and
otherwise the bytes, in the order of their lines.
-/
theorem parse_eq_iff
    (text : String)
    (result : Except LoadError (List UInt8)) :
    Image.parse text = result ↔
      ∃ codes, HasCodes text.toList codes ∧ Describes codes result := by
  constructor
  · intro read
    obtain ⟨described, describes⟩ :=
      exists_describes (Image.lines text.toList)
    rw [describes.parse_eq] at read
    rw [← read]
    exact ⟨_, hasCodes_iff.mpr rfl, describes⟩
  · rintro ⟨codes, hasCodes, describes⟩
    rw [hasCodes_iff.mp hasCodes] at describes
    exact describes.parse_eq

example :
    Image.parse "1\r\n\u20032#\n" = .error (.malformedLiteral 2 "2") := by
  cbv

end LS8
