import LS8.Proofs.ImageJoining
import LS8.Proofs.SessionOutcome

namespace LS8

/-!
# Renderings of images

An image can be written in many ways: with more or fewer leading zeros, with
white space and comments, with lines that add nothing, and with either end of a
line (`Renders`). Whichever is chosen, the image is read back and can be loaded
(`parse_rendering`). Every image can be written (`exists_renders`), and there are
no other texts that are read as it (`renders_of_parse`).

A rendering is read line by line. What a single line adds is told by the grammar
of images (`LineFor.hasCode`), and a line end puts two texts together like any line
feed (`Yields.join`), since a carriage return before it is one more blank.
-/

/-- White space within a line. -/
def IsSpace (text : List Char) : Prop :=
  ∀ character ∈ text, isBlank character ∧ character ≠ '\n'

theorem isSpace_nil : IsSpace [] :=
  List.forall_mem_nil _

theorem isSpace_singleton
    {character : Char}
    (isSpace : isBlank character ∧ character ≠ '\n') :
    IsSpace [character] :=
  List.forall_mem_singleton.mpr isSpace

/-- A comment up to the end of its line, or none. -/
inductive IsComment : List Char → Prop where
  | absent : IsComment []
  | present
      {text : List Char}
      (noFeed : '\n' ∉ text) :
      IsComment ('#' :: text)

/-- What ends a line. -/
inductive IsLineEnd : List Char → Prop where
  | feed : IsLineEnd ['\n']
  | returnFeed : IsLineEnd ['\r', '\n']

/-- A line, without its end, that adds a byte or nothing to an image. -/
inductive LineFor : List UInt8 → List Char → Prop where
  | nothing
      {space comment : List Char}
      (isSpace : IsSpace space)
      (isComment : IsComment comment) :
      LineFor [] (space ++ comment)
  | byte
      {byte : UInt8}
      {before numeral after comment : List Char}
      (spaceBefore : IsSpace before)
      (isNumeral : IsNumeral numeral)
      (value : placeValue numeral = byte.toNat)
      (spaceAfter : IsSpace after)
      (isComment : IsComment comment) :
      LineFor [byte] (before ++ numeral ++ after ++ comment)

/-- A text that writes an image; the last line need not be ended. -/
inductive Renders : List UInt8 → List Char → Prop where
  | last
      {bytes : List UInt8}
      {line : List Char}
      (lineFor : LineFor bytes line) :
      Renders bytes line
  | line
      {added bytes : List UInt8}
      {line lineEnd rest : List Char}
      (lineFor : LineFor added line)
      (ended : IsLineEnd lineEnd)
      (others : Renders bytes rest) :
      Renders (added ++ bytes) (line ++ lineEnd ++ rest)

/-- The bytes that the lines of a text spell. -/
def Yields (text : List Char) (bytes : List UInt8) : Prop :=
  ∃ codes, HasCodes text codes ∧ Spells codes bytes

/-- Two texts with a line feed between them yield what both yield. -/
theorem Yields.join
    {text other : List Char}
    {bytes more : List UInt8}
    (yields : Yields text bytes)
    (otherYields : Yields other more) :
    Yields (text ++ '\n' :: other) (bytes ++ more) := by
  obtain ⟨codes, hasCodes, spells⟩ := yields
  obtain ⟨others, otherCodes, otherSpells⟩ := otherYields
  obtain ⟨between, nothing, -, whole⟩ := hasCodes.join otherCodes
  exact ⟨_, whole, (spells.append_nothing nothing).append otherSpells⟩

/-- A single line yields what it says. -/
theorem HasCode.yields
    {line code : List Char}
    {bytes : List UInt8}
    (hasCode : HasCode line code)
    (noFeed : '\n' ∉ line)
    (spells : Spells [code] bytes) :
    Yields line bytes := by
  by_cases empty : line = []
  · -- An empty text has no line at all, but an empty line adds nothing either.
    subst empty
    have codeEq : code = [] := hasCode.code_eq.symm
    subst codeEq
    exact ⟨[], ⟨[], .empty, .nil⟩, by simp, spells.values⟩
  · exact ⟨[code], ⟨[line], .last empty noFeed, .cons hasCode .nil⟩, spells⟩

theorem IsComment.begins
    {comment : List Char}
    (isComment : IsComment comment) :
    comment = [] ∨ comment.head? = some '#' := by
  cases isComment with
  | absent => exact Or.inl rfl
  | present => exact Or.inr rfl

theorem IsComment.noFeed
    {comment : List Char}
    (isComment : IsComment comment) :
    '\n' ∉ comment := by
  cases isComment with
  | absent => exact List.not_mem_nil
  | present noFeed => simp [noFeed]

section

variable
  {before code after comment : List Char}
  (spaceBefore : IsSpace before)
  (digits : ∀ character ∈ code, character = '0' ∨ character = '1')
  (spaceAfter : IsSpace after)
  (isComment : IsComment comment)

include spaceBefore digits spaceAfter isComment

/-- A line of white space, digits and a comment says the digits. -/
theorem hasCode_of_digits :
    HasCode (before ++ code ++ after ++ comment) code := by
  have notBlank
      {character : Char}
      (member : character ∈ code) :
      isBlank character = false := by
    rcases digits character member with rfl | rfl <;> decide
  have noHash : '#' ∉ before ++ code ++ after := by
    simp only [List.mem_append]
    rintro ((member | member) | member)
    · exact absurd (spaceBefore '#' member).1 (by decide)
    · simpa using digits '#' member
    · exact absurd (spaceAfter '#' member).1 (by decide)
  refine .intro noHash isComment.begins
    (fun _ member => (spaceBefore _ member).1)
    (fun _ member => (spaceAfter _ member).1)
    ⟨fun _ first => notBlank (List.mem_of_mem_head? first),
      fun _ last => notBlank (List.mem_of_getLast? last)⟩

theorem feed_notMem_of_digits :
    '\n' ∉ before ++ code ++ after ++ comment := by
  simp only [List.mem_append]
  rintro (((member | member) | member) | member)
  · exact (spaceBefore '\n' member).2 rfl
  · simpa using digits '\n' member
  · exact (spaceAfter '\n' member).2 rfl
  · exact isComment.noFeed member

end

/-- A line adds what the grammar says, and is a single line. -/
theorem LineFor.hasCode
    {bytes : List UInt8}
    {line : List Char}
    (lineFor : LineFor bytes line) :
    '\n' ∉ line ∧ ∃ code, HasCode line code ∧ Spells [code] bytes := by
  cases lineFor with
  | nothing isSpace isComment =>
      have noDigits :
          ∀ character ∈ ([] : List Char), character = '0' ∨ character = '1' :=
        by simp
      have noFeed := feed_notMem_of_digits isSpace noDigits isSpace_nil isComment
      have hasCode := hasCode_of_digits isSpace noDigits isSpace_nil isComment
      simp only [List.append_nil] at noFeed hasCode
      exact ⟨noFeed, [], hasCode, spells_of_forall_nil (by simp)⟩
  | @byte byte _ numeral _ _ spaceBefore isNumeral value spaceAfter isComment =>
      have digits := isNumeral.digits
      refine
        ⟨feed_notMem_of_digits spaceBefore digits spaceAfter isComment, numeral,
          hasCode_of_digits spaceBefore digits spaceAfter isComment, ?_, ?_⟩
      · rintro code member ⟨-, malformed⟩
        rw [List.mem_singleton.mp member] at malformed
        exact malformed isNumeral
      · have nonempty : numeral ≠ [] :=
          List.length_pos_iff.mp isNumeral.nonempty
        simp [numerals, nonempty, value]

/-- A rendering yields what it renders. -/
theorem Renders.yields
    {bytes : List UInt8}
    {text : List Char}
    (renders : Renders bytes text) :
    Yields text bytes := by
  induction renders with
  | last lineFor =>
      obtain ⟨noFeed, code, hasCode, spells⟩ := lineFor.hasCode
      exact hasCode.yields noFeed spells
  | line lineFor ended _ inductionHypothesis =>
      obtain ⟨noFeed, code, hasCode, spells⟩ := lineFor.hasCode
      cases ended with
      | feed =>
          have lineYields := hasCode.yields noFeed spells
          simpa using lineYields.join inductionHypothesis
      | returnFeed =>
          have lineYields := hasCode.withReturn.yields (by simp [noFeed]) spells
          simpa using lineYields.join inductionHypothesis

/--
Whichever way an image is written, it is read back, and a fresh processor takes
it: its memory then holds the image, and zeros after it.
-/
theorem parse_rendering
    {bytes : List UInt8}
    {text : String}
    (fits : bytes.length ≤ 256)
    (renders : Renders bytes text.toList) :
    Image.parse text = .ok bytes ∧
      ∃ processor,
        Processor.initial.load bytes = .ok processor ∧
          processor.memory.toList =
            bytes ++ List.replicate (256 - bytes.length) 0 := by
  obtain ⟨codes, hasCodes, spells⟩ := renders.yields
  constructor
  · rw [spells.parse_eq hasCodes, fitted, if_neg (Nat.not_lt.mpr fits)]
  · obtain ⟨processor, loads, carries⟩ := Processor.exists_load fits
    exact ⟨processor, loads, carries.cells⟩

/-- Two bytes, with a comment, white space and both ends of lines. -/
def decoratedImage : String :=
  "\u2003101\t#1 # 2\r\n \n0010"

theorem parse_rendering_decoratedImage :
    Renders [5, 2] decoratedImage.toList ∧
      Image.parse decoratedImage = .ok [5, 2] ∧
      ∃ processor,
        Processor.initial.load [5, 2] = .ok processor ∧
          processor.memory.toList = [5, 2] ++ List.replicate 254 0 := by
  have first :
      LineFor [5]
        (['\u2003'] ++ ['1', '0', '1'] ++ ['\t'] ++
          ['#', '1', ' ', '#', ' ', '2']) :=
    .byte (isSpace_singleton (by decide)) ⟨by decide, by decide, by simp⟩
      (by decide) (isSpace_singleton (by decide)) (.present (by decide))
  have second : LineFor [] ([' '] ++ []) :=
    .nothing (isSpace_singleton (by decide)) .absent
  have third : LineFor [2] ([] ++ ['0', '0', '1', '0'] ++ [] ++ []) :=
    .byte isSpace_nil ⟨by decide, by decide, by simp⟩ (by decide) isSpace_nil
      .absent
  have renders : Renders [5, 2] decoratedImage.toList :=
    .line first .returnFeed (.line second .feed (.last third))
  exact ⟨renders, parse_rendering (by decide) renders⟩

/-- What is written in some number of digits, if that is enough of them. -/
theorem exists_digits
    (width : Nat)
    {value : Nat}
    (fits : value < 2 ^ width) :
    ∃ digits : List Char,
      digits.length = width ∧
        (∀ character ∈ digits, character = '0' ∨ character = '1') ∧
        placeValue digits = value := by
  induction width generalizing value with
  | zero =>
      have none : value = 0 := Nat.lt_one_iff.mp fits
      exact ⟨[], rfl, by simp, none.symm⟩
  | succ width inductionHypothesis =>
      by_cases leads : 2 ^ width ≤ value
      · have below : value - 2 ^ width < 2 ^ width := by
          rw [Nat.pow_succ] at fits
          omega
        obtain ⟨digits, length, binary, rest⟩ := inductionHypothesis below
        refine ⟨'1' :: digits, by simp [length], by simpa using binary, ?_⟩
        simp only [placeValue, ↓reduceIte, length, rest]
        omega
      · obtain ⟨digits, length, binary, rest⟩ :=
          inductionHypothesis (Nat.lt_of_not_le leads)
        refine ⟨'0' :: digits, by simp [length], by simpa using binary, ?_⟩
        simp [placeValue, rest]

/-- The empty text writes the empty image. -/
theorem renders_nil : Renders [] [] :=
  .last (LineFor.nothing isSpace_nil .absent)

/-- Every image can be written, each byte in eight digits on its own line. -/
theorem exists_renders (bytes : List UInt8) : ∃ text, Renders bytes text := by
  induction bytes with
  | nil => exact ⟨[], renders_nil⟩
  | cons byte rest inductionHypothesis =>
      obtain ⟨text, renders⟩ := inductionHypothesis
      obtain ⟨digits, length, binary, value⟩ := exists_digits 8 byte.toNat_lt
      have isNumeral : IsNumeral digits := ⟨by omega, by omega, binary⟩
      have lineFor := LineFor.byte isSpace_nil isNumeral value isSpace_nil .absent
      exact ⟨_, .line lineFor .feed renders⟩

/-- A single line is what it says with white space around it, and a comment. -/
theorem HasCode.exists_parts
    {line code : List Char}
    (hasCode : HasCode line code)
    (noFeed : '\n' ∉ line) :
    ∃ leading trailing comment,
      line = leading ++ code ++ trailing ++ comment ∧
        IsSpace leading ∧ IsSpace trailing ∧ IsComment comment := by
  cases hasCode with
  | @intro leading _ trailing comment _ begins blankBefore blankAfter =>
      simp only [List.mem_append, not_or] at noFeed
      obtain ⟨⟨⟨notBefore, -⟩, notAfter⟩, notInComment⟩ := noFeed
      refine ⟨leading, trailing, comment, rfl, ?_, ?_, ?_⟩
      · exact fun character member =>
          ⟨blankBefore character member, ne_of_mem_of_not_mem member notBefore⟩
      · exact fun character member =>
          ⟨blankAfter character member, ne_of_mem_of_not_mem member notAfter⟩
      · rcases begins with rfl | hash
        · exact .absent
        · obtain ⟨rest, rfl⟩ := List.head?_eq_some_iff.mp hash
          exact .present (fun member => notInComment (.tail _ member))

/-- A line that is not malformed adds a byte or nothing. -/
theorem HasCode.exists_lineFor
    {line code : List Char}
    (hasCode : HasCode line code)
    (noFeed : '\n' ∉ line)
    (wellFormed : ¬ Malformed code) :
    ∃ added, LineFor added line := by
  obtain ⟨leading, trailing, comment, rfl, spaceBefore, spaceAfter, isComment⟩ :=
    hasCode.exists_parts noFeed
  by_cases empty : code = []
  · subst empty
    refine ⟨[], ?_⟩
    rw [List.append_nil]
    refine .nothing ?_ isComment
    intro character member
    rcases List.mem_append.mp member with inLeading | inTrailing
    · exact spaceBefore character inLeading
    · exact spaceAfter character inTrailing
  · have isNumeral : IsNumeral code := by
      by_contra notNumeral
      exact wellFormed ⟨empty, notNumeral⟩
    obtain ⟨byte, -, value⟩ := literal?_of_isNumeral isNumeral
    exact ⟨[byte],
      .byte spaceBefore isNumeral value.symm spaceAfter isComment⟩

/-- A text without malformed lines is a rendering. -/
theorem TextLines.exists_renders
    {text : List Char}
    {lines : List (List Char)}
    (textLines : TextLines text lines)
    (wellFormed : ∀ line ∈ lines, ¬ Malformed (Image.code line)) :
    ∃ bytes, Renders bytes text := by
  induction textLines with
  | empty => exact ⟨[], renders_nil⟩
  | last nonempty noFeed =>
      obtain ⟨added, lineFor⟩ :=
        (hasCode_code _).exists_lineFor noFeed (wellFormed _ (by simp))
      exact ⟨added, .last lineFor⟩
  | feed noFeed _ inductionHypothesis =>
      obtain ⟨added, lineFor⟩ :=
        (hasCode_code _).exists_lineFor noFeed (wellFormed _ (by simp))
      obtain ⟨bytes, renders⟩ :=
        inductionHypothesis fun line member =>
          wellFormed line (List.mem_cons_of_mem _ member)
      have whole := Renders.line lineFor .feed renders
      rw [List.append_assoc] at whole
      exact ⟨_, whole⟩

/-- Every text that is read as an image is a rendering of it. -/
theorem renders_of_parse
    {bytes : List UInt8}
    {text : String}
    (read : Image.parse text = .ok bytes) :
    Renders bytes text.toList := by
  obtain ⟨lines, textLines⟩ := exists_textLines text.toList
  have hasCodes : HasCodes text.toList (lines.map Image.code) :=
    hasCodes_iff.mpr textLines.map_code_eq.symm
  rcases hasCodes.spells_or_malformed with
    ⟨_, spells⟩ | ⟨earlier, code, later, split, wellFormed, malformed⟩
  · obtain ⟨written, renders⟩ :=
      textLines.exists_renders fun line member =>
        spells.wellFormed _ (List.mem_map_of_mem member)
    obtain ⟨codes, yieldedCodes, yielded⟩ := renders.yields
    rw [yielded.parse_eq yieldedCodes, fitted] at read
    split at read
    · cases read
    · cases read
      exact renders
  · rw [parse_of_first_malformed hasCodes split wellFormed malformed] at read
    cases read

end LS8
