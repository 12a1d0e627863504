import LS8.Proofs.Delimiters
import LS8.Proofs.ImageGrammar

namespace LS8

/-!
# The message about a malformed line

The message about a malformed line gives the number of the line and quotes what
it says. That can be any text, with quotes and backslashes in it, characters
that move the cursor and characters that do not show. `HasEscape` lists the
three ways in which a character is written between the quotes.

No character is written as the beginning of another (`HasEscape.append_inj`), so
that a quoted text is read in one way only. All that is written is plain
(`isPlain_of_mem_escape`), so that the message stays on its line.
-/

/-- A control character: one of Unicode's general category `Cc`. -/
def IsControl (character : Char) : Prop :=
  character.toNat ≤ 0x1F ∨
    0x7F ≤ character.toNat ∧ character.toNat ≤ 0x9F

/-- The characters that are written by a letter of their own. -/
def escapeLetters : List (Char × Char) :=
  [
    ('"', '"'),
    ('\\', '\\'),
    ('\x00', '0'),
    ('\t', 't'),
    ('\n', 'n'),
    ('\r', 'r')
  ]

/-- How a character is written between quotes. -/
inductive HasEscape (character : Char) : List Char → Prop where
  | plain
      (isPlain : Quoted.isPlain character = true)
      (notQuote : character ≠ '"')
      (notBackslash : character ≠ '\\') :
      HasEscape character [character]
  | letter
      {letter : Char}
      (listed : (character, letter) ∈ escapeLetters) :
      HasEscape character ['\\', letter]
  | codePoint
      (hidden : Quoted.isPlain character = false) :
      HasEscape character
        ('\\' :: 'u' :: '\x7b' ::
          (NumeralStyle.codePoint.characters character.toNat ++ ['\x7d']))

/-- No two characters have the same letter. -/
theorem eq_of_escapeLetters_eq :
    ∀ pair ∈ escapeLetters, ∀ other ∈ escapeLetters,
      pair.2 = other.2 → pair.1 = other.1 := by
  decide

/-- The letter of a code point is no other character's. -/
theorem escapeLetters_ne_u : ∀ pair ∈ escapeLetters, pair.2 ≠ 'u' := by
  decide

theorem hasEscape_escape (character : Char) :
    HasEscape character (Quoted.escape character) := by
  unfold Quoted.escape
  split_ifs with quote backslash nul tab feed carriage isPlain
  · exact .letter (by simp [escapeLetters, quote])
  · exact .letter (by simp [escapeLetters, backslash])
  · exact .letter (by simp [escapeLetters, nul])
  · exact .letter (by simp [escapeLetters, tab])
  · exact .letter (by simp [escapeLetters, feed])
  · exact .letter (by simp [escapeLetters, carriage])
  · exact .plain isPlain quote backslash
  · exact .codePoint (by simpa using isPlain)

namespace HasEscape

variable
  {left right : Char}
  {escape other rest after : List Char}

theorem ne_nil (hasEscape : HasEscape left escape) : escape ≠ [] := by
  cases hasEscape <;> simp

/-- No character is written as the beginning of another. -/
theorem append_inj
    (hasEscape : HasEscape left escape)
    (hasOther : HasEscape right other)
    (same : escape ++ rest = other ++ after) :
    left = right ∧ rest = after := by
  cases hasEscape with
  | plain _ _ notBackslash =>
      cases hasOther with
      | plain => simpa using same
      | letter | codePoint =>
          exact absurd (List.cons.inj same).1 notBackslash
  | @letter letter listed =>
      cases hasOther with
      | plain _ _ notBackslash =>
          exact absurd (List.cons.inj same).1.symm notBackslash
      | letter otherListed =>
          simp only [List.cons_append, List.nil_append, List.cons.injEq,
            true_and] at same
          obtain ⟨sameLetter, sameRest⟩ := same
          exact ⟨eq_of_escapeLetters_eq _ listed _ otherListed sameLetter,
            sameRest⟩
      | codePoint =>
          simp only [List.cons_append, List.nil_append, List.cons.injEq,
            true_and] at same
          exact absurd same.1 (escapeLetters_ne_u _ listed)
  | codePoint =>
      cases hasOther with
      | plain _ _ notBackslash =>
          exact absurd (List.cons.inj same).1.symm notBackslash
      | letter otherListed =>
          simp only [List.cons_append, List.nil_append, List.cons.injEq,
            true_and] at same
          exact absurd same.1.symm (escapeLetters_ne_u _ otherListed)
      | codePoint =>
          simp only [List.cons_append, List.append_assoc, List.nil_append,
            List.cons.injEq, true_and] at same
          -- The closing brace ends the digits of the code point.
          obtain ⟨sameNumber, sameRest⟩ :=
            NumeralStyle.codePoint.characters_append_inj (by decide) same
          exact ⟨Char.toNat_inj.mp sameNumber, sameRest⟩

end HasEscape

/-- A text is determined by how its characters are written. -/
theorem flatMap_escape_injective :
    Function.Injective fun text : List Char =>
      text.flatMap Quoted.escape := by
  intro left right same
  induction left generalizing right with
  | nil =>
      cases right with
      | nil => rfl
      | cons character rest =>
          have empty := (List.append_eq_nil_iff.mp same.symm).1
          exact absurd empty (hasEscape_escape character).ne_nil
  | cons character rest inductionHypothesis =>
      cases right with
      | nil =>
          have empty := (List.append_eq_nil_iff.mp same).1
          exact absurd empty (hasEscape_escape character).ne_nil
      | cons other others =>
          obtain ⟨sameCharacter, sameRest⟩ :=
            (hasEscape_escape character).append_inj
              (hasEscape_escape other) same
          rw [sameCharacter, inductionHypothesis sameRest]

/-- Two texts are written alike in quotes only if they are the same. -/
theorem quoted_encode_injective : Function.Injective Quoted.encode := by
  intro left right same
  have body := (List.cons.inj same).2
  exact flatMap_escape_injective (List.append_cancel_right body)

/-- Control characters are not plain. -/
theorem not_isControl_of_isPlain
    {character : Char}
    (isPlain : Quoted.isPlain character = true) :
    ¬ IsControl character := by
  unfold IsControl
  simp only [Quoted.isPlain] at isPlain
  split_ifs at isPlain with ascii
  · simp only [decide_eq_true_eq] at isPlain
    omega
  · omega

theorem isPlain_escapeLetters :
    ∀ pair ∈ escapeLetters, Quoted.isPlain pair.2 = true := by
  decide

/-- Digits are plain. -/
theorem isPlain_digit (letters : LetterCase) :
    ∀ digit < 16, Quoted.isPlain (letters.digit digit) = true := by
  cases letters <;> decide

theorem isPlain_of_mem_characters
    {style : NumeralStyle}
    {value : Nat}
    {character : Char}
    (member : character ∈ style.characters value) :
    Quoted.isPlain character = true := by
  obtain ⟨digit, isDigit, rfl⟩ := List.mem_map.mp member
  exact isPlain_digit style.letters digit
    (NumeralStyle.lt_of_mem_paddedDigits isDigit)

/-- Whatever a character is, it is written with plain ones. -/
theorem isPlain_of_mem_escape
    {character shown : Char}
    (member : shown ∈ Quoted.escape character) :
    Quoted.isPlain shown = true := by
  have hasEscape := hasEscape_escape character
  generalize Quoted.escape character = escape at member hasEscape
  cases hasEscape with
  | plain isPlain => rwa [List.mem_singleton.mp member]
  | letter listed =>
      simp only [List.mem_cons, List.not_mem_nil, or_false] at member
      rcases member with rfl | rfl
      · decide
      · exact isPlain_escapeLetters _ listed
  | codePoint =>
      simp only [List.mem_cons, List.mem_append, List.not_mem_nil,
        or_false] at member
      rcases member with rfl | rfl | rfl | inNumeral | rfl
      · decide
      · decide
      · decide
      · exact isPlain_of_mem_characters inNumeral
      · decide

namespace LoadError

/-- The parts of the message: the number ends at the colon after it. -/
theorem toList_message_malformedLiteral (line : Nat) (literal : String) :
    (malformedLiteral line literal).message.toList =
      "line ".toList ++
        (NumeralStyle.decimal.characters line ++
          ':' :: (" malformed binary literal ".toList ++
            Quoted.encode literal.toList)) := by
  simp [message, LS8.decimal, NumeralStyle.write, quoted]

/-- The message tells the number of the line and what it says. -/
theorem message_malformedLiteral_inj
    {line otherLine : Nat}
    {literal otherLiteral : String}
    (same :
      (malformedLiteral line literal).message =
        (malformedLiteral otherLine otherLiteral).message) :
    line = otherLine ∧ literal = otherLiteral := by
  have sameText := congrArg String.toList same
  rw [toList_message_malformedLiteral, toList_message_malformedLiteral]
    at sameText
  obtain ⟨sameLine, sameEnd⟩ :=
    NumeralStyle.decimal.characters_append_inj (by decide)
      (List.append_cancel_left sameText)
  have sameLiteral := quoted_encode_injective (List.append_cancel_left sameEnd)
  exact ⟨sameLine, String.toList_inj.mp sameLiteral⟩

/-- The message shows, and all of it. -/
theorem isPlain_of_mem_message
    {line : Nat}
    {literal : String}
    {character : Char}
    (member : character ∈ (malformedLiteral line literal).message.toList) :
    Quoted.isPlain character = true := by
  have opening : "line ".toList.all Quoted.isPlain = true := by decide
  have words :
      (':' :: " malformed binary literal ".toList).all Quoted.isPlain =
        true := by
    decide
  have quote : Quoted.isPlain '"' = true := by decide
  rw [toList_message_malformedLiteral] at member
  rcases List.mem_append.mp member with inOpening | member
  · exact List.all_eq_true.mp opening character inOpening
  rcases List.mem_append.mp member with inNumeral | member
  · exact isPlain_of_mem_characters inNumeral
  rw [← List.cons_append] at member
  rcases List.mem_append.mp member with inWords | inQuotes
  · exact List.all_eq_true.mp words character inWords
  simp only [Quoted.encode, List.mem_cons, List.mem_append, List.mem_flatMap,
    List.not_mem_nil, or_false] at inQuotes
  rcases inQuotes with rfl | ⟨quotedCharacter, -, inEscape⟩ | rfl
  · exact quote
  · exact isPlain_of_mem_escape inEscape
  · exact quote

end LoadError

/-- What a line says is part of it, up to its first `#`, and is trimmed. -/
theorem HasCode.clean
    {line code : List Char}
    (hasCode : HasCode line code) :
    code ⊆ line ∧ '#' ∉ code ∧ Trimmed code := by
  cases hasCode with
  | intro noHash _ _ _ trimmed =>
      refine ⟨?_, ?_, trimmed⟩
      · intro character member
        simp [member]
      · intro member
        exact noHash (by simp [member])

/-- The line that an error is about is malformed, and the error holds its code. -/
theorem exists_malformed_line
    {text : String}
    {line : Nat}
    {literal : String}
    (rejected : Image.parse text = .error (.malformedLiteral line literal)) :
    ∃ lines body,
      TextLines text.toList lines ∧
        lines[line - 1]? = some body ∧
        1 ≤ line ∧
        line ≤ lines.length ∧
        HasCode body literal.toList ∧
        Malformed literal.toList := by
  obtain ⟨lines, textLines⟩ := exists_textLines text.toList
  obtain ⟨result, describes⟩ := exists_describes (Image.lines text.toList)
  have isResult := describes.parse_eq
  rw [rejected] at isResult
  subst isResult
  rw [textLines.map_code_eq] at describes
  cases describes with
  | @malformed earlier later code split _ malformed =>
      obtain ⟨before, others, rfl, isEarlier, rest⟩ :=
        List.map_eq_append_iff.mp split
      obtain ⟨body, after, rfl, isCode, -⟩ := List.map_eq_cons_iff.mp rest
      have place : earlier.length = before.length := by
        rw [← isEarlier, List.length_map]
      refine ⟨_, body, textLines, ?_, Nat.le_add_left _ _, ?_, ?_, ?_⟩
      · rw [place]
        simp
      · rw [place]
        simp
      · rw [String.toList_ofList, ← isCode]
        exact hasCode_code body
      · rwa [String.toList_ofList]

/--
If a line of a text is malformed, the error tells which, and what it says: some
text without a `#`, without a line feed and without blanks around it. The
message about it has no control character in it, and no message about another
line or another text is the same.
-/
theorem malformed_message_faithful
    {text : String}
    {line : Nat}
    {literal : String}
    (rejected : Image.parse text = .error (.malformedLiteral line literal)) :
    (∃ lines body,
      TextLines text.toList lines ∧
        lines[line - 1]? = some body ∧
        1 ≤ line ∧
        line ≤ lines.length ∧
        HasCode body literal.toList) ∧
      literal ≠ "" ∧
      '#' ∉ literal.toList ∧
      '\n' ∉ literal.toList ∧
      Trimmed literal.toList ∧
      (∀ character ∈ (LoadError.malformedLiteral line literal).message.toList,
        ¬ IsControl character) ∧
      ∀ otherLine otherLiteral,
        (LoadError.malformedLiteral otherLine otherLiteral).message =
            (LoadError.malformedLiteral line literal).message →
          otherLine = line ∧ otherLiteral = literal := by
  obtain ⟨lines, body, textLines, place, atLeast, atMost, hasCode,
    malformed⟩ := exists_malformed_line rejected
  obtain ⟨within, noHash, trimmed⟩ := hasCode.clean
  have noFeed : '\n' ∉ body :=
    textLines.feed_notMem (List.mem_of_getElem? place)
  refine ⟨⟨lines, body, textLines, place, atLeast, atMost, hasCode⟩, ?_,
    noHash, fun member => noFeed (within member), trimmed, ?_, ?_⟩
  · rintro rfl
    exact malformed.1 rfl
  · intro character member
    exact not_isControl_of_isPlain (LoadError.isPlain_of_mem_message member)
  · intro otherLine otherLiteral same
    exact LoadError.message_malformedLiteral_inj same

/-- A line that looks like the quoted form of another, with a return and a bell. -/
def lookalikeCode : String :=
  "\"\r\\u\x7b41\x7d\u0301\x07"

/-- What looks like an escape is told from one by its backslashes. -/
theorem malformed_message_faithful_lookalike :
    let shown :=
      "line 2: malformed binary literal \"\\\"\\r\\\\u\x7b41\x7d" ++
        "\\u\x7b301\x7d\\u\x7b7\x7d\""
    Image.parse ("1\n " ++ lookalikeCode ++ "\t# \"\n0") =
        .error (.malformedLiteral 2 lookalikeCode) ∧
      (LoadError.malformedLiteral 2 lookalikeCode).message = shown ∧
      (∀ character ∈ shown.toList, ¬ IsControl character) ∧
      ∀ line literal,
        (LoadError.malformedLiteral line literal).message = shown →
          line = 2 ∧ literal = lookalikeCode := by
  intro shown
  have rejected :
      Image.parse ("1\n " ++ lookalikeCode ++ "\t# \"\n0") =
        .error (.malformedLiteral 2 lookalikeCode) := by
    decide +kernel
  have message :
      (LoadError.malformedLiteral 2 lookalikeCode).message = shown := by
    decide +kernel
  obtain ⟨-, -, -, -, -, onOneLine, unambiguous⟩ :=
    malformed_message_faithful rejected
  rw [message] at onOneLine unambiguous
  exact ⟨rejected, message, onOneLine, unambiguous⟩

end LS8
