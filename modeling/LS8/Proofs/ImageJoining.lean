import LS8.Proofs.ImageGrammar

namespace LS8

/-!
# Images of joined texts

Two texts with a line feed between them are read as the one is read and then the
other (`parse_joined`). The lines of the whole are those of the first text and
those of the second (`TextLines.join`), with an empty line between them where the
first text has no line that the line feed could end: that is so after its last
line feed and when it is empty. That line adds no byte, but it counts, so that the
second text begins one line after as many lines as the first has line feeds.

A byte is said by one line, and so the bytes of the whole are the bytes of the
parts one after the other (`Spells.append`). How many they are is only asked at
the end: a first text that is too large does not hide a malformed line of the
second.
-/

/-- What has been said by lines is a list of bytes, if no line is malformed. -/
structure Spells (codes : List (List Char)) (bytes : List UInt8) : Prop where
  wellFormed : ∀ code ∈ codes, ¬ Malformed code
  values : bytes.map UInt8.toNat = (numerals codes).map placeValue

/-- The image of some bytes, which must fit into the memory. -/
def fitted (bytes : List UInt8) : Except LoadError (List UInt8) :=
  if 256 < bytes.length then
    .error (.tooLarge bytes.length)
  else
    .ok bytes

/-- The number of bytes in a text without malformed lines. -/
def byteCount : Except LoadError (List UInt8) → Nat
  | .ok bytes => bytes.length
  | .error (.tooLarge length) => length
  | .error _ => 0

/--
What comes of reading two texts with a line feed between them, if the first has
so many line feeds and the readings of the two come out like this.
-/
def joined
    (feeds : Nat)
    (first second : Except LoadError (List UInt8)) :
    Except LoadError (List UInt8) :=
  match first, second with
  | .error (.malformedLiteral line text), _ =>
      .error (.malformedLiteral line text)
  | _, .error (.malformedLiteral line text) =>
      .error (.malformedLiteral (feeds + 1 + line) text)
  | .ok bytes, .ok more =>
      if 256 < bytes.length + more.length then
        .error (.tooLarge (bytes.length + more.length))
      else
        .ok (bytes ++ more)
  -- One of the two is too large alone (`lt_of_parse_tooLarge`), and so the two
  -- are together.
  | first, second => .error (.tooLarge (byteCount first + byteCount second))

/-- Bytes that fit or not are put together, and fit or not. -/
theorem joined_fitted
    (feeds : Nat)
    (bytes more : List UInt8) :
    joined feeds (fitted bytes) (fitted more) = fitted (bytes ++ more) := by
  have whole
      (partLarge : 256 < bytes.length ∨ 256 < more.length) :
      256 < bytes.length + more.length := by
    omega
  by_cases large : 256 < bytes.length <;>
    by_cases alsoLarge : 256 < more.length <;>
      simp [fitted, joined, byteCount, large, alsoLarge, whole]

/-- A malformed line of the second text counts from the first text's end. -/
theorem joined_fitted_malformed
    (feeds : Nat)
    (bytes : List UInt8)
    (line : Nat)
    (text : String) :
    joined feeds (fitted bytes) (.error (.malformedLiteral line text)) =
      .error (.malformedLiteral (feeds + 1 + line) text) := by
  unfold fitted
  split <;> rfl

/--
The lines of two texts with a line feed between them: the second text begins one
line after the lines that the first text's line feeds end.
-/
theorem TextLines.join
    {text other : List Char}
    {lines others : List (List Char)}
    (textLines : TextLines text lines)
    (otherLines : TextLines other others) :
    ∃ between,
      (∀ line ∈ between, line = []) ∧
        (lines ++ between).length = text.count '\n' + 1 ∧
        TextLines (text ++ '\n' :: other) (lines ++ between ++ others) := by
  induction textLines with
  | empty =>
      exact ⟨[[]], by simp, rfl, .feed List.not_mem_nil otherLines⟩
  | last nonempty noFeed =>
      refine ⟨[], by simp, ?_, .feed noFeed otherLines⟩
      rw [List.count_eq_zero.mpr noFeed]
      rfl
  | @feed line rest lines noFeed _ inductionHypothesis =>
      obtain ⟨between, empty, length, whole⟩ := inductionHypothesis
      refine ⟨between, empty, ?_, ?_⟩
      · rw [List.cons_append, List.length_cons, length, List.count_append,
          List.count_eq_zero.mpr noFeed, List.count_cons_self, Nat.zero_add]
      · rw [List.append_assoc]
        exact .feed noFeed whole

/-- What the lines of two texts say with a line feed between the texts. -/
theorem HasCodes.join
    {text other : List Char}
    {codes others : List (List Char)}
    (hasCodes : HasCodes text codes)
    (otherCodes : HasCodes other others) :
    ∃ between,
      (∀ code ∈ between, code = []) ∧
        (codes ++ between).length = text.count '\n' + 1 ∧
        HasCodes (text ++ '\n' :: other) (codes ++ between ++ others) := by
  obtain ⟨lines, textLines⟩ := exists_textLines text
  obtain ⟨otherLines, otherTextLines⟩ := exists_textLines other
  obtain ⟨between, empty, length, whole⟩ := textLines.join otherTextLines
  rw [hasCodes_iff.mp hasCodes, hasCodes_iff.mp otherCodes,
    textLines.map_code_eq, otherTextLines.map_code_eq]
  refine ⟨between.map Image.code, ?_, ?_, ?_⟩
  · intro code member
    obtain ⟨line, lineMember, rfl⟩ := List.mem_map.mp member
    rw [empty line lineMember]
    rfl
  · rw [← List.map_append, List.length_map, length]
  · rw [hasCodes_iff, whole.map_code_eq, List.map_append, List.map_append]

theorem not_malformed_nil : ¬ Malformed [] :=
  fun malformed => malformed.1 rfl

/-- Lines that say nothing add no byte. -/
theorem spells_of_forall_nil
    {codes : List (List Char)}
    (nothing : ∀ code ∈ codes, code = []) :
    Spells codes [] where
  wellFormed code member := by
    rw [nothing code member]
    exact not_malformed_nil
  values := by
    have none : numerals codes = [] := by
      simpa [numerals] using nothing
    rw [none]
    rfl

/-- The bytes of some lines come before the bytes of the lines after them. -/
theorem Spells.append
    {codes others : List (List Char)}
    {bytes more : List UInt8}
    (spells : Spells codes bytes)
    (otherSpells : Spells others more) :
    Spells (codes ++ others) (bytes ++ more) where
  wellFormed :=
    List.forall_mem_append.mpr ⟨spells.wellFormed, otherSpells.wellFormed⟩
  values := by
    rw [List.map_append, spells.values, otherSpells.values, ← List.map_append,
      numerals, numerals, numerals, List.filter_append]

theorem Spells.append_nothing
    {codes others : List (List Char)}
    {bytes : List UInt8}
    (spells : Spells codes bytes)
    (nothing : ∀ code ∈ others, code = []) :
    Spells (codes ++ others) bytes := by
  simpa using spells.append (spells_of_forall_nil nothing)

theorem Spells.length_eq
    {codes : List (List Char)}
    {bytes : List UInt8}
    (spells : Spells codes bytes) :
    (numerals codes).length = bytes.length := by
  simpa using (congrArg List.length spells.values).symm

/-- The lines of every text say something. -/
theorem exists_hasCodes (text : List Char) : ∃ codes, HasCodes text codes :=
  ⟨_, hasCodes_iff.mpr rfl⟩

/-- Either the lines spell bytes or one of them is the first malformed one. -/
theorem HasCodes.spells_or_malformed
    {text : List Char}
    {codes : List (List Char)}
    (hasCodes : HasCodes text codes) :
    (∃ bytes, Spells codes bytes) ∨
      ∃ earlier code later,
        codes = earlier ++ code :: later ∧
          (∀ other ∈ earlier, ¬ Malformed other) ∧
          Malformed code := by
  by_cases wellFormed : ∀ code ∈ codes, ¬ Malformed code
  · rw [hasCodes_iff.mp hasCodes] at wellFormed ⊢
    obtain ⟨bytes, -, values⟩ := readLines_eq_ok wellFormed 1
    exact Or.inl ⟨bytes, wellFormed, values⟩
  · exact Or.inr (exists_first_malformed wellFormed)

section

variable
  {text : String}
  {codes : List (List Char)}
  (hasCodes : HasCodes text.toList codes)

include hasCodes

/-- Bytes are read if they fit. -/
theorem Spells.parse_eq
    {bytes : List UInt8}
    (spells : Spells codes bytes) :
    Image.parse text = fitted bytes := by
  unfold fitted
  rw [← spells.length_eq]
  apply Describes.parse_eq
  rw [← hasCodes_iff.mp hasCodes]
  split
  next large => exact .tooLarge spells.wellFormed large
  next fits =>
    exact .image spells.wellFormed (Nat.le_of_not_lt fits) spells.values

/-- The first malformed line is reported with its number. -/
theorem parse_of_first_malformed
    {earlier later : List (List Char)}
    {code : List Char}
    (split : codes = earlier ++ code :: later)
    (wellFormed : ∀ other ∈ earlier, ¬ Malformed other)
    (malformed : Malformed code) :
    Image.parse text =
      .error
        (.malformedLiteral (earlier.length + 1) (String.ofList code)) := by
  rw [hasCodes_iff.mp hasCodes] at split
  exact (Describes.malformed split wellFormed malformed).parse_eq

end

/-- Only more bytes than the memory holds are too large. -/
theorem lt_of_parse_tooLarge
    {text : String}
    {length : Nat}
    (read : Image.parse text = .error (.tooLarge length)) :
    256 < length := by
  obtain ⟨codes, hasCodes⟩ := exists_hasCodes text.toList
  rcases hasCodes.spells_or_malformed with
    ⟨bytes, spells⟩ | ⟨earlier, code, later, shape, wellFormed, malformed⟩
  · rw [spells.parse_eq hasCodes, fitted] at read
    split at read
    next large =>
      cases read
      exact large
    next => cases read
  · rw [parse_of_first_malformed hasCodes shape wellFormed malformed] at read
    cases read

/--
Two texts with a line feed between them are read like the first text and then
the second. A malformed line of the first text is the error of the whole; one of
the second text is found at its place in the whole, even if the first text has
too many bytes. Otherwise the bytes of the two are put together, and the whole
is too large if they are more than the memory holds.
-/
theorem parse_joined (first second : String) :
    Image.parse (first ++ "\n" ++ second) =
      joined (first.toList.count '\n')
        (Image.parse first) (Image.parse second) := by
  obtain ⟨codes, firstCodes⟩ := exists_hasCodes first.toList
  obtain ⟨others, secondCodes⟩ := exists_hasCodes second.toList
  obtain ⟨between, nothing, length, wholeCodes⟩ := firstCodes.join secondCodes
  have wholeText :
      (first ++ "\n" ++ second).toList =
        first.toList ++ '\n' :: second.toList := by
    simp
  rw [← wholeText] at wholeCodes
  rcases firstCodes.spells_or_malformed with
    ⟨bytes, spells⟩ | ⟨earlier, code, later, split, wellFormed, malformed⟩
  · -- The line between the texts belongs to what comes before the second.
    have spellsBefore := spells.append_nothing nothing
    rw [spells.parse_eq firstCodes]
    rcases secondCodes.spells_or_malformed with
      ⟨more, moreSpells⟩ | ⟨earlier, code, later, split, wellFormed, malformed⟩
    · rw [(spellsBefore.append moreSpells).parse_eq wholeCodes,
        moreSpells.parse_eq secondCodes, joined_fitted]
    · have wholeSplit :
          codes ++ between ++ others =
            (codes ++ between ++ earlier) ++ code :: later := by
        rw [split, List.append_assoc (codes ++ between)]
      have wholeWellFormed :=
        List.forall_mem_append.mpr ⟨spellsBefore.wellFormed, wellFormed⟩
      rw [parse_of_first_malformed wholeCodes wholeSplit wholeWellFormed
          malformed,
        parse_of_first_malformed secondCodes split wellFormed malformed,
        joined_fitted_malformed, List.length_append, length, Nat.add_assoc]
  · have wholeSplit :
        codes ++ between ++ others =
          earlier ++ code :: (later ++ between ++ others) := by
      simp [split]
    rw [parse_of_first_malformed wholeCodes wholeSplit wellFormed malformed,
      parse_of_first_malformed firstCodes split wellFormed malformed]
    rfl

example :
    Image.parse ("1\n" ++ "\n" ++ "2") =
      joined 1 (Image.parse "1\n") (Image.parse "2") := by
  cbv

end LS8
