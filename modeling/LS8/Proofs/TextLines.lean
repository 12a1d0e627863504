import LS8.Proofs.Delimiters

namespace LS8

/-!
# The lines of a text

`TextLines` is the grammar of texts in lines: a text is a number of lines, each
ended by a line feed, and perhaps a last line without one, which then is not
empty. Every text has lines (`exists_textLines`), and only one list of them
(`TextLines.unique`).
-/

/-- A text consists of lines. -/
inductive TextLines : List Char → List (List Char) → Prop where
  | empty : TextLines [] []
  | last
      {line : List Char}
      (nonempty : line ≠ [])
      (noFeed : '\n' ∉ line) :
      TextLines line [line]
  | feed
      {line rest : List Char}
      {lines : List (List Char)}
      (noFeed : '\n' ∉ line)
      (others : TextLines rest lines) :
      TextLines (line ++ '\n' :: rest) (line :: lines)

/-- Every text consists of lines. -/
theorem exists_textLines (text : List Char) :
    ∃ lines, TextLines text lines := by
  induction text with
  | nil => exact ⟨[], .empty⟩
  | cons character rest inductionHypothesis =>
      obtain ⟨lines, restLines⟩ := inductionHypothesis
      by_cases isFeed : character = '\n'
      · subst isFeed
        have ended : TextLines ([] ++ '\n' :: rest) ([] :: lines) :=
          .feed (by simp) restLines
        exact ⟨[] :: lines, ended⟩
      · -- The character comes before the first line, whatever that is.
        cases restLines with
        | empty =>
            exact ⟨[[character]],
              .last (by simp) (by simpa using Ne.symm isFeed)⟩
        | @last line nonempty noFeed =>
            exact ⟨[character :: rest],
              .last (by simp) (by simp [Ne.symm isFeed, noFeed])⟩
        | @feed line later lines noFeed others =>
            have longer :
                TextLines ((character :: line) ++ '\n' :: later)
                  ((character :: line) :: lines) :=
              .feed (by simp [Ne.symm isFeed, noFeed]) others
            exact ⟨(character :: line) :: lines, longer⟩

/-- No line has a line feed in it. -/
theorem TextLines.feed_notMem
    {text line : List Char}
    {lines : List (List Char)}
    (textLines : TextLines text lines)
    (member : line ∈ lines) :
    '\n' ∉ line := by
  induction textLines with
  | empty => contradiction
  | last nonempty noFeed =>
      rwa [List.mem_singleton.mp member]
  | feed noFeed others inductionHypothesis =>
      rcases List.mem_cons.mp member with rfl | inRest
      · exact noFeed
      · exact inductionHypothesis inRest

/-- The first line feed of a text splits it. -/
theorem splitOn_append_feed
    {line : List Char}
    (noFeed : '\n' ∉ line)
    (rest : List Char) :
    (line ++ '\n' :: rest).splitOn '\n' = line :: rest.splitOn '\n' := by
  apply List.splitOnP_append_cons_of_forall_mem
  · intro character member
    rw [beq_eq_false_iff_ne]
    rintro rfl
    exact noFeed member
  · rfl

/-- A number does not end a line. -/
theorem feed_notMem_toDigits (value : Nat) :
    '\n' ∉ Nat.toDigits 10 value := by
  intro member
  have isDigit := Nat.isDigit_of_mem_toDigits (by decide) (by decide) member
  exact absurd isDigit (by decide)

/-- A text has no other lines. -/
theorem TextLines.unique
    {text : List Char}
    {lines others : List (List Char)}
    (textLines : TextLines text lines)
    (textOthers : TextLines text others) :
    lines = others := by
  induction textLines generalizing others with
  | empty =>
      generalize same : ([] : List Char) = text at textOthers
      cases textOthers with
      | empty => rfl
      | last nonempty => exact (nonempty same.symm).elim
      | feed => simp at same
  | @last line nonempty noFeed =>
      cases textOthers with
      | empty => exact (nonempty rfl).elim
      | last => rfl
      | feed => simp at noFeed
  | @feed line rest lines noFeed restLines inductionHypothesis =>
      generalize same : line ++ '\n' :: rest = text at textOthers
      cases textOthers with
      | empty => simp at same
      | last _ otherNoFeed => simp [← same] at otherNoFeed
      | feed otherNoFeed restOthers =>
          obtain ⟨rfl, rfl⟩ := append_delimiter_inj noFeed otherNoFeed same
          rw [inductionHypothesis restOthers]

end LS8
