import Mathlib.Data.List.Infix
import LS8.Image

namespace LS8

/-!
# The text of a file

A file is a program only if its bytes are a text in UTF-8. `CharacterBytes` is
the table of the well-formed sequences of bytes, with the numbers of the
characters that they stand for, and `Encodes` puts such sequences one after the
other. The table leaves out each sequence that is longer than it need be, those
of the surrogates, and those beyond the last character.

No sequence of the table is the beginning of another (`append_inj`). A list of
bytes that is no text therefore breaks off at one place, where what follows
begins with no sequence of the table (`BreaksOff`), whatever is before or after
that place. A file is loaded as the text that it encodes, and otherwise not at
all (`load_agrees_with_parse`).
-/

/-- A byte that goes on with a character. -/
structure Continues (byte : UInt8) : Prop where
  low : 0x80 ≤ byte.toNat
  high : byte.toNat ≤ 0xBF

/-- A number with six more bits, those of a byte that goes on with it. -/
def extended (number : Nat) (byte : UInt8) : Nat :=
  64 * number + (byte.toNat - 0x80)

/-- The well-formed sequences of bytes, each with the number it stands for. -/
inductive CharacterBytes : List UInt8 → Nat → Prop where
  | one
      {first : UInt8}
      (high : first.toNat ≤ 0x7F) :
      CharacterBytes [first] first.toNat
  | two
      {first second : UInt8}
      (low : 0xC2 ≤ first.toNat)
      (high : first.toNat ≤ 0xDF)
      (continues : Continues second) :
      CharacterBytes [first, second] (extended (first.toNat - 0xC0) second)
  | three
      {first second third : UInt8}
      (low : 0xE0 ≤ first.toNat)
      (high : first.toNat ≤ 0xEF)
      (continues : Continues second)
      (ends : Continues third)
      (notOverlong : first.toNat = 0xE0 → 0xA0 ≤ second.toNat)
      (notSurrogate : first.toNat = 0xED → second.toNat ≤ 0x9F) :
      CharacterBytes [first, second, third]
        (extended (extended (first.toNat - 0xE0) second) third)
  | four
      {first second third fourth : UInt8}
      (low : 0xF0 ≤ first.toNat)
      (high : first.toNat ≤ 0xF4)
      (continues : Continues second)
      (goesOn : Continues third)
      (ends : Continues fourth)
      (notOverlong : first.toNat = 0xF0 → 0x90 ≤ second.toNat)
      (notBeyond : first.toNat = 0xF4 → second.toNat ≤ 0x8F) :
      CharacterBytes [first, second, third, fourth]
        (extended (extended (extended (first.toNat - 0xF0) second) third)
          fourth)

/-- Bytes that are the characters of a text, one after the other. -/
inductive Encodes : List UInt8 → List Char → Prop where
  | nil : Encodes [] []
  | cons
      {bytes rest : List UInt8}
      {character : Char}
      {characters : List Char}
      (sequence : CharacterBytes bytes character.toNat)
      (others : Encodes rest characters) :
      Encodes (bytes ++ rest) (character :: characters)

/-- Bytes that are a text up to a place where no character begins. -/
inductive BreaksOff : List UInt8 → Prop where
  | intro
      {before rest : List UInt8}
      {characters : List Char}
      (encodes : Encodes before characters)
      (nonempty : rest ≠ [])
      (foreign :
        ∀ sequence after number,
          rest = sequence ++ after → ¬ CharacterBytes sequence number) :
      BreaksOff (before ++ rest)

/-- The number of bytes of a sequence that begins with a byte. -/
def sequenceLength (first : UInt8) : Nat :=
  if first.toNat ≤ 0x7F then 1
  else if first.toNat ≤ 0xDF then 2
  else if first.toNat ≤ 0xEF then 3
  else 4

namespace CharacterBytes

variable
  {bytes others rest after : List UInt8}
  {number other : Nat}

/-- The first byte of a sequence determines its length. -/
theorem exists_first
    (sequence : CharacterBytes bytes number) :
    ∃ first tail,
      bytes = first :: tail ∧ bytes.length = sequenceLength first := by
  cases sequence with
  | @one first high => exact ⟨first, _, rfl, by simp [sequenceLength, high]⟩
  | @two first second low high =>
      have lead : ¬ first.toNat ≤ 0x7F := by omega
      exact ⟨first, _, rfl, by simp [sequenceLength, lead, high]⟩
  | @three first second third low high =>
      have lead : ¬ first.toNat ≤ 0x7F ∧ ¬ first.toNat ≤ 0xDF := by omega
      exact ⟨first, _, rfl, by simp [sequenceLength, lead, high]⟩
  | @four first second third fourth low high =>
      have lead :
          ¬ first.toNat ≤ 0x7F ∧
            ¬ first.toNat ≤ 0xDF ∧ ¬ first.toNat ≤ 0xEF := by
        omega
      exact ⟨first, _, rfl, by simp [sequenceLength, lead]⟩

/-- No sequence of the table is the beginning of another. -/
theorem append_inj
    (sequence : CharacterBytes bytes number)
    (otherSequence : CharacterBytes others other)
    (same : bytes ++ rest = others ++ after) :
    bytes = others ∧ rest = after := by
  obtain ⟨first, tail, isCons, length⟩ := sequence.exists_first
  obtain ⟨otherFirst, otherTail, otherIsCons, otherLength⟩ :=
    otherSequence.exists_first
  have sameFirst : first = otherFirst := by
    rw [isCons, otherIsCons] at same
    exact (List.cons.inj same).1
  apply List.append_inj same
  rw [length, otherLength, sameFirst]

/-- Every sequence of the table stands for a character. -/
theorem isValidChar
    (sequence : CharacterBytes bytes number) :
    number.isValidChar := by
  unfold Nat.isValidChar
  cases sequence with
  | one high => omega
  | two low high continues =>
      obtain ⟨secondLow, secondHigh⟩ := continues
      unfold extended
      omega
  | three low high continues ends notOverlong notSurrogate =>
      obtain ⟨secondLow, secondHigh⟩ := continues
      obtain ⟨thirdLow, thirdHigh⟩ := ends
      unfold extended
      omega
  | four low high continues goesOn ends notOverlong notBeyond =>
      obtain ⟨secondLow, secondHigh⟩ := continues
      obtain ⟨thirdLow, thirdHigh⟩ := goesOn
      obtain ⟨fourthLow, fourthHigh⟩ := ends
      unfold extended
      omega

/-- A character has no other sequence than the one it is encoded by. -/
theorem eq_utf8EncodeChar
    {character : Char}
    (sequence : CharacterBytes bytes number)
    (isNumber : character.val.toNat = number) :
    bytes = String.utf8EncodeChar character := by
  simp only [String.utf8EncodeChar, isNumber]
  cases sequence with
  | one high => simp only [high, ↓reduceIte, UInt8.ofNat_toNat]
  | @two first second low high continues =>
      obtain ⟨secondLow, secondHigh⟩ := continues
      generalize total : extended (first.toNat - 0xC0) second = number
      unfold extended at total
      have range : ¬ number ≤ 0x7F ∧ number ≤ 0x7FF := by omega
      have firstByte : number / 64 % 32 + 192 = first.toNat := by omega
      have secondByte : number % 64 + 128 = second.toNat := by omega
      simp only [range, ↓reduceIte, firstByte, secondByte, UInt8.ofNat_toNat]
  | @three first second third low high continues ends notOverlong =>
      obtain ⟨secondLow, secondHigh⟩ := continues
      obtain ⟨thirdLow, thirdHigh⟩ := ends
      generalize total :
        extended (extended (first.toNat - 0xE0) second) third = number
      unfold extended at total
      have range :
          ¬ number ≤ 0x7F ∧ ¬ number ≤ 0x7FF ∧ number ≤ 0xFFFF := by
        omega
      have firstByte : number / 4096 % 16 + 224 = first.toNat := by omega
      have secondByte : number / 64 % 64 + 128 = second.toNat := by omega
      have thirdByte : number % 64 + 128 = third.toNat := by omega
      simp only [range, ↓reduceIte, firstByte, secondByte, thirdByte,
        UInt8.ofNat_toNat]
  | @four first second third fourth low high continues goesOn ends
      notOverlong notBeyond =>
      obtain ⟨secondLow, secondHigh⟩ := continues
      obtain ⟨thirdLow, thirdHigh⟩ := goesOn
      obtain ⟨fourthLow, fourthHigh⟩ := ends
      generalize total :
        extended (extended (extended (first.toNat - 0xF0) second) third)
          fourth = number
      unfold extended at total
      have range :
          ¬ number ≤ 0x7F ∧ ¬ number ≤ 0x7FF ∧ ¬ number ≤ 0xFFFF := by
        omega
      have firstByte : number / 262144 % 8 + 240 = first.toNat := by omega
      have secondByte : number / 4096 % 64 + 128 = second.toNat := by omega
      have thirdByte : number / 64 % 64 + 128 = third.toNat := by omega
      have fourthByte : number % 64 + 128 = fourth.toNat := by omega
      simp only [range, ↓reduceIte, firstByte, secondByte, thirdByte,
        fourthByte, UInt8.ofNat_toNat]

end CharacterBytes

/-- The byte with a value that a byte can have. -/
theorem exists_byte
    {value : Nat}
    (small : value < 256) :
    ∃ byte : UInt8, byte.toNat = value :=
  ⟨UInt8.ofNat value, UInt8.toNat_ofNat_of_lt small⟩

/-- Each of the six-bit parts of a number has a byte that goes on with it. -/
theorem exists_continues (part : Nat) :
    ∃ byte : UInt8, byte.toNat = 0x80 + part % 64 ∧ Continues byte := by
  obtain ⟨byte, isByte⟩ := exists_byte (by omega : 0x80 + part % 64 < 256)
  exact ⟨byte, isByte, by omega, by omega⟩

/-- Every number up to the last character, but for the surrogates, is in the table. -/
theorem exists_characterBytes
    {number : Nat}
    (valid : number.isValidChar) :
    ∃ bytes, CharacterBytes bytes number := by
  unfold Nat.isValidChar at valid
  obtain ⟨last, isLast, lastContinues⟩ := exists_continues number
  obtain ⟨third, isThird, thirdContinues⟩ := exists_continues (number / 64)
  obtain ⟨second, isSecond, secondContinues⟩ :=
    exists_continues (number / 4096)
  by_cases one : number ≤ 0x7F
  · obtain ⟨first, rfl⟩ := exists_byte (by omega : number < 256)
    exact ⟨[first], .one one⟩
  by_cases two : number ≤ 0x7FF
  · obtain ⟨first, isFirst⟩ :=
      exists_byte (by omega : 0xC0 + number / 64 < 256)
    have total : extended (first.toNat - 0xC0) last = number := by
      unfold extended
      omega
    rw [← total]
    exact ⟨_, .two (by omega) (by omega) lastContinues⟩
  by_cases three : number ≤ 0xFFFF
  · obtain ⟨first, isFirst⟩ :=
      exists_byte (by omega : 0xE0 + number / 4096 < 256)
    have total :
        extended (extended (first.toNat - 0xE0) third) last = number := by
      unfold extended
      omega
    rw [← total]
    exact ⟨_, .three (by omega) (by omega) thirdContinues lastContinues
      (by omega) (by omega)⟩
  · obtain ⟨first, isFirst⟩ :=
      exists_byte (by omega : 0xF0 + number / 262144 < 256)
    have total :
        extended (extended (extended (first.toNat - 0xF0) second) third)
          last = number := by
      unfold extended
      omega
    rw [← total]
    exact ⟨_, .four (by omega) (by omega) secondContinues thirdContinues
      lastContinues (by omega) (by omega)⟩

/-- The table has each character, with the bytes that it is encoded by. -/
theorem characterBytes_utf8EncodeChar (character : Char) :
    CharacterBytes (String.utf8EncodeChar character) character.toNat := by
  obtain ⟨bytes, sequence⟩ := exists_characterBytes character.valid
  have same := sequence.eq_utf8EncodeChar rfl
  rwa [← same]

/-- A text is encoded character by character. -/
theorem encodes_iff
    {bytes : List UInt8}
    {characters : List Char} :
    Encodes bytes characters ↔
      bytes = characters.flatMap String.utf8EncodeChar := by
  constructor
  · intro encodes
    induction encodes with
    | nil => rfl
    | cons sequence others inductionHypothesis =>
        rw [List.flatMap_cons, ← inductionHypothesis,
          ← sequence.eq_utf8EncodeChar rfl]
  · rintro rfl
    induction characters with
    | nil => exact .nil
    | cons character rest inductionHypothesis =>
        exact .cons (characterBytes_utf8EncodeChar character)
          inductionHypothesis

/-- What a text encodes to are its bytes. -/
theorem encodes_iff_eq_toByteArray
    {content : ByteArray}
    {text : String} :
    Encodes content.data.toList text.toList ↔ content = text.toByteArray := by
  rw [encodes_iff]
  constructor
  · intro same
    apply ByteArray.ext
    rw [← String.utf8Encode_toList, List.utf8Encode, List.data_toByteArray,
      ← same, Array.toArray_toList]
  · rintro rfl
    rw [← String.utf8Encode_toList, List.utf8Encode,
      List.toList_data_toByteArray]

/-- Bytes are read as the text that they encode, and as no other. -/
theorem fromUTF8?_eq_some_iff
    {content : ByteArray}
    {text : String} :
    String.fromUTF8? content = some text ↔
      Encodes content.data.toList text.toList := by
  rw [encodes_iff_eq_toByteArray]
  constructor
  · intro reads
    unfold String.fromUTF8? at reads
    split at reads
    next valid =>
      cases reads
      rfl
    next => contradiction
  · rintro rfl
    rw [String.fromUTF8?, dif_pos text.isValidUTF8]
    rfl

/-- A text can be cut off behind each of its sequences. -/
theorem Encodes.drop
    {before rest : List UInt8}
    {earlier characters : List Char}
    (encodes : Encodes (before ++ rest) characters)
    (beginning : Encodes before earlier) :
    ∃ later, Encodes rest later := by
  -- The sequences of the beginning are the first ones of the whole.
  induction beginning generalizing characters with
  | nil => exact ⟨characters, encodes⟩
  | @cons bytes others character earlier sequence _ inductionHypothesis =>
      rw [List.append_assoc] at encodes
      generalize whole : bytes ++ (others ++ rest) = total at encodes
      cases encodes with
      | nil =>
          obtain ⟨first, tail, isCons, -⟩ := sequence.exists_first
          simp [isCons] at whole
      | cons otherSequence remaining =>
          obtain ⟨-, rfl⟩ := sequence.append_inj otherSequence whole
          exact inductionHypothesis remaining

/-- Where no character begins, there is no text. -/
theorem BreaksOff.not_encodes
    {bytes : List UInt8}
    (breaksOff : BreaksOff bytes)
    (characters : List Char) :
    ¬ Encodes bytes characters := by
  intro encodes
  cases breaksOff with
  | intro beginning nonempty foreign =>
      obtain ⟨later, others⟩ := encodes.drop beginning
      cases others with
      | nil => exact nonempty rfl
      | cons sequence => exact foreign _ _ _ rfl sequence

/-- One more character before a place where none begins. -/
theorem BreaksOff.prepend
    {bytes rest : List UInt8}
    {character : Char}
    (sequence : CharacterBytes bytes character.toNat)
    (breaksOff : BreaksOff rest) :
    BreaksOff (bytes ++ rest) := by
  cases breaksOff with
  | intro encodes nonempty foreign =>
      rw [← List.append_assoc]
      exact .intro (.cons sequence encodes) nonempty foreign

/-- The character with a number that a character can have. -/
theorem exists_character
    {number : Nat}
    (valid : number.isValidChar) :
    ∃ character : Char, character.toNat = number :=
  ⟨.ofNatAux number valid, rfl⟩

/-- Bytes that are no text break off at some place. -/
theorem encodes_or_breaksOff (bytes : List UInt8) :
    (∃ characters, Encodes bytes characters) ∨ BreaksOff bytes := by
  induction length : bytes.length using Nat.strongRecOn generalizing bytes with
  | ind count inductionHypothesis =>
      by_cases nonempty : bytes = []
      · exact .inl ⟨[], nonempty ▸ .nil⟩
      by_cases begins :
          ∃ sequence after number,
            bytes = sequence ++ after ∧ CharacterBytes sequence number
      · obtain ⟨sequence, after, number, rfl, isSequence⟩ := begins
        obtain ⟨first, tail, rfl, -⟩ := isSequence.exists_first
        obtain ⟨character, rfl⟩ := exists_character isSequence.isValidChar
        have shorter : after.length < count := by
          rw [← length, List.length_append, List.length_cons]
          omega
        rcases inductionHypothesis _ shorter after rfl with
          ⟨characters, encodes⟩ | breaksOff
        · exact .inl ⟨_, .cons isSequence encodes⟩
        · exact .inr (breaksOff.prepend isSequence)
      · have foreign :
            ∀ sequence after number,
              bytes = sequence ++ after →
              ¬ CharacterBytes sequence number :=
          fun sequence after number split isSequence =>
            begins ⟨sequence, after, number, split, isSequence⟩
        exact .inr (.intro .nil nonempty foreign)

/-- Bytes break off at some place exactly if no text is encoded by them. -/
theorem breaksOff_iff {bytes : List UInt8} :
    BreaksOff bytes ↔ ∀ text : String, ¬ Encodes bytes text.toList := by
  constructor
  · intro breaksOff text
    exact breaksOff.not_encodes text.toList
  · intro noText
    rcases encodes_or_breaksOff bytes with ⟨characters, encodes⟩ | breaksOff
    · have encodesText : Encodes bytes (String.ofList characters).toList := by
        rwa [String.toList_ofList]
      exact absurd encodesText (noText _)
    · exact breaksOff

/-- Bytes that break off at some place are not read as a text. -/
theorem fromUTF8?_eq_none_iff {content : ByteArray} :
    String.fromUTF8? content = none ↔ BreaksOff content.data.toList := by
  rw [breaksOff_iff, Option.eq_none_iff_forall_ne_some]
  simp only [ne_eq, fromUTF8?_eq_some_iff]

section Loading

variable
  {files : Files}
  {path : String}
  {location : Location}
  {content : ByteArray}

/-- A path that leads to a file is read as the content of the file. -/
theorem Files.read_eq_content
    (leads : files.find path = .ok (.within location))
    (isFile : files.get? location = some (.file content)) :
    files.read path = .ok content := by
  simp only [Files.read, leads, Except.bind, bind, isFile]
  rfl

/--
A file that encodes a text is loaded as the image of that text, or refused for
what is wrong with the text. Every other file breaks off at some place, and it
is refused as no text whatever stands before and after that place.
-/
theorem load_agrees_with_parse
    (leads : files.find path = .ok (.within location))
    (isFile : files.get? location = some (.file content)) :
    (∀ text : String,
      Encodes content.data.toList text.toList →
      Image.load files path = Image.parse text) ∧
    ((∀ text : String, ¬ Encodes content.data.toList text.toList) →
      Image.load files path = .error (.unreadable .notText)) ∧
    (BreaksOff content.data.toList ↔
      ∀ text : String, ¬ Encodes content.data.toList text.toList) := by
  have reads := Files.read_eq_content leads isFile
  refine ⟨?text, ?noText, breaksOff_iff⟩
  case text =>
    intro text encodes
    rw [← fromUTF8?_eq_some_iff] at encodes
    simp only [Image.load, reads, Image.ofContent, encodes]
  case noText =>
    intro noText
    rw [← breaksOff_iff, ← fromUTF8?_eq_none_iff] at noText
    simp only [Image.load, reads, Image.ofContent, noText]

end Loading

/--
A directory with one program, which has a malformed line and then, in a
comment, a slash in two bytes instead of one.
-/
def overlongFile : Files :=
  Files.empty.put (.within ["p"])
    (.file ⟨#[0x32, 0x0A, 0x23, 0xC0, 0xAF]⟩)

/-- The slash that is too long decides, though it is in a comment. -/
theorem load_agrees_with_parse_overlongFile :
    overlongFile.find "p" = .ok (.within ["p"]) ∧
      BreaksOff [0x32, 0x0A, 0x23, 0xC0, 0xAF] ∧
      Image.load overlongFile "p" = .error (.unreadable .notText) := by
  have leads : overlongFile.find "p" = .ok (.within ["p"]) := by
    decide +kernel
  have isFile :
      overlongFile.get? ["p"] =
        some (.file ⟨#[0x32, 0x0A, 0x23, 0xC0, 0xAF]⟩) :=
    Files.get?_put _ (by decide +kernel)
  have beginning : Encodes [0x32, 0x0A, 0x23] ['2', '\n', '#'] :=
    encodes_iff.mpr (by decide +kernel)
  have foreign :
      ∀ sequence after number,
        ([0xC0, 0xAF] : List UInt8) = sequence ++ after →
        ¬ CharacterBytes sequence number := by
    intro sequence after number split isSequence
    obtain ⟨first, tail, rfl, -⟩ := isSequence.exists_first
    obtain ⟨rfl, -⟩ := List.cons.inj split
    cases isSequence with
    | one high => exact absurd high (by decide)
    | two low => exact absurd low (by decide)
    | three low => exact absurd low (by decide)
    | four low => exact absurd low (by decide)
  have breaksOff : BreaksOff [0x32, 0x0A, 0x23, 0xC0, 0xAF] :=
    .intro beginning (by decide) foreign
  obtain ⟨-, refused, noText⟩ := load_agrees_with_parse leads isFile
  exact ⟨leads, breaksOff, refused (noText.mp breaksOff)⟩

end LS8
