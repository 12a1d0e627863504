import Mathlib.Data.List.Forall2
import LS8.Proofs.ListingBlocks
import LS8.Proofs.TextLines

namespace LS8

/-!
# The text of a listing

A line of a listing has three columns: the address of its block and a colon,
the bytes of the block in nine places, and a remark, which for an instruction
is its assembly. `Shows` describes such a line without the functions that write
it, and `shownBytes?` reads its bytes back.

The lines of a listing show the blocks of the image (`text_partitions_image`),
and as their bytes can be read back, no two images have the same listing.
-/

/-- An address in upper-case hexadecimal, with two digits or more. -/
def addressNumeral (address : Nat) : List Char :=
  ((Nat.toDigits 16 address).map Char.toUpper).leftpad 2 '0'

/-- The value of an upper-case hexadecimal digit. -/
def hexadecimalDigit? (character : Char) : Option Nat :=
  "0123456789ABCDEF".toList.idxOf? character

/-- The bytes of a text of hexadecimal digits, two for each byte. -/
def bytesOfDigits? : List Char → Option (List UInt8)
  | [] => some []
  | high :: low :: rest => do
      let upper ← hexadecimalDigit? high
      let lower ← hexadecimalDigit? low
      let bytes ← bytesOfDigits? rest
      return UInt8.ofNat (16 * upper + lower) :: bytes
  | [_] => none

/-- The bytes of a column, in which blanks separate them or fill it up. -/
def columnBytes? (column : List Char) : Option (List UInt8) :=
  bytesOfDigits? (column.filter (· ≠ ' '))

/-- The bytes that a line shows, in nine places after the colon and a blank. -/
def shownBytes? (line : List Char) : Option (List UInt8) :=
  columnBytes? (((line.dropWhile (· ≠ ':')).drop 2).take 9)

/-- An instruction in assembly. -/
def assembly (opcode : Opcode) : List UInt8 → String
  | [first, second] =>
      opcode.mnemonic ++ " R" ++ first.toNat.repr ++ ", " ++
        (if opcode = .ldi then "" else "R") ++ second.toNat.repr
  | [first] => opcode.mnemonic ++ " R" ++ first.toNat.repr
  | _ => opcode.mnemonic

/-- What a listing says about a block, apart from its bytes. -/
def Block.remark : Block → String
  | .instruction opcode operands => assembly opcode operands
  | .unknown _ => "???"
  | .trailing _ => "(trailing)"

/-- A line of text shows a block at its address. -/
inductive Shows (line : ListingLine) : List Char → Prop where
  | intro
      {column : List Char}
      (width : column.length = 9)
      (bytes : columnBytes? column = some line.bytes) :
      Shows line
        (addressNumeral line.address ++ [':', ' '] ++ column ++ [' '] ++
          line.block.remark.toList)

theorem operands_cases (opcode : Opcode) :
    opcode.operands = [] ∨
      opcode.operands = [.register] ∨
      opcode = .ldi ∨
      opcode ≠ .ldi ∧ opcode.operands = [.register, .register] := by
  cases opcode <;> decide

/-- What a listing says about a sound block is its remark. -/
theorem Block.Sound.meaning_eq
    {block : Block}
    (sound : block.Sound) :
    block.meaning = block.remark := by
  cases block with
  | unknown byte => rfl
  | trailing byte => rfl
  | instruction opcode operands =>
      have length : operands.length = opcode.operands.length := by
        rw [Opcode.length_operands]
        change operands.length + 1 = 1 + opcode.operandCount at sound
        omega
      simp only [Block.meaning, Block.remark]
      rcases operands_cases opcode with none | one | rfl | ⟨notLoad, two⟩
      · rw [none] at length
        rw [none, List.eq_nil_of_length_eq_zero length]
        rfl
      · rw [one] at length
        obtain ⟨first, rfl⟩ := List.length_eq_one_iff.mp length
        rw [one]
        simp [Block.operandText, assembly, decimal_eq_repr,
          ← String.toList_inj]
      · obtain ⟨first, second, rfl⟩ := List.length_eq_two.mp length
        simp [Opcode.operands, Block.operandText, assembly, decimal_eq_repr,
          ← String.toList_inj]
      · rw [two] at length
        obtain ⟨first, second, rfl⟩ := List.length_eq_two.mp length
        rw [two]
        simp [Block.operandText, assembly, decimal_eq_repr, notLoad,
          ← String.toList_inj]

/-- A sound block has one to three bytes. -/
theorem Block.Sound.length_bytes
    {block : Block}
    (sound : block.Sound) :
    1 ≤ block.bytes.length ∧ block.bytes.length ≤ 3 := by
  cases block with
  | unknown byte | trailing byte => exact ⟨Nat.le_refl 1, (by decide : 1 ≤ 3)⟩
  | instruction opcode operands =>
      have length : (operands.length + 1) = 1 + opcode.operandCount := sound
      have small := opcode.operandCount_le_two
      simp only [Block.bytes, List.length_cons]
      omega

/-- Digits are no blanks, no colons and no line feeds. -/
theorem digit_ne :
    ∀ digit, digit < 16 →
      LetterCase.upper.digit digit ≠ ' ' ∧
        LetterCase.upper.digit digit ≠ ':' ∧
        LetterCase.upper.digit digit ≠ '\n' := by
  decide

theorem ne_of_mem_hexadecimal
    {value : Nat}
    {character : Char}
    (member : character ∈ (hexadecimal value).toList) :
    character ≠ ' ' ∧ character ≠ ':' ∧ character ≠ '\n' := by
  obtain ⟨digit, small, rfl⟩ := exists_digit_of_mem_write member
  exact digit_ne digit small

theorem hexadecimalDigit?_digit :
    ∀ digit, digit < 16 →
      hexadecimalDigit? (LetterCase.upper.digit digit) = some digit := by
  decide

/-- The two digits of a byte. -/
def digitPair (byte : UInt8) : List Char :=
  [LetterCase.upper.digit (byte.toNat / 16),
    LetterCase.upper.digit (byte.toNat % 16)]

section

variable (byte : UInt8)

theorem toList_hexadecimal_byte :
    (hexadecimal byte.toNat).toList = digitPair byte :=
  toList_hexadecimal_of_lt byte.toNat_lt

theorem filter_digitPair :
    (digitPair byte).filter (· ≠ ' ') = digitPair byte := by
  rw [List.filter_eq_self]
  intro character member
  rw [← toList_hexadecimal_byte] at member
  simpa using (ne_of_mem_hexadecimal member).1

theorem bytesOfDigits?_append (rest : List Char) :
    bytesOfDigits? (digitPair byte ++ rest) =
      (bytesOfDigits? rest).map (byte :: ·) := by
  have bound := byte.toNat_lt
  have upper := hexadecimalDigit?_digit (byte.toNat / 16) (by omega)
  have lower := hexadecimalDigit?_digit (byte.toNat % 16) (by omega)
  have value : UInt8.ofNat (16 * (byte.toNat / 16) + byte.toNat % 16) = byte := by
    rw [Nat.div_add_mod, UInt8.ofNat_toNat]
  simp only [digitPair, List.cons_append, List.nil_append, bytesOfDigits?,
    upper, lower, value, Option.bind_eq_bind, Option.bind_some, Option.pure_def]
  cases bytesOfDigits? rest <;> rfl

end

/-- The digits of bytes with a blank between each and the next. -/
def spacedDigits (bytes : List UInt8) : List Char :=
  [' '].intercalate (bytes.map digitPair)

theorem spacedDigits_cons_cons (first second : UInt8) (rest : List UInt8) :
    spacedDigits (first :: second :: rest) =
      digitPair first ++ [' '] ++ spacedDigits (second :: rest) :=
  List.intercalate_cons_cons

theorem spacedDigits_singleton (byte : UInt8) :
    spacedDigits [byte] = digitPair byte :=
  List.intercalate_singleton

theorem length_spacedDigits (first : UInt8) (rest : List UInt8) :
    (spacedDigits (first :: rest)).length + 1 = 3 * (rest.length + 1) := by
  induction rest generalizing first with
  | nil => rfl
  | cons second rest inductionHypothesis =>
      have onRest := inductionHypothesis second
      rw [spacedDigits_cons_cons, List.length_append, List.length_append]
      simp only [digitPair, List.length_cons, List.length_nil]
      omega

theorem filter_spacedDigits (bytes : List UInt8) :
    (spacedDigits bytes).filter (· ≠ ' ') = bytes.flatMap digitPair := by
  induction bytes with
  | nil => rfl
  | cons first rest inductionHypothesis =>
      cases rest with
      | nil =>
          rw [spacedDigits_singleton, filter_digitPair]
          simp
      | cons second rest =>
          rw [spacedDigits_cons_cons, List.filter_append, List.filter_append,
            filter_digitPair, inductionHypothesis]
          simp

theorem columnBytes?_spacedDigits
    (bytes : List UInt8)
    (fill : Nat) :
    columnBytes? (spacedDigits bytes ++ List.replicate fill ' ') =
      some bytes := by
  have filled : (List.replicate fill ' ').filter (· ≠ ' ') = [] := by simp
  rw [columnBytes?, List.filter_append, filter_spacedDigits, filled,
    List.append_nil]
  induction bytes with
  | nil => rfl
  | cons byte rest inductionHypothesis =>
      rw [List.flatMap_cons, bytesOfDigits?_append, inductionHypothesis]
      rfl

theorem Block.toList_byteColumn (block : Block) :
    block.byteColumn.toList =
      spacedDigits block.bytes ++
        List.replicate (9 - (spacedDigits block.bytes).length) ' ' := by
  have column :
      (" ".intercalate
          (block.bytes.map fun byte => hexadecimal byte.toNat)).toList =
        spacedDigits block.bytes := by
    have digits :
        String.toList ∘ (fun byte : UInt8 => hexadecimal byte.toNat) =
          digitPair :=
      funext toList_hexadecimal_byte
    rw [String.toList_intercalate, List.map_map, digits]
    rfl
  rw [Block.byteColumn, String.toList_append, String.toList_ofList, column,
    ← String.length_toList, column]

/-- The bytes of a sound block fit in nine places. -/
theorem Block.Sound.length_byteColumn
    {block : Block}
    (sound : block.Sound) :
    block.byteColumn.toList.length = 9 := by
  have digits : (spacedDigits block.bytes).length ≤ 9 := by
    obtain ⟨atLeast, atMost⟩ := sound.length_bytes
    obtain ⟨first, rest, isCons⟩ := List.exists_cons_of_length_pos atLeast
    have length := length_spacedDigits first rest
    rw [isCons, List.length_cons] at atMost
    rw [isCons]
    omega
  rw [Block.toList_byteColumn, List.length_append, List.length_replicate]
  omega

theorem Block.columnBytes?_byteColumn (block : Block) :
    columnBytes? block.byteColumn.toList = some block.bytes := by
  rw [Block.toList_byteColumn, columnBytes?_spacedDigits]

theorem addressNumeral_eq (address : Nat) :
    addressNumeral address = (hexadecimal address).toList :=
  (toList_hexadecimal address).symm

theorem feed_notMem_addressNumeral (address : Nat) :
    '\n' ∉ addressNumeral address := by
  intro member
  rw [addressNumeral_eq] at member
  exact (ne_of_mem_hexadecimal member).2.2 rfl

theorem feed_notMem_byteColumn (block : Block) :
    '\n' ∉ block.byteColumn.toList := by
  intro member
  rw [Block.toList_byteColumn] at member
  rcases List.mem_append.mp member with inDigits | inFill
  · -- Apart from blanks, there are only the digits of bytes in the column.
    have shown : '\n' ∈ (spacedDigits block.bytes).filter (· ≠ ' ') :=
      List.mem_filter.mpr ⟨inDigits, by decide⟩
    rw [filter_spacedDigits] at shown
    obtain ⟨byte, _, inPair⟩ := List.mem_flatMap.mp shown
    rw [← toList_hexadecimal_byte] at inPair
    exact (ne_of_mem_hexadecimal inPair).2.2 rfl
  · exact absurd (List.eq_of_mem_replicate inFill) (by decide)

theorem feed_notMem_mnemonic (opcode : Opcode) :
    '\n' ∉ opcode.mnemonic.toList := by
  cases opcode <;> decide

theorem feed_notMem_remark (block : Block) :
    '\n' ∉ block.remark.toList := by
  cases block with
  | unknown byte => exact (by decide : '\n' ∉ "???".toList)
  | trailing byte => exact (by decide : '\n' ∉ "(trailing)".toList)
  | instruction opcode operands =>
      have word := feed_notMem_mnemonic opcode
      simp only [Block.remark, assembly]
      split
      · split <;> simp [word, feed_notMem_toDigits]
      · simp [word, feed_notMem_toDigits]
      · exact word

/-- The text of a sound line is a line that shows its block. -/
theorem ListingLine.shows_text
    (line : ListingLine)
    (sound : line.block.Sound) :
    ∃ body,
      line.text.toList = body ++ ['\n'] ∧ '\n' ∉ body ∧ Shows line body := by
  refine ⟨_, ?_, ?_,
    .intro sound.length_byteColumn line.block.columnBytes?_byteColumn⟩
  · simp [ListingLine.text, sound.meaning_eq, addressNumeral_eq]
  · simp [feed_notMem_addressNumeral, feed_notMem_byteColumn,
      feed_notMem_remark]

/-- The lines of a text made of sound lines show their blocks. -/
theorem exists_shows
    {lines : List ListingLine}
    (sound : ∀ line ∈ lines, line.block.Sound) :
    ∃ texts,
      TextLines (lines.flatMap fun line => line.text.toList) texts ∧
        List.Forall₂ Shows lines texts := by
  induction lines with
  | nil => exact ⟨[], .empty, .nil⟩
  | cons line rest inductionHypothesis =>
      obtain ⟨soundLine, soundRest⟩ := List.forall_mem_cons.mp sound
      obtain ⟨texts, textLines, shows⟩ := inductionHypothesis soundRest
      obtain ⟨body, isText, noFeed, showsLine⟩ := line.shows_text soundLine
      refine ⟨body :: texts, ?_, .cons showsLine shows⟩
      rw [List.flatMap_cons, isText, List.append_assoc]
      exact .feed noFeed textLines

/-- The bytes of a line are read back from its text. -/
theorem Shows.shownBytes?_eq
    {line : ListingLine}
    {body : List Char}
    (shows : Shows line body) :
    shownBytes? body = some line.bytes := by
  cases shows with
  | @intro column width bytes =>
      have skipped :
          ∀ character ∈ addressNumeral line.address,
            decide (character ≠ ':') = true := by
        intro character member
        rw [addressNumeral_eq] at member
        simpa using (ne_of_mem_hexadecimal member).2.1
      rw [shownBytes?, List.append_assoc, List.append_assoc,
        List.append_assoc, List.dropWhile_append_of_pos skipped]
      change columnBytes? ((column ++ _).take 9) = _
      rw [List.take_left' width, bytes]

theorem mapM_shownBytes?
    {lines : List ListingLine}
    {texts : List (List Char)}
    (shows : List.Forall₂ Shows lines texts) :
    texts.mapM shownBytes? = some (lines.map ListingLine.bytes) := by
  induction shows with
  | nil => rfl
  | cons showsLine _ inductionHypothesis =>
      rw [List.mapM_cons, showsLine.shownBytes?_eq, inductionHypothesis]
      rfl

/-- The lines of a listing's text show its lines, one for one. -/
theorem Listing.exists_texts (image : List UInt8) :
    ∃ texts,
      TextLines (Listing.text image).toList texts ∧
        List.Forall₂ Shows (Listing.ofImage image) texts := by
  obtain ⟨texts, textLines, shows⟩ :=
    exists_shows (partitions_sweep 0 image).sound
  refine ⟨texts, ?_, shows⟩
  rw [Listing.text, String.toList_join, List.flatMap_map]
  exact textLines

/-- The lines of a listing show the blocks of its image. -/
theorem Listing.exists_lines (image : List UInt8) :
    ∃ lines texts,
      TextLines (Listing.text image).toList texts ∧
        List.Forall₂ Shows lines texts ∧
        Partitions 0 image lines ∧
        (texts.mapM shownBytes?).map List.flatten = some image := by
  obtain ⟨texts, textLines, shows⟩ := Listing.exists_texts image
  have partitions : Partitions 0 image (Listing.ofImage image) :=
    partitions_sweep 0 image
  refine ⟨_, texts, textLines, shows, partitions, ?_⟩
  rw [mapM_shownBytes? shows, Option.map_some, ← List.flatMap_def,
    partitions.covers]

/--
The listing of an image is a text whose lines show, one for one, the blocks of
the image, and the bytes that they show are together the image.
No two images have the same listing.
-/
theorem text_partitions_image :
    (∀ image,
      ∃ lines texts,
        TextLines (Listing.text image).toList texts ∧
          List.Forall₂ Shows lines texts ∧
          Partitions 0 image lines ∧
          (texts.mapM shownBytes?).map List.flatten = some image) ∧
      Function.Injective Listing.text := by
  refine ⟨Listing.exists_lines, ?_⟩
  intro left right same
  obtain ⟨_, texts, textLines, _, _, readLeft⟩ := Listing.exists_lines left
  obtain ⟨_, others, textOthers, _, _, readRight⟩ := Listing.exists_lines right
  -- One text has one list of lines, and reading it gives one image.
  rw [← same] at textOthers
  rw [textOthers.unique textLines, readLeft] at readRight
  exact Option.some.inj readRight

example :
    Listing.text [0x82, 0, 8, 0xFF, 0x47] =
      "00: 82 00 08  LDI R0, 8\n03: FF        ???\n04: 47        (trailing)\n" := by
  cbv

end LS8
