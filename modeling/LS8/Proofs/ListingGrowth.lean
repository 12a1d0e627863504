import LS8.Proofs.ListingText
import LS8.Proofs.SessionOutcome

namespace LS8

/-!
# Listings of longer images

An image that grows at its end keeps the blocks that it had. Only what was left
over is swept again, together with what has come (`sweep_append`); where nothing
was left over, the listing goes on with that of the new bytes, which is the same
from every address on but for the addresses (`sweep_add`).

All of this can be seen in the text of a listing (`Listing.lines`). A line is
known as left over by its end (`saysTrailing`), and it is moved by reading its
address and writing it anew (`movedLine`), whether or not the number of digits
stays the same.
-/

/-- The lines of a text in which every line is ended by a line feed. -/
def endedLines (text : List Char) : List (List Char) :=
  (text.splitOn '\n').dropLast

/-- Lines as a text, each of them ended by a line feed. -/
def unlines (lines : List (List Char)) : List Char :=
  lines.flatMap (· ++ ['\n'])

/-- The lines of the text of a listing. -/
def Listing.lines (image : List UInt8) : List (List Char) :=
  endedLines (Listing.text image).toList

/-- Whether a line of a listing shows a byte that is left over. -/
def saysTrailing (line : List Char) : Bool :=
  "(trailing)".toList.isSuffixOf line

/-- The number that a hexadecimal numeral stands for. -/
def hexadecimalValue (numeral : List Char) : Nat :=
  ofDigits 16 (numeral.filterMap hexadecimalDigit?)

/-- A line of a listing with a greater address. -/
def movedLine (offset : Nat) (line : List Char) : List Char :=
  addressNumeral (hexadecimalValue (line.takeWhile (· ≠ ':')) + offset) ++
    line.dropWhile (· ≠ ':')

/-- The line of a `NOP`. -/
def nopLine (address : Nat) : List Char :=
  addressNumeral address ++ ": 00        NOP".toList

/-- A line of a listing that begins at a later address. -/
def ListingLine.moved (offset : Nat) (line : ListingLine) : ListingLine :=
  { line with address := line.address + offset }

section

variable {start : Nat}

/-- A whole instruction is the first line of a listing. -/
theorem sweep_instruction
    {opcode : Opcode}
    {operands : List UInt8}
    (complete : operands.length = opcode.operandCount)
    (rest : List UInt8) :
    Listing.sweep start (opcode.byte :: (operands ++ rest)) =
      { address := start, block := .instruction opcode operands } ::
        Listing.sweep (start + opcode.size) rest := by
  have taken : (operands ++ rest).take opcode.operandCount = operands :=
    List.take_left' complete
  have left : (operands ++ rest).drop opcode.operandCount = rest :=
    List.drop_left' complete
  rw [Listing.sweep]
  simp only [Opcode.decode?_byte, taken, left, complete, ↓reduceIte]

/-- So is a byte that is no opcode. -/
theorem sweep_unknown
    {byte : UInt8}
    (undecoded : Opcode.decode? byte = none)
    (rest : List UInt8) :
    Listing.sweep start (byte :: rest) =
      { address := start, block := .unknown byte } ::
        Listing.sweep (start + 1) rest := by
  rw [Listing.sweep]
  simp only [undecoded]

/--
A longer image has the whole lines of the shorter one, and after them the lines
of what the shorter one had left over and of what comes behind it.
-/
theorem sweep_append
    {image : List UInt8}
    {whole leftOver : List ListingLine}
    (swept : Listing.sweep start image = whole ++ leftOver)
    (isWhole : ∀ line ∈ whole, line.block.isTrailing = false)
    (later : List UInt8) :
    Listing.sweep start (image ++ later) =
      whole ++
        Listing.sweep
          (start + (whole.flatMap ListingLine.bytes).length)
          (image.drop (whole.flatMap ListingLine.bytes).length ++ later) := by
  -- The induction is on the whole lines: each of them takes its bytes off the
  -- image, and whatever is appended stays behind.
  induction whole generalizing start image with
  | nil => rfl
  | cons line rest inductionHypothesis =>
      obtain ⟨lineWhole, restWhole⟩ := List.forall_mem_cons.mp isWhole
      have begins : Begins start image line (rest ++ leftOver) :=
        begins_of_sweep swept
      generalize others : rest ++ leftOver = following at begins
      rw [List.flatMap_cons, List.length_append, ← Nat.add_assoc,
        ← List.drop_drop]
      cases begins with
      | @instruction opcode operands bytes complete =>
          have size := length_of_complete complete
          have behind :
              (opcode.byte :: (operands ++ bytes)).drop opcode.size = bytes :=
            List.drop_left' size
          have lineSize :
              (ListingLine.bytes
                { address := start
                  block := .instruction opcode operands }).length =
                opcode.size :=
            size
          rw [lineSize, behind, List.cons_append, List.append_assoc,
            sweep_instruction complete, List.cons_append,
            inductionHypothesis others.symm restWhole]
      | @unknown byte bytes undecoded =>
          rw [List.cons_append, sweep_unknown undecoded, List.cons_append,
            inductionHypothesis others.symm restWhole]
          rfl
      | trailing cut => simp [Block.isTrailing] at lineWhole

/-- Behind an image with nothing left over, another one is listed by itself. -/
theorem sweep_append_of_whole
    {image : List UInt8}
    (isWhole :
      ∀ line ∈ Listing.sweep start image, line.block.isTrailing = false)
    (later : List UInt8) :
    Listing.sweep start (image ++ later) =
      Listing.sweep start image ++
        Listing.sweep (start + image.length) later := by
  have swept : Listing.sweep start image = Listing.sweep start image ++ [] :=
    (List.append_nil _).symm
  have appended := sweep_append swept isWhole later
  rwa [Listing.flatMap_bytes_sweep, List.drop_length, List.nil_append]
    at appended

theorem trailing_add
    (offset : Nat)
    (bytes : List UInt8) :
    Listing.trailing (start + offset) bytes =
      (Listing.trailing start bytes).map (ListingLine.moved offset) := by
  induction bytes generalizing start with
  | nil => rfl
  | cons byte rest inductionHypothesis =>
      rw [Listing.trailing, Listing.trailing, List.map_cons,
        ← inductionHypothesis, Nat.add_right_comm]
      rfl

/-- A listing from a later address on is the same with later addresses. -/
theorem sweep_add
    (start offset : Nat)
    (image : List UInt8) :
    Listing.sweep (start + offset) image =
      (Listing.sweep start image).map (ListingLine.moved offset) := by
  fun_induction Listing.sweep start image with
  | case1 => simp [Listing.sweep]
  | case2 start byte rest undecoded inductionHypothesis =>
      rw [sweep_unknown undecoded, List.map_cons, ← inductionHypothesis,
        Nat.add_right_comm]
      rfl
  | case3 start byte rest opcode decodes operands complete
      inductionHypothesis =>
      have parts :
          byte :: rest =
            opcode.byte ::
              (operands ++ rest.drop opcode.operandCount) := by
        rw [Opcode.byte_of_decode? decodes, List.take_append_drop]
      rw [parts, sweep_instruction complete, List.map_cons,
        ← inductionHypothesis, Nat.add_right_comm]
      rfl
  | case4 start byte rest opcode decodes operands incomplete =>
      rw [← trailing_add, Listing.sweep]
      simp only [decodes, operands, incomplete, ↓reduceIte]

/-- Zeros are listed as `NOP`, one on each line. -/
theorem sweep_zeros (start count : Nat) :
    Listing.sweep start (List.replicate count 0) =
      (List.range' start count).map fun address =>
        { address := address, block := .instruction .nop [] } := by
  induction count generalizing start with
  | zero => simp [Listing.sweep]
  | succ count inductionHypothesis =>
      have complete : ([] : List UInt8).length = Opcode.nop.operandCount := rfl
      rw [List.replicate_succ, List.range'_succ, List.map_cons,
        ← inductionHypothesis]
      exact sweep_instruction complete (List.replicate count 0)

end

/-- The text of a line, without its line feed. -/
def ListingLine.body (line : ListingLine) : List Char :=
  addressNumeral line.address ++
    ':' ::
      ([' '] ++ line.block.byteColumn.toList ++ [' '] ++
        line.block.remark.toList)

section

variable {line : ListingLine}

theorem ListingLine.toList_text
    (sound : line.block.Sound) :
    line.text.toList = line.body ++ ['\n'] := by
  simp [text, body, sound.meaning_eq, addressNumeral_eq]

theorem ListingLine.feed_notMem_body : '\n' ∉ line.body := by
  simp [body, feed_notMem_addressNumeral, feed_notMem_byteColumn,
    feed_notMem_remark]

/-- The remark on a whole block is written without parentheses. -/
theorem parenthesis_notMem_remark
    {block : Block}
    (whole : block.isTrailing = false) :
    ')' ∉ block.remark.toList := by
  cases block with
  | unknown byte => exact (by decide : ')' ∉ "???".toList)
  | trailing byte => simp [Block.isTrailing] at whole
  | instruction opcode operands =>
      have word : ')' ∉ opcode.mnemonic.toList := by
        cases opcode <;> decide
      have number (value : Nat) : ')' ∉ Nat.toDigits 10 value := by
        intro member
        have isDigit :=
          Nat.isDigit_of_mem_toDigits (by decide) (by decide) member
        exact absurd isDigit (by decide)
      simp only [Block.remark, assembly]
      split
      · split <;> simp [word, number]
      · simp [word, number]
      · exact word

theorem remark_ne_nil (block : Block) :
    block.remark.toList ≠ [] := by
  cases block with
  | unknown byte => exact (by decide : "???".toList ≠ [])
  | trailing byte => exact (by decide : "(trailing)".toList ≠ [])
  | instruction opcode operands =>
      have word : opcode.mnemonic.toList ≠ [] := by
        cases opcode <;> decide
      simp only [Block.remark, assembly]
      split
      · split <;> simp [word]
      · simp [word]
      · exact word

/-- A line says that it is left over if it shows such a block. -/
theorem saysTrailing_body :
    saysTrailing line.body = line.block.isTrailing := by
  have split :
      line.body =
        addressNumeral line.address ++
            ':' :: ([' '] ++ line.block.byteColumn.toList ++ [' ']) ++
          line.block.remark.toList := by
    simp [ListingLine.body]
  rw [split, saysTrailing]
  cases trailing : line.block.isTrailing with
  | true =>
      rw [List.isSuffixOf_iff_suffix]
      cases block : line.block with
      | trailing byte => exact List.suffix_append _ _
      | unknown byte | instruction opcode operands =>
          simp [block, Block.isTrailing] at trailing
  | false =>
      rw [← Bool.not_eq_true, List.isSuffixOf_iff_suffix]
      rintro ⟨front, ends⟩
      -- The last character of the line is that of the remark.
      have last := congrArg List.getLast? ends
      rw [List.getLast?_append_of_ne_nil _ (remark_ne_nil line.block),
        List.getLast?_append_of_ne_nil _ (by decide)] at last
      exact parenthesis_notMem_remark trailing
        (List.mem_of_getLast? last.symm)

end

/-- A numeral stands for the number that it was made for. -/
theorem hexadecimalValue_addressNumeral (value : Nat) :
    hexadecimalValue (addressNumeral value) = value := by
  have read (digits : List Nat) (small : ∀ digit ∈ digits, digit < 16) :
      (digits.map LetterCase.upper.digit).filterMap hexadecimalDigit? =
        digits := by
    rw [List.filterMap_map]
    induction digits with
    | nil => rfl
    | cons digit rest inductionHypothesis =>
        obtain ⟨smallDigit, smallRest⟩ := List.forall_mem_cons.mp small
        have first :
            (hexadecimalDigit? ∘ LetterCase.upper.digit) digit = some digit :=
          hexadecimalDigit?_digit digit smallDigit
        rw [List.filterMap_cons_some first, inductionHypothesis smallRest]
  rw [hexadecimalValue, addressNumeral_eq, hexadecimal, NumeralStyle.write,
    String.toList_ofList, NumeralStyle.characters]
  refine (congrArg (ofDigits 16) (read _ ?_)).trans ?_
  · exact fun _ member => NumeralStyle.lt_of_mem_paddedDigits member
  · exact (ofDigits_leftpad _ _ _).trans (ofDigits_digits _ _ _)

/-- What stands before the colon of a line is its address. -/
theorem movedLine_append
    (offset address : Nat)
    (columns : List Char) :
    movedLine offset (addressNumeral address ++ ':' :: columns) =
      addressNumeral (address + offset) ++ ':' :: columns := by
  have skipped :
      ∀ character ∈ addressNumeral address,
        decide (character ≠ ':') = true := by
    intro character member
    rw [addressNumeral_eq] at member
    simpa using (ne_of_mem_hexadecimal member).2.1
  have numeral :
      (addressNumeral address ++ ':' :: columns).takeWhile (· ≠ ':') =
        addressNumeral address := by
    rw [List.takeWhile_append_of_pos skipped,
      List.takeWhile_cons_of_neg (by decide), List.append_nil]
  have rest :
      (addressNumeral address ++ ':' :: columns).dropWhile (· ≠ ':') =
        ':' :: columns := by
    rw [List.dropWhile_append_of_pos skipped,
      List.dropWhile_cons_of_neg (by decide)]
  rw [movedLine, numeral, rest, hexadecimalValue_addressNumeral]

/-- Moving the text of a line moves the line. -/
theorem movedLine_body (offset : Nat) (line : ListingLine) :
    movedLine offset line.body = (line.moved offset).body :=
  movedLine_append offset line.address _

/-- The line of a `NOP` is the text of its block. -/
theorem body_nop (address : Nat) :
    ListingLine.body { address := address, block := .instruction .nop [] } =
      nopLine address := by
  have column :
      (Block.instruction .nop []).byteColumn.toList = "00       ".toList := by
    rw [Block.toList_byteColumn]
    decide
  have columns :
      ':' ::
          ([' '] ++ "00       ".toList ++ [' '] ++
            (Block.instruction .nop []).remark.toList) =
        ": 00        NOP".toList := by
    decide
  rw [ListingLine.body, column, columns, nopLine]

namespace Listing

/-- The text of a listing is made of the texts of its lines. -/
theorem toList_text (image : List UInt8) :
    (text image).toList =
      unlines ((ofImage image).map ListingLine.body) := by
  rw [text, String.toList_join, List.flatMap_map, unlines, List.flatMap_map]
  apply List.flatMap_congr
  intro line member
  exact ListingLine.toList_text ((partitions_sweep 0 image).sound line member)

theorem endedLines_unlines
    {lines : List (List Char)}
    (noFeed : ∀ line ∈ lines, '\n' ∉ line) :
    endedLines (unlines lines) = lines := by
  induction lines with
  | nil => rfl
  | cons line rest inductionHypothesis =>
      obtain ⟨lineNoFeed, restNoFeed⟩ := List.forall_mem_cons.mp noFeed
      have nonempty : (unlines rest).splitOn '\n' ≠ [] :=
        List.splitOn_ne_nil _ _
      rw [endedLines, unlines, List.flatMap_cons, List.append_assoc,
        List.singleton_append, splitOn_append_feed lineNoFeed]
      rw [← unlines, List.dropLast_cons_of_ne_nil nonempty]
      exact congrArg (line :: ·) (inductionHypothesis restNoFeed)

/-- The lines of the text are the texts of the lines. -/
theorem lines_eq (image : List UInt8) :
    lines image = (ofImage image).map ListingLine.body := by
  rw [lines, toList_text]
  apply endedLines_unlines
  intro body member
  obtain ⟨line, -, rfl⟩ := List.mem_map.mp member
  exact line.feed_notMem_body

/-- The lines that are not left over are the texts of the whole blocks. -/
theorem filter_lines (image : List UInt8) :
    (lines image).filter (fun line => !saysTrailing line) =
      ((ofImage image).filter fun line =>
        !line.block.isTrailing).map ListingLine.body := by
  rw [lines_eq, List.filter_map]
  congr 1
  apply List.filter_congr
  intro line _
  rw [Function.comp_apply, saysTrailing_body]

/-- The whole lines of an image are the first lines of every longer image. -/
theorem ofImage_begins_with_whole (earlier later : List UInt8) :
    (ofImage earlier).filter (fun line => !line.block.isTrailing) <+:
      ofImage (earlier ++ later) := by
  obtain ⟨whole, leftOver, split, isWhole, isLeftOver⟩ :=
    (partitions_sweep 0 earlier).ends
  have kept :
      (ofImage earlier).filter (fun line => !line.block.isTrailing) =
        whole := by
    have all : whole.filter (fun line => !line.block.isTrailing) = whole :=
      List.filter_eq_self.mpr fun line member => by
        rw [isWhole line member]
        rfl
    have none : leftOver.filter (fun line => !line.block.isTrailing) = [] :=
      List.filter_eq_nil_iff.mpr fun line member => by
        rw [isLeftOver.trailing line member]
        decide
    rw [ofImage, split, List.filter_append, all, none, List.append_nil]
  rw [kept, ofImage, sweep_append split isWhole]
  exact List.prefix_append _ _

/-- In text, too. -/
theorem lines_begins_with_whole (earlier later : List UInt8) :
    (lines earlier).filter (fun line => !saysTrailing line) <+:
      lines (earlier ++ later) := by
  rw [filter_lines, lines_eq]
  exact (ofImage_begins_with_whole earlier later).map ListingLine.body

/-- Without lines that are left over, all blocks are whole. -/
theorem whole_of_lines
    {image : List UInt8}
    (whole : ∀ line ∈ lines image, saysTrailing line = false) :
    ∀ line ∈ sweep 0 image, line.block.isTrailing = false := by
  intro line member
  rw [← saysTrailing_body]
  apply whole
  rw [lines_eq]
  exact List.mem_map_of_mem member

/-- Behind whole lines come the lines of another image, moved on. -/
theorem lines_append
    {earlier : List UInt8}
    (whole : ∀ line ∈ lines earlier, saysTrailing line = false)
    (later : List UInt8) :
    lines (earlier ++ later) =
      lines earlier ++ (lines later).map (movedLine earlier.length) := by
  have moved :
      movedLine earlier.length ∘ ListingLine.body =
        ListingLine.body ∘ ListingLine.moved earlier.length :=
    funext fun line => movedLine_body earlier.length line
  rw [lines_eq, lines_eq, lines_eq, List.map_map, moved, ← List.map_map,
    ← List.map_append, ofImage, ofImage, ofImage,
    sweep_append_of_whole (whole_of_lines whole), sweep_add]

/-- Memory behind an image is listed as one `NOP` for each address. -/
theorem lines_append_zeros
    {image : List UInt8}
    (whole : ∀ line ∈ lines image, saysTrailing line = false)
    (count : Nat) :
    lines (image ++ List.replicate count 0) =
      lines image ++ (List.range' image.length count).map nopLine := by
  rw [lines_eq, lines_eq, ofImage, ofImage,
    sweep_append_of_whole (whole_of_lines whole), Nat.zero_add, sweep_zeros,
    List.map_append, List.map_map]
  congr 1
  apply List.map_congr_left
  exact fun address _ => body_nop address

/-- A listing's text is that of its lines. -/
theorem unlines_lines (image : List UInt8) :
    unlines (lines image) = (text image).toList := by
  rw [lines_eq, toList_text]

end Listing

/--
The text of a listing is made of lines. However an image goes on, the lines that
are not left over are the first lines of the longer image. If none is left over,
the listing of the longer image is that of the image followed by the lines of
the new bytes, with addresses that are greater by the length of the image. The
listing of a memory into which an image was loaded therefore begins with the
lines that are not left over, and behind an image with nothing left over it has
one `NOP` for each address.
-/
theorem listing_extends (earlier : List UInt8) :
    unlines (Listing.lines earlier) = (Listing.text earlier).toList ∧
      (∀ later,
        (Listing.lines earlier).filter (fun line => !saysTrailing line) <+:
            Listing.lines (earlier ++ later) ∧
          ((∀ line ∈ Listing.lines earlier, saysTrailing line = false) →
            (Listing.text (earlier ++ later)).toList =
              (Listing.text earlier).toList ++
                unlines
                  ((Listing.lines later).map
                    (movedLine earlier.length)))) ∧
      (earlier.length ≤ 256 →
        ∃ loaded,
          Processor.initial.load earlier = .ok loaded ∧
            (Listing.lines earlier).filter (fun line => !saysTrailing line) <+:
              Listing.lines loaded.memory.toList ∧
            ((∀ line ∈ Listing.lines earlier, saysTrailing line = false) →
              Listing.lines loaded.memory.toList =
                Listing.lines earlier ++
                  (List.range' earlier.length (256 - earlier.length)).map
                    nopLine)) := by
  refine ⟨Listing.unlines_lines earlier, ?_, ?_⟩
  · intro later
    refine ⟨Listing.lines_begins_with_whole earlier later, ?_⟩
    intro whole
    rw [← Listing.unlines_lines, Listing.lines_append whole,
      ← Listing.unlines_lines earlier]
    exact List.flatMap_append
  · intro fits
    obtain ⟨loaded, loads, carries⟩ := Processor.exists_load fits
    refine ⟨loaded, loads, ?_, ?_⟩
    · rw [carries.cells]
      exact Listing.lines_begins_with_whole earlier _
    · intro whole
      rw [carries.cells]
      exact Listing.lines_append_zeros whole _

/-- Behind a whole `PRN`, an `LDI` that is cut off is listed as if it were alone. -/
theorem listing_extends_printThenCut :
    ((∀ line ∈ Listing.lines [0x47, 0], saysTrailing line = false) ∧
      (Listing.text ([0x47, 0] ++ [0x82, 5])).toList =
        (Listing.text [0x47, 0]).toList ++
          unlines ((Listing.lines [0x82, 5]).map (movedLine 2))) ∧
    [(0x47 : UInt8), 0].length ≤ 256 ∧
      ∃ loaded,
        Processor.initial.load [0x47, 0] = .ok loaded ∧
          Listing.lines loaded.memory.toList =
            Listing.lines [0x47, 0] ++ (List.range' 2 254).map nopLine := by
  have whole :
      ∀ line ∈ Listing.lines [0x47, 0], saysTrailing line = false := by
    decide +kernel
  have fits : [(0x47 : UInt8), 0].length ≤ 256 := by decide
  obtain ⟨-, appended, placed⟩ := listing_extends [0x47, 0]
  obtain ⟨loaded, loads, -, listed⟩ := placed fits
  exact ⟨⟨whole, (appended [0x82, 5]).2 whole⟩, fits, loaded, loads,
    listed whole⟩

/-- A line that is left over may become part of another one. -/
example :
    Listing.lines [0x47] = ["00: 47        (trailing)".toList] ∧
      Listing.lines ([0x47] ++ [0]) = ["00: 47 00     PRN R0".toList] := by
  decide +kernel

end LS8
