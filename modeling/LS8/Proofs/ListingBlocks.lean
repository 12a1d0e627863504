import LS8.Listing

namespace LS8

/-!
# The blocks of a listing

`Partitions` says what the lines of a listing are to an image: consecutive
blocks that cover it from its first byte to its last, each of them an
instruction with all of its operand bytes, or a byte that is no opcode. Only at
the end there may be single bytes left over, of an instruction that the end of
the image cuts off.

The sweep partitions every image (`partitions_sweep`).
-/

/-- Whether a block is left over from an instruction that is cut off. -/
def Block.isTrailing : Block → Bool
  | .trailing _ => true
  | .instruction .. | .unknown _ => false

/-- Whether a block is a whole instruction, or a byte that is no opcode. -/
def Block.Sound : Block → Prop
  | .instruction opcode operands => operands.length + 1 = opcode.size
  | .unknown byte => ∀ opcode : Opcode, opcode.byte ≠ byte
  | .trailing _ => True

/-- Whether each line begins where the one before it ends. -/
def Consecutive : Nat → List ListingLine → Prop
  | _, [] => True
  | start, line :: rest =>
      line.address = start ∧ Consecutive (start + line.bytes.length) rest

/-- What is left over at the end of an image that cuts off an instruction. -/
structure LeftOver (lines : List ListingLine) : Prop where
  trailing : ∀ line ∈ lines, line.block.isTrailing = true
  length_le : lines.length ≤ 2
  /-- The first byte asks for more bytes than there are. -/
  cut :
    ∀ first rest,
      lines = first :: rest →
      ∃ opcode : Opcode,
        first.bytes = [opcode.byte] ∧
          (lines.flatMap ListingLine.bytes).length < opcode.size

/-- Lines that cut an image into blocks, from an address on. -/
structure Partitions
    (start : Nat)
    (image : List UInt8)
    (lines : List ListingLine) :
    Prop where
  covers : lines.flatMap ListingLine.bytes = image
  consecutive : Consecutive start lines
  sound : ∀ line ∈ lines, line.block.Sound
  ends :
    ∃ whole leftOver,
      lines = whole ++ leftOver ∧
        (∀ line ∈ whole, line.block.isTrailing = false) ∧
        LeftOver leftOver

namespace Partitions

variable {start : Nat}

theorem nil (start : Nat) : Partitions start [] [] where
  covers := rfl
  consecutive := trivial
  sound := by simp
  ends :=
    ⟨[], [], rfl, by simp,
      { trailing := by simp, length_le := by simp, cut := by simp }⟩

/-- One more block before the others. -/
theorem cons
    {block : Block}
    {image : List UInt8}
    {lines : List ListingLine}
    (sound : block.Sound)
    (whole : block.isTrailing = false)
    (others : Partitions (start + block.bytes.length) image lines) :
    Partitions start (block.bytes ++ image)
      ({ address := start, block := block } :: lines) where
  covers := by
    rw [List.flatMap_cons, others.covers]
    rfl
  consecutive := ⟨rfl, others.consecutive⟩
  sound := List.forall_mem_cons.mpr ⟨sound, others.sound⟩
  ends := by
    obtain ⟨earlier, leftOver, split, earlierWhole, isLeftOver⟩ := others.ends
    exact ⟨_ :: earlier, leftOver, by rw [split]; rfl,
      List.forall_mem_cons.mpr ⟨whole, earlierWhole⟩, isLeftOver⟩

end Partitions

theorem trailing_cases
    {start : Nat}
    {bytes : List UInt8}
    {line : ListingLine}
    (member : line ∈ Listing.trailing start bytes) :
    ∃ byte, line.block = .trailing byte := by
  induction bytes generalizing start with
  | nil => simp [Listing.trailing] at member
  | cons byte rest inductionHypothesis =>
      rcases List.mem_cons.mp member with rfl | inRest
      · exact ⟨byte, rfl⟩
      · exact inductionHypothesis inRest

theorem consecutive_trailing (start : Nat) (bytes : List UInt8) :
    Consecutive start (Listing.trailing start bytes) := by
  induction bytes generalizing start with
  | nil => trivial
  | cons byte rest inductionHypothesis =>
      exact ⟨rfl, inductionHypothesis (start + 1)⟩

theorem length_trailing (start : Nat) (bytes : List UInt8) :
    (Listing.trailing start bytes).length = bytes.length := by
  induction bytes generalizing start with
  | nil => rfl
  | cons byte rest inductionHypothesis =>
      exact congrArg (· + 1) (inductionHypothesis (start + 1))

/-- The bytes of an instruction that is cut off are left over. -/
theorem leftOver_trailing
    {start : Nat}
    {opcode : Opcode}
    {operands : List UInt8}
    (cut : operands.length + 1 < opcode.size) :
    LeftOver (Listing.trailing start (opcode.byte :: operands)) where
  trailing := by
    intro line member
    obtain ⟨byte, isTrailing⟩ := trailing_cases member
    rw [isTrailing]
    rfl
  length_le := by
    have size : opcode.size = 1 + opcode.operandCount := rfl
    have small := opcode.operandCount_le_two
    rw [length_trailing, List.length_cons]
    omega
  cut := by
    intro first rest split
    refine ⟨opcode, ?_, ?_⟩
    · rw [← (List.cons.inj split).1]
      rfl
    · rw [Listing.flatMap_bytes_trailing]
      exact cut

theorem partitions_trailing
    {opcode : Opcode}
    {operands : List UInt8}
    (start : Nat)
    (cut : operands.length + 1 < opcode.size) :
    Partitions start (opcode.byte :: operands)
      (Listing.trailing start (opcode.byte :: operands)) where
  covers := Listing.flatMap_bytes_trailing start (opcode.byte :: operands)
  consecutive := consecutive_trailing start (opcode.byte :: operands)
  sound := by
    intro line member
    obtain ⟨byte, isTrailing⟩ := trailing_cases member
    rw [isTrailing]
    trivial
  ends := ⟨[], _, rfl, by simp, leftOver_trailing cut⟩

/-- The bytes of an instruction are as many as its opcode says. -/
theorem length_of_complete
    {opcode : Opcode}
    {operands : List UInt8}
    (complete : operands.length = opcode.operandCount) :
    (opcode.byte :: operands).length = opcode.size := by
  rw [List.length_cons, complete, Opcode.size, Nat.add_comm]

/-- The sweep cuts every image into blocks. -/
theorem partitions_sweep (start : Nat) (image : List UInt8) :
    Partitions start image (Listing.sweep start image) := by
  fun_induction Listing.sweep start image with
  | case1 start => exact .nil start
  | case2 start byte rest undecoded inductionHypothesis =>
      let block : Block := .unknown byte
      have sound : block.Sound := Opcode.decode?_eq_none_iff.mp undecoded
      have others :
          Partitions (start + block.bytes.length) rest
            (Listing.sweep (start + 1) rest) :=
        inductionHypothesis
      exact others.cons sound rfl
  | case3 start byte rest opcode decodes operands complete
      inductionHypothesis =>
      let block : Block := .instruction opcode operands
      have sound : block.Sound := length_of_complete complete
      have others :
          Partitions (start + block.bytes.length)
            (rest.drop opcode.operandCount)
            (Listing.sweep (start + opcode.size)
              (rest.drop opcode.operandCount)) := by
        have length : block.bytes.length = opcode.size := sound
        rw [length]
        exact inductionHypothesis
      have covered :
          byte :: rest = block.bytes ++ rest.drop opcode.operandCount := by
        rw [← Opcode.byte_of_decode? decodes]
        exact congrArg (opcode.byte :: ·)
          (List.take_append_drop opcode.operandCount rest).symm
      rw [covered]
      exact others.cons sound rfl
  | case4 start byte rest opcode decodes operands incomplete =>
      have short : rest.length + 1 < opcode.size := by
        have length : operands.length = min opcode.operandCount rest.length :=
          List.length_take
        rw [Opcode.size]
        omega
      rw [← Opcode.byte_of_decode? decodes]
      exact partitions_trailing start short

namespace Partitions

variable
  {start : Nat}
  {image : List UInt8}
  {earlier later : List ListingLine}
  {line : ListingLine}

/-- Only left-over bytes come after left-over bytes. -/
theorem whole_of_whole
    (partitions : Partitions start image (earlier ++ line :: later))
    (whole : line.block.isTrailing = false) :
    ∀ other ∈ earlier, other.block.isTrailing = false := by
  obtain ⟨blocks, leftOver, split, blocksWhole, isLeftOver⟩ := partitions.ends
  rcases List.append_eq_append_iff.mp split with
    ⟨rest, rfl, -⟩ | ⟨rest, rfl, atLine⟩
  · intro other member
    exact blocksWhole other (List.mem_append_left rest member)
  · have member : line ∈ leftOver := by simp [atLine]
    simp [isLeftOver.trailing line member] at whole

end Partitions

/-- How the listing of an image begins, and which lines follow. -/
inductive Begins
    (start : Nat) :
    List UInt8 → ListingLine → List ListingLine → Prop where
  | instruction
      {opcode : Opcode}
      {operands rest : List UInt8}
      (complete : operands.length = opcode.operandCount) :
      Begins start (opcode.byte :: (operands ++ rest))
        { address := start, block := .instruction opcode operands }
        (Listing.sweep (start + opcode.size) rest)
  | unknown
      {byte : UInt8}
      {rest : List UInt8}
      (undecoded : Opcode.decode? byte = none) :
      Begins start (byte :: rest)
        { address := start, block := .unknown byte }
        (Listing.sweep (start + 1) rest)
  | trailing
      {opcode : Opcode}
      {operands : List UInt8}
      (cut : operands.length < opcode.operandCount) :
      Begins start (opcode.byte :: operands)
        { address := start, block := .trailing opcode.byte }
        (Listing.trailing (start + 1) operands)

/-- A listing begins in one of these ways. -/
theorem begins_of_sweep
    {start : Nat}
    {image : List UInt8}
    {line : ListingLine}
    {later : List ListingLine}
    (swept : Listing.sweep start image = line :: later) :
    Begins start image line later := by
  cases image with
  | nil => simp [Listing.sweep] at swept
  | cons byte rest =>
      rw [Listing.sweep] at swept
      cases decodes : Opcode.decode? byte with
      | none =>
          simp only [decodes, List.cons.injEq] at swept
          obtain ⟨rfl, rfl⟩ := swept
          exact .unknown decodes
      | some opcode =>
          obtain rfl := Opcode.byte_of_decode? decodes
          simp only [decodes] at swept
          split at swept
          next complete =>
            obtain ⟨rfl, rfl⟩ := List.cons.inj swept
            have begins :
                Begins start
                  (opcode.byte ::
                    (rest.take opcode.operandCount ++
                      rest.drop opcode.operandCount))
                  _ _ :=
              .instruction complete
            rwa [List.take_append_drop] at begins
          next incomplete =>
            obtain ⟨rfl, rfl⟩ := List.cons.inj swept
            refine .trailing ?_
            rw [List.length_take] at incomplete
            omega

/-- A listing begins at the address that it is made for. -/
theorem Begins.address_eq
    {start : Nat}
    {image : List UInt8}
    {line : ListingLine}
    {later : List ListingLine}
    (begins : Begins start image line later) :
    line.address = start := by
  cases begins <;> rfl

/-- Behind whole lines a listing is the listing of what is left of the image. -/
theorem sweep_drop
    {start : Nat}
    {image : List UInt8}
    {earlier later : List ListingLine}
    (swept : Listing.sweep start image = earlier ++ later)
    (whole : ∀ line ∈ earlier, line.block.isTrailing = false) :
    Listing.sweep
        (start + (earlier.flatMap ListingLine.bytes).length)
        (image.drop (earlier.flatMap ListingLine.bytes).length) =
      later := by
  induction earlier generalizing start image with
  | nil => exact swept
  | cons line rest inductionHypothesis =>
      obtain ⟨lineWhole, restWhole⟩ := List.forall_mem_cons.mp whole
      have begins : Begins start image line (rest ++ later) :=
        begins_of_sweep swept
      generalize others : rest ++ later = following at begins
      rw [List.flatMap_cons, List.length_append, ← Nat.add_assoc,
        ← List.drop_drop]
      cases begins with
      | @instruction opcode operands bytes complete =>
          have size := length_of_complete complete
          have behind :
              (opcode.byte :: (operands ++ bytes)).drop opcode.size = bytes :=
            List.drop_left' size
          change Listing.sweep (start + (opcode.byte :: operands).length + _)
            (List.drop _
              (List.drop (opcode.byte :: operands).length _)) = later
          rw [size, behind]
          exact inductionHypothesis others.symm restWhole
      | unknown undecoded => exact inductionHypothesis others.symm restWhole
      | trailing cut => simp [Block.isTrailing] at lineWhole

end LS8
