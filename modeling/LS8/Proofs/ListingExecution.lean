import Mathlib.Tactic.IntervalCases
import LS8.Proofs.Executing
import LS8.Proofs.ListingText
import LS8.Proofs.StackStep

namespace LS8

/-!
# Listings and execution

A listing and the processor read the same encoding in different ways. The
listing is a sweep over all cells that stops at an instruction which is cut
off; a step fetches an opcode with two bytes after it, and reads zeros beyond
the last cell.

They agree wherever the program counter is at a line of the listing: the step
executes the instruction that the line shows, or faults at the byte that the
line shows as unknown. Where it goes straight on, it comes to the next line.
A run from address zero that only goes straight on therefore visits the first
lines of the listing, one after the other.

The proofs look at the listing from the program counter on (`listingFrom`). It
is the sweep of the cells that are left, so that a run follows the recursion of
the sweep.
-/

/-- Whether an instruction goes on elsewhere than behind its last byte. -/
def Opcode.redirects (flags : Flags) : Opcode → Bool
  | .hlt | .jmp | .call | .ret => true
  | .jeq => flags.equal
  | .jne => !flags.equal
  | .nop | .push | .pop | .prn | .ldi | .add | .sub | .mul | .cmp => false

/-- A successful step from an instruction to the one behind it in memory. -/
structure FallsThrough (before after : Processor) : Prop where
  steps : before.StepsTo after
  straight :
    ∃ opcode,
      before.instruction? = some opcode ∧
        opcode.redirects before.flags = false

/-- A running processor at a line of the listing of its memory. -/
structure AtLine
    (before : Processor)
    (earlier : List ListingLine)
    (line : ListingLine)
    (later : List ListingLine) :
    Prop where
  running : before.status = .running
  listed : Listing.ofImage before.memory.toList = earlier ++ line :: later
  address : before.pc = line.address

/-- The lines of a listing of the cells from an address on. -/
def Memory.listingFrom (memory : Memory) (address : Nat) : List ListingLine :=
  Listing.sweep address (memory.toList.drop address)

/-- A run from address zero that goes straight on and keeps the memory. -/
structure StraightRun
    (memory : Memory)
    (states : Nat → Processor)
    (count : Nat) :
    Prop where
  start : (states 0).pc = 0
  fallsThrough :
    ∀ index < count, FallsThrough (states index) (states (index + 1))
  keeps : ∀ index < count, (states index).memory = memory

section

variable
  {before after : Processor}
  {earlier later : List ListingLine}
  {line : ListingLine}
  {opcode : Opcode}
  {byte : UInt8}
  {operands rest bytes : List UInt8}

/-- At a line that no left-over byte precedes, the listing goes on with it. -/
theorem AtLine.listingFrom_eq
    (atLine : AtLine before earlier line later)
    (whole : ∀ other ∈ earlier, other.block.isTrailing = false) :
    before.memory.listingFrom before.pc = line :: later := by
  have onward := sweep_drop atLine.listed whole
  rw [Nat.zero_add] at onward
  have place := (begins_of_sweep onward).address_eq
  rwa [← place, ← atLine.address] at onward

/-- Only left-over bytes may have left-over bytes before them. -/
theorem AtLine.begins
    (atLine : AtLine before earlier line later)
    (whole : line.block.isTrailing = false) :
    Begins before.pc (before.memory.toList.drop before.pc) line later := by
  have partitions := partitions_sweep 0 before.memory.toList
  change Partitions 0 _ (Listing.ofImage _) at partitions
  rw [atLine.listed] at partitions
  exact begins_of_sweep
    (atLine.listingFrom_eq (partitions.whole_of_whole whole))

/-- What a processor finds at an offset is among the cells that are left. -/
theorem peek_add_of_drop
    (ahead : before.memory.toList.drop before.pc = bytes)
    (offset : Nat) :
    before.memory.peek (before.pc + offset) = bytes.getD offset 0 := by
  rw [Memory.peek_eq_getD, ← ahead, List.getD_eq_getElem?_getD,
    List.getD_eq_getElem?_getD, List.getElem?_drop]

theorem peek_of_drop
    (ahead : before.memory.toList.drop before.pc = byte :: rest) :
    before.memory.peek before.pc = byte :=
  peek_add_of_drop ahead 0

theorem pc_add_length_of_drop
    (ahead : before.memory.toList.drop before.pc = byte :: rest) :
    before.pc + (rest.length + 1) = 256 := by
  have length := congrArg List.length ahead
  rw [List.length_drop, Memory.length_toList, List.length_cons] at length
  omega

theorem fetches_of_drop
    (running : before.status = .running)
    (ahead : before.memory.toList.drop before.pc = opcode.byte :: rest) :
    Fetches before opcode where
  running := running
  inMemory := by
    have total := pc_add_length_of_drop ahead
    omega
  decodes := by rw [peek_of_drop ahead, Opcode.decode?_byte]

/--
A step executes the opcode with the operand bytes behind it. Where there are
not enough of them because the memory ends, those that are missing are zeros.
-/
theorem step_of_drop
    (running : before.status = .running)
    (ahead :
      before.memory.toList.drop before.pc =
        opcode.byte :: (operands ++ rest))
    (enough : operands.length = opcode.operandCount ∨ rest = [])
    (sink : Sink) :
    before.step sink =
      before.executing sink opcode (operands.getD 0 0) (operands.getD 1 0) := by
  have operand
      {offset : Nat}
      (used : offset < opcode.operandCount) :
      before.memory.peek (before.pc + (offset + 1)) =
        operands.getD offset 0 := by
    rw [peek_add_of_drop ahead, List.getD_cons_succ]
    rcases enough with complete | rfl
    · rw [List.getD_eq_getElem?_getD, List.getD_eq_getElem?_getD,
        List.getElem?_append_left (complete ▸ used)]
    · rw [List.append_nil]
  exact (fetches_of_drop running ahead).step_eq_executing operand operand sink

/-- Only the instructions that redirect leave the order of the cells. -/
theorem pcAfter_of_straight
    (straight : opcode.redirects before.flags = false)
    (first : UInt8) :
    InstructionTable.pcAfter before opcode first = before.pc + opcode.size := by
  cases opcode with
  | hlt | jmp | call | ret => contradiction
  | jeq =>
      have unequal : before.flags.equal = false := straight
      simp [InstructionTable.pcAfter, unequal, Opcode.size_eq]
  | jne =>
      have equal : before.flags.equal = true := by
        simpa [Opcode.redirects] using straight
      simp [InstructionTable.pcAfter, equal, Opcode.size_eq]
  | _ => rfl

theorem FallsThrough.pc_eq
    (falls : FallsThrough before after)
    (executes : before.instruction? = some opcode) :
    after.pc = before.pc + opcode.size := by
  obtain ⟨other, alsoExecutes, straight⟩ := falls.straight
  obtain rfl := Option.some.inj (executes.symm.trans alsoExecutes)
  rcases falls.steps.cases with ⟨idle, -⟩ | ⟨other, reaches, -, follows⟩
  · simp [executes] at idle
  · obtain rfl := Option.some.inj (executes.symm.trans reaches)
    exact follows.pc.trans (pcAfter_of_straight straight _)

/-- The listing of what is left begins where the instruction ends. -/
theorem address_head_sweep (start : Nat) (image : List UInt8) :
    ((Listing.sweep start image).head?.map ListingLine.address).getD
        (start + image.length) =
      start := by
  cases swept : Listing.sweep start image with
  | nil =>
      have covered := Listing.flatMap_bytes_sweep start image
      rw [swept, List.flatMap_nil] at covered
      simp [← covered]
  | cons line later => exact (begins_of_sweep swept).address_eq

/-- A step from an instruction line executes what the line shows. -/
theorem AtLine.step_of_instruction
    (atLine : AtLine before earlier line later)
    (shown : line.block = .instruction opcode operands)
    (sink : Sink) :
    before.step sink =
        before.executing sink opcode (operands.getD 0 0)
          (operands.getD 1 0) ∧
      (∀ status,
        (before.step sink).result = .ok status →
        opcode.redirects before.flags = false →
        (before.step sink).processor.pc =
          (later.head?.map ListingLine.address).getD 256) := by
  have begins := atLine.begins (by rw [shown]; rfl)
  generalize ahead : before.memory.toList.drop before.pc = image at begins
  cases begins with
  | unknown undecoded => contradiction
  | trailing cut => contradiction
  | @instruction _ _ rest complete =>
      cases shown
      have fetches := fetches_of_drop atLine.running ahead
      refine ⟨step_of_drop atLine.running ahead (Or.inl complete) sink, ?_⟩
      intro status succeeds straight
      have executes := Processor.instruction?_of_fetches fetches
      have falls : FallsThrough before (before.step sink).processor :=
        ⟨⟨sink, status, succeeds, rfl⟩, opcode, executes, straight⟩
      have ends : before.pc + opcode.size + rest.length = 256 := by
        have total := pc_add_length_of_drop ahead
        rw [List.length_append, complete] at total
        rw [Opcode.size]
        omega
      rw [falls.pc_eq executes, ← ends, address_head_sweep]

/-- A step from a line without an opcode faults at the byte that it shows. -/
theorem AtLine.step_of_unknown
    (atLine : AtLine before earlier line later)
    (shown : line.block = .unknown byte)
    (sink : Sink) :
    (before.step sink).result = .error (.unknownOpcode byte line.address) := by
  have begins := atLine.begins (by rw [shown]; rfl)
  generalize ahead : before.memory.toList.drop before.pc = image at begins
  cases begins with
  | instruction complete => contradiction
  | trailing cut => contradiction
  | @unknown _ rest undecoded =>
      cases shown
      have found := peek_of_drop ahead
      have inMemory : before.pc < 256 := by
        have total := pc_add_length_of_drop ahead
        omega
      rw [← found] at undecoded
      rw [Processor.step_of_undecoded atLine.running inMemory undecoded, found]
      rfl

/-- A step from a cut-off instruction executes it with zeros for what is cut. -/
theorem AtLine.step_of_trailing
    (atLine : AtLine before earlier line later)
    (whole : ∀ other ∈ earlier, other.block.isTrailing = false)
    (shown : line.block = .trailing byte)
    (sink : Sink) :
    ∃ opcode : Opcode,
      opcode.byte = byte ∧
        (later.flatMap ListingLine.bytes).length < opcode.operandCount ∧
        before.step sink =
          before.executing sink opcode
            ((later.flatMap ListingLine.bytes).getD 0 0)
            ((later.flatMap ListingLine.bytes).getD 1 0) := by
  have begins := begins_of_sweep (atLine.listingFrom_eq whole)
  generalize ahead : before.memory.toList.drop before.pc = image at begins
  cases begins with
  | instruction complete => contradiction
  | unknown undecoded => contradiction
  | @trailing opcode operands cut =>
      cases shown
      rw [Listing.flatMap_bytes_trailing]
      rw [← List.append_nil operands] at ahead
      exact ⟨opcode, rfl, cut, step_of_drop atLine.running ahead (Or.inr rfl) sink⟩

/-- Within the memory, there is a line of the listing from an address on. -/
theorem exists_listingFrom
    (memory : Memory)
    {address : Nat}
    (inMemory : address < 256) :
    ∃ line later,
      memory.listingFrom address = line :: later ∧ line.address = address := by
  cases swept : memory.listingFrom address with
  | nil =>
      have covered :=
        Listing.flatMap_bytes_sweep address (memory.toList.drop address)
      rw [← Memory.listingFrom, swept, List.flatMap_nil, eq_comm,
        List.drop_eq_nil_iff, Memory.length_toList] at covered
      exact absurd inMemory (Nat.not_lt.mpr covered)
  | cons line later =>
      exact ⟨line, later, rfl, (begins_of_sweep swept).address_eq⟩

/-- A step that goes straight on goes on in the listing, or beyond the cells. -/
theorem FallsThrough.listingFrom_eq
    (falls : FallsThrough before after) :
    before.memory.listingFrom after.pc =
        (before.memory.listingFrom before.pc).tail ∨
      256 ≤ after.pc := by
  obtain ⟨opcode, executes, -⟩ := falls.straight
  have fetches := Processor.fetches_of_instruction? executes
  have decodes := fetches.decodes
  obtain ⟨line, later, swept, -⟩ :=
    exists_listingFrom before.memory fetches.inMemory
  have begins := begins_of_sweep swept
  rw [swept, falls.pc_eq executes, List.tail_cons]
  generalize ahead : before.memory.toList.drop before.pc = image at begins
  cases begins with
  | @instruction shown operands rest complete =>
      rw [peek_of_drop ahead, Opcode.decode?_byte] at decodes
      obtain rfl := Option.some.inj decodes
      have behind :
          before.memory.toList.drop (before.pc + shown.size) = rest := by
        rw [← List.drop_drop, ahead]
        exact List.drop_left' (length_of_complete complete)
      left
      rw [Memory.listingFrom, behind]
  | unknown undecoded =>
      rw [peek_of_drop ahead, undecoded] at decodes
      contradiction
  | @trailing shown operands cut =>
      rw [peek_of_drop ahead, Opcode.decode?_byte] at decodes
      obtain rfl := Option.some.inj decodes
      have total := pc_add_length_of_drop ahead
      right
      rw [Opcode.size]
      omega

end

namespace StraightRun

variable
  {memory : Memory}
  {states : Nat → Processor}
  {count index : Nat}

theorem inMemory
    (run : StraightRun memory states count)
    (inside : index < count) :
    (states index).pc < 256 := by
  obtain ⟨opcode, executes, -⟩ := (run.fallsThrough index inside).straight
  exact (Processor.fetches_of_instruction? executes).inMemory

/-- As many lines of the listing are done as steps have been made. -/
theorem listingFrom_eq
    (run : StraightRun memory states count)
    (inside : index ≤ count) :
    memory.listingFrom (states index).pc =
        (Listing.ofImage memory.toList).drop index ∨
      256 ≤ (states index).pc := by
  induction index with
  | zero =>
      left
      rw [run.start]
      rfl
  | succ index inductionHypothesis =>
      have falls := (run.fallsThrough index inside).listingFrom_eq
      rw [run.keeps index inside] at falls
      rcases inductionHypothesis (Nat.le_of_succ_le inside) with
        same | beyond
      · rwa [same, List.tail_drop] at falls
      · exact absurd (run.inMemory inside) (Nat.not_lt.mpr beyond)

/-- A state within the memory is at the line that its number says. -/
theorem exists_line
    (run : StraightRun memory states count)
    (inside : index ≤ count)
    (inMemory : (states index).pc < 256) :
    ∃ line,
      (Listing.ofImage memory.toList)[index]? = some line ∧
        (states index).pc = line.address := by
  obtain ⟨line, later, swept, place⟩ := exists_listingFrom memory inMemory
  rcases run.listingFrom_eq inside with same | beyond
  · refine ⟨line, ?_, place.symm⟩
    rw [← List.head?_drop, ← same, swept]
    rfl
  · exact absurd inMemory (Nat.not_lt.mpr beyond)

/-- The visited addresses are those of the first lines. -/
theorem map_pc_eq (run : StraightRun memory states count) :
    (List.range count).map (fun index => (states index).pc) =
      ((Listing.ofImage memory.toList).take count).map
        ListingLine.address := by
  apply List.ext_getElem?
  intro index
  rw [List.getElem?_map, List.getElem?_map, List.getElem?_take]
  by_cases inside : index < count
  · obtain ⟨line, listed, place⟩ :=
      run.exists_line (Nat.le_of_lt inside) (run.inMemory inside)
    simp [inside, listed, place]
  · simp [inside]

end StraightRun

/--
The lines of a listing's text show its lines, one for one. A step from an
instruction line executes the opcode that the line shows with the operand bytes
that it shows, and if it goes straight on it comes to the next line, or to the
end of the memory if there is none. A step from a line without an opcode faults
at the byte that the line shows. A step from the first left-over byte executes
the instruction that is cut off, with zeros for what is cut. A run from address
zero that goes straight on and keeps the memory visits the first lines, in
their order and without a gap.
-/
theorem step_follows_listing :
    (∀ image,
      ∃ texts,
        TextLines (Listing.text image).toList texts ∧
          List.Forall₂ Shows (Listing.ofImage image) texts) ∧
      (∀ before earlier line later,
        AtLine before earlier line later →
        ∀ sink,
          (∀ opcode operands,
            line.block = .instruction opcode operands →
            before.step sink =
                before.executing sink opcode (operands.getD 0 0)
                  (operands.getD 1 0) ∧
              ∀ status,
                (before.step sink).result = .ok status →
                opcode.redirects before.flags = false →
                (before.step sink).processor.pc =
                  (later.head?.map ListingLine.address).getD 256) ∧
            (∀ byte,
              line.block = .unknown byte →
              (before.step sink).result =
                .error (.unknownOpcode byte line.address)) ∧
            (∀ byte,
              line.block = .trailing byte →
              (∀ other ∈ earlier, other.block.isTrailing = false) →
              ∃ opcode : Opcode,
                let shown := later.flatMap ListingLine.bytes
                opcode.byte = byte ∧
                  shown.length < opcode.operandCount ∧
                  before.step sink =
                    before.executing sink opcode (shown.getD 0 0)
                      (shown.getD 1 0))) ∧
      (∀ memory states count,
        StraightRun memory states count →
        (List.range count).map (fun index => (states index).pc) =
            ((Listing.ofImage memory.toList).take count).map
              ListingLine.address ∧
          ((states count).pc < 256 →
            ∃ line,
              (Listing.ofImage memory.toList)[count]? = some line ∧
                (states count).pc = line.address)) := by
  refine ⟨Listing.exists_texts, ?_, ?_⟩
  · intro before earlier line later atLine sink
    refine ⟨?_, ?_, ?_⟩
    · intro opcode operands shown
      exact atLine.step_of_instruction shown sink
    · intro byte shown
      exact atLine.step_of_unknown shown sink
    · intro byte shown whole
      exact atLine.step_of_trailing whole shown sink
  · intro memory states count run
    exact ⟨run.map_pc_eq, run.exists_line (Nat.le_refl count)⟩

/--
A load, a jump that is not taken, whose operand names no register, and a byte
without an opcode; at the end of the memory an `ADD` that lacks a byte.
-/
def untakenJump : Processor :=
  {
    Processor.initial with
    memory :=
      Memory.empty
        |>.store 0 Opcode.ldi.byte
        |>.store 1 1
        |>.store 2 5
        |>.store 3 Opcode.jeq.byte
        |>.store 4 9
        |>.store 5 0xFF
        |>.store 254 Opcode.add.byte
        |>.store 255 1
  }

/-- The states after it, from step to step. -/
def untakenJumpAfter : Nat → Processor
  | 0 => untakenJump
  | index + 1 => ((untakenJumpAfter index).step Sink.unlimited).processor

/-- The load and the jump go straight on. -/
theorem straightRun_untakenJumpAfter :
    StraightRun untakenJump.memory untakenJumpAfter 2 where
  start := rfl
  fallsThrough := by
    intro index inside
    refine ⟨⟨Sink.unlimited, .running, ?_, rfl⟩, ?_⟩
    · interval_cases index <;> rfl
    · interval_cases index
      · exact ⟨.ldi, rfl, rfl⟩
      · exact ⟨.jeq, rfl, rfl⟩
  keeps := by
    intro index inside
    interval_cases index <;> rfl

set_option maxRecDepth 4000 in
/-- The lines of its listing around the `ADD` at the end of the memory. -/
theorem atLine_untakenJump :
    AtLine { untakenJump with pc := 254 }
      ((Listing.ofImage untakenJump.memory.toList).take 251)
      { address := 254, block := .trailing Opcode.add.byte }
      [{ address := 255, block := .trailing 1 }] where
  running := rfl
  listed := by
    have ends :
        (Listing.ofImage untakenJump.memory.toList).drop 251 =
          [{ address := 254, block := .trailing Opcode.add.byte },
            { address := 255, block := .trailing 1 }] := by
      cbv
    exact (List.take_append_drop 251 _).symm.trans (congrArg _ ends)
  address := rfl

set_option maxRecDepth 4000 in
/-- The run visits the first lines, and the cut-off `ADD` adds R0 to R1. -/
theorem step_follows_listing_untakenJump :
    ((Listing.ofImage untakenJump.memory.toList).take 2).map
        ListingLine.address =
      [0, 3] ∧
    ∀ sink,
      Processor.step { untakenJump with pc := 254 } sink =
        Processor.executing { untakenJump with pc := 254 } sink .add 1 0 := by
  obtain ⟨-, lines, runs⟩ := step_follows_listing
  refine ⟨(runs _ _ _ straightRun_untakenJumpAfter).1.symm, ?_⟩
  intro sink
  have whole :
      ((Listing.ofImage untakenJump.memory.toList).take 251).all
          (fun other => !other.block.isTrailing) =
        true := by
    cbv
  obtain ⟨-, -, trailing⟩ := lines _ _ _ _ atLine_untakenJump sink
  obtain ⟨opcode, byte, -, executes⟩ :=
    trailing Opcode.add.byte rfl (by simpa using whole)
  obtain rfl := Opcode.byte_injective byte
  exact executes

end LS8
