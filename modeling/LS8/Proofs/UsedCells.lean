import Mathlib.Data.Set.Basic
import LS8.Proofs.AlikeSteps

namespace LS8

/-!
# The cells that a run uses

A step uses the cells that hold its instruction and the cell that it takes from
the stack (`Processor.Uses`), and nothing else of the memory shows in it: what
is fetched beyond the instruction is recorded in the trace and goes no further.

`AgreeOutside` compares two processors whose memories may differ in some cells.
A step that uses none of these cells looks alike on both sides, and makes the
cell that it writes the same (`AgreeOutside.step`). So does a run, in which a
cell may be used once it has been written (`run_depends_on_used_cells`).
-/

open InstructionTable

/-- The length of the instruction at the program counter; one if there is none. -/
def Processor.fetchedLength (before : Processor) : Nat :=
  match Opcode.decode? (before.memory.peek before.pc) with
  | some opcode => opcode.size
  | none => 1

theorem Processor.fetchedLength_pos (before : Processor) :
    0 < before.fetchedLength := by
  unfold fetchedLength
  split
  next opcode _ => exact Nat.le_add_right 1 opcode.operandCount
  next => exact Nat.one_pos

/-- The next step uses a cell. -/
inductive Processor.Uses (before : Processor) (address : UInt8) : Prop where
  /-- The cell holds a byte of the instruction. -/
  | instruction
      {offset : Nat}
      (running : before.status = .running)
      (within : offset < before.fetchedLength)
      (place : address.toNat = before.pc + offset)
  /-- The cell holds the byte that is taken from the stack. -/
  | stack
      {opcode : Opcode}
      (takes : opcode ∈ [Opcode.pop, .ret])
      (executes : before.instruction? = some opcode)
      (place : address = before.registers.stackPointer)

/-- Which cells are used can be seen before the step is made. -/
theorem Processor.uses_iff {before : Processor} {address : UInt8} :
    before.Uses address ↔
      (before.status = .running ∧
        before.pc ≤ address.toNat ∧
        address.toNat < before.pc + before.fetchedLength) ∨
      ∃ opcode ∈ [Opcode.pop, .ret],
        before.instruction? = some opcode ∧
          address = before.registers.stackPointer := by
  constructor
  · rintro (⟨running, within, place⟩ | ⟨takes, executes, place⟩)
    · exact .inl ⟨running, by omega, by omega⟩
    · exact .inr ⟨_, takes, executes, place⟩
  · rintro (⟨running, after, within⟩ | ⟨opcode, takes, executes, place⟩)
    · obtain ⟨offset, place⟩ := Nat.exists_eq_add_of_le after
      exact .instruction running (by omega) place
    · exact .stack takes executes place

instance (before : Processor) (address : UInt8) :
    Decidable (before.Uses address) :=
  decidable_of_iff _ Processor.uses_iff.symm

/-- The next step writes a cell: it succeeds in putting a byte on the stack. -/
inductive Processor.Writes
    (before : Processor)
    (sink : Sink)
    (address : UInt8) :
    Prop where
  | stack
      {opcode : Opcode}
      {status : Status}
      (puts : opcode ∈ [Opcode.push, .call])
      (executes : before.instruction? = some opcode)
      (succeeds : (before.step sink).result = .ok status)
      (place : address = before.registers.stackPointer - 1)

/-- A step that executes no instruction to its end writes nothing. -/
theorem Processor.not_writes_of_rests
    {before : Processor}
    {sink : Sink}
    (rests : ∀ opcode, ¬ before.Executes sink opcode)
    (address : UInt8) :
    ¬ before.Writes sink address := by
  rintro ⟨-, executes, succeeds, -⟩
  exact rests _ ⟨executes, _, succeeds⟩

/-- Two processors differ in nothing but some of their cells. -/
structure AgreeOutside
    (cells : Set UInt8)
    (left right : Processor) :
    Prop where
  registers : left.registers = right.registers
  pc : left.pc = right.pc
  flags : left.flags = right.flags
  status : left.status = right.status
  steps : left.steps = right.steps
  cell :
    ∀ address,
      address ∉ cells →
      left.memory.cell address = right.memory.cell address

namespace AgreeOutside

variable
  {cells fewer : Set UInt8}
  {left right : Processor}
  {opcode : Opcode}

/-- Only the memories are different. -/
theorem exists_memory
    (agree : AgreeOutside cells left right) :
    ∃ memory, right = { left with memory := memory } := by
  refine ⟨right.memory, ?_⟩
  cases left
  cases right
  obtain ⟨registers, pc, flags, status, steps, -⟩ := agree
  simp only at registers pc flags status steps
  subst registers pc flags status steps
  rfl

/-- A byte of the instruction is the same unless its cell is one of the others. -/
theorem peek_eq
    {offset : Nat}
    (agree : AgreeOutside cells left right)
    (unused : ∀ address ∈ cells, ¬ left.Uses address)
    (running : left.status = .running)
    (within : offset < left.fetchedLength) :
    left.memory.peek (left.pc + offset) =
      right.memory.peek (left.pc + offset) := by
  by_cases inMemory : left.pc + offset < 256
  · have place :
        (UInt8.ofNat (left.pc + offset)).toNat = left.pc + offset :=
      UInt8.toNat_ofNat_of_lt' inMemory
    rw [← place, Memory.peek_toNat, Memory.peek_toNat]
    exact agree.cell _ fun hidden =>
      unused _ hidden (.instruction running within place)
  · have beyond := Nat.le_of_not_lt inMemory
    rw [Memory.peek_of_le _ beyond, Memory.peek_of_le _ beyond]

/-- The byte at the program counter is the same. -/
theorem peek_pc_eq
    (agree : AgreeOutside cells left right)
    (unused : ∀ address ∈ cells, ¬ left.Uses address)
    (running : left.status = .running) :
    left.memory.peek left.pc = right.memory.peek right.pc := by
  have same := agree.peek_eq unused running left.fetchedLength_pos
  rw [Nat.add_zero] at same
  rw [same, agree.pc]

/-- The cell at the stack pointer is the same if the instruction takes its byte. -/
theorem stackTop_eq
    (agree : AgreeOutside cells left right)
    (unused : ∀ address ∈ cells, ¬ left.Uses address)
    (executes : left.instruction? = some opcode)
    (takes : opcode ∈ [Opcode.pop, .ret]) :
    stackTop left = stackTop right := by
  rw [stackTop, stackTop, ← agree.registers]
  exact agree.cell _ fun hidden =>
    unused _ hidden (.stack takes executes rfl)

/-- The processors come to the same instruction if its bytes are the same. -/
theorem sameInstruction
    (agree : AgreeOutside cells left right)
    (unused : ∀ address ∈ cells, ¬ left.Uses address) :
    SameInstruction left right where
  status := agree.status
  pc := agree.pc
  byte := agree.peek_pc_eq unused
  operandByte := by
    intro opcode index fetches within
    have fetched : index < left.fetchedLength := by
      simp only [Processor.fetchedLength, fetches.decodes, Opcode.size]
      omega
    rw [← agree.pc]
    exact (agree.peek_eq unused fetches.running fetched).symm
  error := by
    obtain ⟨memory, rfl⟩ := agree.exists_memory
    intros
    rfl
  output := by
    obtain ⟨memory, rfl⟩ := agree.exists_memory
    intros
    rfl

/-- Instructions with the same operand bytes leave the same but for cells. -/
theorem of_follows
    {first second : UInt8}
    {leftAfter rightAfter : Processor}
    (agree : AgreeOutside cells left right)
    (leftFollows : Follows left opcode first second leftAfter)
    (rightFollows : Follows right opcode first second rightAfter)
    (steps : leftAfter.steps = rightAfter.steps)
    (taken : opcode ∈ [Opcode.pop, .ret] → stackTop left = stackTop right)
    (agrees :
      ∀ address,
        address ∉ fewer →
        left.memory.cell address = right.memory.cell address ∨
          opcode ∈ [Opcode.push, .call] ∧
            address = left.registers.stackPointer - 1) :
    AgreeOutside fewer leftAfter rightAfter := by
  obtain ⟨memory, rfl⟩ := agree.exists_memory
  constructor
  case registers =>
    apply Registers.ext_value
    intro register
    rw [leftFollows.register, rightFollows.register]
    cases opcode with
    | pop => simp only [registerAfter, taken (by decide)]
    | _ => rfl
  case pc =>
    rw [leftFollows.pc, rightFollows.pc]
    cases opcode with
    | ret => simp only [pcAfter, taken (by decide)]
    | _ => rfl
  case flags => exact leftFollows.flags.trans rightFollows.flags.symm
  case status => exact leftFollows.status.trans rightFollows.status.symm
  case steps => exact steps
  case cell =>
    intro address outside
    rw [leftFollows.cell, rightFollows.cell]
    rcases agrees address outside with same | ⟨puts, rfl⟩
    · cases opcode with
      | push =>
          simp only [cellAfter, same]
          rfl
      | _ => simp only [cellAfter, same]
    · simp only [List.mem_cons, List.not_mem_nil, or_false] at puts
      rcases puts with rfl | rfl
      · simp only [cellAfter, ↓reduceIte]
        rfl
      · simp only [cellAfter, ↓reduceIte]

/-- Halting makes no difference. -/
theorem halted
    (agree : AgreeOutside cells left right) :
    AgreeOutside cells
      { left with status := .halted }
      { right with status := .halted } where
  registers := agree.registers
  pc := agree.pc
  flags := agree.flags
  status := rfl
  steps := agree.steps
  cell := agree.cell

/-- A step that writes nothing leaves the cells that may differ as they are. -/
theorem of_unwritten
    {sink : Sink}
    {leftAfter rightAfter : Processor}
    (agree : AgreeOutside cells leftAfter rightAfter)
    (unwritten : ∀ address, ¬ left.Writes sink address) :
    AgreeOutside {address ∈ cells | ¬ left.Writes sink address}
      leftAfter rightAfter := by
  simpa only [unwritten, not_false_eq_true, and_true, Set.ofPred_mem_eq]
    using agree

/-- A cell outside is the same before the step, or the step writes it. -/
theorem cell_eq_or_written
    {address : UInt8}
    (agree : AgreeOutside cells left right)
    (sink : Sink)
    (executes : left.instruction? = some opcode)
    (outside : address ∉ {address ∈ cells | ¬ left.Writes sink address}) :
    left.memory.cell address = right.memory.cell address ∨
      opcode ∈ [Opcode.push, .call] ∧
        address = left.registers.stackPointer - 1 := by
  by_cases hidden : address ∈ cells
  · have writes : left.Writes sink address := by
      by_contra unwritten
      exact outside ⟨hidden, unwritten⟩
    obtain ⟨puts, alsoExecutes, -, place⟩ := writes
    obtain rfl := Option.some.inj (executes.symm.trans alsoExecutes)
    exact .inr ⟨puts, place⟩
  · exact .inl (agree.cell address hidden)

/--
A step that uses none of the cells that may differ looks alike on both sides,
and a cell that it writes is the same afterwards.
-/
theorem step
    (agree : AgreeOutside cells left right)
    (unused : ∀ address ∈ cells, ¬ left.Uses address)
    (sink : Sink) :
    LookAlike (left.step sink) (right.step sink) ∧
      AgreeOutside {address ∈ cells | ¬ left.Writes sink address}
        (left.step sink).processor (right.step sink).processor := by
  obtain ⟨alike, together⟩ := (agree.sameInstruction unused).step sink
  refine ⟨alike, ?_⟩
  generalize (left.step sink).processor = leftAfter at together ⊢
  generalize (right.step sink).processor = rightAfter at together ⊢
  cases together with
  | idle rests =>
      exact agree.of_unwritten (Processor.not_writes_of_rests rests)
  | fault rests =>
      exact agree.halted.of_unwritten (Processor.not_writes_of_rests rests)
  | execute executes leftFollows rightFollows leftSteps rightSteps =>
      -- A cell that is written is one in which they may differ no longer.
      exact agree.of_follows leftFollows rightFollows
        (by rw [leftSteps, rightSteps, agree.steps])
        (agree.stackTop_eq unused executes.instruction)
        (fun _ => agree.cell_eq_or_written sink executes.instruction)

end AgreeOutside

/-- The cells among some that the first steps of a walk do not write. -/
def unwrittenBy
    (before : Processor)
    (sink : Sink)
    (count : Nat)
    (cells : Set UInt8) :
    Set UInt8 :=
  {address ∈ cells |
    ∀ earlier < count,
      ¬ (before.walk sink earlier).processor.Writes
          (before.walk sink earlier).sink address}

theorem unwrittenBy_succ
    (before : Processor)
    (sink : Sink)
    (count : Nat)
    (cells : Set UInt8) :
    unwrittenBy before sink (count + 1) cells =
      {address ∈ unwrittenBy before sink count cells |
        ¬ (before.walk sink count).processor.Writes
            (before.walk sink count).sink address} := by
  ext address
  simp only [unwrittenBy, Set.mem_ofPred_eq, Nat.forall_lt_succ_right, and_assoc]

/--
A run depends only on the cells that it uses. Cells that no step uses before
the run has written them may hold anything: every step has the same result, leaves
the same sink and lets out the same, traces apart. After each step the same
text has been printed, and the processors differ in nothing but those of the
cells that have not been written yet.
-/
theorem run_depends_on_used_cells
    {cells : Set UInt8}
    {before other : Processor}
    {sink : Sink}
    {count : Nat}
    (differ : AgreeOutside cells before other)
    (unused :
      ∀ index < count,
        ∀ address ∈ cells,
          (before.walk sink index).processor.Uses address →
          ∃ earlier < index,
            (before.walk sink earlier).processor.Writes
              (before.walk sink earlier).sink address) :
    (∀ index < count,
      LookAlike
        ((before.walk sink index).processor.step
          (before.walk sink index).sink)
        ((other.walk sink index).processor.step
          (other.walk sink index).sink)) ∧
      ∀ index ≤ count,
        printedText (before.walk sink index).events =
            printedText (other.walk sink index).events ∧
          AgreeOutside (unwrittenBy before sink index cells)
            (before.walk sink index).processor
            (other.walk sink index).processor := by
  have spared (index : Nat) (within : index < count) :
      ∀ address ∈ unwrittenBy before sink index cells,
        ¬ (before.walk sink index).processor.Uses address := by
    rintro address ⟨hidden, unwritten⟩ uses
    obtain ⟨earlier, before_index, writes⟩ :=
      unused index within address hidden uses
    exact unwritten earlier before_index writes
  apply walks_alike
  · simpa [unwrittenBy] using differ
  · intro index within left right shared agree
    rw [unwrittenBy_succ]
    exact agree.step (spared index within) shared

/--
A program that puts a `HLT` on the stack, just where it goes on after a `NOP`.
The cell at this place holds the given byte before.
-/
def pushedHalt (byte : UInt8) : Processor :=
  {
    Processor.initial with
    memory :=
      ((Memory.empty.store 0 Opcode.push.byte).store 1 1).store 3 byte
    registers :=
      (Registers.empty.update ⟨1, by decide⟩ Opcode.hlt.byte).setStackPointer 4
  }

/-- The push has written the cell by the time that it is executed as `HLT`. -/
theorem run_depends_on_used_cells_pushedHalt :
    AgreeOutside {3} (pushedHalt 0) (pushedHalt 0xFF) ∧
      ((pushedHalt 0).walk Sink.unlimited 2).processor.Uses 3 ∧
      (((pushedHalt 0xFF).walk Sink.unlimited 2).processor.step
        Sink.unlimited).result = .ok .halted := by
  have differ : AgreeOutside {3} (pushedHalt 0) (pushedHalt 0xFF) := by
    constructor
    case cell =>
      intro address outside
      have apart : (3 : UInt8) ≠ address := fun same => outside same.symm
      simp [pushedHalt, Memory.cell_store, apart]
    all_goals rfl
  have written :
      ((pushedHalt 0).walk Sink.unlimited 0).processor.Writes
        ((pushedHalt 0).walk Sink.unlimited 0).sink 3 :=
    .stack (by decide) rfl rfl rfl
  have unused :
      ∀ index < 3,
        ∀ address ∈ ({3} : Set UInt8),
          ((pushedHalt 0).walk Sink.unlimited index).processor.Uses address →
          ∃ earlier < index,
            ((pushedHalt 0).walk Sink.unlimited earlier).processor.Writes
              ((pushedHalt 0).walk Sink.unlimited earlier).sink address := by
    rintro index within address rfl uses
    cases index with
    | zero => exact absurd uses (by decide)
    | succ index => exact ⟨0, Nat.succ_pos index, written⟩
  refine ⟨differ, by decide, ?_⟩
  obtain ⟨alike, -⟩ := run_depends_on_used_cells differ unused
  exact (alike 2 (by decide)).result.symm.trans rfl

end LS8
