import LS8.Processor.Step

namespace LS8

/-!
# The instruction table

The instruction set column by column: what every register, every cell, the
program counter, the flags and the status are after an instruction, and which
text it prints, all in terms of the state before it. R7 may be an operand of
the instructions that move it as the stack pointer; the columns say what comes
of that without mentioning the order of the accesses.

`Follows` compares a state with the table in every part. An instruction that
is executed to its end follows the table (`execution_run`); a state
that follows it is the only one that does (`Follows.unique`).
-/

/-- The opcode of an operation. -/
def Arithmetic.opcode : Arithmetic → Opcode
  | .add => .add
  | .sub => .sub
  | .mul => .mul

namespace InstructionTable

variable (before : Processor)

/-- The value of the register with a number; zero where there is none. -/
def operand (index : UInt8) : UInt8 :=
  (before.registers.get index.toNat).toOption.getD 0

/-- The same with the stack pointer lowered by one. -/
def loweredOperand (index : UInt8) : UInt8 :=
  if index = 7 then
    before.registers.stackPointer - 1
  else
    operand before index

/-- The cell that the stack pointer names. -/
def stackTop : UInt8 :=
  before.memory.cell before.registers.stackPointer

/-- The unsigned comparison of two bytes, as one of three flags. -/
def comparison (left right : UInt8) : Flags :=
  match compare left.toNat right.toNat with
  | .eq => { equal := true, greater := false, less := false }
  | .gt => { equal := false, greater := true, less := false }
  | .lt => { equal := false, greater := false, less := true }

/-- The column of the registers. -/
def registerAfter
    (opcode : Opcode)
    (first second : UInt8)
    (register : Register) :
    UInt8 :=
  let old := before.registers.value register
  let pointer := before.registers.stackPointer
  let left := operand before first
  let right := operand before second
  match opcode with
  | .ldi => if register.val = first.toNat then second else old
  | .add => if register.val = first.toNat then left + right else old
  | .sub => if register.val = first.toNat then left - right else old
  | .mul => if register.val = first.toNat then left * right else old
  | .push | .call => if register.val = 7 then pointer - 1 else old
  | .pop =>
      if register.val = 7 then
        if first = 7 then stackTop before + 1 else pointer + 1
      else if register.val = first.toNat then
        stackTop before
      else
        old
  | .ret => if register.val = 7 then pointer + 1 else old
  | .nop | .hlt | .prn | .jmp | .jeq | .jne | .cmp => old

/-- The column of the cells. -/
def cellAfter (opcode : Opcode) (first address : UInt8) : UInt8 :=
  let old := before.memory.cell address
  let pushed := before.registers.stackPointer - 1
  match opcode with
  | .push => if address = pushed then loweredOperand before first else old
  | .call =>
      if address = pushed then UInt8.ofNat (before.pc + 2) else old
  | _ => old

/-- The column of the program counter. -/
def pcAfter (opcode : Opcode) (first : UInt8) : Nat :=
  let target := (operand before first).toNat
  match opcode with
  | .nop => before.pc + 1
  | .hlt => before.pc
  | .prn | .push | .pop => before.pc + 2
  | .ldi | .add | .sub | .mul | .cmp => before.pc + 3
  | .jmp => target
  | .jeq => if before.flags.equal then target else before.pc + 2
  | .jne => if before.flags.equal then before.pc + 2 else target
  | .call => (loweredOperand before first).toNat
  | .ret => (stackTop before).toNat

/-- The column of the flags. -/
def flagsAfter (opcode : Opcode) (first second : UInt8) : Flags :=
  match opcode with
  | .cmp => comparison (operand before first) (operand before second)
  | _ => before.flags

/-- The column of the status. -/
def statusAfter (opcode : Opcode) : Status :=
  match opcode with
  | .hlt => .halted
  | _ => before.status

/-- The column of the printed text. -/
def printed (opcode : Opcode) (first : UInt8) : String :=
  match opcode with
  | .prn => (operand before first).toNat.repr ++ "\n"
  | _ => ""

/-- The column of all that comes out: the printed text, the record of a halt. -/
def output (opcode : Opcode) (first : UInt8) : List Event :=
  match opcode with
  | .prn => [.printed (printed before .prn first)]
  | .hlt => [.logged (.halted before.pc (before.steps + 1))]
  | _ => []

/-- The error of a number that names no register. -/
def unnamed? (index : UInt8) : Option AccessError :=
  if index.toNat < 8 then none else some (.register index.toNat)

/-- The column of the access errors, the one that is met first. -/
def accessError? (opcode : Opcode) (first second : UInt8) : Option AccessError :=
  match opcode with
  | .nop | .hlt | .ret => none
  | .ldi | .prn | .jmp | .push | .pop => unnamed? first
  | .jeq => if before.flags.equal then unnamed? first else none
  | .jne => if before.flags.equal then none else unnamed? first
  | .add | .sub | .mul | .cmp => (unnamed? first).or (unnamed? second)
  | .call =>
      (unnamed? first).or
        (if before.pc + 2 < 256 then none else some (.memory (before.pc + 2)))

end InstructionTable

/-- A state is the one that the table prescribes, in every part. -/
structure Follows
    (before : Processor)
    (opcode : Opcode)
    (first second : UInt8)
    (after : Processor) :
    Prop where
  register :
    ∀ register,
      after.registers.value register =
        InstructionTable.registerAfter before opcode first second register
  cell :
    ∀ address,
      after.memory.cell address =
        InstructionTable.cellAfter before opcode first address
  pc : after.pc = InstructionTable.pcAfter before opcode first
  flags : after.flags = InstructionTable.flagsAfter before opcode first second
  status : after.status = InstructionTable.statusAfter before opcode
  /-- A call is made only where the address after it is a byte. -/
  returnFits : opcode = .call → before.pc + 2 < 256

namespace InstructionTable

variable {before : Processor} {index : UInt8} {named : Register}

theorem unnamed?_of_named
    (names : Register.named index.toNat = .ok named) :
    unnamed? index = none := by
  have numbers := Register.val_of_named names
  have bound := named.isLt
  simp [unnamed?]
  omega

/-- A number without an error names a register. -/
theorem exists_named_of_unnamed?
    (faultless : unnamed? index = none) :
    ∃ register : Register, Register.named index.toNat = .ok register := by
  unfold unnamed? at faultless
  split at faultless
  next bound => exact ⟨⟨index.toNat, bound⟩, by simp [Register.named, bound]⟩
  next => contradiction

theorem unnamed?_of_error
    {error : AccessError}
    (unnamed : Register.named index.toNat = .error error) :
    unnamed? index = some error := by
  unfold Register.named at unnamed
  split at unnamed
  next => contradiction
  next beyond =>
    cases unnamed
    simp [unnamed?, beyond]

theorem operand_of_named
    (names : Register.named index.toNat = .ok named) :
    operand before index = before.registers.value named := by
  simp [operand, Registers.get, names, Except.map, Except.toOption]

theorem named_eq_iff
    (names : Register.named index.toNat = .ok named)
    (other : Register) :
    named = other ↔ other.val = index.toNat := by
  rw [← Register.val_of_named names, Fin.ext_iff, eq_comm]

theorem value_update_named
    (names : Register.named index.toNat = .ok named)
    (registers : Registers)
    (value : UInt8)
    (other : Register) :
    (registers.update named value).value other =
      if other.val = index.toNat then value else registers.value other := by
  simp only [Registers.value_update, named_eq_iff names]

theorem loweredOperand_of_named
    (names : Register.named index.toNat = .ok named) :
    loweredOperand before index =
      (before.registers.setStackPointer
        (before.registers.stackPointer - 1)).value named := by
  have numbers := Register.val_of_named names
  have isPointer : named.val = 7 ↔ index = 7 := by
    rw [numbers, ← UInt8.toNat_inj]
    rfl
  rw [Registers.value_setStackPointer, loweredOperand, operand_of_named names]
  simp only [isPointer]

/-- A comparison sets the flags as the table says. -/
theorem compare_eq_comparison (left right : UInt8) :
    Flags.compare left right = comparison left right := by
  unfold comparison
  cases order : compare left.toNat right.toNat with
  | eq =>
      have same := Nat.compare_eq_eq.mp order
      simp [Flags.compare, UInt8.lt_iff_toNat_lt, ← UInt8.toNat_inj, same]
  | gt =>
      have greater := Nat.compare_eq_gt.mp order
      simp [Flags.compare, UInt8.lt_iff_toNat_lt, ← UInt8.toNat_inj]
      omega
  | lt =>
      have less := Nat.compare_eq_lt.mp order
      simp [Flags.compare, UInt8.lt_iff_toNat_lt, ← UInt8.toNat_inj]
      omega

/-- An instruction that only moves on changes the program counter alone. -/
theorem follows_move
    {first second : UInt8}
    (opcode : Opcode)
    (moves : opcode ∈ [Opcode.nop, .prn, .jmp, .jeq, .jne]) :
    Follows before opcode first second
      { before with pc := pcAfter before opcode first } := by
  simp only [List.mem_cons, List.not_mem_nil, or_false] at moves
  rcases moves with rfl | rfl | rfl | rfl | rfl <;>
    constructor <;>
    simp [registerAfter, cellAfter, flagsAfter, statusAfter]

theorem follows_halt {first second : UInt8} :
    Follows before .hlt first second
      { before with status := .halted } := by
  constructor <;>
    simp [registerAfter, cellAfter, pcAfter, flagsAfter, statusAfter]

theorem follows_load
    {first second : UInt8}
    (names : Register.named first.toNat = .ok named) :
    Follows before .ldi first second
      { before with
        registers := before.registers.update named second
        pc := before.pc + Opcode.ldi.size } := by
  constructor <;>
    simp [registerAfter, cellAfter, pcAfter, flagsAfter, statusAfter,
      Opcode.size_eq, value_update_named names]

theorem follows_compare
    {first second : UInt8}
    {left right : Register}
    (leftNames : Register.named first.toNat = .ok left)
    (rightNames : Register.named second.toNat = .ok right) :
    Follows before .cmp first second
      { before with
        flags :=
          Flags.compare
            (before.registers.value left)
            (before.registers.value right)
        pc := before.pc + Opcode.cmp.size } := by
  constructor <;>
    simp [registerAfter, cellAfter, pcAfter, flagsAfter, statusAfter,
      Opcode.size_eq, compare_eq_comparison, operand_of_named leftNames,
      operand_of_named rightNames]

theorem follows_combine
    {first second : UInt8}
    {left right : Register}
    (operation : Arithmetic)
    (leftNames : Register.named first.toNat = .ok left)
    (rightNames : Register.named second.toNat = .ok right) :
    Follows before operation.opcode first second
      { before with
        registers :=
          before.registers.update left
            (operation.apply
              (before.registers.value left)
              (before.registers.value right))
        pc := before.pc + operation.opcode.size } := by
  constructor <;> cases operation <;>
    simp [registerAfter, cellAfter, pcAfter, flagsAfter, statusAfter,
      Arithmetic.opcode, Arithmetic.apply, Opcode.size_eq,
      value_update_named leftNames, operand_of_named leftNames,
      operand_of_named rightNames]

/-- A push moves the stack pointer and writes the cell that it then names. -/
theorem follows_push
    {first second : UInt8}
    (names : Register.named first.toNat = .ok named) :
    Follows before .push first second
      { before with
        registers :=
          before.registers.setStackPointer
            (before.registers.stackPointer - 1)
        memory :=
          before.memory.store
            (before.registers.stackPointer - 1)
            ((before.registers.setStackPointer
              (before.registers.stackPointer - 1)).value named)
        pc := before.pc + Opcode.push.size } := by
  constructor <;>
    simp [registerAfter, cellAfter, pcAfter, flagsAfter, statusAfter,
      Opcode.size_eq, loweredOperand_of_named names,
      Registers.value_setStackPointer,
      Memory.cell_store, eq_comm]

/-- A pop writes its operand and moves the stack pointer, in this order. -/
theorem follows_pop
    {first second : UInt8}
    (names : Register.named first.toNat = .ok named) :
    Follows before .pop first second
      { before with
        registers :=
          (before.registers.update named (stackTop before)).setStackPointer
            ((before.registers.update named
              (stackTop before)).stackPointer + 1)
        pc := before.pc + Opcode.pop.size } := by
  have isPointer : Register.stackPointer.val = first.toNat ↔ first = 7 := by
    rw [← UInt8.toNat_inj, eq_comm]
    rfl
  constructor
  case register =>
    intro other
    simp only [registerAfter, Registers.value_setStackPointer,
      Registers.stackPointer,
      value_update_named names, isPointer]
    split
    next => split <;> rfl
    next => rfl
  all_goals
    simp [cellAfter, pcAfter, flagsAfter, statusAfter, Opcode.size_eq]

/-- A call pushes the address after it and goes on at its operand. -/
theorem follows_call
    {first second : UInt8}
    (names : Register.named first.toNat = .ok named)
    (fits : before.pc + Opcode.call.size < 256) :
    Follows before .call first second
      { before with
        registers :=
          before.registers.setStackPointer
            (before.registers.stackPointer - 1)
        memory :=
          before.memory.store
            (before.registers.stackPointer - 1)
            (UInt8.ofNat (before.pc + Opcode.call.size))
        pc :=
          ((before.registers.setStackPointer
            (before.registers.stackPointer - 1)).value named).toNat } := by
  rw [Opcode.size_eq] at fits
  constructor <;>
    simp [registerAfter, cellAfter, pcAfter, flagsAfter, statusAfter,
      Opcode.size_eq, loweredOperand_of_named names,
      Registers.value_setStackPointer,
      Memory.cell_store, eq_comm, fits]

theorem follows_return {first second : UInt8} :
    Follows before .ret first second
      { before with
        registers :=
          before.registers.setStackPointer
            (before.registers.stackPointer + 1)
        pc := (stackTop before).toNat } := by
  constructor <;>
    simp [registerAfter, cellAfter, pcAfter, flagsAfter, statusAfter,
      Registers.value_setStackPointer]

end InstructionTable

end LS8
