namespace LS8

/-!
# Opcodes

The instruction set of the LS-8: fifteen opcodes, each one byte. The two high
bits of an opcode's byte give the number of operand bytes that follow it, so
an instruction is one to three bytes long.
-/

/-- The operations of the processor. -/
inductive Opcode where
  | nop
  | hlt
  | ret
  | push
  | pop
  | prn
  | call
  | jmp
  | jeq
  | jne
  | ldi
  | add
  | sub
  | mul
  | cmp
  deriving Repr, DecidableEq

/-- What an operand byte means to a reader of a listing. -/
inductive OperandKind where
  | register
  | immediate
  deriving Repr, DecidableEq

namespace Opcode

/-- Every opcode, in increasing order of its byte. -/
def all : List Opcode :=
  [.nop, .hlt, .ret, .push, .pop, .prn, .call, .jmp, .jeq, .jne,
    .ldi, .add, .sub, .mul, .cmp]

/-- The byte that encodes an opcode. -/
def byte : Opcode → UInt8
  | .nop => 0b00000000
  | .hlt => 0b00000001
  | .ret => 0b00010001
  | .push => 0b01000101
  | .pop => 0b01000110
  | .prn => 0b01000111
  | .call => 0b01010000
  | .jmp => 0b01010100
  | .jeq => 0b01010101
  | .jne => 0b01010110
  | .ldi => 0b10000010
  | .add => 0b10100000
  | .sub => 0b10100001
  | .mul => 0b10100010
  | .cmp => 0b10100111

/-- The opcode that a byte encodes, if it encodes one. -/
def decode? (byte : UInt8) : Option Opcode :=
  all.find? fun opcode => opcode.byte = byte

/-- The number of operand bytes: the two high bits of the opcode's byte. -/
def operandCount (opcode : Opcode) : Nat :=
  (opcode.byte >>> 6).toNat

/-- The length of an instruction in bytes, its opcode included. -/
def size (opcode : Opcode) : Nat :=
  1 + opcode.operandCount

/-- What the operand bytes of an instruction mean, in order. -/
def operands : Opcode → List OperandKind
  | .nop | .hlt | .ret => []
  | .push | .pop | .prn | .call | .jmp | .jeq | .jne => [.register]
  | .ldi => [.register, .immediate]
  | .add | .sub | .mul | .cmp => [.register, .register]

/-- The assembler's word for an opcode. -/
def mnemonic : Opcode → String
  | .nop => "NOP"
  | .hlt => "HLT"
  | .ret => "RET"
  | .push => "PUSH"
  | .pop => "POP"
  | .prn => "PRN"
  | .call => "CALL"
  | .jmp => "JMP"
  | .jeq => "JEQ"
  | .jne => "JNE"
  | .ldi => "LDI"
  | .add => "ADD"
  | .sub => "SUB"
  | .mul => "MUL"
  | .cmp => "CMP"

/-- Decoding undoes encoding. -/
@[simp] theorem decode?_byte (opcode : Opcode) :
    decode? opcode.byte = some opcode := by
  cases opcode <;> rfl

/-- Only the byte of an opcode decodes to it. -/
theorem byte_of_decode?
    {byte : UInt8}
    {opcode : Opcode}
    (decodes : decode? byte = some opcode) :
    opcode.byte = byte := by
  simpa using List.find?_some decodes

theorem mem_all (opcode : Opcode) : opcode ∈ all := by
  cases opcode <;> decide

theorem decode?_eq_some_iff
    {byte : UInt8}
    {opcode : Opcode} :
    decode? byte = some opcode ↔ opcode.byte = byte := by
  constructor
  · exact byte_of_decode?
  · rintro rfl
    exact decode?_byte opcode

theorem byte_injective
    {left right : Opcode}
    (same : left.byte = right.byte) :
    left = right := by
  have decodes := congrArg decode? same
  simpa only [decode?_byte, Option.some.injEq] using decodes

/-- A byte that does not decode is the byte of no opcode. -/
theorem decode?_eq_none_iff {byte : UInt8} :
    decode? byte = none ↔ ∀ opcode : Opcode, opcode.byte ≠ byte := by
  simp only [decode?, List.find?_eq_none, decide_eq_true_eq]
  constructor
  · intro undecoded opcode
    exact undecoded opcode opcode.mem_all
  · intro unencoded opcode _
    exact unencoded opcode

/-- Every operand byte has a meaning, and every meaning a byte. -/
@[simp] theorem length_operands (opcode : Opcode) :
    opcode.operands.length = opcode.operandCount := by
  cases opcode <;> rfl

/-- The lengths of the instructions. -/
theorem size_eq (opcode : Opcode) :
    opcode.size =
      match opcode with
      | .nop | .hlt | .ret => 1
      | .push | .pop | .prn | .call | .jmp | .jeq | .jne => 2
      | .ldi | .add | .sub | .mul | .cmp => 3 := by
  cases opcode <;> rfl

/-- An instruction has at most two operand bytes. -/
theorem operandCount_le_two (opcode : Opcode) :
    opcode.operandCount ≤ 2 := by
  cases opcode <;> decide

end Opcode

end LS8
