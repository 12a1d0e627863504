import LS8.Fault
import LS8.Text.Fields

namespace LS8

/-!
# Registers

The eight registers of one byte each. R7 is also the stack pointer; it stays
an ordinary register that every instruction may name.

A `Register` is a number that is known to name a register. `Register.named`
checks a number once; after that reading and writing cannot fail.

Two register files are equal when all their registers are (`ext_value`).
-/

/-- A register's number. -/
abbrev Register : Type :=
  Fin 8

/-- The register that serves as stack pointer. -/
def Register.stackPointer : Register :=
  7

/-- The register with a number, if there is one. -/
def Register.named (index : Nat) : Except AccessError Register :=
  if bound : index < 8 then
    .ok ⟨index, bound⟩
  else
    .error (.register index)

@[simp] theorem Register.named_val (register : Register) :
    Register.named register.val = .ok register := by
  simp [Register.named]

theorem Register.val_of_named
    {number : Nat}
    {register : Register}
    (names : Register.named number = .ok register) :
    register.val = number := by
  unfold Register.named at names
  split at names
  next bound =>
    cases names
    rfl
  next => contradiction

/-- The values of the registers, by number. -/
structure Registers where
  values : Vector UInt8 8
  deriving Repr, DecidableEq

namespace Registers

/-- The number of registers. -/
def count : Nat :=
  8

/-- The value of the stack pointer when a run begins. -/
def stackTop : UInt8 :=
  0xFF

/-- All registers zero. -/
def empty : Registers :=
  { values := Vector.replicate 8 0 }

/-- The values from R0 to R7. -/
def toList (registers : Registers) : List UInt8 :=
  registers.values.toList

/-- The value of a register. -/
def value (registers : Registers) (register : Register) : UInt8 :=
  registers.values[register]

/-- The registers with a new value in one of them. -/
def update
    (registers : Registers)
    (register : Register)
    (value : UInt8) :
    Registers :=
  { values := registers.values.set register value }

/-- The value of the register with a number, if there is one. -/
def get (registers : Registers) (index : Nat) : Except AccessError UInt8 :=
  (Register.named index).map registers.value

/-- A new value in the register with a number, if there is one. -/
def set
    (registers : Registers)
    (index : Nat)
    (value : UInt8) :
    Except AccessError Registers :=
  (Register.named index).map (registers.update · value)

/-- The stack pointer: the value of R7. -/
def stackPointer (registers : Registers) : UInt8 :=
  registers.value Register.stackPointer

/-- The registers with a new stack pointer. -/
def setStackPointer (registers : Registers) (value : UInt8) : Registers :=
  registers.update Register.stackPointer value

/-- The values in decimal, in brackets. -/
def valuesText (registers : Registers) : String :=
  bracketed (registers.toList.map fun value => decimal value.toNat)

/-- What the diagnostic text of the registers tells: their values. -/
def fieldList (registers : Registers) : FieldList :=
  { title := "Registers", fields := [("regs", registers.valuesText)] }

/-- Two register files with the same values are the same. -/
theorem ext_value
    {left right : Registers}
    (same : ∀ register, left.value register = right.value register) :
    left = right := by
  rcases left with ⟨leftValues⟩
  rcases right with ⟨rightValues⟩
  congr 1
  apply Vector.ext
  intro index bound
  exact same ⟨index, bound⟩

/-- An update changes one register and no other. -/
theorem value_update
    (registers : Registers)
    (register other : Register)
    (value : UInt8) :
    (registers.update register value).value other =
      if register = other then value else registers.value other := by
  simp only [update, Registers.value, Fin.getElem_fin, Vector.getElem_set,
    Fin.val_inj]

@[simp] theorem stackPointer_setStackPointer
    (registers : Registers)
    (value : UInt8) :
    (registers.setStackPointer value).stackPointer = value := by
  simp [stackPointer, setStackPointer, value_update]

/-- A new stack pointer is the new value of R7 and of no other register. -/
theorem value_setStackPointer
    (registers : Registers)
    (value : UInt8)
    (other : Register) :
    (registers.setStackPointer value).value other =
      if other.val = 7 then value else registers.value other := by
  rw [setStackPointer, value_update]
  simp only [Register.stackPointer, Fin.ext_iff, eq_comm]
  rfl

/-- A stack pointer that is set to its own value stays as it is. -/
theorem setStackPointer_self (registers : Registers) :
    registers.setStackPointer registers.stackPointer = registers := by
  apply ext_value
  intro register
  rw [value_setStackPointer]
  split
  next isPointer =>
    have same : register = Register.stackPointer := Fin.ext isPointer
    rw [same]
    rfl
  next => rfl

@[simp] theorem length_toList (registers : Registers) :
    registers.toList.length = 8 := by
  simp [toList]

end Registers

end LS8
