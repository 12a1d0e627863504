import LS8.Fault
import LS8.Text.Fields

namespace LS8

/-!
# Memory

The memory is 256 cells of one byte. A one-byte address always names a cell
(`cell`, `store`); an address of any size is checked (`read`, `write`), except
in a `peek`, which finds zero beyond the last cell. `load` places an image at
address zero and leaves the cells after it as they were.

Two memories are equal when all their cells are (`ext_cell`), and each
operation is described by what it does to the cells.
-/

/-- The cells of the memory, by address. -/
structure Memory where
  cells : Vector UInt8 256
  deriving Repr, DecidableEq

namespace Memory

/-- The number of cells. -/
def size : Nat :=
  256

/-- A memory of zeros. -/
def empty : Memory :=
  { cells := Vector.replicate 256 0 }

/-- All cells in order of their addresses. -/
def toList (memory : Memory) : List UInt8 :=
  memory.cells.toList

/-- The cell at a one-byte address. -/
def cell (memory : Memory) (address : UInt8) : UInt8 :=
  have bound := address.toNat_lt
  memory.cells[address.toNat]

/-- The memory with a new value at a one-byte address. -/
def store (memory : Memory) (address value : UInt8) : Memory :=
  have bound := address.toNat_lt
  { cells := memory.cells.set address.toNat value }

/-- The cell at an address, if there is such a cell. -/
def read (memory : Memory) (address : Nat) : Except AccessError UInt8 :=
  if bound : address < 256 then
    .ok memory.cells[address]
  else
    .error (.memory address)

/-- The memory with a new value at an address, if there is such a cell. -/
def write
    (memory : Memory)
    (address : Nat)
    (value : UInt8) :
    Except AccessError Memory :=
  if bound : address < 256 then
    .ok { cells := memory.cells.set address value }
  else
    .error (.memory address)

/-- The cell at an address; there are zeros beyond the last cell. -/
def peek (memory : Memory) (address : Nat) : UInt8 :=
  if bound : address < 256 then
    memory.cells[address]
  else
    0

/-- The memory with an image in its first cells; a longer image is refused. -/
def load
    (memory : Memory)
    (image : List UInt8) :
    Except AccessError Memory :=
  if image.length ≤ 256 then
    .ok {
      cells := Vector.ofFn fun address =>
        (image[address.val]?).getD memory.cells[address]
    }
  else
    .error (.memory size)

/-- What the diagnostic text of a memory tells: its size and its use. -/
def fieldList (memory : Memory) : FieldList :=
  {
    title := "Memory"
    fields := [
      ("size", decimal size),
      ("nonzero", decimal (memory.toList.countP (· ≠ 0)))
    ]
  }

/-- Two memories with the same cells are the same. -/
theorem ext_cell
    {left right : Memory}
    (same : ∀ address, left.cell address = right.cell address) :
    left = right := by
  rcases left with ⟨leftCells⟩
  rcases right with ⟨rightCells⟩
  congr 1
  apply Vector.ext
  intro address bound
  have atAddress := same (UInt8.ofNat address)
  simpa [cell, Nat.mod_eq_of_lt bound] using atAddress

/-- A store changes the cell at its address and no other. -/
theorem cell_store
    (memory : Memory)
    (address value other : UInt8) :
    (memory.store address value).cell other =
      if address = other then value else memory.cell other := by
  simp only [store, cell, Vector.getElem_set, UInt8.toNat_inj]

@[simp] theorem cell_empty (address : UInt8) :
    empty.cell address = 0 := by
  simp [empty, cell]

@[simp] theorem peek_toNat (memory : Memory) (address : UInt8) :
    memory.peek address.toNat = memory.cell address := by
  simp [peek, cell, address.toNat_lt]

theorem peek_of_le
    (memory : Memory)
    {address : Nat}
    (beyond : 256 ≤ address) :
    memory.peek address = 0 := by
  simp [peek, Nat.not_lt.mpr beyond]

/-- A read within the memory finds what a peek finds. -/
theorem read_of_lt
    (memory : Memory)
    {address : Nat}
    (bound : address < 256) :
    memory.read address = .ok (memory.peek address) := by
  simp [read, peek, bound]

theorem read_of_le
    (memory : Memory)
    {address : Nat}
    (beyond : 256 ≤ address) :
    memory.read address = .error (.memory address) := by
  simp [read, Nat.not_lt.mpr beyond]

/-- A write at a one-byte address stores the value. -/
@[simp] theorem write_toNat
    (memory : Memory)
    (address value : UInt8) :
    memory.write address.toNat value = .ok (memory.store address value) := by
  simp [write, store, address.toNat_lt]

@[simp] theorem length_toList (memory : Memory) :
    memory.toList.length = 256 := by
  simp [toList]

/-- A peek looks into the list of the cells; there are zeros beyond its end. -/
theorem peek_eq_getD (memory : Memory) (address : Nat) :
    memory.peek address = memory.toList.getD address 0 := by
  by_cases bound : address < 256 <;> simp [peek, toList, bound]

end Memory

end LS8
