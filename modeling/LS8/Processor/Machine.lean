import LS8.Event
import LS8.Processor.Basic
import LS8.Sink

namespace LS8

/-!
# The machine at work

While an instruction is executed, a machine holds the processor, the sink that
takes what is printed, and what came out so far. An `Action` changes a machine
and may fail. It does not undo anything: an action that fails keeps each change
that was made before it failed.

The actions of this module are the accesses that instructions are made of.
-/

/-- A processor at work, with what comes out of it. -/
structure Machine where
  processor : Processor
  sink : Sink
  /-- What came out so far, in order. -/
  events : List Event
  deriving Repr

/-- A change of a machine that may fail on its way. -/
abbrev Action : Type → Type :=
  EStateM Fault Machine

namespace Action

/-- The outcome of an access to the memory or to the registers. -/
def ofAccess (outcome : Except AccessError α) : Action α :=
  match outcome with
  | .ok value => pure value
  | .error error => throw (.access error)

/-- Change the processor. -/
def change (update : Processor → Processor) : Action Unit :=
  modify fun machine =>
    { machine with processor := update machine.processor }

/-- Let something come out. -/
def emit (event : Event) : Action Unit :=
  modify fun machine =>
    { machine with events := machine.events ++ [event] }

/-- Leave a record. -/
def log (record : Record) : Action Unit :=
  emit (.logged record)

/-- Write a text to the sink; what it accepts of the text comes out. -/
def print (text : String) : Action Unit := do
  let delivery := (← get).sink.write text
  modify fun machine => { machine with sink := delivery.sink }
  emit (.printed delivery.accepted)
  match delivery.refusal? with
  | none => pure ()
  | some refusal => throw (.output refusal)

/-- The value of the register with a number. -/
def readRegister (index : UInt8) : Action UInt8 := do
  ofAccess ((← get).processor.registers.get index.toNat)

/-- Write the register with a number. -/
def writeRegister (index value : UInt8) : Action Unit := do
  let registers ←
    ofAccess ((← get).processor.registers.set index.toNat value)
  change fun processor => { processor with registers := registers }

/-- The cell at an address. -/
def readCell (address : Nat) : Action UInt8 := do
  ofAccess ((← get).processor.memory.read address)

/-- Write the cell at an address. -/
def writeCell (address : Nat) (value : UInt8) : Action Unit := do
  let memory ← ofAccess ((← get).processor.memory.write address value)
  change fun processor => { processor with memory := memory }

/-- The stack pointer. -/
def readStackPointer : Action UInt8 := do
  return (← get).processor.registers.stackPointer

/-- Lower the stack pointer by one, modulo 256, and return its new value. -/
def lowerStack : Action UInt8 := do
  let pointer := (← readStackPointer) - 1
  change fun processor => processor.setStackPointer pointer
  return pointer

/-- Raise the stack pointer by one, modulo 256. -/
def raiseStack : Action Unit := do
  let pointer := (← readStackPointer) + 1
  change fun processor => processor.setStackPointer pointer

/-- Go on at an address. -/
def jumpTo (address : UInt8) : Action Unit :=
  change fun processor => { processor with pc := address.toNat }

/-- Go on to the instruction after this one. -/
def advance (opcode : Opcode) : Action Unit :=
  change fun processor => { processor with pc := processor.pc + opcode.size }

@[simp] theorem run_pure (value : α) (machine : Machine) :
    (pure value : Action α).run machine = .ok value machine :=
  rfl

@[simp] theorem run_get (machine : Machine) :
    (get : Action Machine).run machine = .ok machine machine :=
  rfl

@[simp] theorem run_modify
    (update : Machine → Machine)
    (machine : Machine) :
    (modify update : Action Unit).run machine = .ok () (update machine) :=
  rfl

@[simp] theorem run_throw (fault : Fault) (machine : Machine) :
    (throw fault : Action α).run machine = .error fault machine :=
  rfl

@[simp] theorem run_ofAccess_ok (value : α) (machine : Machine) :
    (ofAccess (.ok value)).run machine = .ok value machine :=
  rfl

@[simp] theorem run_ofAccess_error (error : AccessError) (machine : Machine) :
    (ofAccess (.error error) : Action α).run machine =
      .error (.access error) machine :=
  rfl

@[simp] theorem run_change
    (update : Processor → Processor)
    (machine : Machine) :
    (change update).run machine =
      .ok () { machine with processor := update machine.processor } :=
  rfl

@[simp] theorem run_emit (event : Event) (machine : Machine) :
    (emit event).run machine =
      .ok () { machine with events := machine.events ++ [event] } :=
  rfl

@[simp] theorem run_log (record : Record) (machine : Machine) :
    (log record).run machine =
      .ok () { machine with events := machine.events ++ [.logged record] } :=
  rfl

@[simp] theorem run_readStackPointer (machine : Machine) :
    readStackPointer.run machine =
      .ok machine.processor.registers.stackPointer machine :=
  rfl

@[simp] theorem run_lowerStack (machine : Machine) :
    lowerStack.run machine =
      .ok (machine.processor.registers.stackPointer - 1)
        { machine with
          processor :=
            machine.processor.setStackPointer
              (machine.processor.registers.stackPointer - 1) } :=
  rfl

@[simp] theorem run_raiseStack (machine : Machine) :
    raiseStack.run machine =
      .ok ()
        { machine with
          processor :=
            machine.processor.setStackPointer
              (machine.processor.registers.stackPointer + 1) } :=
  rfl

@[simp] theorem run_jumpTo (address : UInt8) (machine : Machine) :
    (jumpTo address).run machine =
      .ok ()
        { machine with
          processor := { machine.processor with pc := address.toNat } } :=
  rfl

@[simp] theorem run_advance (opcode : Opcode) (machine : Machine) :
    (advance opcode).run machine =
      .ok ()
        { machine with
          processor := {
            machine.processor with
            pc := machine.processor.pc + opcode.size } } :=
  rfl

theorem run_readRegister (index : UInt8) (machine : Machine) :
    (readRegister index).run machine =
      match Register.named index.toNat with
      | .ok register => .ok (machine.processor.registers.value register) machine
      | .error error => .error (.access error) machine := by
  cases named : Register.named index.toNat with
  | ok register =>
      simp [readRegister, Registers.get, named, Except.map]
  | error error =>
      simp [readRegister, Registers.get, named, Except.map]

theorem run_writeRegister (index value : UInt8) (machine : Machine) :
    (writeRegister index value).run machine =
      match Register.named index.toNat with
      | .ok register =>
          .ok ()
            { machine with
              processor := {
                machine.processor with
                registers :=
                  machine.processor.registers.update register value } }
      | .error error => .error (.access error) machine := by
  cases named : Register.named index.toNat with
  | ok register =>
      simp [writeRegister, Registers.set, named, Except.map]
  | error error =>
      simp [writeRegister, Registers.set, named, Except.map]

/-- Every byte is the address of a cell that can be read. -/
@[simp] theorem run_readCell_toNat (address : UInt8) (machine : Machine) :
    (readCell address.toNat).run machine =
      .ok (machine.processor.memory.cell address) machine := by
  simp [readCell, Memory.read_of_lt _ address.toNat_lt]

theorem run_readCell_of_lt
    {machine : Machine}
    {address : Nat}
    (bound : address < 256) :
    (readCell address).run machine =
      .ok (machine.processor.memory.peek address) machine := by
  simp [readCell, Memory.read_of_lt _ bound]

theorem run_readCell_of_le
    {machine : Machine}
    {address : Nat}
    (beyond : 256 ≤ address) :
    (readCell address).run machine =
      .error (.access (.memory address)) machine := by
  simp [readCell, Memory.read_of_le _ beyond]

/-- Every byte is the address of a cell that can be written. -/
@[simp] theorem run_writeCell_toNat
    (address value : UInt8)
    (machine : Machine) :
    (writeCell address.toNat value).run machine =
      .ok ()
        { machine with
          processor := {
            machine.processor with
            memory := machine.processor.memory.store address value } } := by
  simp [writeCell]

/-- What the sink accepts of a text comes out, be it refused or not. -/
theorem run_print (text : String) (machine : Machine) :
    (print text).run machine =
      let delivery := machine.sink.write text
      let printed := {
        machine with
        sink := delivery.sink
        events := machine.events ++ [.printed delivery.accepted]
      }
      match delivery.refusal? with
      | none => .ok () printed
      | some refusal => .error (.output refusal) printed := by
  cases refused : (machine.sink.write text).refusal? with
  | none => simp [print, refused]
  | some refusal => simp [print, refused]

end Action

end LS8
