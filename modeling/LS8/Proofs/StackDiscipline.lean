import Mathlib.Tactic.IntervalCases
import LS8.Proofs.StackStep

namespace LS8

/-!
# The stack is a last-in, first-out stack

The stack lives in the memory of the program that uses it, under an ordinary
register, and wraps around the end of the memory. As long as no instruction
writes R7 as its destination and no more than 256 bytes are on the stack, it
still is one: what a step takes is what the last step not yet taken back put.

The abstract stack of a path is the list of the steps whose bytes are still on
it (`openPuts`). The memory and the stack pointer represent the bytes of these
steps (`Represents`); each kind of step preserves that (`Represents.keeps`,
`.puts`, `.takes`), so it holds along the whole path
(`Disciplined.represents`), whatever the bytes of the stack overwrite.
-/

namespace Memory

/-- The cells from an address on hold a list of bytes. -/
def Holds (memory : Memory) : UInt8 → List UInt8 → Prop
  | _, [] => True
  | address, value :: rest =>
      memory.cell address = value ∧ memory.Holds (address + 1) rest

/-- A store to another cell leaves the bytes where they are. -/
theorem Holds.store
    {memory : Memory}
    {address other value : UInt8}
    {values : List UInt8}
    (holds : memory.Holds address values)
    (apart :
      ∀ offset < values.length, other ≠ address + UInt8.ofNat offset) :
    (memory.store other value).Holds address values := by
  induction values generalizing address with
  | nil => trivial
  | cons first rest inductionHypothesis =>
      obtain ⟨here, later⟩ := holds
      refine ⟨?_, inductionHypothesis later ?_⟩
      · have different : other ≠ address := by
          simpa using apart 0 (Nat.succ_pos _)
        rw [cell_store, if_neg different, here]
      · intro offset inside
        have different := apart (offset + 1) (Nat.succ_lt_succ inside)
        rw [UInt8.ofNat_add] at different
        grind

end Memory

/-- The cell below the stack pointer is none of the first 255 from it on. -/
theorem pred_ne_add_ofNat
    (pointer : UInt8)
    {offset : Nat}
    (near : offset < 255) :
    pointer - 1 ≠ pointer + UInt8.ofNat offset := by
  intro same
  have wraps : UInt8.ofNat (offset + 1) = 0 := by
    rw [UInt8.ofNat_add]
    grind
  have numbers := congrArg UInt8.toNat wraps
  simp at numbers
  omega

/-- The address that many cells below another. -/
def below (base : UInt8) (distance : Nat) : UInt8 :=
  base - UInt8.ofNat distance

theorem below_succ (base : UInt8) (distance : Nat) :
    below base (distance + 1) = below base distance - 1 := by
  rw [below, below, UInt8.ofNat_add]
  grind

theorem toNat_below (base : UInt8) (distance : Nat) :
    ((below base distance).toNat : Int) =
      ((base.toNat : Int) - distance) % 256 := by
  have bound := base.toNat_lt
  rw [below, UInt8.toNat_sub, UInt8.toNat_ofNat']
  omega

/-- The memory and the stack pointer represent a list of bytes, top first. -/
structure Represents
    (base : UInt8)
    (processor : Processor)
    (values : List UInt8) :
    Prop where
  pointer :
    processor.registers.stackPointer = below base values.length
  holds :
    processor.memory.Holds processor.registers.stackPointer values

namespace Represents

variable
  {base : UInt8}
  {before after : Processor}
  {values : List UInt8}

theorem keeps
    (represents : Represents base before values)
    (pointer :
      after.registers.stackPointer = before.registers.stackPointer)
    (memory : after.memory = before.memory) :
    Represents base after values where
  pointer := pointer.trans represents.pointer
  holds := by
    rw [pointer, memory]
    exact represents.holds

/-- A step that puts a byte on a stack that is not full. -/
theorem puts
    {value : UInt8}
    (represents : Represents base before values)
    (fits : values.length < 256)
    (pointer :
      after.registers.stackPointer = before.registers.stackPointer - 1)
    (memory :
      after.memory =
        before.memory.store (before.registers.stackPointer - 1) value) :
    Represents base after (value :: values) where
  pointer := by
    rw [pointer, represents.pointer, List.length_cons, below_succ]
  holds := by
    have apart :
        ∀ offset < values.length,
          before.registers.stackPointer - 1 ≠
            before.registers.stackPointer + UInt8.ofNat offset := by
      intro offset inside
      apply pred_ne_add_ofNat
      omega
    rw [pointer, memory]
    refine ⟨?_, ?_⟩
    · rw [Memory.cell_store, if_pos rfl]
    · rw [UInt8.sub_add_cancel]
      exact represents.holds.store apart

/-- A step that takes the top byte. -/
theorem takes
    {value : UInt8}
    (represents : Represents base before (value :: values))
    (pointer :
      after.registers.stackPointer = before.registers.stackPointer + 1)
    (memory : after.memory = before.memory) :
    Represents base after values where
  pointer := by
    rw [pointer, represents.pointer, List.length_cons, below_succ,
      UInt8.sub_add_cancel]
  holds := by
    rw [pointer, memory]
    exact represents.holds.2

/-- The byte on top is the first of the list. -/
theorem stackTop_eq
    {value : UInt8}
    (represents : Represents base before (value :: values)) :
    InstructionTable.stackTop before = value :=
  represents.holds.1

end Represents

section

variable (states : Nat → Processor)

/-- The steps that put a byte on the stack less those that took one. -/
def depth : Nat → Int
  | 0 => 0
  | index + 1 => depth index + (states index).stackEffect.growth

/-- The greatest depth so far. -/
def peak : Nat → Int
  | 0 => 0
  | index + 1 => max (peak index) (depth states (index + 1))

/-- The steps that put a byte on the stack that is still there, last first. -/
def openPuts : Nat → List Nat
  | 0 => []
  | index + 1 =>
      match (states index).stackEffect with
      | .keeps => openPuts index
      | .puts => index :: openPuts index
      | .takes => (openPuts index).tail

/-- The bytes of these steps, as each left them on top of the stack. -/
def openBytes (index : Nat) : List UInt8 :=
  (openPuts states index).map fun put =>
    InstructionTable.stackTop (states (put + 1))

/--
A path of successful steps that spare R7, and along which the stack neither
runs below where it began nor grows beyond 256 bytes.
-/
structure Disciplined (count : Nat) : Prop where
  path : ∀ index < count, (states index).StepsTo (states (index + 1))
  spares : ∀ index < count, (states index).SparesPointer
  bounded :
    ∀ index ≤ count, 0 ≤ depth states index ∧ depth states index ≤ 256

end

/-- A step still on the stack is an earlier one that put a byte there. -/
theorem puts_of_mem_openPuts
    {states : Nat → Processor}
    {index put : Nat}
    (isOpen : put ∈ openPuts states index) :
    put < index ∧ (states put).stackEffect = .puts := by
  induction index with
  | zero => simp [openPuts] at isOpen
  | succ index inductionHypothesis =>
      have earlier (before : put ∈ openPuts states index) :
          put < index + 1 ∧ (states put).stackEffect = .puts := by
        obtain ⟨less, effect⟩ := inductionHypothesis before
        exact ⟨Nat.lt_succ_of_lt less, effect⟩
      cases effect : (states index).stackEffect with
      | keeps =>
          simp only [openPuts, effect] at isOpen
          exact earlier isOpen
      | puts =>
          simp only [openPuts, effect, List.mem_cons] at isOpen
          rcases isOpen with rfl | before
          · exact ⟨Nat.lt_succ_self put, effect⟩
          · exact earlier before
      | takes =>
          simp only [openPuts, effect] at isOpen
          exact earlier (List.mem_of_mem_tail isOpen)

namespace Disciplined

variable
  {states : Nat → Processor}
  {count : Nat}

/-- Every step of the path does to the stack what it should. -/
theorem stackStep
    (disciplined : Disciplined states count)
    {index : Nat}
    (inside : index < count) :
    StackStep (states index) (states (index + 1))
      (states index).stackEffect :=
  (disciplined.path index inside).stackStep (disciplined.spares index inside)

/-- The depth counts the bytes on the stack. -/
theorem depth_eq_length
    (disciplined : Disciplined states count)
    {index : Nat}
    (inside : index ≤ count) :
    depth states index = (openPuts states index).length := by
  induction index with
  | zero => rfl
  | succ index inductionHypothesis =>
      have before := inductionHypothesis (Nat.le_of_succ_le inside)
      have bounded := disciplined.bounded (index + 1) inside
      cases effect : (states index).stackEffect with
      | keeps =>
          simp [depth, openPuts, effect, StackEffect.growth, before]
      | puts =>
          simp [depth, openPuts, effect, StackEffect.growth, before]
      | takes =>
          -- An empty list has an empty tail, but its depth would be negative.
          simp only [depth, effect, StackEffect.growth] at bounded
          simp only [depth, openPuts, effect, StackEffect.growth,
            List.length_tail]
          omega

/-- There is a byte to take. -/
theorem exists_openPuts
    (disciplined : Disciplined states count)
    {index : Nat}
    (inside : index < count)
    (effect : (states index).stackEffect = .takes) :
    ∃ put rest, openPuts states index = put :: rest := by
  have length := disciplined.depth_eq_length (Nat.le_of_lt inside)
  have bounded := disciplined.bounded (index + 1) inside
  simp only [depth, effect, StackEffect.growth, length] at bounded
  apply List.exists_cons_of_length_pos
  omega

/-- There is room for a byte to put. -/
theorem length_openBytes_lt
    (disciplined : Disciplined states count)
    {index : Nat}
    (inside : index < count)
    (effect : (states index).stackEffect = .puts) :
    (openBytes states index).length < 256 := by
  have length := disciplined.depth_eq_length (Nat.le_of_lt inside)
  have bounded := disciplined.bounded (index + 1) inside
  simp only [depth, effect, StackEffect.growth, length] at bounded
  rw [openBytes, List.length_map]
  omega

/-- Memory and stack pointer represent the abstract stack along the path. -/
theorem represents
    (disciplined : Disciplined states count)
    {index : Nat}
    (inside : index ≤ count) :
    Represents (states 0).registers.stackPointer (states index)
      (openBytes states index) := by
  induction index with
  | zero =>
      refine { pointer := ?_, holds := trivial }
      simp [openBytes, openPuts, below]
  | succ index inductionHypothesis =>
      have before := inductionHypothesis (Nat.le_of_succ_le inside)
      have stackStep := disciplined.stackStep inside
      generalize effect : (states index).stackEffect = done at stackStep
      cases stackStep with
      | keeps pointer memory =>
          have same : openBytes states (index + 1) = openBytes states index := by
            simp only [openBytes, openPuts, effect]
          rw [same]
          exact before.keeps pointer memory
      | @puts value pointer memory puts =>
          have pushed :
              openBytes states (index + 1) =
                value :: openBytes states index := by
            simp only [openBytes, openPuts, effect, List.map_cons,
              puts.written]
          have fits := disciplined.length_openBytes_lt inside effect
          rw [pushed]
          exact before.puts fits pointer memory
      | takes pointer memory takes =>
          -- The depth after the step is not negative: there is a byte to take.
          obtain ⟨put, rest, isOpen⟩ :=
            disciplined.exists_openPuts inside effect
          have popped :
              openBytes states index =
                InstructionTable.stackTop (states (put + 1)) ::
                  openBytes states (index + 1) := by
            simp only [openBytes, openPuts, effect, isOpen, List.map_cons,
              List.tail_cons]
          rw [popped] at before
          exact before.takes pointer memory

/-- The cells beyond the greatest depth keep their values. -/
theorem cell_eq
    (disciplined : Disciplined states count)
    {index : Nat}
    (inside : index ≤ count)
    {address : UInt8}
    (beyond :
      ∀ distance : Nat,
        1 ≤ distance →
        (distance : Int) ≤ peak states index →
        address ≠ below (states 0).registers.stackPointer distance) :
    (states index).memory.cell address = (states 0).memory.cell address := by
  induction index with
  | zero => rfl
  | succ index inductionHypothesis =>
      have before :
          (states index).memory.cell address =
            (states 0).memory.cell address := by
        apply inductionHypothesis (Nat.le_of_succ_le inside)
        intro distance positive within
        exact beyond distance positive (Int.le_trans within (Int.le_max_left _ _))
      have stackStep := disciplined.stackStep inside
      generalize effect : (states index).stackEffect = done at stackStep
      cases stackStep with
      | keeps pointer memory => rw [memory, before]
      | puts pointer memory puts =>
          have represents :=
            disciplined.represents (Nat.le_of_succ_le inside)
          have length := disciplined.depth_eq_length (Nat.le_of_lt inside)
          have reached : depth states (index + 1) ≤ peak states (index + 1) :=
            Int.le_max_right _ _
          -- The written cell is as far down as the stack is deep afterwards.
          have apart :
              address ≠ (states index).registers.stackPointer - 1 := by
            rw [represents.pointer, ← below_succ]
            apply beyond _ (Nat.succ_pos _)
            rw [openBytes, List.length_map]
            rw [depth, effect, StackEffect.growth] at reached
            omega
          rw [memory, Memory.cell_store, if_neg apart.symm, before]
      | takes pointer memory takes => rw [memory, before]

/-- What a step takes is what the last step still on the stack put there. -/
theorem exists_matched
    (disciplined : Disciplined states count)
    {index : Nat}
    (inside : index < count)
    (effect : (states index).stackEffect = .takes) :
    ∃ put rest value,
      openPuts states index = put :: rest ∧
        put < index ∧
        Puts (states put) (states (put + 1)) value ∧
        Takes (states index) (states (index + 1)) value := by
  obtain ⟨put, rest, isOpen⟩ := disciplined.exists_openPuts inside effect
  have represents := disciplined.represents (Nat.le_of_lt inside)
  rw [openBytes, isOpen, List.map_cons] at represents
  have same := represents.stackTop_eq
  have member : put ∈ openPuts states index := by simp [isOpen]
  obtain ⟨earlier, putEffect⟩ := puts_of_mem_openPuts member
  have takeStep := disciplined.stackStep inside
  have putStep := disciplined.stackStep (Nat.lt_trans earlier inside)
  rw [effect] at takeStep
  rw [putEffect] at putStep
  cases putStep with
  | @puts value putPointer putMemory puts =>
      cases takeStep with
      | takes takePointer takeMemory takes =>
          rw [same, puts.written] at takes
          exact ⟨put, rest, value, isOpen, earlier, puts, takes⟩

/-- A return goes on after the call whose address it takes. -/
theorem pc_eq_of_ret
    (disciplined : Disciplined states count)
    {index put : Nat}
    {rest : List Nat}
    (inside : index < count)
    (isOpen : openPuts states index = put :: rest)
    (calls : (states put).instruction? = some .call)
    (returns : (states index).instruction? = some .ret) :
    (states (index + 1)).pc = (states put).pc + 2 := by
  have effect : (states index).stackEffect = .takes := by
    rw [Processor.stackEffect, returns]
    rfl
  obtain ⟨matched, later, value, alsoOpen, earlier, puts, takes⟩ :=
    disciplined.exists_matched inside effect
  obtain ⟨rfl, rfl⟩ := List.cons.inj (isOpen.symm.trans alsoOpen)
  cases takes with
  | pop executes obtains => simp [returns] at executes
  | ret executes obtains =>
      cases puts with
      | push executes source written => simp [calls] at executes
      | call executes source written => exact obtains.trans source

end Disciplined

/--
The stack of a disciplined path is a last-in, first-out stack. The stack
pointer is as far below its start as the stack is deep. A step that takes a
byte obtains the one that the last step still on the stack put there, so a
return from a call goes on after the call. No cell is written beyond those
that the stack reaches down to.
-/
theorem stack_refines_lifo
    {states : Nat → Processor}
    {count : Nat}
    (disciplined : Disciplined states count) :
    (∀ index ≤ count,
      ((states index).registers.stackPointer.toNat : Int) =
        ((states 0).registers.stackPointer.toNat - depth states index) %
          256) ∧
      (∀ index < count,
        (states index).stackEffect = .takes →
        ∃ put rest value,
          openPuts states index = put :: rest ∧
            put < index ∧
            Puts (states put) (states (put + 1)) value ∧
            Takes (states index) (states (index + 1)) value) ∧
      (∀ index < count,
        ∀ put rest,
          openPuts states index = put :: rest →
          (states put).instruction? = some .call →
          (states index).instruction? = some .ret →
          (states (index + 1)).pc = (states put).pc + 2) ∧
      (∀ index ≤ count,
        ∀ address,
          (∀ distance : Nat,
            1 ≤ distance →
            (distance : Int) ≤ peak states index →
            address ≠ below (states 0).registers.stackPointer distance) →
          (states index).memory.cell address =
            (states 0).memory.cell address) := by
  refine ⟨?_, ?_, ?_, ?_⟩
  · intro index inside
    have represents := disciplined.represents inside
    have length := disciplined.depth_eq_length inside
    rw [represents.pointer, toNat_below, openBytes, List.length_map, length]
  · intro index inside effect
    exact disciplined.exists_matched inside effect
  · intro index inside put rest isOpen calls returns
    exact disciplined.pc_eq_of_ret inside isOpen calls returns
  · intro index inside address beyond
    exact disciplined.cell_eq inside beyond

/--
A subroutine at address 3 that copies the stack pointer to R1 by way of the
stack, and a call of it. The stack begins at address zero, so that it wraps.
-/
def wrappingCall : Processor :=
  {
    Processor.initial with
    memory :=
      Memory.empty
        |>.store 0 Opcode.call.byte
        |>.store 3 Opcode.push.byte
        |>.store 4 7
        |>.store 5 Opcode.pop.byte
        |>.store 6 1
        |>.store 7 Opcode.ret.byte
    registers := (Registers.empty.update ⟨0, by decide⟩ 3).setStackPointer 0
  }

/-- The states after it, from step to step. -/
def wrappingCallAfter : Nat → Processor
  | 0 => wrappingCall
  | index + 1 => ((wrappingCallAfter index).step Sink.unlimited).processor

/-- The call, the push, the pop and the return make a disciplined path. -/
theorem disciplined_wrappingCallAfter :
    Disciplined wrappingCallAfter 4 where
  path := by
    intro index inside
    refine ⟨Sink.unlimited, .running, ?_, rfl⟩
    interval_cases index <;> rfl
  spares := by
    intro index inside
    unfold Processor.SparesPointer
    interval_cases index <;> decide
  bounded := by
    intro index inside
    interval_cases index <;> decide

/-- The subroutine returns, and the stack pointer is back at its start. -/
theorem stack_refines_lifo_wrappingCallAfter :
    (wrappingCallAfter 4).pc = 2 ∧
      (wrappingCallAfter 4).registers.stackPointer = 0 := by
  have refines := stack_refines_lifo disciplined_wrappingCallAfter
  obtain ⟨pointer, -, returns, -⟩ := refines
  refine ⟨returns 3 (by decide) 0 [] rfl rfl rfl, ?_⟩
  apply UInt8.toNat_inj.mp
  exact Int.ofNat.inj (pointer 4 (Nat.le_refl 4))

end LS8
