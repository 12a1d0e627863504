import LS8.Proofs.Stepping

namespace LS8

/-!
# When a step faults

`Faults` lists the conditions under which the step of a running processor
faults, each with its fault. It speaks of the cells around the program counter,
of the registers that exist and of what the sink takes, and not of the accesses
that an instruction makes.

All that a step can see of a sink is how much of one line it takes. That may be
the whole line or any beginning of it.

The list is exact: a step ends with a fault just if the list has it
(`result_eq_error_iff`), and in every other case it succeeds. An instruction
may have two reasons to fault at once. Its operands come first, in their order,
and then the address after a call; that is why `returnAddress` and `output` ask
for a register that exists.
-/

open InstructionTable

namespace Processor

/-- The byte at an address; there are zeros beyond the last cell. -/
def codeByte (processor : Processor) (address : Nat) : UInt8 :=
  if address < 256 then
    processor.memory.cell (UInt8.ofNat address)
  else
    0

theorem codeByte_eq_peek (processor : Processor) (address : Nat) :
    processor.codeByte address = processor.memory.peek address := by
  by_cases inMemory : address < 256
  · have same : (UInt8.ofNat address).toNat = address := by
      simp [Nat.mod_eq_of_lt inMemory]
    rw [codeByte, if_pos inMemory, ← Memory.peek_toNat, same]
  · rw [codeByte, if_neg inMemory,
      Memory.peek_of_le _ (Nat.le_of_not_lt inMemory)]

/-- The operand bytes whose registers an instruction uses, in order. -/
def usedOperands (processor : Processor) (opcode : Opcode) : List UInt8 :=
  let first := processor.codeByte (processor.pc + 1)
  let second := processor.codeByte (processor.pc + 2)
  match opcode with
  | .ldi | .prn | .jmp | .push | .pop | .call => [first]
  | .jeq => if processor.flags.equal then [first] else []
  | .jne => if processor.flags.equal then [] else [first]
  | .cmp | .add | .sub | .mul => [first, second]
  | .nop | .hlt | .ret => []

/-- The first of them that is the number of no register. -/
def missingRegister? (processor : Processor) (opcode : Opcode) : Option UInt8 :=
  (processor.usedOperands opcode).find? fun index => 8 ≤ index.toNat

end Processor

/-- An opcode is in the cell that the program counter names. -/
structure StandsAt (before : Processor) (opcode : Opcode) : Prop where
  inMemory : before.pc < 256
  encodes : opcode.byte = before.codeByte before.pc

/-- The conditions under which a step faults, with their faults. -/
inductive Faults (before : Processor) (sink : Sink) : Fault → Prop where
  | fetch
      (beyond : 256 ≤ before.pc) :
      Faults before sink (.access (.memory before.pc))
  | opcode
      (inMemory : before.pc < 256)
      (unencoded :
        ∀ opcode : Opcode, opcode.byte ≠ before.codeByte before.pc) :
      Faults before sink
        (.unknownOpcode (before.codeByte before.pc) before.pc)
  | register
      {opcode : Opcode}
      {index : UInt8}
      (stands : StandsAt before opcode)
      (missing : before.missingRegister? opcode = some index) :
      Faults before sink (.access (.register index.toNat))
  | returnAddress
      (stands : StandsAt before .call)
      (registerExists : before.missingRegister? .call = none)
      (beyond : 255 < before.pc + 2) :
      Faults before sink (.access (.memory (before.pc + 2)))
  | output
      {register : Register}
      (stands : StandsAt before .prn)
      (names : register.val = (before.codeByte (before.pc + 1)).toNat)
      (short :
        let line := (before.registers.value register).toNat.repr ++ "\n"
        (sink.write line).accepted ≠ line) :
      Faults before sink (.output sink.refusal)

theorem standsAt_iff_fetches
    {before : Processor}
    (running : before.status = .running)
    {opcode : Opcode} :
    StandsAt before opcode ↔ Fetches before opcode := by
  constructor
  · rintro ⟨inMemory, encodes⟩
    refine ⟨running, inMemory, ?_⟩
    rw [Opcode.decode?_eq_some_iff, ← before.codeByte_eq_peek]
    exact encodes
  · rintro ⟨-, inMemory, decodes⟩
    refine ⟨inMemory, ?_⟩
    rw [before.codeByte_eq_peek]
    exact Opcode.decode?_eq_some_iff.mp decodes

/-- The error of the first missing one of a list of registers. -/
theorem map_find?_cons
    (index : UInt8)
    (rest : List UInt8) :
    ((index :: rest).find? fun index => 8 ≤ index.toNat).map
        (fun index => AccessError.register index.toNat) =
      (unnamed? index).or
        ((rest.find? fun index => 8 ≤ index.toNat).map
          fun index => .register index.toNat) := by
  by_cases exist : index.toNat < 8
  · have notMissing : ¬ 8 ≤ index.toNat := Nat.not_le.mpr exist
    simp [unnamed?, exist, notMissing]
  · have missing : 8 ≤ index.toNat := Nat.le_of_not_lt exist
    simp [unnamed?, exist, missing]

/-- The table's access errors are the missing registers and return addresses. -/
theorem accessError?_eq
    (before : Processor)
    (opcode : Opcode) :
    accessError? before opcode before.firstByte before.secondByte =
      ((before.missingRegister? opcode).map fun index =>
          .register index.toNat).or
        (if opcode = .call ∧ 255 < before.pc + 2 then
          some (.memory (before.pc + 2))
        else
          none) := by
  have first : before.codeByte (before.pc + 1) = before.firstByte :=
    before.codeByte_eq_peek _
  have second : before.codeByte (before.pc + 2) = before.secondByte :=
    before.codeByte_eq_peek _
  have fits : 255 < before.pc + 2 ↔ ¬ before.pc + 2 < 256 := by omega
  simp only [Processor.missingRegister?, Processor.usedOperands, first, second,
    fits]
  cases opcode with
  | jeq | jne =>
      cases equal : before.flags.equal <;>
        simp only [accessError?, equal, Bool.false_eq_true, reduceCtorEq,
          false_and, ↓reduceIte, map_find?_cons, List.find?_nil,
          Option.map_none, Option.or_none]
  | call =>
      simp only [accessError?, map_find?_cons, List.find?_nil, Option.map_none,
        Option.or_none, true_and, ite_not]
  | _ =>
      simp only [accessError?, map_find?_cons, List.find?_nil, Option.map_none,
        Option.or_none, reduceCtorEq, false_and, ↓reduceIte]

/-- A missing register is the first thing that an instruction trips over. -/
theorem accessError?_of_missing
    {before : Processor}
    {opcode : Opcode}
    {index : UInt8}
    (missing : before.missingRegister? opcode = some index) :
    accessError? before opcode before.firstByte before.secondByte =
      some (.register index.toNat) := by
  rw [accessError?_eq, missing]
  rfl

/-- How the step of a fetched instruction ends, in terms of the table. -/
theorem Fetches.outcome
    {before : Processor}
    {opcode : Opcode}
    (fetches : Fetches before opcode)
    (sink : Sink) :
    (∃ error,
      accessError? before opcode before.firstByte before.secondByte =
          some error ∧
        (before.step sink).result = .error (.access error)) ∨
      accessError? before opcode before.firstByte before.secondByte = none ∧
        ((∃ refusal,
          opcode = .prn ∧
            (sink.write (printed before .prn before.firstByte)).refusal? =
              some refusal ∧
            (before.step sink).result = .error (.output refusal)) ∨
          (sink.write (printed before opcode before.firstByte)).refusal? =
              none ∧
            ∃ status, (before.step sink).result = .ok status) := by
  have stepped := before.stepped sink
  generalize before.step sink = transition at stepped ⊢
  have same {executed : Opcode} (alsoFetches : Fetches before executed) :
      executed = opcode :=
    Option.some.inj (alsoFetches.decodes.symm.trans fetches.decodes)
  cases stepped with
  | idle halted => simp [fetches.running] at halted
  | unfetched _ beyond => exact (Nat.not_le.mpr fetches.inMemory beyond).elim
  | undecoded _ _ undecoded => simp [fetches.decodes] at undecoded
  | failed alsoFetches fails =>
      obtain rfl := same alsoFetches
      exact Or.inl ⟨_, fails, rfl⟩
  | refused alsoFetches faultless refuses =>
      obtain rfl := same alsoFetches
      exact Or.inr ⟨faultless, Or.inl ⟨_, rfl, refuses, rfl⟩⟩
  | completed alsoFetches faultless _ _ accepts =>
      obtain rfl := same alsoFetches
      exact Or.inr ⟨faultless, Or.inr ⟨accepts, _, rfl⟩⟩

/-- Wherever the table has an access error, the step ends with it. -/
theorem Fetches.result_eq_access
    {before : Processor}
    {opcode : Opcode}
    {error : AccessError}
    (fetches : Fetches before opcode)
    (fails :
      accessError? before opcode before.firstByte before.secondByte =
        some error)
    (sink : Sink) :
    (before.step sink).result = .error (.access error) := by
  rcases fetches.outcome sink with ⟨other, alsoFails, result⟩ | ⟨none, -⟩
  · rw [fails] at alsoFails
    cases alsoFails
    exact result
  · simp [fails] at none

/-- A fault is on the list. -/
theorem faults_of_result_eq_error
    {before : Processor}
    {sink : Sink}
    {fault : Fault}
    (ends : (before.step sink).result = .error fault) :
    Faults before sink fault := by
  have stepped := before.stepped sink
  generalize before.step sink = transition at ends stepped
  cases stepped with
  | idle | completed => simp at ends
  | unfetched running beyond =>
      cases ends
      exact .fetch beyond
  | undecoded running inMemory undecoded =>
      cases ends
      rw [← before.codeByte_eq_peek] at undecoded ⊢
      exact .opcode inMemory (Opcode.decode?_eq_none_iff.mp undecoded)
  | @failed opcode error fetches fails =>
      cases ends
      have stands := (standsAt_iff_fetches fetches.running).mpr fetches
      rw [accessError?_eq] at fails
      cases missing : before.missingRegister? opcode with
      | some index =>
          rw [missing] at fails
          cases fails
          exact .register stands missing
      | none =>
          rw [missing, Option.map_none, Option.none_or,
            Option.ite_none_right_eq_some] at fails
          obtain ⟨⟨rfl, beyond⟩, same⟩ := fails
          cases same
          exact .returnAddress stands missing beyond
  | refused fetches faultless refuses =>
      cases ends
      have stands := (standsAt_iff_fetches fetches.running).mpr fetches
      obtain ⟨register, names⟩ := exists_named_of_unnamed? faultless
      obtain ⟨short, rfl⟩ := Sink.refusal?_write_eq_some_iff.mp refuses
      have number :
          register.val = (before.codeByte (before.pc + 1)).toNat := by
        rw [before.codeByte_eq_peek]
        exact Register.val_of_named names
      refine .output stands number ?_
      simpa only [printed, operand_of_named names] using short

/-- A condition on the list leads to its fault. -/
theorem Faults.result_eq_error
    {before : Processor}
    {sink : Sink}
    {fault : Fault}
    (running : before.status = .running)
    (faults : Faults before sink fault) :
    (before.step sink).result = .error fault := by
  cases faults with
  | fetch beyond =>
      rw [Processor.step_of_le running beyond]
      rfl
  | opcode inMemory unencoded =>
      rw [before.codeByte_eq_peek] at unencoded ⊢
      have undecoded := Opcode.decode?_eq_none_iff.mpr unencoded
      rw [Processor.step_of_undecoded running inMemory undecoded]
      rfl
  | register stands missing =>
      have fetches := (standsAt_iff_fetches running).mp stands
      exact fetches.result_eq_access (accessError?_of_missing missing) sink
  | returnAddress stands registerExists beyond =>
      have fetches := (standsAt_iff_fetches running).mp stands
      have fails := accessError?_eq before .call
      simp only [registerExists, beyond, and_self, ↓reduceIte,
        Option.map_none, Option.none_or] at fails
      exact fetches.result_eq_access fails sink
  | @output register stands names short =>
      have fetches := (standsAt_iff_fetches running).mp stands
      rw [before.codeByte_eq_peek] at names
      have named : Register.named before.firstByte.toNat = .ok register := by
        rw [← Register.named_val register, names]
        rfl
      have faultless :
          accessError? before .prn before.firstByte before.secondByte = none :=
        unnamed?_of_named named
      have line :
          printed before .prn before.firstByte =
            (before.registers.value register).toNat.repr ++ "\n" := by
        simp only [printed, operand_of_named named]
      have refused := Sink.refusal?_write_eq_some_iff.mpr ⟨short, rfl⟩
      rcases fetches.outcome sink with ⟨error, fails, -⟩ | ⟨-, outcome⟩
      · simp [faultless] at fails
      · rw [line, refused] at outcome
        rcases outcome with ⟨refusal, -, same, result⟩ | ⟨accepts, -⟩
        · cases same
          exact result
        · simp at accepts

/-- The step of a running processor ends with just the faults of the list. -/
theorem result_eq_error_iff
    {before : Processor}
    (running : before.status = .running)
    (sink : Sink)
    (fault : Fault) :
    (before.step sink).result = .error fault ↔ Faults before sink fault :=
  ⟨faults_of_result_eq_error, Faults.result_eq_error running⟩

theorem StandsAt.unique
    {before : Processor}
    {opcode other : Opcode}
    (stands : StandsAt before opcode)
    (alsoStands : StandsAt before other) :
    opcode = other :=
  Opcode.byte_injective (stands.encodes.trans alsoStands.encodes.symm)

/-- Apart from prints, an instruction whose numbers are in bounds is safe. -/
theorem StandsAt.not_faults
    {before : Processor}
    {opcode : Opcode}
    (stands : StandsAt before opcode)
    (registersExist : before.missingRegister? opcode = none)
    (returnFits : opcode = .call → before.pc + 2 < 256)
    (prints : opcode ≠ .prn)
    (sink : Sink)
    (fault : Fault) :
    ¬ Faults before sink fault := by
  intro faults
  cases faults with
  | fetch beyond => exact Nat.not_le.mpr stands.inMemory beyond
  | opcode inMemory unencoded => exact unencoded opcode stands.encodes
  | register alsoStands missing =>
      obtain rfl := stands.unique alsoStands
      simp [registersExist] at missing
  | returnAddress alsoStands registerExists beyond =>
      have fits := returnFits (stands.unique alsoStands)
      omega
  | output alsoStands => exact prints (stands.unique alsoStands)

/-- A step succeeds just if nothing on the list applies. -/
theorem exists_result_ok_iff
    {before : Processor}
    (running : before.status = .running)
    (sink : Sink) :
    (∃ status, (before.step sink).result = .ok status) ↔
      ∀ fault, ¬ Faults before sink fault := by
  constructor
  · rintro ⟨status, succeeds⟩ fault faults
    rw [faults.result_eq_error running] at succeeds
    simp at succeeds
  · intro safe
    cases ends : (before.step sink).result with
    | ok status => exact ⟨status, rfl⟩
    | error fault => exact (safe fault (faults_of_result_eq_error ends)).elim

/--
The step of a running processor faults just under the conditions of the list,
with the fault that the list gives, and succeeds in every other case. Access to
the stack is never a reason: with registers that exist, and a return address
that is a byte, the stack instructions succeed wherever the stack pointer is.
A jump that is not taken succeeds whatever its operand.
-/
theorem step_faults_exactly
    {before : Processor}
    (running : before.status = .running)
    (sink : Sink) :
    (∀ fault,
      (before.step sink).result = .error fault ↔ Faults before sink fault) ∧
      ((∃ status, (before.step sink).result = .ok status) ↔
        ∀ fault, ¬ Faults before sink fault) ∧
      (∀ opcode ∈ [Opcode.push, .pop, .call, .ret],
        StandsAt before opcode →
        before.missingRegister? opcode = none →
        (opcode = .call → before.pc + 2 < 256) →
        ∃ status, (before.step sink).result = .ok status) ∧
      (StandsAt before .jeq ∧ before.flags.equal = false ∨
          StandsAt before .jne ∧ before.flags.equal = true →
        ∃ status, (before.step sink).result = .ok status) := by
  refine ⟨result_eq_error_iff running sink, exists_result_ok_iff running sink,
    ?_, ?_⟩
  · intro opcode member stands registersExist returnFits
    rw [exists_result_ok_iff running]
    refine stands.not_faults registersExist returnFits ?_ sink
    rintro rfl
    simp at member
  · intro notTaken
    rw [exists_result_ok_iff running]
    rcases notTaken with ⟨stands, unequal⟩ | ⟨stands, equal⟩
    · refine stands.not_faults ?_ (by simp) (by simp) sink
      simp [Processor.missingRegister?, Processor.usedOperands, unequal]
    · refine stands.not_faults ?_ (by simp) (by simp) sink
      simp [Processor.missingRegister?, Processor.usedOperands, equal]

/-- A `CALL` so high in memory that the address after it is not a byte. -/
def callAtTop (operand : UInt8) : Processor :=
  {
    Processor.initial with
    memory := (Memory.empty.store 254 Opcode.call.byte).store 255 operand
    pc := 254
  }

/-- A missing register comes before a missing return address. -/
theorem step_faults_exactly_callAtTop :
    ((callAtTop 9).step Sink.unlimited).result =
        .error (.access (.register 9)) ∧
      ((callAtTop 7).step Sink.unlimited).result =
        .error (.access (.memory 256)) := by
  have stands (operand : UInt8) : StandsAt (callAtTop operand) .call :=
    ⟨(by decide : 254 < 256), rfl⟩
  constructor
  · exact ((step_faults_exactly rfl _).1 _).mpr (.register (stands 9) rfl)
  · refine ((step_faults_exactly rfl _).1 _).mpr ?_
    exact .returnAddress (stands 7) rfl (by decide)

end LS8
