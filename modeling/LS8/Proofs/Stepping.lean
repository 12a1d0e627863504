import LS8.Proofs.InstructionTable

namespace LS8

/-!
# What a step can do

`Execution` lists the outcomes of an instruction and `Stepped` those of a whole
step, in terms of the instruction table; `execution_run` and
`Processor.stepped` say that there are no others. Everything else about steps
is read off these cases.

The instructions change the machine access by access, and an action that fails
keeps what it has changed. That nothing but a refused text is left of a failed
instruction is therefore a fact about their order: no access that can fail
comes after the first change.
-/

/--
What the execution of an instruction comes to: it is executed to its end, it
fails at an access and changes nothing, or its text is refused and only what
the sink took of the text is different.
-/
inductive Execution
    (before : Machine)
    (opcode : Opcode)
    (first second : UInt8) :
    EStateM.Result Fault Machine Unit → Prop where
  | completed
      {after : Processor}
      (faultless :
        InstructionTable.accessError? before.processor opcode first second =
          none)
      (follows : Follows before.processor opcode first second after)
      (steps : after.steps = before.processor.steps)
      (accepts :
        (before.sink.write
          (InstructionTable.printed before.processor opcode
            first)).refusal? = none) :
      Execution before opcode first second
        (.ok ()
          {
            processor := after
            sink :=
              (before.sink.write
                (InstructionTable.printed before.processor opcode first)).sink
            events :=
              before.events ++
                InstructionTable.output before.processor opcode first
          })
  | failed
      {error : AccessError}
      (fails :
        InstructionTable.accessError? before.processor opcode first second =
          some error) :
      Execution before opcode first second (.error (.access error) before)
  | refused
      {refusal : Refusal}
      (prints : opcode = .prn)
      (faultless :
        InstructionTable.accessError? before.processor opcode first second =
          none)
      (refuses :
        (before.sink.write
          (InstructionTable.printed before.processor opcode
            first)).refusal? = some refusal) :
      Execution before opcode first second
        (.error (.output refusal)
          { before with
            sink :=
              (before.sink.write
                (InstructionTable.printed before.processor opcode first)).sink
            events :=
              before.events ++
                [.printed
                  (before.sink.write
                    (InstructionTable.printed before.processor opcode
                      first)).accepted] })

namespace Execution

variable
  {machine : Machine}
  {opcode : Opcode}
  {first second : UInt8}

/-- Most instructions leave everything alone but the processor. -/
theorem quiet
    {after : Processor}
    (faultless :
      InstructionTable.accessError? machine.processor opcode first second =
        none)
    (follows : Follows machine.processor opcode first second after)
    (steps : after.steps = machine.processor.steps)
    (silent :
      InstructionTable.output machine.processor opcode first = []) :
    Execution machine opcode first second
      (.ok () { machine with processor := after }) := by
  have prints :
      InstructionTable.printed machine.processor opcode first = "" := by
    cases opcode with
    | prn => simp [InstructionTable.output] at silent
    | _ => rfl
  have execution : Execution machine opcode first second _ :=
    .completed faultless follows steps (by simp [prints])
  simpa [prints, silent] using execution

end Execution

open InstructionTable

/-- An arithmetic instruction reads two registers and then writes the first. -/
theorem execution_combine
    (machine : Machine)
    (operation : Arithmetic)
    (first second : UInt8) :
    Execution machine operation.opcode first second
      ((Action.execute operation.opcode first second).run machine) := by
  have execute_eq :
      Action.execute operation.opcode first second =
        Action.combine operation first second >>= fun _ =>
          Action.advance operation.opcode := by
    cases operation <;> rfl
  have error_eq :
      accessError? machine.processor operation.opcode first second =
        (unnamed? first).or (unnamed? second) := by
    cases operation <;> rfl
  simp only [execute_eq, EStateM.run_bind, Action.run_combine]
  cases leftNames : Register.named first.toNat with
  | error error =>
      have unnamed := unnamed?_of_error leftNames
      exact .failed (by rw [error_eq, unnamed]; rfl)
  | ok left =>
      have leftFaultless := unnamed?_of_named leftNames
      cases rightNames : Register.named second.toNat with
      | error error =>
          have unnamed := unnamed?_of_error rightNames
          exact .failed (by rw [error_eq, leftFaultless, unnamed]; rfl)
      | ok right =>
          have rightFaultless := unnamed?_of_named rightNames
          refine .quiet ?_ (follows_combine operation leftNames rightNames)
            rfl ?_
          · rw [error_eq, leftFaultless, rightFaultless]
            rfl
          · cases operation <;> rfl

/-- A comparison reads two registers and then writes the flags. -/
theorem execution_compare
    (machine : Machine)
    (first second : UInt8) :
    Execution machine .cmp first second
      ((Action.execute .cmp first second).run machine) := by
  simp only [Action.execute, EStateM.run_bind, Action.run_compare]
  cases leftNames : Register.named first.toNat with
  | error error =>
      have unnamed := unnamed?_of_error leftNames
      exact .failed (by simp [accessError?, unnamed])
  | ok left =>
      have leftFaultless := unnamed?_of_named leftNames
      cases rightNames : Register.named second.toNat with
      | error error =>
          have unnamed := unnamed?_of_error rightNames
          exact .failed (by simp [accessError?, leftFaultless, unnamed])
      | ok right =>
          have rightFaultless := unnamed?_of_named rightNames
          exact .quiet
            (by simp [accessError?, leftFaultless, rightFaultless])
            (follows_compare leftNames rightNames)
            rfl rfl

/-- A jump reads its register if it is taken; otherwise it just moves on. -/
theorem execution_jumpIf
    {machine : Machine}
    {opcode : Opcode}
    {first second : UInt8}
    (jumps : opcode ∈ [Opcode.jmp, .jeq, .jne])
    (taken : Bool)
    (error_eq :
      accessError? machine.processor opcode first second =
        if taken then unnamed? first else none)
    (pc_eq :
      pcAfter machine.processor opcode first =
        if taken then
          (operand machine.processor first).toNat
        else
          machine.processor.pc + opcode.size) :
    Execution machine opcode first second
      ((Action.jumpIf taken opcode first).run machine) := by
  have moves : opcode ∈ [Opcode.nop, .prn, .jmp, .jeq, .jne] :=
    List.mem_cons_of_mem _ (List.mem_cons_of_mem _ jumps)
  have follows : Follows machine.processor opcode first second _ :=
    follows_move opcode moves
  have silent : output machine.processor opcode first = [] := by
    simp only [List.mem_cons, List.not_mem_nil, or_false] at jumps
    rcases jumps with rfl | rfl | rfl <;> rfl
  cases taken with
  | false =>
      rw [pc_eq] at follows
      exact .quiet error_eq follows rfl silent
  | true =>
      simp only [Action.jumpIf, ↓reduceIte, Action.run_jumpRegister]
      cases names : Register.named first.toNat with
      | error error =>
          exact .failed (error_eq.trans (unnamed?_of_error names))
      | ok named =>
          rw [pc_eq] at follows
          simp only [operand_of_named names] at follows
          exact .quiet (error_eq.trans (unnamed?_of_named names)) follows
            rfl silent

/-- A print stops at a refusal before the program counter moves. -/
theorem execution_print
    (machine : Machine)
    (first second : UInt8) :
    Execution machine .prn first second
      ((Action.execute .prn first second).run machine) := by
  cases names : Register.named first.toNat with
  | error error =>
      simp only [Action.execute, EStateM.run_bind, Action.run_printRegister,
        names]
      exact .failed (unnamed?_of_error names)
  | ok named =>
      have line :
          printedLine (machine.processor.registers.value named) =
            printed machine.processor .prn first := by
        simp only [printedLine, printed, decimal_eq_repr,
          operand_of_named names]
      have faultless : accessError? machine.processor .prn first second = none :=
        unnamed?_of_named names
      have moves : Follows machine.processor .prn first second _ :=
        follows_move .prn (by simp)
      simp only [Action.execute, EStateM.run_bind, Action.run_printRegister,
        names, Action.run_print, line]
      cases delivered :
          (machine.sink.write
            (printed machine.processor .prn first)).refusal? with
      | none =>
          have execution : Execution machine .prn first second _ :=
            .completed faultless moves rfl delivered
          have whole := Sink.accepted_of_refusal?_eq_none delivered
          simp only [Action.run_advance, whole]
          exact execution
      | some refusal =>
          exact .refused rfl faultless delivered

/-- Every execution of an instruction is described by the table. -/
theorem execution_run
    (machine : Machine)
    (opcode : Opcode)
    (first second : UInt8) :
    Execution machine opcode first second
      ((Action.execute opcode first second).run machine) := by
  cases opcode with
  | nop => exact .quiet rfl (follows_move .nop (by simp)) rfl rfl
  | hlt =>
      have execution : Execution machine .hlt first second _ :=
        .completed rfl follows_halt rfl (by simp [printed])
      simpa [Action.execute, printed, output] using execution
  | ldi =>
      simp only [Action.execute, EStateM.run_bind, Action.run_writeRegister]
      cases names : Register.named first.toNat with
      | error error => exact .failed (unnamed?_of_error names)
      | ok named =>
          exact .quiet (unnamed?_of_named names) (follows_load names) rfl rfl
  | prn => exact execution_print machine first second
  | cmp => exact execution_compare machine first second
  | add => exact execution_combine machine .add first second
  | sub => exact execution_combine machine .sub first second
  | mul => exact execution_combine machine .mul first second
  | jmp => exact execution_jumpIf (by simp) true rfl rfl
  | jeq => exact execution_jumpIf (by simp) _ rfl rfl
  | jne =>
      refine execution_jumpIf (by simp) _ ?_ ?_ <;>
        cases equal : machine.processor.flags.equal <;>
        simp [accessError?, pcAfter, equal, Opcode.size_eq]
  | push =>
      simp only [Action.execute, EStateM.run_bind, Action.run_push]
      cases names : Register.named first.toNat with
      | error error => exact .failed (unnamed?_of_error names)
      | ok named =>
          refine .quiet (unnamed?_of_named names) ?_ rfl rfl
          simpa using follows_push names
  | pop =>
      simp only [Action.execute, EStateM.run_bind, Action.run_pop]
      cases names : Register.named first.toNat with
      | error error => exact .failed (unnamed?_of_error names)
      | ok named =>
          exact .quiet (unnamed?_of_named names) (follows_pop names) rfl rfl
  | call =>
      simp only [Action.execute, Action.run_call]
      cases names : Register.named first.toNat with
      | error error =>
          have unnamed := unnamed?_of_error names
          exact .failed (by simp [accessError?, unnamed])
      | ok named =>
          have faultless := unnamed?_of_named names
          have size : Opcode.call.size = 2 := rfl
          by_cases fits : machine.processor.pc + Opcode.call.size < 256
          · simp only [fits, ↓reduceIte]
            refine .quiet ?_ ?_ rfl rfl
            · rw [size] at fits
              simp only [accessError?, faultless, fits, ↓reduceIte,
                Option.or_none]
            · simpa using follows_call names fits
          · simp only [fits, ↓reduceIte]
            refine .failed ?_
            rw [size] at fits
            simp only [accessError?, faultless, fits, ↓reduceIte,
              Option.none_or, size]
  | ret =>
      simp only [Action.execute, Action.run_ret]
      exact .quiet rfl follows_return rfl rfl

/-- The table says nothing about the number of steps. -/
theorem Follows.counted
    {before after : Processor}
    {opcode : Opcode}
    {first second : UInt8}
    {steps : Nat}
    (follows : Follows before opcode first second after) :
    Follows before opcode first second { after with steps := steps } where
  register := follows.register
  cell := follows.cell
  pc := follows.pc
  flags := follows.flags
  status := follows.status
  returnFits := follows.returnFits

/-- The instruction that the next step of a processor executes. -/
structure Fetches (before : Processor) (opcode : Opcode) : Prop where
  running : before.status = .running
  inMemory : before.pc < 256
  decodes :
    Opcode.decode? (before.memory.peek before.pc) = some opcode

/--
What a step comes to. A halted processor stays as it is. A step that fails
halts the processor and changes nothing else of it, wherever it fails.
-/
inductive Stepped (before : Processor) (sink : Sink) : Transition → Prop where
  | idle
      (halted : before.status = .halted) :
      Stepped before sink
        {
          processor := before
          sink := sink
          events := []
          result := .ok .halted
        }
  | unfetched
      (running : before.status = .running)
      (beyond : 256 ≤ before.pc) :
      Stepped before sink
        {
          processor := { before with status := .halted }
          sink := sink
          events := []
          result := .error (.access (.memory before.pc))
        }
  | undecoded
      (running : before.status = .running)
      (inMemory : before.pc < 256)
      (undecoded :
        Opcode.decode? (before.memory.peek before.pc) = none) :
      Stepped before sink
        {
          processor := { before with status := .halted }
          sink := sink
          events := [
            .logged
              (.unknownInstruction (before.memory.peek before.pc) before.pc)
          ]
          result :=
            .error
              (.unknownOpcode (before.memory.peek before.pc) before.pc)
        }
  | completed
      {opcode : Opcode}
      {after : Processor}
      (fetches : Fetches before opcode)
      (faultless :
        accessError? before opcode before.firstByte before.secondByte = none)
      (follows :
        Follows before opcode before.firstByte before.secondByte after)
      (steps : after.steps = before.steps + 1)
      (accepts :
        (sink.write (printed before opcode before.firstByte)).refusal? =
          none) :
      Stepped before sink
        {
          processor := after
          sink := (sink.write (printed before opcode before.firstByte)).sink
          events :=
            (Machine.decoded before sink opcode).events ++
              output before opcode before.firstByte
          result := .ok after.status
        }
  | failed
      {opcode : Opcode}
      {error : AccessError}
      (fetches : Fetches before opcode)
      (fails :
        accessError? before opcode before.firstByte before.secondByte =
          some error) :
      Stepped before sink
        {
          processor := { before with status := .halted }
          sink := sink
          events := (Machine.decoded before sink opcode).events
          result := .error (.access error)
        }
  | refused
      {refusal : Refusal}
      (fetches : Fetches before .prn)
      (faultless :
        accessError? before .prn before.firstByte before.secondByte = none)
      (refuses :
        (sink.write (printed before .prn before.firstByte)).refusal? =
          some refusal) :
      Stepped before sink
        {
          processor := { before with status := .halted }
          sink := (sink.write (printed before .prn before.firstByte)).sink
          events :=
            (Machine.decoded before sink .prn).events ++
              [.printed
                (sink.write
                  (printed before .prn before.firstByte)).accepted]
          result := .error (.output refusal)
        }

namespace Processor

/-- Every step is one of these. -/
theorem stepped (before : Processor) (sink : Sink) :
    Stepped before sink (before.step sink) := by
  cases status : before.status with
  | halted =>
      rw [step_of_halted status]
      exact .idle status
  | running =>
      by_cases inMemory : before.pc < 256
      · cases decodes : Opcode.decode? (before.memory.peek before.pc) with
        | none =>
            rw [step_of_undecoded status inMemory decodes]
            exact .undecoded status inMemory decodes
        | some opcode =>
            rw [step_of_decoded status inMemory decodes]
            have fetches : Fetches before opcode :=
              ⟨status, inMemory, decodes⟩
            have execution :=
              execution_run (Machine.decoded before sink opcode) opcode
                before.firstByte before.secondByte
            generalize
              (Action.execute opcode before.firstByte
                before.secondByte).run
                  (Machine.decoded before sink opcode) = outcome
              at execution ⊢
            cases execution with
            | completed faultless follows steps accepts =>
                exact .completed fetches faultless follows.counted
                  (congrArg (· + 1) steps) accepts
            | failed fails => exact .failed fetches fails
            | refused prints faultless refuses =>
                subst opcode
                exact .refused fetches faultless refuses
      · have beyond : 256 ≤ before.pc := Nat.le_of_not_lt inMemory
        rw [step_of_le status beyond]
        exact .unfetched status beyond

end Processor

/-- A step that fails halts the processor and leaves the rest of it alone. -/
theorem processor_of_step_error
    {before : Processor}
    {sink : Sink}
    {fault : Fault}
    (faults : (before.step sink).result = .error fault) :
    (before.step sink).processor = { before with status := .halted } := by
  have stepped := before.stepped sink
  generalize before.step sink = transition at faults stepped ⊢
  cases stepped with
  | idle | completed => simp at faults
  | unfetched | undecoded | failed | refused => rfl

/-- No other state follows the table, except for the number of steps. -/
theorem Follows.unique
    {before left right : Processor}
    {opcode : Opcode}
    {first second : UInt8}
    (leftFollows : Follows before opcode first second left)
    (rightFollows : Follows before opcode first second right)
    (steps : left.steps = right.steps) :
    left = right := by
  have memory : left.memory = right.memory :=
    Memory.ext_cell fun address =>
      (leftFollows.cell address).trans (rightFollows.cell address).symm
  have registers : left.registers = right.registers :=
    Registers.ext_value fun register =>
      (leftFollows.register register).trans
        (rightFollows.register register).symm
  have pc := leftFollows.pc.trans rightFollows.pc.symm
  have flags := leftFollows.flags.trans rightFollows.flags.symm
  have status := leftFollows.status.trans rightFollows.status.symm
  cases left
  cases right
  simp only at memory registers pc flags status steps
  subst memory registers pc flags status steps
  rfl

/-- What comes out of an executed instruction prints the text of the table. -/
theorem printedText_output
    (before : Processor)
    (opcode : Opcode)
    (first : UInt8) :
    printedText (output before opcode first) =
      printed before opcode first := by
  cases opcode <;> simp [printedText, output, printed, Event.printedText]

/-- The record of a decoded instruction prints nothing. -/
theorem printedText_decoded
    (before : Processor)
    (sink : Sink)
    (opcode : Opcode) :
    printedText (Machine.decoded before sink opcode).events = "" :=
  rfl

end LS8
