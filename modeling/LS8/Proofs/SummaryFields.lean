import LS8.Processor.Summary
import LS8.Proofs.Delimiters

namespace LS8

/-!
# What a summary tells

The summary of a processor is made of fields: words that stand in every summary,
then a value, then a delimiter that does not occur in the value. Two summaries
that are the same can therefore be read side by side, field after field, and
each time the values are the same and so is the rest.

Every part of the processor but its memory is a value in its summary, so that
processors with the same summary differ in their memories at most
(`summary_eq_iff`).
-/

namespace Processor

/-- The lines of some registers in the summary. -/
def registerLines (registers : Registers) (shown : List Register) : List Char :=
  shown.flatMap fun register => (registerLine registers register).toList

/-- The line of a register is its value between texts that do not depend on it. -/
theorem exists_registerLine_eq (register : Register) :
    ∃ opening delimiter closing,
      (∀ digit < 16, LetterCase.upper.digit digit ≠ delimiter) ∧
        ∀ registers,
          (registerLine registers register).toList =
            opening ++
              (NumeralStyle.hexadecimal.characters
                  (registers.value register).toNat ++
                delimiter :: closing) := by
  let opening := ("R" ++ decimal register.val ++ ": ").toList
  by_cases pointer : register = Register.stackPointer
  · refine ⟨opening, ' ', "(SP)\n".toList, by decide, ?_⟩
    intro registers
    simp [opening, registerLine, pointer, LS8.hexadecimal, NumeralStyle.write]
  · refine ⟨opening, '\n', [], by decide, ?_⟩
    intro registers
    simp [opening, registerLine, pointer, LS8.hexadecimal, NumeralStyle.write]

/-- The line of a register tells its value, whatever comes after it. -/
theorem registerLine_append_inj
    {left right : Registers}
    {register : Register}
    {rest after : List Char}
    (same :
      (registerLine left register).toList ++ rest =
        (registerLine right register).toList ++ after) :
    left.value register = right.value register ∧ rest = after := by
  obtain ⟨opening, delimiter, closing, noDigit, line⟩ :=
    exists_registerLine_eq register
  simp only [line, List.append_assoc, List.cons_append] at same
  obtain ⟨sameValue, sameEnd⟩ :=
    NumeralStyle.hexadecimal.characters_append_inj noDigit
      (List.append_cancel_left same)
  exact ⟨UInt8.toNat_inj.mp sameValue, List.append_cancel_left sameEnd⟩

/-- The lines of some registers tell their values. -/
theorem value_eq_of_registerLines_eq
    {left right : Registers}
    {shown : List Register}
    {rest after : List Char}
    (same :
      registerLines left shown ++ rest = registerLines right shown ++ after) :
    ∀ register ∈ shown, left.value register = right.value register := by
  induction shown with
  | nil => simp
  | cons first others inductionHypothesis =>
      simp only [registerLines, List.flatMap_cons, List.append_assoc] at same
      obtain ⟨sameFirst, sameOthers⟩ := registerLine_append_inj same
      exact List.forall_mem_cons.mpr
        ⟨sameFirst, inductionHypothesis sameOthers⟩

/-- The name of a status is one word. -/
theorem feed_notMem_name (status : Status) : '\n' ∉ status.name.toList := by
  cases status <;> decide

theorem name_injective
    {left right : Status}
    (same : left.name.toList = right.name.toList) :
    left = right := by
  cases left <;> cases right <;> simp [Status.name] at same ⊢

/-- The fields of the summary, each with the delimiter after it. -/
theorem toList_summary (processor : Processor) :
    processor.summary.toList =
      ("--- CPU STATE ---\n" ++ "PC: ").toList ++
        (NumeralStyle.hexadecimal.characters processor.pc ++
          ' ' :: ("FL: ".toList ++
            (NumeralStyle.flagBits.characters processor.flags.bits ++
              ' ' :: ("Steps: ".toList ++
                (NumeralStyle.decimal.characters processor.steps ++
                  ' ' :: ("Status: ".toList ++
                    (processor.status.name.toList ++
                      '\n' ::
                        (registerLines processor.registers (List.finRange 8) ++
                          "-----------------\n".toList)))))))) := by
  have flags : " FL: ".toList = ' ' :: "FL: ".toList := by simp
  have steps : " Steps: ".toList = ' ' :: "Steps: ".toList := by simp
  have status : " Status: ".toList = ' ' :: "Status: ".toList := by simp
  have feed : "\n".toList = ['\n'] := by simp
  unfold summary registerLines LS8.hexadecimal LS8.decimal NumeralStyle.write
  simp only [String.toList_append, String.toList_ofList, String.toList_join,
    List.flatMap_map]
  rw [flags, steps, status, feed]
  simp only [List.append_assoc, List.cons_append, List.nil_append]

end Processor

/--
Two processors have the same summary just if they agree on the program counter,
the flags, the number of steps, the status and all registers, whatever is in
their memories. This is so for all processors, and not only for those that
calls lead to.
-/
theorem summary_eq_iff (left right : Processor) :
    left.summary = right.summary ↔
      left.pc = right.pc ∧
        left.flags = right.flags ∧
        left.steps = right.steps ∧
        left.status = right.status ∧
        ∀ register,
          left.registers.value register = right.registers.value register := by
  constructor
  · intro same
    have fields := congrArg String.toList same
    rw [Processor.toList_summary, Processor.toList_summary] at fields
    obtain ⟨samePc, afterPc⟩ :=
      NumeralStyle.hexadecimal.characters_append_inj (by decide)
        (List.append_cancel_left fields)
    obtain ⟨sameFlags, afterFlags⟩ :=
      NumeralStyle.flagBits.characters_append_inj (by decide)
        (List.append_cancel_left afterPc)
    obtain ⟨sameSteps, afterSteps⟩ :=
      NumeralStyle.decimal.characters_append_inj (by decide)
        (List.append_cancel_left afterFlags)
    obtain ⟨sameStatus, afterStatus⟩ :=
      append_delimiter_inj (Processor.feed_notMem_name left.status)
        (Processor.feed_notMem_name right.status)
        (List.append_cancel_left afterSteps)
    have sameRegisters := Processor.value_eq_of_registerLines_eq afterStatus
    exact ⟨samePc, Flags.bits_injective sameFlags, sameSteps,
      Processor.name_injective sameStatus,
      fun register => sameRegisters register (List.mem_finRange register)⟩
  · rintro ⟨samePc, sameFlags, sameSteps, sameStatus, sameValues⟩
    have sameRegisters := Registers.ext_value sameValues
    unfold Processor.summary
    rw [samePc, sameFlags, sameSteps, sameStatus, sameRegisters]

end LS8
