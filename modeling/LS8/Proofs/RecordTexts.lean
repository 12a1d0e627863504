import LS8.Record
import LS8.Proofs.Delimiters
import LS8.Proofs.ListingText

namespace LS8

/-!
# The texts of records

The records of details and of halts are texts of fields, with numbers in
hexadecimal, decimal and binary. `Tells` says which text tells of a record, in
terms of the standard numerals, and without the functions that write records.

The message of such a record tells of it (`tells_message`). A text tells of one
record only (`Tells.unique`), so that the program counter, the instruction, the
bytes after it, the registers and the flags can all be read from a message.
-/

/-- An address or a byte in hexadecimal, with two digits or more. -/
def addressDigits (value : Nat) : String :=
  String.ofList (addressNumeral value)

/-- The values from R0 to R7 in decimal, in brackets. -/
def valueList (registers : Registers) : String :=
  "[" ++
    ", ".intercalate
      ((List.finRange 8).map fun register =>
        (registers.value register).toNat.repr) ++
    "]"

/-- One binary digit for each flag. -/
def flagDigits (flags : Flags) : String :=
  String.ofList
    ([flags.less, flags.greater, flags.equal].map fun isSet =>
      if isSet then '1' else '0')

/-- A text tells of a record. -/
inductive Tells : Record → String → Prop where
  | decoded
      {pc : Nat}
      {opcode : Opcode}
      {first second : UInt8}
      {registers : Registers}
      {flags : Flags} :
      Tells (.decoded pc opcode first second registers flags)
        ("pc=" ++ addressDigits pc ++ " " ++ opcode.mnemonic ++
          " " ++ addressDigits first.toNat ++
          " " ++ addressDigits second.toNat ++
          " regs=" ++ valueList registers ++
          " fl=" ++ flagDigits flags)
  | halted {pc steps : Nat} :
      Tells (.halted pc steps)
        ("halted at pc " ++ ("0x" ++ addressDigits pc) ++
          " after " ++ steps.repr ++ " steps")
  | limitReached {limit pc : Nat} :
      Tells (.limitReached limit pc)
        ("step limit " ++ limit.repr ++
          " reached at pc " ++ ("0x" ++ addressDigits pc))

theorem addressDigits_eq (value : Nat) :
    addressDigits value = hexadecimal value := by
  rw [addressDigits, addressNumeral_eq, String.ofList_toList]

theorem toList_addressDigits (value : Nat) :
    (addressDigits value).toList =
      NumeralStyle.hexadecimal.characters value := by
  rw [addressDigits_eq, hexadecimal, NumeralStyle.write, String.toList_ofList]

theorem toList_repr (value : Nat) :
    value.repr.toList = NumeralStyle.decimal.characters value := by
  rw [← decimal_eq_repr, decimal, NumeralStyle.write, String.toList_ofList]

theorem valueList_eq (registers : Registers) :
    valueList registers = registers.valuesText := by
  have values :
      registers.toList = (List.finRange 8).map registers.value := by
    apply List.ext_getElem
    · simp [Registers.toList]
    · intro index _ _
      simp [Registers.toList, Registers.value]
  simp only [valueList, Registers.valuesText, bracketed, values, List.map_map,
    Function.comp_def, decimal_eq_repr]

theorem flagDigits_eq (flags : Flags) :
    flagDigits flags = NumeralStyle.flagBits.write flags.bits := by
  rcases flags with ⟨equal, greater, less⟩
  cases equal <;> cases greater <;> cases less <;> decide +kernel

/-- The records of details and of halts are told by their messages. -/
theorem tells_message
    {record : Record}
    (detailed : record.level = .trace ∨ record.level = .debug) :
    Tells record record.message := by
  cases record with
  | decoded pc opcode first second registers flags =>
      have tells :
          Tells (.decoded pc opcode first second registers flags) _ :=
        .decoded
      simp only [addressDigits_eq, valueList_eq, flagDigits_eq] at tells
      exact tells
  | halted pc steps =>
      have tells : Tells (.halted pc steps) _ := .halted
      rw [addressDigits_eq, ← decimal_eq_repr] at tells
      exact tells
  | limitReached limit pc =>
      have tells : Tells (.limitReached limit pc) _ := .limitReached
      rw [addressDigits_eq, ← decimal_eq_repr] at tells
      exact tells
  | unknownInstruction | loaded | executed =>
      simp [Record.level] at detailed

/-- The characters of some registers' values in decimal, after one another. -/
def valueCharacters
    (registers : Registers)
    (shown : List Register) :
    List Char :=
  [',', ' '].intercalate
    (shown.map fun register =>
      NumeralStyle.decimal.characters (registers.value register).toNat)

/-- A list of values, up to the bracket that ends it, tells the values. -/
theorem valueCharacters_append_inj
    {left right : Registers}
    {shown : List Register}
    {rest after : List Char}
    (same :
      valueCharacters left shown ++ ']' :: rest =
        valueCharacters right shown ++ ']' :: after) :
    (∀ register ∈ shown, left.value register = right.value register) ∧
      rest = after := by
  induction shown with
  | nil => simpa [valueCharacters] using same
  | cons first others inductionHypothesis =>
      cases others with
      | nil =>
          simp only [valueCharacters, List.map_cons, List.map_nil,
            List.intercalate_singleton] at same
          obtain ⟨sameValue, sameRest⟩ :=
            NumeralStyle.decimal.characters_append_inj (by decide) same
          simpa [UInt8.toNat_inj.mp sameValue] using sameRest
      | cons second others =>
          simp only [valueCharacters, List.map_cons,
            List.intercalate_cons_cons, List.append_assoc,
            List.cons_append, List.nil_append] at same
          obtain ⟨sameValue, sameOthers⟩ :=
            NumeralStyle.decimal.characters_append_inj (by decide) same
          obtain ⟨sameValues, sameRest⟩ :=
            inductionHypothesis (List.cons.inj sameOthers).2
          exact ⟨List.forall_mem_cons.mpr
            ⟨UInt8.toNat_inj.mp sameValue, sameValues⟩, sameRest⟩

theorem blank_notMem_mnemonic (opcode : Opcode) :
    ' ' ∉ opcode.mnemonic.toList := by
  cases opcode <;> decide

theorem mnemonic_injective
    {left right : Opcode}
    (same : left.mnemonic.toList = right.mnemonic.toList) :
    left = right := by
  have distinct :
      ∀ first ∈ Opcode.all, ∀ second ∈ Opcode.all,
        first.mnemonic.toList = second.mnemonic.toList → first = second := by
    decide
  exact distinct left left.mem_all right right.mem_all same

theorem flagDigits_injective
    {left right : Flags}
    (same : (flagDigits left).toList = (flagDigits right).toList) :
    left = right := by
  rw [String.toList_inj, flagDigits_eq, flagDigits_eq] at same
  exact Flags.bits_injective (NumeralStyle.write_injective _ same)

theorem toList_valueList (registers : Registers) :
    (valueList registers).toList =
      '[' :: (valueCharacters registers (List.finRange 8) ++ [']']) := by
  simp only [valueList, String.toList_append, String.toList_intercalate,
    List.map_map, Function.comp_def, toList_repr]
  rfl

/-- A text tells of one record. -/
theorem Tells.unique
    {left right : Record}
    {text : String}
    (leftTells : Tells left text)
    (rightTells : Tells right text) :
    left = right := by
  generalize told : text = other at rightTells
  have same := congrArg String.toList told
  -- Records of different kinds begin with different words.
  cases leftTells with
  | decoded =>
      cases rightTells with
      | decoded =>
          simp only [String.toList_append, String.reduceToList,
            toList_addressDigits, toList_valueList, List.append_assoc,
            List.cons_append, List.nil_append, List.cons.injEq,
            true_and] at same
          obtain ⟨samePc, afterPc⟩ :=
            NumeralStyle.hexadecimal.characters_append_inj (by decide) same
          obtain ⟨sameMnemonic, afterMnemonic⟩ :=
            append_delimiter_inj (blank_notMem_mnemonic _)
              (blank_notMem_mnemonic _) afterPc
          obtain ⟨sameFirst, afterFirst⟩ :=
            NumeralStyle.hexadecimal.characters_append_inj (by decide)
              afterMnemonic
          obtain ⟨sameSecond, afterSecond⟩ :=
            NumeralStyle.hexadecimal.characters_append_inj (by decide)
              afterFirst
          simp only [List.cons.injEq, true_and] at afterSecond
          obtain ⟨sameValues, afterValues⟩ :=
            valueCharacters_append_inj afterSecond
          simp only [List.cons.injEq, true_and] at afterValues
          have sameRegisters := Registers.ext_value fun register =>
            sameValues register (List.mem_finRange register)
          rw [samePc, mnemonic_injective sameMnemonic,
            UInt8.toNat_inj.mp sameFirst, UInt8.toNat_inj.mp sameSecond,
            sameRegisters, flagDigits_injective afterValues]
      | halted | limitReached => simp at same
  | halted =>
      cases rightTells with
      | halted =>
          simp only [String.toList_append, String.reduceToList,
            toList_addressDigits, toList_repr, List.append_assoc,
            List.cons_append, List.nil_append, List.cons.injEq,
            true_and] at same
          obtain ⟨samePc, afterPc⟩ :=
            NumeralStyle.hexadecimal.characters_append_inj (by decide) same
          simp only [List.cons.injEq, true_and] at afterPc
          obtain ⟨sameSteps, -⟩ :=
            NumeralStyle.decimal.characters_append_inj (by decide) afterPc
          rw [samePc, sameSteps]
      | decoded | limitReached => simp at same
  | limitReached =>
      cases rightTells with
      | limitReached =>
          simp only [String.toList_append, String.reduceToList,
            toList_addressDigits, toList_repr, List.append_assoc,
            List.cons_append, List.nil_append, List.cons.injEq,
            true_and] at same
          obtain ⟨sameLimit, afterLimit⟩ :=
            NumeralStyle.decimal.characters_append_inj (by decide) same
          simp only [List.cons.injEq, true_and] at afterLimit
          rw [sameLimit,
            NumeralStyle.hexadecimal.characters_injective afterLimit]
      | decoded | halted => simp at same

/-- The message of a record of details or of a halt tells of it alone. -/
theorem tells_message_iff
    {record other : Record}
    (detailed : record.level = .trace ∨ record.level = .debug) :
    Tells other record.message ↔ other = record := by
  constructor
  · intro tells
    exact tells.unique (tells_message detailed)
  · rintro rfl
    exact tells_message detailed

end LS8
