import LS8.Flags
import LS8.Opcode
import LS8.Registers

namespace LS8

/-!
# Log records

The processor and the command line leave records of what they do. A record is
kept as data: what happened, from which its severity, its origin and its
wording follow. A verbosity says which severities are shown.
-/

/-- The severity of a record, gravest first. -/
inductive Level where
  | error
  | warn
  | info
  | debug
  | trace
  deriving Repr, DecidableEq

namespace Level

/-- The position of a severity; a graver one comes earlier. -/
def rank : Level → Nat
  | .error => 1
  | .warn => 2
  | .info => 3
  | .debug => 4
  | .trace => 5

/-- The severity's name in a log line. -/
def name : Level → String
  | .error => "ERROR"
  | .warn => "WARN"
  | .info => "INFO"
  | .debug => "DEBUG"
  | .trace => "TRACE"

end Level

/-- How much of a log is shown: nothing, or everything up to a severity. -/
inductive Verbosity where
  | silent
  | upTo (level : Level)
  deriving Repr, DecidableEq

/-- Whether records of a severity are shown. -/
def Verbosity.shows : Verbosity → Level → Bool
  | .silent, _ => false
  | .upTo limit, level => level.rank ≤ limit.rank

/-- Something worth a line in the log. -/
inductive Record where
  /-- An instruction was fetched and decoded; the state is that before it. -/
  | decoded
      (pc : Nat)
      (opcode : Opcode)
      (first second : UInt8)
      (registers : Registers)
      (flags : Flags)
  /-- The byte at `pc` encodes no opcode. -/
  | unknownInstruction (byte : UInt8) (pc : Nat)
  /-- `HLT` was executed, as the last of `steps` instructions. -/
  | halted (pc steps : Nat)
  /-- A run ended at its limit. -/
  | limitReached (limit pc : Nat)
  /-- A program was loaded from a file. -/
  | loaded (byteCount : Nat) (path : String)
  /-- A run came to its end without a fault. -/
  | executed (steps : Nat)
  deriving Repr, DecidableEq

namespace Record

/-- The severity of a record. -/
def level : Record → Level
  | .decoded .. => .trace
  | .unknownInstruction .. => .warn
  | .halted .. => .debug
  | .limitReached .. => .debug
  | .loaded .. => .info
  | .executed .. => .info

/-- The part of the simulator that a record comes from. -/
def target : Record → String
  | .loaded .. => "ls8"
  | .executed .. => "ls8"
  | _ => "ls8::cpu"

/-- The wording of a record. -/
def message : Record → String
  | .decoded pc opcode first second registers flags =>
      "pc=" ++ hexadecimal pc ++ " " ++ opcode.mnemonic ++
        " " ++ hexadecimal first.toNat ++
        " " ++ hexadecimal second.toNat ++
        " regs=" ++ registers.valuesText ++
        " fl=" ++ NumeralStyle.flagBits.write flags.bits
  | .unknownInstruction byte pc =>
      decimal byte.toNat ++ " is an unknown instruction at pc " ++
        addressText pc
  | .halted pc steps =>
      "halted at pc " ++ addressText pc ++ " after " ++ decimal steps ++
        " steps"
  | .limitReached limit pc =>
      "step limit " ++ decimal limit ++ " reached at pc " ++ addressText pc
  | .loaded byteCount path =>
      "loaded " ++ decimal byteCount ++ " bytes from " ++ path
  | .executed steps =>
      "executed " ++ decimal steps ++ " instructions"

/-- The line of a record in a log, its severity filled up to five places. -/
def line (record : Record) : String :=
  let severity := record.level.name
  severity ++ String.ofList (List.replicate (5 - severity.length) ' ') ++
    " [" ++ record.target ++ "] " ++ record.message ++ "\n"

end Record

end LS8
