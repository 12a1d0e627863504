import LS8.Numeral

namespace LS8

/-!
# Faults

The conditions that stop the processor other than `HLT`: an address or a
register number out of bounds, a byte that encodes no opcode, and output that
is not accepted. Each is a cause; `message` gives its wording.
-/

/-- A memory address or a register number that does not exist. -/
inductive AccessError where
  | memory (address : Nat)
  | register (index : Nat)
  deriving Repr, DecidableEq

/-- The wording of an access error. -/
def AccessError.message : AccessError → String
  | .memory address =>
      "memory address " ++ addressText address ++ " out of bounds"
  | .register index =>
      "register index " ++ decimal index ++ " out of bounds"

/-- Why a receiver of output takes no more of it. -/
inductive Refusal where
  /-- The receiver reports that it is full. -/
  | sinkFull
  /-- The receiver takes zero bytes, time after time. -/
  | nothingTaken
  /-- The reading end is gone. -/
  | brokenPipe
  /-- The device has no room. -/
  | noSpace
  deriving Repr, DecidableEq

/-- The wording of a refusal. -/
def Refusal.message : Refusal → String
  | .sinkFull => "sink full"
  | .nothingTaken => "failed to write whole buffer"
  | .brokenPipe => "broken pipe"
  | .noSpace => "No space left on device (os error 28)"

/-- A condition that stops the processor other than `HLT`. -/
inductive Fault where
  | access (error : AccessError)
  | unknownOpcode (opcode : UInt8) (pc : Nat)
  | output (refusal : Refusal)
  deriving Repr, DecidableEq

/-- The wording of a fault. -/
def Fault.message : Fault → String
  | .access error => error.message
  | .unknownOpcode opcode _ =>
      decimal opcode.toNat ++ " is an unknown instruction!"
  | .output refusal => "output error: " ++ refusal.message

end LS8
