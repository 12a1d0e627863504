namespace LS8

/-!
# Flags

The flags register remembers the outcome of the last comparison. Its three
bits are `EQUAL` (bit 0), `GREATER` (bit 1) and `LESS` (bit 2); a comparison
replaces all three, and nothing else writes them.
-/

/-- The flags register. -/
structure Flags where
  equal : Bool
  greater : Bool
  less : Bool
  deriving Repr, DecidableEq

namespace Flags

/-- No flag set: the state before any comparison. -/
def clear : Flags :=
  { equal := false, greater := false, less := false }

/-- The unsigned comparison of two bytes sets exactly one flag. -/
def compare (first second : UInt8) : Flags :=
  {
    equal := first = second
    greater := second < first
    less := first < second
  }

/-- The flags as the low three bits of a number. -/
def bits (flags : Flags) : Nat :=
  flags.equal.toNat + 2 * flags.greater.toNat + 4 * flags.less.toNat

/-- The names of the flags that are set, lowest bit first. -/
def names (flags : Flags) : List String :=
  (if flags.equal then ["EQUAL"] else []) ++
    (if flags.greater then ["GREATER"] else []) ++
    (if flags.less then ["LESS"] else [])

/-- The set flags by name, or `0x0` when there is none. -/
def describe (flags : Flags) : String :=
  let shown :=
    if flags.names.isEmpty then "0x0" else " | ".intercalate flags.names
  "Flags(" ++ shown ++ ")"

/-- The three bits determine the flags. -/
theorem bits_injective
    {left right : Flags}
    (same : left.bits = right.bits) :
    left = right := by
  rcases left with ⟨equalLeft, greaterLeft, lessLeft⟩
  rcases right with ⟨equalRight, greaterRight, lessRight⟩
  revert same
  cases equalLeft <;> cases greaterLeft <;> cases lessLeft <;>
    cases equalRight <;> cases greaterRight <;> cases lessRight <;>
    decide

end Flags

end LS8
