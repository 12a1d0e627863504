namespace LS8

/-!
# Arithmetic

The arithmetic unit combines two bytes into one. All of its operations wrap
around modulo 256.
-/

/-- The operations of the arithmetic unit. -/
inductive Arithmetic where
  | add
  | sub
  | mul
  deriving Repr, DecidableEq

/-- The value of an operation on two bytes, modulo 256. -/
def Arithmetic.apply : Arithmetic → UInt8 → UInt8 → UInt8
  | .add, first, second => first + second
  | .sub, first, second => first - second
  | .mul, first, second => first * second

end LS8
