import LS8.Numeral
import LS8.Opcode

namespace LS8

/-!
# Listings

A listing shows an image as instructions. A sweep cuts the image into blocks
from its first byte on: an instruction with all of its operand bytes, or a
single byte that encodes no opcode. Where an instruction is cut off by the end
of the image, its bytes are single trailing blocks.

Each block is one line of text: its address, its bytes, and what they mean.
The blocks of a sweep are the image in pieces (`flatMap_bytes_sweep`).
-/

/-- A piece of an image. -/
inductive Block where
  /-- An instruction with all of its operand bytes. -/
  | instruction (opcode : Opcode) (operands : List UInt8)
  /-- A byte that encodes no opcode. -/
  | unknown (byte : UInt8)
  /-- A byte of an instruction that is cut off by the end of the image. -/
  | trailing (byte : UInt8)
  deriving Repr, DecidableEq

namespace Block

/-- The bytes that a block covers. -/
def bytes : Block → List UInt8
  | .instruction opcode operands => opcode.byte :: operands
  | .unknown byte => [byte]
  | .trailing byte => [byte]

/-- An operand byte as it is shown: a register's name or a number. -/
def operandText (kind : OperandKind) (value : UInt8) : String :=
  match kind with
  | .register => "R" ++ decimal value.toNat
  | .immediate => decimal value.toNat

/-- What the bytes of a block mean. -/
def meaning : Block → String
  | .instruction opcode operands =>
      match List.zipWith operandText opcode.operands operands with
      | [] => opcode.mnemonic
      | texts => opcode.mnemonic ++ " " ++ ", ".intercalate texts
  | .unknown _ => "???"
  | .trailing _ => "(trailing)"

/-- The bytes of a block in hexadecimal, filled up to nine places. -/
def byteColumn (block : Block) : String :=
  let column :=
    " ".intercalate (block.bytes.map fun byte => hexadecimal byte.toNat)
  column ++ String.ofList (List.replicate (9 - column.length) ' ')

end Block

/-- A block at its place in an image. -/
structure ListingLine where
  address : Nat
  block : Block
  deriving Repr, DecidableEq

/-- The bytes that a line shows. -/
def ListingLine.bytes (line : ListingLine) : List UInt8 :=
  line.block.bytes

/-- The text of a line, with its line feed. -/
def ListingLine.text (line : ListingLine) : String :=
  hexadecimal line.address ++ ": " ++ line.block.byteColumn ++ " " ++
    line.block.meaning ++ "\n"

namespace Listing

/-- Trailing lines for the bytes of an instruction that is cut off. -/
def trailing (address : Nat) : List UInt8 → List ListingLine
  | [] => []
  | byte :: rest =>
      { address := address, block := .trailing byte } ::
        trailing (address + 1) rest

/-- Cut an image that begins at an address into lines. -/
def sweep (address : Nat) (image : List UInt8) : List ListingLine :=
  match image with
  | [] => []
  | byte :: rest =>
      match Opcode.decode? byte with
      | none =>
          { address := address, block := .unknown byte } ::
            sweep (address + 1) rest
      | some opcode =>
          let operands := rest.take opcode.operandCount
          if operands.length = opcode.operandCount then
            { address := address, block := .instruction opcode operands } ::
              sweep (address + opcode.size) (rest.drop opcode.operandCount)
          else
            trailing address (byte :: rest)
termination_by image.length
decreasing_by
  · simp
  · simp only [List.length_drop, List.length_cons]
    omega

/-- The lines of an image. -/
def ofImage (image : List UInt8) : List ListingLine :=
  sweep 0 image

/-- The text of the listing of an image. -/
def text (image : List UInt8) : String :=
  String.join ((ofImage image).map ListingLine.text)

/-- The bytes of trailing lines are the bytes that they were made for. -/
theorem flatMap_bytes_trailing (address : Nat) (image : List UInt8) :
    (trailing address image).flatMap ListingLine.bytes = image := by
  induction image generalizing address with
  | nil => rfl
  | cons byte rest inductionHypothesis =>
      have onRest := inductionHypothesis (address + 1)
      exact congrArg (byte :: ·) onRest

/-- The blocks of a sweep, put together, are the image. -/
theorem flatMap_bytes_sweep (address : Nat) (image : List UInt8) :
    (sweep address image).flatMap ListingLine.bytes = image := by
  fun_induction sweep address image with
  | case1 => rfl
  | case2 address byte rest unknown inductionHypothesis =>
      exact congrArg (byte :: ·) inductionHypothesis
  | case3 address byte rest opcode decodes operands whole inductionHypothesis =>
      rw [List.flatMap_cons, inductionHypothesis]
      change opcode.byte ::
        (operands ++ rest.drop opcode.operandCount) = byte :: rest
      rw [Opcode.byte_of_decode? decodes]
      exact congrArg (byte :: ·)
        (List.take_append_drop opcode.operandCount rest)
  | case4 address byte rest opcode decodes operands cut =>
      exact flatMap_bytes_trailing address (byte :: rest)

end Listing

end LS8
