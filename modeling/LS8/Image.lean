import LS8.Files
import LS8.Numeral
import LS8.Text.Blank
import LS8.Text.Quoted

namespace LS8

/-!
# Program images

A program is written as text, one byte on a line as a binary numeral of one to
eight digits. A `#` starts a comment, and a line with nothing before its
comment adds no byte. The bytes in the order of their lines are the image,
which must fit into the memory.

The first malformed line decides the result, whatever the number of bytes.
-/

/-- Why a program cannot be loaded. -/
inductive LoadError where
  | fileNotFound (path : String)
  /-- A line has something else than a numeral before its comment. -/
  | malformedLiteral (line : Nat) (text : String)
  /-- The image does not fit into the memory. -/
  | tooLarge (length : Nat)
  /-- The file exists but cannot be read. -/
  | unreadable (error : ReadError)
  deriving Repr, DecidableEq

/-- The wording of a load error. -/
def LoadError.message : LoadError → String
  | .fileNotFound path => path ++ " not found"
  | .malformedLiteral line text =>
      "line " ++ decimal line ++ ": malformed binary literal " ++ quoted text
  | .tooLarge length =>
      "program is " ++ decimal length ++ " bytes, memory holds 256"
  | .unreadable error => "io error: " ++ error.message

namespace Image

/-- The greatest number of bytes of an image. -/
def capacity : Nat :=
  256

/-- A line without the carriage return at its end, if there is one. -/
def withoutReturn (line : List Char) : List Char :=
  if line.getLast? = some '\r' then
    line.dropLast
  else
    line

/--
The lines of a text. A line ends at a line feed, and a carriage return before
it belongs to the end of the line. Nothing after the last line feed is no line.
-/
def lines (text : List Char) : List (List Char) :=
  let pieces := text.splitOn '\n'
  let ended := pieces.dropLast.map withoutReturn
  match pieces.getLast? with
  | none | some [] => ended
  | some last => ended ++ [last]

/-- What a line says before its comment, without blanks around it. -/
def code (line : List Char) : List Char :=
  trim (line.takeWhile (· ≠ '#'))

/-- Whether a character is a digit of a binary numeral. -/
def isBinaryDigit (character : Char) : Bool :=
  character = '0' || character = '1'

/-- The value of a binary numeral. -/
def binaryValue (numeral : List Char) : Nat :=
  ofDigits 2 (numeral.map fun digit => if digit = '1' then 1 else 0)

/-- The byte that a binary numeral of one to eight digits stands for. -/
def literal? (numeral : List Char) : Option UInt8 :=
  if numeral ≠ [] ∧ numeral.length ≤ 8 ∧ numeral.all isBinaryDigit then
    some (UInt8.ofNat (binaryValue numeral))
  else
    none

/-- The bytes of lines, the first of which has the given number. -/
def readLines
    (number : Nat) :
    List (List Char) → Except LoadError (List UInt8)
  | [] => .ok []
  | line :: rest =>
      match code line with
      | [] => readLines (number + 1) rest
      | numeral =>
          match literal? numeral with
          | none => .error (.malformedLiteral number (String.ofList numeral))
          | some byte => do
              let bytes ← readLines (number + 1) rest
              return byte :: bytes

/-- The image that a text describes. -/
def parse (text : String) : Except LoadError (List UInt8) := do
  let image ← readLines 1 (lines text.toList)
  if capacity < image.length then
    throw (.tooLarge image.length)
  else
    return image

/-- The image in the content of a file, or of the failure to read it. -/
def ofContent
    (path : String)
    (content : Except ReadError ByteArray) :
    Except LoadError (List UInt8) :=
  match content with
  | .error .missing => .error (.fileNotFound path)
  | .error error => .error (.unreadable error)
  | .ok bytes =>
      match String.fromUTF8? bytes with
      | none => .error (.unreadable .notText)
      | some text => parse text

/-- The image in the file that a path names. -/
def load (files : Files) (path : String) : Except LoadError (List UInt8) :=
  ofContent path (files.read path)

end Image

end LS8
