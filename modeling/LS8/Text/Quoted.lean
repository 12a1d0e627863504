import LS8.Numeral
import LS8.Text.Hidden

namespace LS8

/-!
# Quoted text

A text in double quotes, written so that it can be told from any other and
stays on one line. The quote and the backslash are written after a backslash,
four control characters have letters of their own, and every other character
that would not be seen is written by its code point.
-/

namespace Quoted

/--
Whether a character stands for itself. In ASCII these are the characters from
the blank to the tilde; then there is none up to the no-break space; from
there on it is all that are not hidden.
-/
def isPlain (character : Char) : Bool :=
  let code := character.toNat
  if code < 0x7F then
    0x20 ≤ code
  else if code ≤ 0xA0 then
    false
  else
    !isHidden code

/-- How a character is written between the quotes. -/
def escape (character : Char) : List Char :=
  if character = '"' then ['\\', '"']
  else if character = '\\' then ['\\', '\\']
  else if character = '\x00' then ['\\', '0']
  else if character = '\t' then ['\\', 't']
  else if character = '\n' then ['\\', 'n']
  else if character = '\r' then ['\\', 'r']
  else if isPlain character then [character]
  else
    ['\\', 'u', '\x7b'] ++
      NumeralStyle.codePoint.characters character.toNat ++ ['\x7d']

/-- A text in quotes. -/
def encode (text : List Char) : List Char :=
  '"' :: (text.flatMap escape ++ ['"'])

end Quoted

/-- The quoted form of a text. -/
def quoted (text : String) : String :=
  String.ofList (Quoted.encode text.toList)

end LS8
