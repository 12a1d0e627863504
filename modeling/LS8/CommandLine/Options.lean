import LS8.Record

namespace LS8

/-!
# Options

What a user asks for on the command line. The words in which it is asked for are
the business of a reader of arguments; a session only sees what the reader makes
of them, and which texts it has for help and for arguments that are wrong.
-/

/-- What a user asks for. -/
structure Options where
  /-- The path of the program image. -/
  program : String
  /-- Whether everything is logged, whatever `logLevel` says. -/
  trace : Bool
  logLevel : Verbosity
  /-- The greatest number of instructions to execute, if there is one. -/
  stepLimit : Option Nat
  /-- Whether to print a listing in place of running the program. -/
  disassemble : Bool
  /-- Whether to print the state of the processor after the run. -/
  dumpState : Bool
  deriving Repr, DecidableEq

/-- How much of the log is shown. -/
def Options.verbosity (options : Options) : Verbosity :=
  if options.trace then .upTo .trace else options.logLevel

/-- What a reader of arguments makes of them. -/
inductive Reading where
  /-- A session is asked for. -/
  | accepted (options : Options)
  /-- Help is asked for, and this is the text of it. -/
  | help (text : String)
  /-- The arguments are wrong, and this text says so. -/
  | rejected (text : String)
  deriving Repr, DecidableEq

/-- A reader of the command line. -/
abbrev ArgumentReader : Type :=
  List String → Reading

end LS8
