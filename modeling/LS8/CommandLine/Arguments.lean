import LS8.CommandLine.Options
import LS8.Numeral

namespace LS8

/-!
# Arguments

A reader of arguments. An argument that starts with a dash is an option, unless
it is a dash alone or comes after `--`; anything else is the path of the
program. Options may come in any order. An option with a value takes it from
the same argument, after an equals sign, or from the next one, which must not
start with a dash. Every option may be given once.

The arguments are read from left to right, and the first of them that is wrong
or asks for help decides. The wording of help and of complaints is left open
(`Options.reader`).
-/

/-- What is wrong with the arguments. -/
inductive UsageError where
  | unknownOption (argument : String)
  | repeatedOption (name : String)
  | unexpectedValue (name : String)
  | missingValue (name : String)
  | invalidValue (name value : String)
  | emptyProgram
  | unexpectedArgument (argument : String)
  | missingProgram
  deriving Repr, DecidableEq

/-- Why the arguments do not lead to a session. -/
inductive Detour where
  | usage (error : UsageError)
  | help
  deriving Repr, DecidableEq

/-- An argument by its form. -/
inductive Argument where
  /-- `--`: everything after it is positional. -/
  | endOfOptions
  /-- A long option, with the value after its equals sign, if it has one. -/
  | long (name : String) (value? : Option String)
  /-- One-letter options behind one dash. -/
  | short (letters : List Char)
  | positional (text : String)
  deriving Repr, DecidableEq

/-- The form of an argument. -/
def Argument.ofString (text : String) : Argument :=
  match text.toList with
  | ['-', '-'] => .endOfOptions
  | '-' :: '-' :: option =>
      match option.dropWhile (· ≠ '=') with
      | [] => .long (String.ofList option) none
      | _ :: value =>
          .long (String.ofList (option.takeWhile (· ≠ '=')))
            (some (String.ofList value))
  | '-' :: letter :: letters => .short (letter :: letters)
  | _ => .positional text

/-- The verbosity that a word names. -/
def Verbosity.ofName? : String → Option Verbosity
  | "off" => some .silent
  | "error" => some (.upTo .error)
  | "warn" => some (.upTo .warn)
  | "info" => some (.upTo .info)
  | "debug" => some (.upTo .debug)
  | "trace" => some (.upTo .trace)
  | _ => none

/-- The value of decimal digits; there must be at least one. -/
def decimalValue? (digits : List Char) : Option Nat :=
  if digits ≠ [] ∧ digits.all Char.isDigit then
    some (ofDigits 10 (digits.map fun digit => digit.toNat - '0'.toNat))
  else
    none

/-- The number that a value names: decimal digits, perhaps after a plus sign. -/
def stepLimit? (value : String) : Option Nat :=
  let digits :=
    match value.toList with
    | '+' :: digits => digits
    | digits => digits
  (decimalValue? digits).filter (· ≤ greatestWord)

/-- The options that were found so far. -/
structure OptionsDraft where
  program? : Option String := none
  trace : Bool := false
  logLevel? : Option Verbosity := none
  stepLimit? : Option Nat := none
  disassemble : Bool := false
  dumpState : Bool := false
  deriving Repr, DecidableEq

namespace OptionsDraft

/-- Take an option without a value. -/
def setFlag
    (draft : OptionsDraft)
    (name : String) :
    Except Detour OptionsDraft :=
  match name with
  | "help" => .error .help
  | "trace" =>
      if draft.trace then .error (.usage (.repeatedOption name))
      else .ok { draft with trace := true }
  | "disassemble" =>
      if draft.disassemble then .error (.usage (.repeatedOption name))
      else .ok { draft with disassemble := true }
  | "dump-state" =>
      if draft.dumpState then .error (.usage (.repeatedOption name))
      else .ok { draft with dumpState := true }
  | _ => .error (.usage (.unknownOption name))

/-- Whether a long option takes a value. -/
def takesValue (name : String) : Bool :=
  name = "log-level" || name = "step-limit"

/-- Take an option with its value. -/
def setValue
    (draft : OptionsDraft)
    (name value : String) :
    Except Detour OptionsDraft :=
  match name with
  | "log-level" =>
      match Verbosity.ofName? value with
      | none => .error (.usage (.invalidValue name value))
      | some verbosity =>
          if draft.logLevel?.isSome then
            .error (.usage (.repeatedOption name))
          else
            .ok { draft with logLevel? := some verbosity }
  | "step-limit" =>
      match LS8.stepLimit? value with
      | none => .error (.usage (.invalidValue name value))
      | some limit =>
          if draft.stepLimit?.isSome then
            .error (.usage (.repeatedOption name))
          else
            .ok { draft with stepLimit? := some limit }
  | _ => .error (.usage (.unexpectedValue name))

/-- Take options of one letter. -/
def setLetters
    (draft : OptionsDraft) :
    List Char → Except Detour OptionsDraft
  | [] => .ok draft
  | 't' :: rest => do
      let next ← draft.setFlag "trace"
      next.setLetters rest
  | 'h' :: rest => do
      let next ← draft.setFlag "help"
      next.setLetters rest
  | letter :: _ =>
      .error (.usage (.unknownOption (String.ofList ['-', letter])))

/-- Take the path of the program. -/
def setProgram
    (draft : OptionsDraft)
    (path : String) :
    Except Detour OptionsDraft :=
  if draft.program?.isSome then
    .error (.usage (.unexpectedArgument path))
  else if path = "" then
    .error (.usage .emptyProgram)
  else
    .ok { draft with program? := some path }

/-- Take arguments from left to right. -/
def takeAll
    (draft : OptionsDraft) :
    List String → Except Detour OptionsDraft
  | [] => .ok draft
  | argument :: rest =>
      match Argument.ofString argument with
      | .endOfOptions =>
          rest.foldlM setProgram draft
      | .positional path => do
          let next ← draft.setProgram path
          next.takeAll rest
      | .short letters => do
          let next ← draft.setLetters letters
          next.takeAll rest
      | .long name (some value) => do
          let next ← draft.setValue name value
          next.takeAll rest
      | .long name none =>
          if takesValue name then
            match rest with
            | [] => .error (.usage (.missingValue name))
            | value :: later =>
                if value.toList.head? = some '-' then
                  .error (.usage (.missingValue name))
                else do
                  let next ← draft.setValue name value
                  next.takeAll later
          else do
            let next ← draft.setFlag name
            next.takeAll rest

/-- The options, with defaults for those that were not given. -/
def finish (draft : OptionsDraft) : Except Detour Options :=
  match draft.program? with
  | none => .error (.usage .missingProgram)
  | some program =>
      .ok {
        program := program
        trace := draft.trace
        logLevel := draft.logLevel?.getD (.upTo .warn)
        stepLimit := draft.stepLimit?
        disassemble := draft.disassemble
        dumpState := draft.dumpState
      }

end OptionsDraft

/-- The options that arguments stand for. -/
def Options.ofArguments (arguments : List String) : Except Detour Options := do
  let draft ← ({} : OptionsDraft).takeAll arguments
  draft.finish

/-- The reader that goes by these rules, with the wording it is given. -/
def Options.reader
    (help : String)
    (complaint : List String → String) :
    ArgumentReader :=
  fun arguments =>
    match Options.ofArguments arguments with
    | .ok options => .accepted options
    | .error .help => .help help
    | .error (.usage _) => .rejected (complaint arguments)

/-- The same without any wording. -/
def Options.wordlessReader : ArgumentReader :=
  Options.reader "" fun _ => ""

end LS8
