import LS8.CommandLine.Session

namespace LS8

/-!
# The options on the log

Two options say how much of the log is shown, `--trace` and `--log-level`.
Arguments spell a choice among them (`Spelling`): the choice stands between words
that ask for other things, anywhere but between another option and its value,
and each of the two is given once at most.

What a reader makes of such arguments is the reader's business.
`ReadsLogOptions` lists what is expected of one: with the choice, arguments are
accepted just if they are without it, and then the choice is in the options and
everything else is as it was.
-/

/-- How much of the log is asked for: all of it, or up to a level, or neither. -/
structure LogChoice where
  trace : Bool := false
  level? : Option Verbosity := none
  deriving Repr, DecidableEq

/-- What is shown of the log if this is chosen. -/
def LogChoice.verbosity (choice : LogChoice) : Verbosity :=
  if choice.trace then .upTo .trace else choice.level?.getD (.upTo .warn)

/-- The word for a verbosity. -/
def Verbosity.name : Verbosity → String
  | .silent => "off"
  | .upTo .error => "error"
  | .upTo .warn => "warn"
  | .upTo .info => "info"
  | .upTo .debug => "debug"
  | .upTo .trace => "trace"

/-- A word that is not about the log and does not change what the next one is. -/
structure IsForeign (word : String) : Prop where
  notTrace : word ≠ "--trace"
  notLevel : word ≠ "--log-level"
  notJoined : ∀ text, word ≠ "--log-level=" ++ text
  /-- There is no `t` among the letters after a single dash. -/
  notLetter :
    ∀ letters,
      word.toList = '-' :: letters → letters.head? ≠ some '-' → 't' ∉ letters
  /-- The value of the step limit may be the next word. -/
  notStepLimit : word ≠ "--step-limit"
  /-- No options come after this one. -/
  notEnd : word ≠ "--"

/-- Arguments spell a choice about the log, and these are the others. -/
inductive Spelling : LogChoice → List String → List String → Prop where
  | nil : Spelling {} [] []
  | trace
      {level? : Option Verbosity}
      {word : String}
      {rest others : List String}
      (means : word = "--trace" ∨ word = "-t")
      (later : Spelling ⟨false, level?⟩ rest others) :
      Spelling ⟨true, level?⟩ (word :: rest) others
  /-- The letter for a trace stands among others. -/
  | letters
      {level? : Option Verbosity}
      {before after : List Char}
      {rest others : List String}
      (besides : before ++ after ≠ [])
      (undashed : (before ++ after).head? ≠ some '-')
      (once : 't' ∉ before ++ after)
      (later : Spelling ⟨false, level?⟩ rest others) :
      Spelling ⟨true, level?⟩
        (String.ofList ('-' :: before ++ 't' :: after) :: rest)
        (String.ofList ('-' :: before ++ after) :: others)
  | level
      {trace : Bool}
      {level : Verbosity}
      {rest others : List String}
      (later : Spelling ⟨trace, none⟩ rest others) :
      Spelling ⟨trace, some level⟩ ("--log-level" :: level.name :: rest) others
  | joinedLevel
      {trace : Bool}
      {level : Verbosity}
      {rest others : List String}
      (later : Spelling ⟨trace, none⟩ rest others) :
      Spelling ⟨trace, some level⟩ (("--log-level=" ++ level.name) :: rest) others
  | stepLimit
      {choice : LogChoice}
      {value : String}
      {rest others : List String}
      (undashed : value.toList.head? ≠ some '-')
      (later : Spelling choice rest others) :
      Spelling choice ("--step-limit" :: value :: rest)
        ("--step-limit" :: value :: others)
  | foreign
      {choice : LogChoice}
      {word : String}
      {rest others : List String}
      (isForeign : IsForeign word)
      (later : Spelling choice rest others) :
      Spelling choice (word :: rest) (word :: others)
  /-- After two dashes there are no options. -/
  | positional (rest : List String) :
      Spelling {} ("--" :: rest) ("--" :: rest)
  /-- The step limit has no value, whatever else comes after it. -/
  | valueless
      {rest : List String}
      (dashed : ∀ next ∈ rest.head?, next.toList.head? = some '-') :
      Spelling {} ("--step-limit" :: rest) ("--step-limit" :: rest)

/-- The same options, but for what is chosen about the log. -/
def Options.choosing (options : Options) (choice : LogChoice) : Options :=
  {
    options with
    trace := choice.trace
    logLevel := choice.level?.getD (.upTo .warn)
  }

/-- A choice shows what its verbosity shows. -/
theorem Options.verbosity_choosing (options : Options) (choice : LogChoice) :
    (options.choosing choice).verbosity = choice.verbosity :=
  rfl

/-- A reader takes the options on the log for what they are. -/
structure ReadsLogOptions (read : ArgumentReader) : Prop where
  accepted :
    ∀ {choice arguments others options},
      Spelling choice arguments others →
      read others = .accepted options →
      read arguments = .accepted (options.choosing choice)
  help :
    ∀ {choice arguments others text},
      Spelling choice arguments others →
      read others = .help text →
      read arguments = .help text
  /-- What is told of wrong arguments may depend on the choice. -/
  rejected :
    ∀ {choice arguments others text},
      Spelling choice arguments others →
      read others = .rejected text →
      ∃ other, read arguments = .rejected other

end LS8
