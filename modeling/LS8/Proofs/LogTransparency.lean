import LS8.Proofs.LogOptionReading
import LS8.Proofs.SessionOutcome
import LS8.Proofs.ShownEvents

namespace LS8

/-!
# The log does not interfere

On an output that accepts everything, what a session does is the same whatever
is shown of its log (`Session.ofFiles_choosing`). Sessions whose arguments
differ in the options on the log alone can therefore be told apart by their
records alone (`AlikeButForRecords`), and not even by these if the same records
are shown. This is so for every reader that takes these options for what they
are. What a reader says of arguments that are wrong is its own affair, and may
well depend on the options that are among them.
-/

/-- What is seen of a session. -/
structure Sight where
  code : Nat
  /-- The records and the printed texts on standard output, in order. -/
  items : List Event
  /-- The text on standard error. -/
  diagnostics : String
  deriving Repr, DecidableEq

/-- What is seen of an outcome at a verbosity. -/
def Outcome.seenAt (outcome : Outcome) (verbosity : Verbosity) : Sight :=
  {
    code := outcome.status.code
    items := shownEvents verbosity outcome.events
    diagnostics := outcome.diagnostics
  }

/-- How much of the log is shown; without a session there is none. -/
def Reading.verbosity : Reading → Verbosity
  | .accepted options => options.verbosity
  | .help _ | .rejected _ => .silent

/-- What is seen of the session that arguments begin. -/
def Session.sight
    (read : ArgumentReader)
    (arguments : List String)
    (files : Files)
    (output : StandardOutput) :
    Sight :=
  (ofArguments read arguments files output).seenAt (read arguments).verbosity

/--
Two sights are alike but for their records. What is seen at the lower of two
verbosities is what is left of the other without the records above it.
-/
inductive AlikeButForRecords
    (left right : Verbosity) :
    Reading → Reading → Sight → Sight → Prop where
  /-- There is no session, and each reading says why in its own words. -/
  | rejected (leftText rightText : String) :
      AlikeButForRecords left right
        (.rejected leftText) (.rejected rightText)
        { code := 2, items := [], diagnostics := leftText }
        { code := 2, items := [], diagnostics := rightText }
  | served
      {leftReading rightReading : Reading}
      {leftSight rightSight : Sight}
      (leftServed : ∀ text, leftReading ≠ .rejected text)
      (rightServed : ∀ text, rightReading ≠ .rejected text)
      (code : leftSight.code = rightSight.code)
      (diagnostics : leftSight.diagnostics = rightSight.diagnostics)
      (printed :
        shownEvents .silent leftSight.items =
          shownEvents .silent rightSight.items)
      (fewer :
        left.rank ≤ right.rank →
        leftSight.items = shownEvents left rightSight.items) :
      AlikeButForRecords left right
        leftReading rightReading leftSight rightSight

/-- One outcome, seen at two verbosities. -/
theorem Outcome.alike_seenAt
    (outcome : Outcome)
    (left right : Options) :
    AlikeButForRecords left.verbosity right.verbosity
      (.accepted left) (.accepted right)
      (outcome.seenAt left.verbosity) (outcome.seenAt right.verbosity) := by
  refine .served nofun nofun rfl rfl ?_ ?_
  · have least (verbosity : Verbosity) :
        Verbosity.silent.rank ≤ verbosity.rank :=
      Nat.zero_le _
    exact (shownEvents_shownEvents (least left.verbosity) _).trans
      (shownEvents_shownEvents (least right.verbosity) _).symm
  · intro order
    exact (shownEvents_shownEvents order _).symm

/-- What is shown of the log makes no difference to what a session does. -/
theorem Session.ofFiles_choosing
    (options : Options)
    (choice : LogChoice)
    (files : Files) :
    ofFiles (options.choosing choice) files .accepting =
      ofFiles options files .accepting :=
  rfl

/-- Choices that show the same make the same session, on every output. -/
theorem Session.ofFiles_choosing_congr
    {left right : LogChoice}
    (same : left.verbosity = right.verbosity)
    (options : Options)
    (files : Files)
    (output : StandardOutput) :
    ofFiles (options.choosing left) files output =
      ofFiles (options.choosing right) files output := by
  simp only [ofFiles, ofContent, opening, closing, Options.verbosity_choosing,
    same]
  rfl

/--
The options on the log do not change what the simulator does. Two sessions that
differ in these options alone have the same exit code and diagnostics, and the
same printed texts in the same order; the records of the less verbose one are
those of the other that its verbosity shows, in their places. If one of them
has its arguments rejected, so has the other, and both end with the code of a
misuse and print nothing. A trace shows what the level `trace` shows, whatever
level is given with it.
-/
theorem log_options_transparent
    {read : ArgumentReader}
    (reads : ReadsLogOptions read)
    {leftChoice rightChoice : LogChoice}
    {left right others : List String}
    (leftSpells : Spelling leftChoice left others)
    (rightSpells : Spelling rightChoice right others)
    (files : Files) :
    AlikeButForRecords leftChoice.verbosity rightChoice.verbosity
        (read left) (read right)
        (Session.sight read left files .accepting)
        (Session.sight read right files .accepting) ∧
      (leftChoice.trace = true →
        rightChoice = { trace := false, level? := some (.upTo .trace) } →
        (∀ text, read left ≠ .rejected text) →
        ∀ output,
          Session.sight read left files output =
            Session.sight read right files output) := by
  unfold Session.sight Session.ofArguments
  cases reading : read others with
  | rejected text =>
      obtain ⟨leftText, leftReading⟩ := reads.rejected leftSpells reading
      obtain ⟨rightText, rightReading⟩ := reads.rejected rightSpells reading
      rw [leftReading, rightReading]
      exact ⟨.rejected leftText rightText,
        fun _ _ served => absurd rfl (served leftText)⟩
  | help text =>
      rw [reads.help leftSpells reading, reads.help rightSpells reading]
      exact ⟨.served nofun nofun rfl rfl rfl fun _ => rfl, fun _ _ _ _ => rfl⟩
  | accepted options =>
      rw [reads.accepted leftSpells reading,
        reads.accepted rightSpells reading]
      constructor
      · simp only [Session.ofFiles_choosing]
        exact Outcome.alike_seenAt _
          (options.choosing leftChoice) (options.choosing rightChoice)
      · intro traces level _ output
        have same : leftChoice.verbosity = rightChoice.verbosity := by
          rw [level, LogChoice.verbosity, traces]
          rfl
        have outcome := Session.ofFiles_choosing_congr same options files output
        exact congrArg₂ Outcome.seenAt outcome same

/-- What is seen of `printFile` if it is started with these arguments. -/
def printFileSight (arguments : List String) : Sight :=
  Session.sight Options.wordlessReader arguments printFile .accepting

/--
With a trace, six things come out of a program that prints a number and halts.
Without it, the number is left.
-/
theorem log_options_transparent_printFile :
    ReadsLogOptions Options.wordlessReader ∧
      Spelling ⟨false, some (.upTo .warn)⟩ ["p", "--log-level=warn"] ["p"] ∧
      Spelling ⟨true, some .silent⟩ ["-t", "--log-level", "off", "p"] ["p"] ∧
      (printFileSight ["p", "--log-level=warn"]).items =
        shownEvents (.upTo .warn)
          (printFileSight ["-t", "--log-level", "off", "p"]).items ∧
      (printFileSight ["p", "--log-level=warn"]).items = [.printed "0\n"] ∧
      (printFileSight ["-t", "--log-level", "off", "p"]).items.length = 6 := by
  have reads : ReadsLogOptions Options.wordlessReader :=
    Options.readsLogOptions "" fun _ => ""
  have isForeign : IsForeign "p" := by
    have form : Argument.ofString "p" = .positional "p" := by decide
    rw [isForeign_iff, form]
    trivial
  have quietSpells :
      Spelling ⟨false, some (.upTo .warn)⟩ ["p", "--log-level=warn"] ["p"] := by
    have word :
        "--log-level=warn" = "--log-level=" ++ (Verbosity.upTo .warn).name := by
      decide
    rw [word]
    exact .foreign isForeign (.joinedLevel .nil)
  have tracedSpells :
      Spelling ⟨true, some .silent⟩ ["-t", "--log-level", "off", "p"] ["p"] :=
    .trace (.inr rfl) (.level (.foreign isForeign .nil))
  obtain ⟨alike, -⟩ :=
    log_options_transparent reads quietSpells tracedSpells printFile
  have quietSeen :
      printFileSight ["p", "--log-level=warn"] =
        { code := 0, items := [.printed "0\n"], diagnostics := "" } := by
    decide +kernel
  have six :
      (printFileSight ["-t", "--log-level", "off", "p"]).items.length = 6 := by
    decide +kernel
  refine ⟨reads, quietSpells, tracedSpells, ?_, by rw [quietSeen], six⟩
  unfold printFileSight at quietSeen ⊢
  rw [quietSeen] at alike ⊢
  cases alike with
  | served _ _ _ _ _ fewer => exact fewer (by decide)

/-- A reader that complains of a missing program and names what was given. -/
def namingReader : ArgumentReader :=
  Options.reader "" fun given =>
    "error: the following required arguments were not provided:\n" ++
      "  <PROGRAM>\n\n" ++
      "Usage: " ++ " ".intercalate ("ls8" :: given ++ ["<PROGRAM>"]) ++
      "\n\n" ++
      "For more information, try '--help'.\n"

/-- What is told of wrong arguments shows the options on the log. -/
theorem complaint_names_log_options :
    ReadsLogOptions namingReader ∧
      Spelling ⟨false, none⟩ [] [] ∧
      Spelling ⟨true, none⟩ ["--trace"] [] ∧
      (Session.sight namingReader [] Files.empty .accepting).diagnostics =
        "error: the following required arguments were not provided:\n" ++
          "  <PROGRAM>\n\nUsage: ls8 <PROGRAM>\n\n" ++
          "For more information, try '--help'.\n" ∧
      (Session.sight namingReader ["--trace"] Files.empty
          .accepting).diagnostics =
        "error: the following required arguments were not provided:\n" ++
          "  <PROGRAM>\n\nUsage: ls8 --trace <PROGRAM>\n\n" ++
          "For more information, try '--help'.\n" ∧
      (Session.sight namingReader [] Files.empty .accepting).diagnostics ≠
        (Session.sight namingReader ["--trace"] Files.empty
          .accepting).diagnostics := by
  refine ⟨Options.readsLogOptions _ _, .nil, .trace (.inl rfl) .nil, ?_⟩
  refine ⟨?_, ?_, ?_⟩ <;> decide +kernel

end LS8
