import LS8.CommandLine.Arguments
import LS8.CommandLine.Session
import LS8.Proofs.ImageGrammar
import LS8.Proofs.LimitedSink
import LS8.Proofs.ListingText

namespace LS8

/-!
# What comes of a session

`SessionEnds` lists the ends of a session whose output is always accepted: the
program cannot be loaded, it is listed, or it is run; and `RunEnds` lists the
ends of its run. Both say what the exit code is and which texts come out, in
terms of the parts that a session is made of, and they leave no choice
(`SessionEnds.unique`).

Every session comes to one of these ends (`Session.sessionEnds`). An image that
was loaded has a place in memory, and a run on a sink without limit does not
fail for its output, so that there are no others.
-/

/-- A fresh processor with an image in its first cells and zeros after it. -/
structure Carries (processor : Processor) (image : List UInt8) : Prop where
  fresh : processor = { Processor.initial with memory := processor.memory }
  cells :
    processor.memory.toList =
      image ++ List.replicate (256 - image.length) 0

/-- The run that options ask for, on a sink that accepts everything. -/
def Options.runOf (options : Options) (processor : Processor) : Run :=
  match options.stepLimit with
  | some limit => processor.runFor Sink.unlimited limit
  | none => processor.run Sink.unlimited

/-- The state of the processor where the options ask for it. -/
def Options.shownState (options : Options) (final : Processor) : String :=
  if options.dumpState then final.summary else ""

/-- The exit code, the output and the diagnostics that a run leads to. -/
inductive RunEnds
    (options : Options)
    (run : Run) :
    Nat → String → String → Prop where
  /-- `HLT` was executed, or the limit is reached. -/
  | stopped
      {count : Nat}
      (result : run.result = .ok count)
      (stops : run.processor.status = .halted ∨ count = options.limit) :
      RunEnds options run 0
        (printedText run.events.toList)
        (options.shownState run.processor)
  | unknownOpcode
      {opcode : UInt8}
      {pc : Nat}
      (result : run.result = .error (.unknownOpcode opcode pc)) :
      RunEnds options run 0
        (printedText run.events.toList ++
          (opcode.toNat.repr ++ " is an unknown instruction!" ++ "\n"))
        (options.shownState run.processor)
  | accessFault
      {error : AccessError}
      (result : run.result = .error (.access error)) :
      RunEnds options run 3
        (printedText run.events.toList)
        (options.shownState run.processor ++
          "ls8: fault at pc 0x" ++
          String.ofList (addressNumeral run.processor.pc) ++ ": " ++
          error.message ++ "\n")

/-- The exit code, the output and the diagnostics that a session leads to. -/
inductive SessionEnds
    (options : Options)
    (loaded : Except LoadError (List UInt8)) :
    Nat → String → String → Prop where
  | missing
      {path : String}
      (fails : loaded = .error (.fileNotFound path)) :
      SessionEnds options loaded 4 ""
        ("ls8: " ++ (LoadError.fileNotFound path).message ++ "\n")
  | unloadable
      {error : LoadError}
      (fails : loaded = .error error)
      (found : ∀ path, error ≠ .fileNotFound path) :
      SessionEnds options loaded 1 ""
        ("ls8: " ++ (options.program ++ ": " ++ error.message) ++ "\n")
  | listed
      {image : List UInt8}
      (loads : loaded = .ok image)
      (lists : options.disassemble = true) :
      SessionEnds options loaded 0 (Listing.text image) ""
  | executed
      {image : List UInt8}
      {processor : Processor}
      {code : Nat}
      {output diagnostics : String}
      (loads : loaded = .ok image)
      (executes : options.disassemble = false)
      (carries : Carries processor image)
      (ends :
        RunEnds options (options.runOf processor) code output diagnostics) :
      SessionEnds options loaded code output diagnostics

/-- There is only one fresh processor with a given image. -/
theorem Carries.unique
    {left right : Processor}
    {image : List UInt8}
    (leftCarries : Carries left image)
    (rightCarries : Carries right image) :
    left = right := by
  have cells : left.memory.cells = right.memory.cells :=
    Vector.toList_inj.mp (leftCarries.cells.trans rightCarries.cells.symm)
  have memory : left.memory = right.memory := by
    cases leftEq : left.memory
    cases rightEq : right.memory
    rw [leftEq, rightEq] at cells
    exact congrArg Memory.mk cells
  rw [leftCarries.fresh, rightCarries.fresh, memory]

section

variable
  {options : Options}
  {code otherCode : Nat}
  {output otherOutput diagnostics otherDiagnostics : String}

/-- A run leads to one code, one output and one text of diagnostics. -/
theorem RunEnds.unique
    {run : Run}
    (ends : RunEnds options run code output diagnostics)
    (otherEnds :
      RunEnds options run otherCode otherOutput otherDiagnostics) :
    code = otherCode ∧
      output = otherOutput ∧
      diagnostics = otherDiagnostics := by
  cases ends with
  | stopped result =>
      cases otherEnds with
      | stopped => exact ⟨rfl, rfl, rfl⟩
      | unknownOpcode other | accessFault other => simp [result] at other
  | unknownOpcode result =>
      cases otherEnds with
      | unknownOpcode other =>
          cases result.symm.trans other
          exact ⟨rfl, rfl, rfl⟩
      | stopped other | accessFault other => simp [result] at other
  | accessFault result =>
      cases otherEnds with
      | accessFault other =>
          cases result.symm.trans other
          exact ⟨rfl, rfl, rfl⟩
      | stopped other | unknownOpcode other => simp [result] at other

/-- So does a session. -/
theorem SessionEnds.unique
    {loaded : Except LoadError (List UInt8)}
    (ends : SessionEnds options loaded code output diagnostics)
    (otherEnds :
      SessionEnds options loaded otherCode otherOutput otherDiagnostics) :
    code = otherCode ∧
      output = otherOutput ∧
      diagnostics = otherDiagnostics := by
  cases ends with
  | missing fails =>
      cases otherEnds with
      | missing other =>
          cases fails.symm.trans other
          exact ⟨rfl, rfl, rfl⟩
      | unloadable other found =>
          cases fails.symm.trans other
          exact absurd rfl (found _)
      | listed other | executed other => cases fails.symm.trans other
  | unloadable fails found =>
      cases otherEnds with
      | missing other =>
          cases fails.symm.trans other
          exact absurd rfl (found _)
      | unloadable other =>
          cases fails.symm.trans other
          exact ⟨rfl, rfl, rfl⟩
      | listed other | executed other => cases fails.symm.trans other
  | listed loads lists =>
      cases otherEnds with
      | missing other | unloadable other => cases loads.symm.trans other
      | listed other =>
          cases loads.symm.trans other
          exact ⟨rfl, rfl, rfl⟩
      | executed _ executes => simp [lists] at executes
  | executed loads executes carries ends =>
      cases otherEnds with
      | missing other | unloadable other => cases loads.symm.trans other
      | listed _ lists => simp [executes] at lists
      | executed other _ otherCarries otherEnds =>
          cases loads.symm.trans other
          obtain rfl := carries.unique otherCarries
          exact ends.unique otherEnds

end

/-- An image that is read fits into the memory. -/
theorem Image.length_le_of_parse
    {text : String}
    {image : List UInt8}
    (parses : Image.parse text = .ok image) :
    image.length ≤ 256 := by
  obtain ⟨result, describes⟩ := exists_describes (Image.lines text.toList)
  rw [describes.parse_eq] at parses
  subst parses
  cases describes with
  | image wellFormed fits values =>
      have length := congrArg List.length values
      rw [List.length_map, List.length_map] at length
      rwa [length]

theorem Image.length_le_of_load
    {files : Files}
    {path : String}
    {image : List UInt8}
    (loads : Image.load files path = .ok image) :
    image.length ≤ 256 := by
  unfold Image.load Image.ofContent at loads
  split at loads
  next => contradiction
  next => contradiction
  next bytes _ =>
    split at loads
    next => contradiction
    next => exact Image.length_le_of_parse loads

/-- An image that fits fills the first cells of an empty memory. -/
theorem Memory.exists_load
    {image : List UInt8}
    (fits : image.length ≤ 256) :
    ∃ memory,
      Memory.empty.load image = .ok memory ∧
        memory.toList = image ++ List.replicate (256 - image.length) 0 := by
  refine ⟨_, if_pos fits, ?_⟩
  apply List.ext_getElem
  · simp only [toList, Vector.length_toList, List.length_append,
      List.length_replicate]
    omega
  · intro address _ _
    by_cases within : address < image.length <;>
      simp [toList, empty, List.getElem_append, within]

/-- A fresh processor takes every image that fits. -/
theorem Processor.exists_load
    {image : List UInt8}
    (fits : image.length ≤ 256) :
    ∃ processor,
      Processor.initial.load image = .ok processor ∧
        Carries processor image := by
  obtain ⟨memory, loads, cells⟩ := Memory.exists_load fits
  refine ⟨{ Processor.initial with memory := memory }, ?_, rfl, cells⟩
  rw [Processor.load, show Processor.initial.memory = Memory.empty from rfl,
    loads]
  rfl

/-- The run of a session is the one that its options ask for. -/
theorem execute_eq_runOf (options : Options) (processor : Processor) :
    Session.execute options processor .accepting = options.runOf processor := by
  unfold Session.execute Options.runOf Options.limit
  cases options.stepLimit <;> rfl

/-- An access fault is reported with its place, after the state if it is shown. -/
theorem Session.diagnostics_report_access
    (options : Options)
    (final : Processor)
    (error : AccessError) :
    (Session.report options final (.error (.access error))).diagnostics =
      options.shownState final ++ "ls8: fault at pc 0x" ++
        String.ofList (addressNumeral final.pc) ++ ": " ++
        error.message ++ "\n" := by
  have opening :
      "ls8: fault at pc 0x" = "ls8: " ++ ("fault at pc " ++ "0x") := by
    decide
  rw [addressNumeral_eq, String.ofList_toList, opening]
  simp only [Session.report, Session.diagnostic, addressText,
    String.append_assoc]
  rfl

/-- The report of a run says how the run ended. -/
theorem runEnds_report
    {options : Options}
    {run : Run}
    (stops :
      ∀ count,
        run.result = .ok count →
        run.processor.status = .halted ∨ count = options.limit)
    (accepted : ∀ refusal, run.result ≠ .error (.output refusal)) :
    RunEnds options run
      (Session.report options run.processor run.result).status.code
      (printedText
        (run.events.toList ++
          (Session.report options run.processor run.result).events))
      (Session.report options run.processor run.result).diagnostics := by
  rw [printedText_append]
  cases result : run.result with
  | ok count =>
      rw [Session.report, printedText_logged, String.append_empty]
      exact .stopped result (stops count result)
  | error fault =>
      cases fault with
      | access error =>
          rw [Session.diagnostics_report_access, Session.report,
            printedText_nil, String.append_empty]
          exact .accessFault result
      | unknownOpcode opcode pc =>
          rw [Session.report, printedText_printed, Fault.message,
            decimal_eq_repr]
          exact .unknownOpcode result
      -- The one fault that a session reports and no accepting output allows.
      | output refusal => exact absurd result (accepted refusal)

/-- The run of a session ends in one of the ways that are listed. -/
theorem runEnds_runOf (options : Options) (processor : Processor) :
    RunEnds options (options.runOf processor)
      (Session.report options (options.runOf processor).processor
        (options.runOf processor).result).status.code
      (printedText
        ((options.runOf processor).events.toList ++
          (Session.report options (options.runOf processor).processor
            (options.runOf processor).result).events))
      (Session.report options (options.runOf processor).processor
        (options.runOf processor).result).diagnostics := by
  apply runEnds_report
  · intro count succeeds
    rw [← execute_eq_runOf] at succeeds ⊢
    exact stops_of_runFor_ok succeeds
  · intro refusal
    rw [← execute_eq_runOf]
    exact runFor_unlimited_ne_output processor options.limit refusal

namespace Session

variable
  {options : Options}
  {files : Files}
  {image : List UInt8}

/-- A program that cannot be loaded ends the session at once. -/
theorem ofFiles_of_error
    {error : LoadError}
    (fails : Image.load files options.program = .error error)
    (output : StandardOutput) :
    ofFiles options files output = notLoaded options.program error := by
  rw [Image.load] at fails
  rw [ofFiles, ofContent, opening, fails]

/-- A listing takes the place of the run. -/
theorem ofFiles_of_disassemble
    (loads : Image.load files options.program = .ok image)
    (lists : options.disassemble = true) :
    ofFiles options files .accepting =
      after [.logged (.loaded image.length options.program)] (list image) := by
  rw [Image.load] at loads
  simp only [ofFiles, ofContent, opening, loads, blocks, lists,
    Bool.false_eq_true, ↓reduceIte]

/-- Otherwise the report follows what comes out of the run. -/
theorem ofFiles_of_run
    {processor : Processor}
    (loads : Image.load files options.program = .ok image)
    (executes : options.disassemble = false)
    (placed : Processor.initial.load image = .ok processor) :
    ofFiles options files .accepting =
      after [.logged (.loaded image.length options.program)]
        (after (options.runOf processor).events.toList
          (report options (options.runOf processor).processor
            (options.runOf processor).result)) := by
  rw [Image.load] at loads
  simp only [ofFiles, ofContent, opening, loads, blocks, executes, placed,
    Bool.false_eq_true, ↓reduceIte, closing, execute_eq_runOf]

/-- Every session comes to one of the ends that are listed. -/
theorem sessionEnds (options : Options) (files : Files) :
    SessionEnds options (Image.load files options.program)
      (ofFiles options files .accepting).status.code
      (printedText (ofFiles options files .accepting).events)
      (ofFiles options files .accepting).diagnostics := by
  cases loaded : Image.load files options.program with
  | error error =>
      rw [ofFiles_of_error loaded .accepting]
      cases error with
      | fileNotFound path => exact .missing rfl
      | malformedLiteral | tooLarge | unreadable =>
          exact .unloadable rfl (by simp)
  | ok image =>
      cases disassemble : options.disassemble with
      | true =>
          rw [ofFiles_of_disassemble loaded disassemble, after,
            printedText_append, printedText_logged, String.empty_append, list,
            printedText_printed]
          exact .listed rfl disassemble
      | false =>
          obtain ⟨processor, placed, carries⟩ :=
            Processor.exists_load (Image.length_le_of_load loaded)
          rw [ofFiles_of_run loaded disassemble placed, after, after,
            printedText_append, printedText_logged, String.empty_append]
          exact .executed rfl disassemble carries
            (runEnds_runOf options processor)

end Session

/--
The command line is the composition of its parts. Whatever the reader of the
arguments is and whatever the arguments are, as long as they are accepted, the
session comes to one of the ends that are listed for the options that were read.
An image that is loaded from a file always fits into the processor's memory; of
a session that prints a listing there are no records but that of the loading,
so that nothing is executed.
-/
theorem session_composes
    {read : ArgumentReader}
    {arguments : List String}
    {options : Options}
    (accepted : read arguments = .accepted options)
    (files : Files) :
    let outcome := Session.ofArguments read arguments files .accepting
    let loaded := Image.load files options.program
    SessionEnds options loaded
        outcome.status.code
        (printedText (shownEvents options.verbosity outcome.events))
        outcome.diagnostics ∧
      (∀ image,
        loaded = .ok image →
        ∃ processor,
          Processor.initial.load image = .ok processor ∧
            Carries processor image) ∧
      (options.disassemble = true →
        ∀ record ∈ loggedRecords outcome.events,
          ∃ length, record = .loaded length options.program) := by
  intro outcome loaded
  have begins : outcome = Session.ofFiles options files .accepting := by
    simp only [outcome, Session.ofArguments, accepted]
  rw [begins]
  refine ⟨?_, ?_, ?_⟩
  · rw [printedText_shownEvents]
    exact Session.sessionEnds options files
  · intro image loads
    exact Processor.exists_load (Image.length_le_of_load loads)
  · intro lists record logged
    cases loads : Image.load files options.program with
    | error error =>
        rw [Session.ofFiles_of_error loads .accepting] at logged
        cases error <;> contradiction
    | ok image =>
        rw [Session.ofFiles_of_disassemble loads lists] at logged
        exact ⟨image.length, List.mem_singleton.mp logged⟩

/-- A directory with one program, which prints a number and halts. -/
def printFile : Files :=
  Files.empty.put (.within ["p"]) (.file "1000111\n0\n1".toUTF8)

/-- The state that is dumped is that after the run, and it is all there is. -/
theorem session_composes_printFile :
    ∃ options,
      Options.wordlessReader ["--dump-state", "p"] = .accepted options ∧
        SessionEnds options (Image.load printFile "p") 0 "0\n"
          ("--- CPU STATE ---\n" ++
            "PC: 02 FL: 000 Steps: 2 Status: Halted\n" ++
            "R0: 00\nR1: 00\nR2: 00\nR3: 00\n" ++
            "R4: 00\nR5: 00\nR6: 00\nR7: FF (SP)\n" ++
            "-----------------\n") := by
  have accepted :
      Options.wordlessReader ["--dump-state", "p"] =
        .accepted {
          program := "p"
          trace := false
          logLevel := .upTo .warn
          stepLimit := none
          disassemble := false
          dumpState := true
        } := by
    decide +kernel
  obtain ⟨ends, -, -⟩ := session_composes accepted printFile
  refine ⟨_, accepted, ?_⟩
  convert ends using 1
  all_goals decide +kernel

end LS8
