import LS8.Proofs.RunRecords
import LS8.Proofs.SessionOutcome
import LS8.Proofs.ShownEvents

namespace LS8

/-!
# Sessions on a full output

On an output without room the first thing that a session has to write decides.
Text that the program prints is refused like on any other sink: the run fails,
and the session reports it. What the session writes on its own account, which
are the records, the listing and the line on an unknown instruction, breaks it
off with an exit code of its own (`OwnOutputFirst`).

`FullSession` compares a session on a full output with the same session on one
that accepts everything; `Session.fullSession` says that there are no other
cases.
-/

/-- A session has written none of its program's text when it writes its own. -/
inductive OwnOutputFirst
    (options : Options)
    (loaded : Except LoadError (List UInt8)) :
    Prop where
  /-- The record of the loaded program is shown. -/
  | record
      {image : List UInt8}
      (loads : loaded = .ok image)
      (shown : options.verbosity.shows .info = true)
  | listing
      {image : List UInt8}
      (loads : loaded = .ok image)
      (lists : options.disassemble = true)
      (nonempty : Listing.text image ≠ "")
  /-- The program comes to an unknown instruction before it prints anything. -/
  | unknownInstruction
      {image : List UInt8}
      {processor : Processor}
      {opcode : UInt8}
      {pc : Nat}
      (loads : loaded = .ok image)
      (executes : options.disassemble = false)
      (carries : Carries processor image)
      (silent :
        printedText (options.runOf processor).events.toList = "")
      (result :
        (options.runOf processor).result =
          .error (.unknownOpcode opcode pc))

/-- What comes of a session on a full output, `whole` being that on a free one. -/
inductive FullSession
    (options : Options)
    (abort : Abort)
    (loaded : Except LoadError (List UInt8))
    (whole outcome : Outcome) :
    Prop where
  | brokenOff
      (own : OwnOutputFirst options loaded)
      (code : outcome.status.code = 101)
      (diagnostics :
        ∃ dumped,
          outcome.diagnostics = dumped ++ abort.notice .noSpace)
  /-- The text of the program is refused, and the session says so. -/
  | reported
      (foreign : ¬ OwnOutputFirst options loaded)
      (writes : printedText whole.events ≠ "")
      (code : outcome.status.code = 1)
      (diagnostics :
        ∃ dumped,
          outcome.diagnostics =
            dumped ++ "ls8: No space left on device (os error 28)\n")
  /-- There is nothing to write. -/
  | unaffected
      (foreign : ¬ OwnOutputFirst options loaded)
      (silent : printedText whole.events = "")
      (status : outcome.status = whole.status)
      (diagnostics : outcome.diagnostics = whole.diagnostics)

/-- Every record has a line. -/
theorem Record.line_ne_empty (record : Record) : record.line ≠ "" := by
  intro empty
  have length := congrArg String.length empty
  simp [line] at length

/-- Of details nothing is seen where the steps of a session are hidden. -/
theorem LogsDetails.transcript_eq
    {verbosity : Verbosity}
    {events : List Event}
    (details : LogsDetails events)
    (hides : verbosity.shows .info = false) :
    transcript verbosity events = printedText events := by
  apply transcript_of_hidden
  intro record logged
  rcases details record logged with debug | trace
  · rw [debug]
    exact Verbosity.hides_of_rank_le hides (by decide)
  · rw [trace]
    exact Verbosity.hides_of_rank_le hides (by decide)

namespace Session

variable
  {options : Options}
  {files : Files}
  {image : List UInt8}
  {events : List Event}
  {run : Run}
  {abort : Abort}

/-- A full output blocks what is seen, and nothing else. -/
theorem blocks_full_eq_true
    (seen : transcript options.verbosity events ≠ "") :
    blocks (.refusing abort) options.verbosity events = true :=
  decide_eq_true seen

theorem blocks_full_eq_false
    (unseen : transcript options.verbosity events = "") :
    blocks (.refusing abort) options.verbosity events = false :=
  decide_eq_false fun seen => seen unseen

/-- A record breaks a session off where it is shown. -/
theorem blocks_full_logged (abort : Abort) (record : Record) :
    blocks (.refusing abort) options.verbosity [.logged record] =
      options.verbosity.shows record.level := by
  cases shown : options.verbosity.shows record.level with
  | true =>
      apply blocks_full_eq_true
      simp [shown, record.line_ne_empty]
  | false =>
      apply blocks_full_eq_false
      simp [shown]

theorem ofFiles_full_of_shown
    (loads : Image.load files options.program = .ok image)
    (shown : options.verbosity.shows .info = true) :
    ofFiles options files (.refusing abort) = brokenOff (.refusing abort) "" := by
  rw [Image.load] at loads
  have blocked :=
    (blocks_full_logged abort (.loaded image.length options.program)).trans shown
  simp only [ofFiles, ofContent, opening, loads, blocked, ↓reduceIte]

/-- A listing is written as a whole or breaks the session off. -/
theorem ofFiles_full_of_disassemble
    (loads : Image.load files options.program = .ok image)
    (hides : options.verbosity.shows .info = false)
    (lists : options.disassemble = true) :
    ofFiles options files (.refusing abort) =
      if Listing.text image = "" then
        after [.logged (.loaded image.length options.program)] (list image)
      else
        brokenOff (.refusing abort) "" := by
  rw [Image.load] at loads
  have unblocked :=
    (blocks_full_logged abort (.loaded image.length options.program)).trans hides
  simp only [ofFiles, ofContent, opening, loads, unblocked, lists,
    Bool.false_eq_true, ↓reduceIte]
  by_cases empty : Listing.text image = ""
  · have unblocked :
        blocks (.refusing abort) options.verbosity (list image).events = false :=
      blocks_full_eq_false (by simp [list, empty])
    simp only [unblocked, empty, Bool.false_eq_true, ↓reduceIte]
  · have blocked :
        blocks (.refusing abort) options.verbosity (list image).events = true :=
      blocks_full_eq_true (by simp [list, empty])
    simp only [blocked, empty, ↓reduceIte]

/-- Otherwise the session is its run and what follows it. -/
theorem ofFiles_full_of_run
    {processor : Processor}
    (loads : Image.load files options.program = .ok image)
    (hides : options.verbosity.shows .info = false)
    (executes : options.disassemble = false)
    (placed : Processor.initial.load image = .ok processor) :
    ofFiles options files (.refusing abort) =
      after [.logged (.loaded image.length options.program)]
        (closing options (execute options processor (.refusing abort))
          (.refusing abort)) := by
  rw [Image.load] at loads
  have unblocked :=
    (blocks_full_logged abort (.loaded image.length options.program)).trans hides
  simp only [ofFiles, ofContent, opening, loads, unblocked, executes, placed,
    Bool.false_eq_true, ↓reduceIte]

/-- A run that ends at an unknown instruction breaks the session off. -/
theorem closing_full_of_unknown
    (options : Options)
    (abort : Abort)
    {opcode : UInt8}
    {pc : Nat}
    (unknown : run.result = .error (.unknownOpcode opcode pc)) :
    ∃ dumped,
      closing options run (.refusing abort) =
        brokenOff (.refusing abort) dumped := by
  have line :
      blocks (.refusing abort) options.verbosity
        (report options run.processor run.result).events = true := by
    apply blocks_full_eq_true
    rw [unknown, report, transcript_printed]
    intro empty
    have length := congrArg String.length empty
    simp at length
  simp only [closing, line, ↓reduceIte]
  split
  next => exact ⟨_, rfl⟩
  next => exact ⟨_, rfl⟩

/-- A report prints the line on an unknown instruction, and nothing else. -/
theorem printedText_report_of_known
    (known :
      ∀ opcode pc, run.result ≠ .error (.unknownOpcode opcode pc)) :
    printedText (report options run.processor run.result).events = "" := by
  cases result : run.result with
  | ok count => rfl
  | error fault =>
      cases fault with
      | unknownOpcode opcode pc => exact absurd result (known opcode pc)
      | access error => rfl
      | output refusal => rfl

/-- A run that prints nothing and meets no unknown instruction is reported. -/
theorem closing_full_of_silent
    (hides : options.verbosity.shows .info = false)
    (details : LogsDetails run.events.toList)
    (silent : printedText run.events.toList = "")
    (known :
      ∀ opcode pc, run.result ≠ .error (.unknownOpcode opcode pc)) :
    closing options run (.refusing abort) =
      after run.events.toList (report options run.processor run.result) := by
  have unblocked :
      blocks (.refusing abort) options.verbosity run.events.toList = false :=
    blocks_full_eq_false ((details.transcript_eq hides).trans silent)
  have unblockedReport :
      blocks (.refusing abort) options.verbosity
        (report options run.processor run.result).events = false := by
    cases result : run.result with
    | ok count => exact (blocks_full_logged abort (.executed count)).trans hides
    | error fault =>
        cases fault with
        | unknownOpcode opcode pc => exact absurd result (known opcode pc)
        | access error => exact blocks_full_eq_false rfl
        | output refusal => exact blocks_full_eq_false rfl
  simp only [closing, unblocked, unblockedReport, Bool.false_eq_true,
    ↓reduceIte]

end Session

/-- A session whose program prints something has its own output after that. -/
theorem not_ownOutputFirst_of_run
    {options : Options}
    {loaded : Except LoadError (List UInt8)}
    {image : List UInt8}
    {processor : Processor}
    (loads : loaded = .ok image)
    (hides : options.verbosity.shows .info = false)
    (executes : options.disassemble = false)
    (carries : Carries processor image)
    (prints :
      ∀ opcode pc,
        (options.runOf processor).result = .error (.unknownOpcode opcode pc) →
        printedText (options.runOf processor).events.toList ≠ "") :
    ¬ OwnOutputFirst options loaded := by
  intro own
  cases own with
  | record _ shown => simp [hides] at shown
  | listing _ lists => simp [executes] at lists
  | unknownInstruction alsoLoads _ alsoCarries silent unknown =>
      cases loads.symm.trans alsoLoads
      obtain rfl := carries.unique alsoCarries
      exact prints _ _ unknown silent

section

variable {options : Options} {processor : Processor}

/-- A run that has nothing to print does not notice that an output is full. -/
theorem execute_full_of_silent
    (abort : Abort)
    (silent : printedText (options.runOf processor).events.toList = "") :
    (Session.execute options processor (.refusing abort)).processor =
        (options.runOf processor).processor ∧
      printedText
          (Session.execute options processor (.refusing abort)).events.toList =
        "" ∧
      (Session.execute options processor (.refusing abort)).result =
        (options.runOf processor).result := by
  rw [← execute_eq_runOf] at silent ⊢
  have fits :
      (printedText
        (processor.runFor Sink.unlimited options.limit).events.toList).length ≤
          0 :=
    Nat.le_of_eq (congrArg String.length silent)
  obtain ⟨sameProcessor, sameText, sameResult⟩ :=
    runFor_limited_of_fits fits .noSpace
  exact ⟨sameProcessor, sameText.trans silent, sameResult⟩

/-- A run that has something to print fails without having printed anything. -/
theorem execute_full_of_prints
    (abort : Abort)
    (prints : printedText (options.runOf processor).events.toList ≠ "") :
    (Session.execute options processor (.refusing abort)).result =
        .error (.output .noSpace) ∧
      printedText
          (Session.execute options processor (.refusing abort)).events.toList =
        "" := by
  rw [← execute_eq_runOf] at prints
  have overflows :
      0 <
        (printedText
          (processor.runFor Sink.unlimited
            options.limit).events.toList).length :=
    Nat.pos_of_ne_zero fun empty => prints (String.length_eq_zero_iff.mp empty)
  obtain ⟨result, text⟩ := runFor_limited_of_overflow overflows .noSpace
  exact ⟨result, String.toList_inj.mp text⟩

end

/-- A session that executes its program on a full output. -/
theorem Session.fullSession_of_run
    {options : Options}
    {files : Files}
    {image : List UInt8}
    {abort : Abort}
    (loads : Image.load files options.program = .ok image)
    (hides : options.verbosity.shows .info = false)
    (executes : options.disassemble = false) :
    FullSession options abort (.ok image)
      (ofFiles options files .accepting)
      (ofFiles options files (.refusing abort)) := by
  obtain ⟨processor, placed, carries⟩ :=
    Processor.exists_load (Image.length_le_of_load loads)
  rw [ofFiles_of_run loads executes placed,
    ofFiles_full_of_run loads hides executes placed]
  by_cases silent : printedText (options.runOf processor).events.toList = ""
  · obtain ⟨sameProcessor, unprinted, sameResult⟩ :=
      execute_full_of_silent abort silent
    by_cases unknown :
        ∃ opcode pc,
          (options.runOf processor).result = .error (.unknownOpcode opcode pc)
    · obtain ⟨opcode, pc, result⟩ := unknown
      obtain ⟨dumped, breaksOff⟩ :=
        closing_full_of_unknown options abort (sameResult.trans result)
      rw [breaksOff]
      exact .brokenOff
        (.unknownInstruction rfl executes carries silent result) rfl
        ⟨dumped, rfl⟩
    · have known :
          ∀ opcode pc,
            (options.runOf processor).result ≠
              .error (.unknownOpcode opcode pc) :=
        fun opcode pc result => unknown ⟨opcode, pc, result⟩
      have cutKnown := known
      rw [← sameResult] at cutKnown
      have details :
          LogsDetails
            (execute options processor (.refusing abort)).events.toList :=
        Processor.details_runFor cutKnown
      rw [closing_full_of_silent hides details unprinted cutKnown,
        sameProcessor, sameResult]
      refine .unaffected ?_ ?_ rfl rfl
      · exact not_ownOutputFirst_of_run rfl hides executes carries
          fun opcode pc result => absurd result (known opcode pc)
      · simp only [after, printedText_append, printedText_logged, silent,
          printedText_report_of_known known, String.empty_append]
  · obtain ⟨result, unprinted⟩ := execute_full_of_prints abort silent
    have known :
        ∀ opcode pc,
          (execute options processor (.refusing abort)).result ≠
            .error (.unknownOpcode opcode pc) := by
      simp [result]
    have details :
        LogsDetails (execute options processor (.refusing abort)).events.toList :=
      Processor.details_runFor known
    rw [closing_full_of_silent hides details unprinted known, result]
    refine .reported ?_ ?_ rfl ⟨_, rfl⟩
    · exact not_ownOutputFirst_of_run rfl hides executes carries
        fun _ _ _ => silent
    · simp only [after, printedText_append, printedText_logged,
        String.empty_append]
      intro empty
      exact silent (String.append_eq_empty_iff.mp empty).1

/-- Every session on a full output comes to one of the ends that are listed. -/
theorem Session.fullSession
    (options : Options)
    (files : Files)
    (abort : Abort) :
    FullSession options abort (Image.load files options.program)
      (ofFiles options files .accepting)
      (ofFiles options files (.refusing abort)) := by
  cases loaded : Image.load files options.program with
  | error error =>
      rw [ofFiles_of_error loaded .accepting,
        ofFiles_of_error loaded (.refusing abort)]
      refine .unaffected ?_ ?_ rfl rfl
      · rintro (own | own | own) <;> contradiction
      · cases error <;> rfl
  | ok image =>
      cases shown : options.verbosity.shows .info with
      | true =>
          rw [ofFiles_full_of_shown loaded shown]
          exact .brokenOff (.record rfl shown) rfl ⟨"", rfl⟩
      | false =>
          cases disassemble : options.disassemble with
          | false => exact fullSession_of_run loaded shown disassemble
          | true =>
              rw [ofFiles_full_of_disassemble loaded shown disassemble]
              by_cases empty : Listing.text image = ""
              · rw [if_pos empty, ofFiles_of_disassemble loaded disassemble]
                refine .unaffected ?_ ?_ rfl rfl
                · intro own
                  cases own with
                  | record _ reveals => simp [shown] at reveals
                  | unknownInstruction _ executes =>
                      simp [disassemble] at executes
                  | listing loads _ nonempty =>
                      cases loads
                      exact nonempty empty
                · rw [after, list, printedText_append, printedText_logged,
                    printedText_printed, empty, String.empty_append]
              · rw [if_neg empty]
                exact .brokenOff (.listing rfl disassemble empty) rfl ⟨"", rfl⟩

/-- The exit codes of sessions whose output is accepted go up to four. -/
theorem SessionEnds.code_le
    {options : Options}
    {loaded : Except LoadError (List UInt8)}
    {code : Nat}
    {output diagnostics : String}
    (ends : SessionEnds options loaded code output diagnostics) :
    code ≤ 4 := by
  cases ends with
  | executed _ _ _ ends => cases ends <;> decide
  | _ => decide

/--
A full output is reported, with the code of a failure if the session had
anything to print and with its usual code otherwise, unless the session's own
output comes first. Then, and only then, the session is broken off. This is so
whatever reads the arguments, and wherever an abort takes place.
-/
theorem refused_output_reported
    {read : ArgumentReader}
    {arguments : List String}
    {options : Options}
    (accepted : read arguments = .accepted options)
    (files : Files)
    (abort : Abort) :
    let whole := Session.ofArguments read arguments files .accepting
    let outcome := Session.ofArguments read arguments files (.refusing abort)
    let loaded := Image.load files options.program
    FullSession options abort loaded whole outcome ∧
      (¬ OwnOutputFirst options loaded ↔
        outcome.status.code ≤ 4 ∧
          (printedText whole.events ≠ "" → outcome.status.code = 1)) := by
  simp only [Session.ofArguments, accepted]
  have ends := Session.fullSession options files abort
  refine ⟨ends, ?_⟩
  cases ends with
  | brokenOff own code => simp [own, code]
  | reported foreign writes code => simp [foreign, code]
  | unaffected foreign silent status =>
      have within := (Session.sessionEnds options files).code_le
      simp [foreign, silent, status, within]

/-- The number that a program prints is the first thing that is refused. -/
theorem refused_output_reported_printFile :
    ∃ options,
      Options.wordlessReader ["p"] = .accepted options ∧
        (Session.ofArguments Options.wordlessReader ["p"] printFile
          .full).status.code = 1 ∧
        ¬ OwnOutputFirst options (Image.load printFile options.program) := by
  have accepted :
      Options.wordlessReader ["p"] =
        .accepted {
          program := "p"
          trace := false
          logLevel := .upTo .warn
          stepLimit := none
          disassemble := false
          dumpState := false
        } := by
    decide +kernel
  have code :
      (Session.ofArguments Options.wordlessReader ["p"] printFile
        .full).status.code = 1 := by
    decide +kernel
  obtain ⟨-, foreign⟩ := refused_output_reported accepted printFile _
  refine ⟨_, accepted, code, foreign.mpr ?_⟩
  rw [show (Session.ofArguments Options.wordlessReader ["p"] printFile
    (.refusing _)).status.code = 1 from code]
  exact ⟨by decide, fun _ => rfl⟩

/-- A directory with one program, which only halts. -/
def haltFile : Files :=
  Files.empty.put (.within ["p"]) (.file "1".toUTF8)

/-- A listing for which there is no room is not reported. -/
theorem listing_breaks_off :
    let arguments := ["--disassemble", "p"]
    let session :=
      Session.ofArguments Options.wordlessReader arguments haltFile
    (session .accepting).status.code = 0 ∧
      printedText (session .accepting).events = "00: 01        HLT\n" ∧
      ∀ abort, (session (.refusing abort)).status.code = 101 := by
  intro arguments session
  refine ⟨by decide +kernel, by decide +kernel, ?_⟩
  intro abort
  have accepted :
      Options.wordlessReader arguments =
        .accepted {
          program := "p"
          trace := false
          logLevel := .upTo .warn
          stepLimit := none
          disassemble := true
          dumpState := false
        } := by
    decide +kernel
  have loads : Image.load haltFile "p" = .ok [1] := by decide +kernel
  have nonempty : Listing.text [1] ≠ "" := by decide +kernel
  simp only [session, Session.ofArguments, accepted]
  rw [Session.ofFiles_full_of_disassemble loads rfl rfl, if_neg nonempty]
  rfl

end LS8
