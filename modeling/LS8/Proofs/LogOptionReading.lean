import LS8.Proofs.ArgumentForms

namespace LS8

/-!
# Reading the options on the log

The reader of this library takes the options on the log for what they are
(`Options.readsLogOptions`). It goes through the arguments with a draft of the
options. What a foreign word does to the draft does not depend on what was
chosen about the log (`IsForeign.exists_step`), so that arguments that spell a
choice come to the draft of the other arguments, with the choice in it
(`Spelling.takeAll_choosing`).
-/

/-- Two choices together. -/
def LogChoice.and (earlier later : LogChoice) : LogChoice :=
  {
    trace := earlier.trace || later.trace
    level? := earlier.level?.or later.level?
  }

theorem LogChoice.and_none (choice : LogChoice) : choice.and {} = choice := by
  rcases choice with ⟨trace, level?⟩
  cases trace <;> cases level? <;> rfl

theorem LogChoice.none_and (choice : LogChoice) :
    LogChoice.and {} choice = choice := by
  rcases choice with ⟨trace, level?⟩
  cases trace <;> cases level? <;> rfl

/-- Neither of the options is in both of two choices. -/
structure LogChoice.Apart (earlier later : LogChoice) : Prop where
  trace : earlier.trace = true → later.trace = false
  level : earlier.level?.isSome = true → later.level? = none

theorem LogChoice.Apart.trace_eq_false
    {earlier : LogChoice}
    {level? : Option Verbosity}
    (apart : earlier.Apart ⟨true, level?⟩) :
    earlier.trace = false := by
  cases given : earlier.trace with
  | false => rfl
  | true => cases apart.trace given

theorem LogChoice.Apart.level_eq_none
    {earlier : LogChoice}
    {trace : Bool}
    {level : Verbosity}
    (apart : earlier.Apart ⟨trace, some level⟩) :
    earlier.level? = none := by
  cases given : earlier.level? with
  | none => rfl
  | some other => cases apart.level (by rw [given]; rfl)

/-- The word for a verbosity names it. -/
theorem Verbosity.ofName?_name (verbosity : Verbosity) :
    ofName? verbosity.name = some verbosity := by
  cases verbosity with
  | silent => rfl
  | upTo level => cases level <;> rfl

theorem Verbosity.name_of_ofName?
    {text : String}
    {verbosity : Verbosity}
    (names : ofName? text = some verbosity) :
    text = verbosity.name := by
  unfold ofName? at names
  split at names <;> cases names <;> rfl

/-- The word for a verbosity is not taken for an option. -/
theorem Verbosity.head?_name_ne (verbosity : Verbosity) :
    verbosity.name.toList.head? ≠ some '-' := by
  cases verbosity with
  | silent => decide
  | upTo level => cases level <;> decide

namespace OptionsDraft

/-- The same options, but for what is chosen about the log. -/
def choosing (draft : OptionsDraft) (choice : LogChoice) : OptionsDraft :=
  { draft with trace := choice.trace, logLevel? := choice.level? }

/-- The choice about the log that was made so far. -/
def choice (draft : OptionsDraft) : LogChoice :=
  { trace := draft.trace, level? := draft.logLevel? }

/-- A step that does the same whatever is chosen about the log. -/
def IgnoresChoice (step : OptionsDraft → Except Detour OptionsDraft) : Prop :=
  ∀ draft choice,
    step (draft.choosing choice) =
      (step draft).map fun next => next.choosing choice

/-- Such a step leaves the choice as it was. -/
theorem IgnoresChoice.choice_eq
    {step : OptionsDraft → Except Detour OptionsDraft}
    {draft next : OptionsDraft}
    (ignores : IgnoresChoice step)
    (taken : step draft = .ok next) :
    next.choice = draft.choice := by
  have same := ignores draft draft.choice
  rw [show draft.choosing draft.choice = draft from rfl, taken] at same
  have put : next = next.choosing draft.choice := Except.ok.inj same
  rw [put]
  rfl

/-- What comes after such a step decides what becomes of the choice. -/
theorem IgnoresChoice.bind
    {step left right : OptionsDraft → Except Detour OptionsDraft}
    {earlier final : LogChoice}
    (ignores : IgnoresChoice step)
    (later :
      ∀ next,
        left (next.choosing earlier) =
          (right next).map fun last => last.choosing final)
    (draft : OptionsDraft) :
    (step (draft.choosing earlier) >>= left) =
      (step draft >>= right).map fun last => last.choosing final := by
  rw [ignores]
  cases step draft with
  | error detour => rfl
  | ok next => exact later next

theorem ignoresChoice_setProgram (path : String) :
    IgnoresChoice fun draft => draft.setProgram path := by
  rintro ⟨program?, _, _, _, _, _⟩ choice
  simp only [setProgram, choosing]
  by_cases empty : path = "" <;>
    cases program? <;> simp only [empty, ↓reduceIte] <;> rfl

theorem ignoresChoice_setFlag
    {name : String}
    (foreign : name ≠ "trace") :
    IgnoresChoice fun draft => draft.setFlag name := by
  rintro ⟨_, _, _, _, disassemble, dumpState⟩ choice
  simp only [setFlag, choosing]
  split
  next => rfl
  next => contradiction
  next => cases disassemble <;> rfl
  next => cases dumpState <;> rfl
  next => rfl

theorem ignoresChoice_setValue
    {name : String}
    (foreign : name ≠ "log-level")
    (value : String) :
    IgnoresChoice fun draft => draft.setValue name value := by
  rintro ⟨_, _, _, limit?, _, _⟩ choice
  simp only [setValue, choosing]
  split
  next => contradiction
  next =>
    cases LS8.stepLimit? value with
    | none => rfl
    | some limit => cases limit? <;> rfl
  next => rfl

theorem ignoresChoice_setLetters
    {letters : List Char}
    (foreign : 't' ∉ letters) :
    IgnoresChoice fun draft => draft.setLetters letters := by
  intro draft choice
  unfold setLetters
  split
  next => rfl
  next => simp at foreign
  next => rfl
  next => rfl

/-- A letter that stands for no trace ends the reading, whatever comes next. -/
theorem exists_detour_of_letter
    {letter : Char}
    (foreign : letter ≠ 't') :
    ∃ detour,
      ∀ (draft : OptionsDraft) (rest : List Char),
        draft.setLetters (letter :: rest) = .error detour := by
  by_cases help : letter = 'h'
  · refine ⟨.help, ?_⟩
    intro draft rest
    rw [help]
    rfl
  · refine ⟨.usage (.unknownOption (String.ofList ['-', letter])), ?_⟩
    intro draft rest
    rw [setLetters]
    · exact foreign
    · exact help

/-- Of several letters, the first that stands for no trace decides. -/
theorem exists_detour_of_letters
    {before after : List Char}
    (besides : before ++ after ≠ [])
    (once : 't' ∉ before ++ after) :
    ∃ detour,
      (∀ draft : OptionsDraft,
        draft.setLetters (before ++ after) = .error detour) ∧
      ∀ draft : OptionsDraft,
        draft.trace = false →
        draft.setLetters (before ++ 't' :: after) = .error detour := by
  cases before with
  | cons letter between =>
      have foreign : letter ≠ 't' := by
        rintro rfl
        simp at once
      obtain ⟨detour, ends⟩ := exists_detour_of_letter foreign
      exact ⟨detour, fun draft => ends draft _, fun draft _ => ends draft _⟩
  | nil =>
      cases after with
      | nil => contradiction
      | cons letter rest =>
          have foreign : letter ≠ 't' := by
            rintro rfl
            simp at once
          obtain ⟨detour, ends⟩ := exists_detour_of_letter foreign
          refine ⟨detour, fun draft => ends draft rest, ?_⟩
          intro draft untraced
          simp only [List.nil_append, setLetters, setFlag, untraced]
          exact ends _ rest

theorem ignoresChoice_setPrograms (paths : List String) :
    IgnoresChoice fun draft => paths.foldlM setProgram draft := by
  intro draft choice
  induction paths generalizing draft with
  | nil => rfl
  | cons path rest inductionHypothesis =>
      exact (ignoresChoice_setProgram path).bind inductionHypothesis draft

end OptionsDraft

section

open OptionsDraft

/-- A foreign word is a step that ignores what is chosen about the log. -/
theorem IsForeign.exists_step
    {word : String}
    (isForeign : IsForeign word) :
    ∃ step,
      IgnoresChoice step ∧
        ∀ draft rest,
          takeAll draft (word :: rest) =
            step draft >>= fun next => next.takeAll rest := by
  have foreign := isForeign.ofString
  cases form : Argument.ofString word with
  | endOfOptions =>
      rw [form] at foreign
      contradiction
  | positional path =>
      refine ⟨_, ignoresChoice_setProgram path, ?_⟩
      intro draft rest
      rw [takeAll, form]
  | short letters =>
      rw [form] at foreign
      refine ⟨_, ignoresChoice_setLetters foreign, ?_⟩
      intro draft rest
      rw [takeAll, form]
  | long name value? =>
      rw [form] at foreign
      cases value? with
      | some value =>
          refine ⟨_, ignoresChoice_setValue foreign value, ?_⟩
          intro draft rest
          rw [takeAll, form]
      | none =>
          obtain ⟨notTrace, takesNone⟩ := foreign
          refine ⟨_, ignoresChoice_setFlag notTrace, ?_⟩
          intro draft rest
          rw [takeAll, form]
          simp only [takesNone, Bool.false_eq_true, ↓reduceIte]

variable
  {draft : OptionsDraft}
  {value : String}
  {rest : List String}

theorem takeAll_trace
    {word : String}
    {level? : Option Verbosity}
    (means : word = "--trace" ∨ word = "-t") :
    (draft.choosing ⟨false, level?⟩).takeAll (word :: rest) =
      (draft.choosing ⟨true, level?⟩).takeAll rest := by
  rcases means with rfl | rfl
  · have form : Argument.ofString "--trace" = .long "trace" none := by decide
    rw [takeAll, form]
    rfl
  · have form : Argument.ofString "-t" = .short ['t'] := by decide
    rw [takeAll, form]
    rfl

theorem setValue_level (trace : Bool) (level : Verbosity) :
    (draft.choosing ⟨trace, none⟩).setValue "log-level" level.name =
      .ok (draft.choosing ⟨trace, some level⟩) := by
  simp [setValue, level.ofName?_name, choosing]

theorem takeAll_level (trace : Bool) (level : Verbosity) :
    (draft.choosing ⟨trace, none⟩).takeAll
        ("--log-level" :: level.name :: rest) =
      (draft.choosing ⟨trace, some level⟩).takeAll rest := by
  have form : Argument.ofString "--log-level" = .long "log-level" none := by
    decide
  have takes : takesValue "log-level" = true := rfl
  simp only [takeAll, form, takes, level.head?_name_ne, ↓reduceIte,
    setValue_level]
  rfl

theorem takeAll_joinedLevel (trace : Bool) (level : Verbosity) :
    (draft.choosing ⟨trace, none⟩).takeAll
        (("--log-level=" ++ level.name) :: rest) =
      (draft.choosing ⟨trace, some level⟩).takeAll rest := by
  have form :
      Argument.ofString ("--log-level=" ++ level.name) =
        .long "log-level" (some level.name) := by
    rcases level with _ | level
    · decide
    · cases level <;> decide
  simp only [takeAll, form, setValue_level]
  rfl

theorem takeAll_stepLimit (undashed : value.toList.head? ≠ some '-') :
    draft.takeAll ("--step-limit" :: value :: rest) =
      draft.setValue "step-limit" value >>= fun next => next.takeAll rest := by
  have form : Argument.ofString "--step-limit" = .long "step-limit" none := by
    decide
  have takes : takesValue "step-limit" = true := rfl
  simp only [takeAll, form, takes, undashed, ↓reduceIte]

theorem takeAll_valueless
    (dashed : ∀ next ∈ rest.head?, next.toList.head? = some '-') :
    draft.takeAll ("--step-limit" :: rest) =
      .error (.usage (.missingValue "step-limit")) := by
  have form : Argument.ofString "--step-limit" = .long "step-limit" none := by
    decide
  have takes : takesValue "step-limit" = true := rfl
  cases rest with
  | nil => simp only [takeAll, form, takes, ↓reduceIte]
  | cons next later =>
      simp only [takeAll, form, takes, dashed next rfl, ↓reduceIte]

/-- A trace among other letters makes no difference to where they lead. -/
theorem takeAll_letters
    {before after : List Char}
    {others : List String}
    {level? : Option Verbosity}
    (besides : before ++ after ≠ [])
    (undashed : (before ++ after).head? ≠ some '-')
    (once : 't' ∉ before ++ after) :
    ∃ detour,
      (draft.choosing ⟨false, level?⟩).takeAll
          (String.ofList ('-' :: before ++ 't' :: after) :: rest) =
        .error detour ∧
      draft.takeAll (String.ofList ('-' :: before ++ after) :: others) =
        .error detour := by
  have form :
      Argument.ofString (String.ofList ('-' :: before ++ after)) =
        .short (before ++ after) :=
    Argument.ofString_of_letters (by simp) besides undashed
  have tracedForm :
      Argument.ofString (String.ofList ('-' :: before ++ 't' :: after)) =
        .short (before ++ 't' :: after) := by
    refine Argument.ofString_of_letters (by simp) (by simp) ?_
    cases before with
    | nil => simp
    | cons letter between => exact undashed
  obtain ⟨detour, ends, tracedEnds⟩ := exists_detour_of_letters besides once
  have traced := tracedEnds (draft.choosing ⟨false, level?⟩) rfl
  refine ⟨detour, ?_, ?_⟩
  · simp only [takeAll, tracedForm, traced]
    rfl
  · simp only [takeAll, form, ends draft]
    rfl

theorem takeAll_positional :
    draft.takeAll ("--" :: rest) = rest.foldlM setProgram draft := by
  have form : Argument.ofString "--" = .endOfOptions := by decide
  rw [takeAll, form]

/-- Arguments come to the draft of the others, with the choice that they spell. -/
theorem Spelling.takeAll_choosing
    {earlier choice : LogChoice}
    {arguments others : List String}
    (spells : Spelling choice arguments others)
    (apart : earlier.Apart choice)
    (draft : OptionsDraft) :
    (draft.choosing earlier).takeAll arguments =
      (draft.takeAll others).map fun last =>
        last.choosing (earlier.and choice) := by
  induction spells generalizing earlier draft with
  | nil =>
      rw [earlier.and_none]
      rfl
  | @trace level? word rest others means later inductionHypothesis =>
      rcases earlier with ⟨trace, earlierLevel?⟩
      obtain rfl : trace = false := apart.trace_eq_false
      rw [takeAll_trace means]
      have stillApart :
          LogChoice.Apart ⟨true, earlierLevel?⟩ ⟨false, level?⟩ :=
        ⟨fun _ => rfl, apart.level⟩
      exact inductionHypothesis stillApart draft
  | @letters level? before after rest others besides undashed once =>
      rcases earlier with ⟨trace, earlierLevel?⟩
      obtain rfl : trace = false := apart.trace_eq_false
      obtain ⟨detour, left, right⟩ := takeAll_letters besides undashed once
      rw [left, right]
      rfl
  | @level trace level rest others later inductionHypothesis =>
      rcases earlier with ⟨earlierTrace, level?⟩
      obtain rfl : level? = none := apart.level_eq_none
      rw [takeAll_level]
      have stillApart :
          LogChoice.Apart ⟨earlierTrace, some level⟩ ⟨trace, none⟩ :=
        ⟨apart.trace, fun _ => rfl⟩
      exact inductionHypothesis stillApart draft
  | @joinedLevel trace level rest others later inductionHypothesis =>
      rcases earlier with ⟨earlierTrace, level?⟩
      obtain rfl : level? = none := apart.level_eq_none
      rw [takeAll_joinedLevel]
      have stillApart :
          LogChoice.Apart ⟨earlierTrace, some level⟩ ⟨trace, none⟩ :=
        ⟨apart.trace, fun _ => rfl⟩
      exact inductionHypothesis stillApart draft
  | @stepLimit choice value rest others undashed later inductionHypothesis =>
      rw [takeAll_stepLimit undashed, takeAll_stepLimit undashed]
      exact (ignoresChoice_setValue (by decide) value).bind
        (inductionHypothesis apart) draft
  | foreign isForeign later inductionHypothesis =>
      obtain ⟨step, ignores, taken⟩ := isForeign.exists_step
      rw [taken, taken]
      exact ignores.bind (inductionHypothesis apart) draft
  | positional rest =>
      rw [takeAll_positional, takeAll_positional, earlier.and_none]
      exact ignoresChoice_setPrograms rest draft earlier
  | valueless dashed =>
      rw [takeAll_valueless dashed, takeAll_valueless dashed]
      rfl

end

/-- The choice goes into the options as it is. -/
theorem OptionsDraft.finish_choosing
    (draft : OptionsDraft)
    (choice : LogChoice) :
    (draft.choosing choice).finish =
      draft.finish.map fun options => options.choosing choice := by
  rcases draft with ⟨program?, _, _, _, _, _⟩
  cases program? <;> rfl

/-- The options are those that the other arguments stand for, with the choice. -/
theorem Spelling.ofArguments_eq
    {choice : LogChoice}
    {arguments others : List String}
    (spells : Spelling choice arguments others) :
    Options.ofArguments arguments =
      (Options.ofArguments others).map fun options =>
        options.choosing choice := by
  have apart : LogChoice.Apart {} choice := ⟨nofun, nofun⟩
  have taken := spells.takeAll_choosing apart {}
  rw [choice.none_and] at taken
  have start : OptionsDraft.choosing {} {} = ({} : OptionsDraft) := rfl
  rw [start] at taken
  rw [Options.ofArguments, Options.ofArguments, taken]
  cases ({} : OptionsDraft).takeAll others with
  | error detour => rfl
  | ok draft => exact draft.finish_choosing choice

/-- The reader of this library takes the options on the log for what they are. -/
theorem Options.readsLogOptions
    (help : String)
    (complaint : List String → String) :
    ReadsLogOptions (Options.reader help complaint) where
  accepted spells reads := by
    simp only [reader, spells.ofArguments_eq] at reads ⊢
    split at reads
    next options parsed =>
      cases reads
      rw [parsed]
      rfl
    all_goals contradiction
  help spells reads := by
    simp only [reader, spells.ofArguments_eq] at reads ⊢
    split at reads
    next => contradiction
    next parsed =>
      cases reads
      rw [parsed]
      rfl
    next => contradiction
  rejected spells reads := by
    simp only [reader, spells.ofArguments_eq] at reads ⊢
    split at reads
    next => contradiction
    next => contradiction
    next parsed =>
      rw [parsed]
      exact ⟨_, rfl⟩

end LS8
