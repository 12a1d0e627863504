import LS8.Proofs.LogOptionReading

namespace LS8

/-!
# Accepted arguments

All arguments that the reader of this library accepts spell a choice about the
log (`Spelling.exists_of_accepted`). A word of the arguments is foreign, or it is
one of the options on the log; such an option is only accepted if it was not
given before, so that the choice that the later words spell does not have it.
-/

/-- What succeeds in two parts succeeds in the first, and then in the second. -/
theorem exists_of_bind_eq_ok
    {first : Except ε α}
    {second : α → Except ε β}
    {result : β}
    (succeeds : (first >>= second) = .ok result) :
    ∃ between, first = .ok between ∧ second between = .ok result := by
  cases first with
  | error error => contradiction
  | ok between => exact ⟨between, rfl, succeeds⟩

namespace OptionsDraft

variable
  {draft next : OptionsDraft}
  {word value : String}
  {rest : List String}

/-- A trace is accepted once. -/
theorem choice_of_setFlag_trace
    (taken : draft.setFlag "trace" = .ok next) :
    draft.trace = false ∧ next.choice = ⟨true, draft.logLevel?⟩ := by
  simp only [setFlag] at taken
  split at taken
  next => contradiction
  next given =>
    cases taken
    exact ⟨Bool.eq_false_iff.mpr given, rfl⟩

/-- A level is accepted once, and by its word. -/
theorem choice_of_setValue_level
    (taken : draft.setValue "log-level" value = .ok next) :
    ∃ level : Verbosity,
      value = level.name ∧
        draft.logLevel? = none ∧
        next.choice = ⟨draft.trace, some level⟩ := by
  simp only [setValue] at taken
  split at taken
  next => contradiction
  next level names =>
    split at taken
    next => contradiction
    next given =>
      cases taken
      exact ⟨level, Verbosity.name_of_ofName? names,
        Option.not_isSome_iff_eq_none.mp given, rfl⟩

/-- Of letters with a `t` among them, only the `t` alone is accepted. -/
theorem eq_of_setLetters_of_mem
    {letters : List Char}
    (taken : draft.setLetters letters = .ok next)
    (member : 't' ∈ letters) :
    letters = ['t'] ∧ draft.setFlag "trace" = .ok next := by
  unfold setLetters at taken
  split at taken
  next => contradiction
  next rest =>
    obtain ⟨between, traced, goesOn⟩ := exists_of_bind_eq_ok taken
    obtain ⟨-, chosen⟩ := choice_of_setFlag_trace traced
    have given : between.trace = true := congrArg LogChoice.trace chosen
    unfold setLetters at goesOn
    split at goesOn
    next =>
      cases goesOn
      exact ⟨rfl, traced⟩
    next => simp [setFlag, given, bind, Except.bind] at goesOn
    next => contradiction
    next => contradiction
  next => contradiction
  next => contradiction

/-- The arguments after these spell a choice, whatever they are accepted for. -/
def LaterSpells (rest : List String) : Prop :=
  ∀ next last : OptionsDraft,
    next.takeAll rest = .ok last →
    ∃ choice others, Spelling choice rest others ∧ next.choice.Apart choice

theorem exists_spelling_of_foreign
    {last : OptionsDraft}
    (isForeign : IsForeign word)
    (taken : draft.takeAll (word :: rest) = .ok last)
    (laterSpells : LaterSpells rest) :
    ∃ choice others,
      Spelling choice (word :: rest) others ∧ draft.choice.Apart choice := by
  obtain ⟨step, ignores, takes⟩ := isForeign.exists_step
  rw [takes] at taken
  obtain ⟨next, steps, goesOn⟩ := exists_of_bind_eq_ok taken
  obtain ⟨choice, others, spells, apart⟩ := laterSpells next last goesOn
  rw [ignores.choice_eq steps] at apart
  exact ⟨choice, word :: others, .foreign isForeign spells, apart⟩

theorem exists_spelling_of_trace
    {last : OptionsDraft}
    (means : word = "--trace" ∨ word = "-t")
    (traced : draft.setFlag "trace" = .ok next)
    (goesOn : next.takeAll rest = .ok last)
    (laterSpells : LaterSpells rest) :
    ∃ choice others,
      Spelling choice (word :: rest) others ∧ draft.choice.Apart choice := by
  obtain ⟨first, chosen⟩ := choice_of_setFlag_trace traced
  obtain ⟨⟨trace, level?⟩, others, spells, apart⟩ :=
    laterSpells next last goesOn
  rw [chosen] at apart
  obtain rfl : trace = false := apart.trace rfl
  refine ⟨⟨true, level?⟩, others, .trace means spells, ?_, apart.level⟩
  intro given
  simp [choice, first] at given

theorem exists_spelling_of_level
    {last : OptionsDraft}
    {words : List String}
    (levelled : draft.setValue "log-level" value = .ok next)
    (goesOn : next.takeAll rest = .ok last)
    (spellsLevel :
      ∀ {trace level others},
        value = level.name →
        Spelling ⟨trace, none⟩ rest others →
        Spelling ⟨trace, some level⟩ words others)
    (laterSpells : LaterSpells rest) :
    ∃ choice others, Spelling choice words others ∧ draft.choice.Apart choice := by
  obtain ⟨level, named, first, chosen⟩ := choice_of_setValue_level levelled
  obtain ⟨⟨trace, level?⟩, others, spells, apart⟩ :=
    laterSpells next last goesOn
  rw [chosen] at apart
  obtain rfl : level? = none := apart.level rfl
  refine ⟨⟨trace, some level⟩, others, spellsLevel named spells, apart.trace, ?_⟩
  intro given
  simp [choice, first] at given

/-- Arguments that a draft accepts spell a choice that it does not have yet. -/
theorem exists_spelling
    (draft : OptionsDraft)
    (arguments : List String) :
    ∀ last,
      draft.takeAll arguments = .ok last →
      ∃ choice others,
        Spelling choice arguments others ∧ draft.choice.Apart choice := by
  induction draft, arguments using takeAll.induct with
  | case1 draft =>
      intro last taken
      exact ⟨{}, [], .nil, fun _ => rfl, fun _ => rfl⟩
  | case2 draft word rest form =>
      intro last taken
      obtain rfl := Argument.eq_of_endOfOptions form
      exact ⟨{}, _, .positional rest, fun _ => rfl, fun _ => rfl⟩
  | case3 draft word rest path form laterSpells =>
      intro last taken
      have isForeign : IsForeign word :=
        isForeign_of_ofString (by rw [form]; trivial)
      exact exists_spelling_of_foreign isForeign taken laterSpells
  | case4 draft word rest letters form laterSpells =>
      intro last taken
      by_cases member : 't' ∈ letters
      · simp only [takeAll, form] at taken
        obtain ⟨next, steps, goesOn⟩ := exists_of_bind_eq_ok taken
        obtain ⟨rfl, traced⟩ := eq_of_setLetters_of_mem steps member
        have means : word = "-t" :=
          String.toList_inj.mp (Argument.toList_of_short form).1
        exact exists_spelling_of_trace (.inr means) traced goesOn laterSpells
      · have isForeign : IsForeign word :=
          isForeign_of_ofString (by rw [form]; exact member)
        exact exists_spelling_of_foreign isForeign taken laterSpells
  | case5 draft word rest name value form laterSpells =>
      intro last taken
      by_cases isLevel : name = "log-level"
      · subst isLevel
        obtain rfl := Argument.eq_of_long_some form
        simp only [takeAll, form] at taken
        obtain ⟨next, levelled, goesOn⟩ := exists_of_bind_eq_ok taken
        refine exists_spelling_of_level levelled goesOn ?_ laterSpells
        rintro trace level others rfl spells
        exact .joinedLevel spells
      · have isForeign : IsForeign word :=
          isForeign_of_ofString (by rw [form]; exact isLevel)
        exact exists_spelling_of_foreign isForeign taken laterSpells
  | case6 draft word name form takes =>
      intro last taken
      simp [takeAll, form, takes] at taken
  | case7 draft word name form takes value rest dashed =>
      intro last taken
      simp [takeAll, form, takes, dashed] at taken
  | case8 draft word name form takes value rest undashed laterSpells =>
      intro last taken
      simp only [takeAll, form, takes, undashed, ↓reduceIte] at taken
      obtain ⟨next, steps, goesOn⟩ := exists_of_bind_eq_ok taken
      obtain rfl := Argument.eq_of_long form
      have isOption : name = "log-level" ∨ name = "step-limit" := by
        simpa [takesValue] using takes
      rcases isOption with rfl | rfl
      · refine exists_spelling_of_level steps goesOn ?_ laterSpells
        rintro trace level others rfl spells
        exact .level spells
      · have foreign : "step-limit" ≠ "log-level" := by decide
        have ignores := ignoresChoice_setValue foreign value
        obtain ⟨choice, others, spells, apart⟩ := laterSpells next last goesOn
        rw [ignores.choice_eq steps] at apart
        exact ⟨choice, _, .stepLimit undashed spells, apart⟩
  | case9 draft word rest name form takesNone laterSpells =>
      intro last taken
      by_cases isTrace : name = "trace"
      · subst isTrace
        obtain rfl := Argument.eq_of_long form
        simp only [takeAll, form, takesNone, Bool.false_eq_true,
          ↓reduceIte] at taken
        obtain ⟨next, traced, goesOn⟩ := exists_of_bind_eq_ok taken
        exact exists_spelling_of_trace (.inl rfl) traced goesOn laterSpells
      · have isForeign : IsForeign word :=
          isForeign_of_ofString
            (by rw [form]; exact ⟨isTrace, Bool.eq_false_iff.mpr takesNone⟩)
        exact exists_spelling_of_foreign isForeign taken laterSpells

end OptionsDraft

/-- Arguments that are accepted spell a choice. -/
theorem Spelling.exists_of_accepted
    {arguments : List String}
    {options : Options}
    (accepted : Options.ofArguments arguments = .ok options) :
    ∃ choice others, Spelling choice arguments others := by
  obtain ⟨draft, taken, -⟩ := exists_of_bind_eq_ok accepted
  obtain ⟨choice, others, spells, -⟩ :=
    OptionsDraft.exists_spelling {} arguments draft taken
  exact ⟨choice, others, spells⟩

end LS8
