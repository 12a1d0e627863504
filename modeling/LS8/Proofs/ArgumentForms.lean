import LS8.CommandLine.Arguments
import LS8.Proofs.LogOptions

namespace LS8

/-!
# The forms of arguments

Each form of an argument is that of certain words only. A word is foreign to
the options on the log just if its form is (`isForeign_iff`).
-/

namespace Argument

variable {word name value : String} {letters : List Char}

theorem eq_of_endOfOptions
    (form : ofString word = .endOfOptions) :
    word = "--" := by
  unfold ofString at form
  split at form
  next dashes => exact String.toList_inj.mp dashes
  next => split at form <;> contradiction
  all_goals contradiction

theorem toList_of_short
    (form : ofString word = .short letters) :
    word.toList = '-' :: letters ∧ letters.head? ≠ some '-' := by
  unfold ofString at form
  split at form
  next => contradiction
  next => split at form <;> contradiction
  next letter rest _ undashed shape =>
    cases form
    refine ⟨shape, ?_⟩
    intro dashed
    obtain rfl : letter = '-' := by simpa using dashed
    exact undashed rfl
  next => contradiction

theorem ofString_of_letters
    (shape : word.toList = '-' :: letters)
    (nonempty : letters ≠ [])
    (undashed : letters.head? ≠ some '-') :
    ofString word = .short letters := by
  cases letters with
  | nil => contradiction
  | cons letter rest =>
      have notDash : letter ≠ '-' := by
        rintro rfl
        exact undashed rfl
      simp only [ofString, shape]
      split
      next shape => cases shape; contradiction
      next shape => cases shape; contradiction
      next shape => cases shape; rfl
      next other => cases other letter rest rfl

theorem eq_of_long
    (form : ofString word = .long name none) :
    word = "--" ++ name := by
  unfold ofString at form
  split at form
  next => contradiction
  next option _ shape =>
    split at form
    next =>
      cases form
      simp [← String.toList_inj, shape]
    next => simp at form
  all_goals contradiction

theorem eq_of_long_some
    (form : ofString word = .long name (some value)) :
    word = "--" ++ name ++ "=" ++ value := by
  unfold ofString at form
  split at form
  next => contradiction
  next option _ shape =>
    split at form
    next => simp at form
    next delimiter rest cut =>
      cases form
      have isDelimiter := List.head?_dropWhile_not (· ≠ '=') option
      rw [cut] at isDelimiter
      obtain rfl : delimiter = '=' := by simpa using isDelimiter
      have parts : option.takeWhile (· ≠ '=') ++ '=' :: rest = option := by
        rw [← cut, List.takeWhile_append_dropWhile]
      simpa [← String.toList_inj, shape] using parts.symm
  all_goals contradiction

end Argument

/-- An argument of this form is neither about the log nor changes the next. -/
def Argument.IsForeign : Argument → Prop
  | .endOfOptions => False
  | .long name none => name ≠ "trace" ∧ OptionsDraft.takesValue name = false
  | .long name (some _) => name ≠ "log-level"
  | .short letters => 't' ∉ letters
  | .positional _ => True

theorem IsForeign.ofString
    {word : String}
    (isForeign : IsForeign word) :
    (Argument.ofString word).IsForeign := by
  cases form : Argument.ofString word with
  | endOfOptions => exact isForeign.notEnd (Argument.eq_of_endOfOptions form)
  | positional path => trivial
  | short letters =>
      obtain ⟨shape, undashed⟩ := Argument.toList_of_short form
      exact isForeign.notLetter letters shape undashed
  | long name value? =>
      cases value? with
      | some value =>
          have shape := Argument.eq_of_long_some form
          rintro rfl
          exact isForeign.notJoined value shape
      | none =>
          have shape := Argument.eq_of_long form
          have notLevel : name ≠ "log-level" := by
            rintro rfl
            exact isForeign.notLevel shape
          have notLimit : name ≠ "step-limit" := by
            rintro rfl
            exact isForeign.notStepLimit shape
          refine ⟨?_, by simp [OptionsDraft.takesValue, notLevel, notLimit]⟩
          rintro rfl
          exact isForeign.notTrace shape

/-- Words are foreign that have a foreign form. -/
theorem isForeign_of_ofString
    {word : String}
    (isForeign : (Argument.ofString word).IsForeign) :
    IsForeign word where
  notTrace := by
    rintro rfl
    exact isForeign.1 (by decide)
  notLevel := by
    rintro rfl
    exact absurd isForeign.2 (by decide)
  notJoined text := by
    rintro rfl
    have form :
        Argument.ofString ("--log-level=" ++ text) =
          .long "log-level" (some text) := by
      simp [Argument.ofString]
    rw [form] at isForeign
    exact isForeign rfl
  notLetter letters shape undashed member := by
    rw [Argument.ofString_of_letters shape (List.ne_nil_of_mem member)
      undashed] at isForeign
    exact isForeign member
  notStepLimit := by
    rintro rfl
    exact absurd isForeign.2 (by decide)
  notEnd := by
    rintro rfl
    exact isForeign

/-- The words that are foreign are those whose form is. -/
theorem isForeign_iff {word : String} :
    IsForeign word ↔ (Argument.ofString word).IsForeign :=
  ⟨IsForeign.ofString, isForeign_of_ofString⟩

end LS8
