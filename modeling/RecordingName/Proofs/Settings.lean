import RecordingName.Generator
import RecordingName.Settings

/-!
# The template among the settings

Which template a generator is given by its settings: `load_of_leavesStandard` says that
it is the standard one if none is set, or a blank one, or one that cannot be read.
-/

namespace RecordingName.Settings

variable {zones : Zone.Database} {source : Source} {settings : Settings}

/-- The template is read by itself. -/
theorem read_filenameTemplate (read : Settings.read zones source = .ok settings) :
    source.read .filenameTemplate none readVisibleText = .ok settings.filenameTemplate := by
  unfold Settings.read at read
  dsimp only at read
  split at read
  next template _ _ _ _ _ _ found _ _ _ _ _ _ =>
    cases read
    exact found
  · cases read

/-- A text is read as it stands, a blank one as none. -/
theorem readVisibleText_text (text : Text) :
    readVisibleText (.text text) = .ok (if Text.strip text = [] then none else some text) := by
  by_cases blank : Text.strip text = []
  · simp [readVisibleText, readText, Except.map, blank]
  · simp [readVisibleText, readText, Except.map, blank]

/-- What cannot be read as a template gives way to the standard one. -/
theorem load_of_malformed {text : Text} {error : Template.SyntaxError}
    (malformed : Template.parse text = .error error) :
    (TemplateChoice.load (some text)).1 = .standard := by
  rw [TemplateChoice.load, malformed]

/-- The settings hold no template that can be used: none is set, or a blank one, or one that
cannot be read. -/
def Source.LeavesStandard (source : Source) : Prop :=
  match source.value? .filenameTemplate with
  | none => True
  | some .null => True
  | some (.text text) => Text.strip text = [] ∨ ∃ error, Template.parse text = .error error
  | some _ => False

/-- Without a usable template in the settings, the standard one is chosen. -/
theorem load_of_leavesStandard (read : Settings.read zones source = .ok settings)
    (left : source.LeavesStandard) :
    (TemplateChoice.load settings.filenameTemplate).1 = .standard := by
  have template := read_filenameTemplate read
  unfold Source.LeavesStandard at left
  unfold Source.read at template
  split at left
  next unset =>
    rw [unset] at template
    rw [← Except.ok.inj template]
    rfl
  next null =>
    rw [null] at template
    rw [← Except.ok.inj template]
    rfl
  next text given =>
    rw [given] at template
    change (readVisibleText (.text text)).mapError _ = _ at template
    rw [readVisibleText_text] at template
    rw [← Except.ok.inj template]
    split
    · rfl
    next visible =>
      rcases left with blank | ⟨error, malformed⟩
      · exact absurd blank visible
      · exact load_of_malformed malformed
  · exact left.elim

end RecordingName.Settings
