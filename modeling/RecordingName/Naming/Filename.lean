import RecordingName.Text.Blank

/-!
# Filenames

A generated filename holds no path separator and no blanks at its ends.
`separators_notMem_withoutSeparators` says so of the separators.
-/

namespace RecordingName.Filename

/-- A text with an underscore for every path separator. -/
def withoutSeparators (text : Text) : Text :=
  Text.replaceChar '\\' '_' (Text.replaceChar '/' '_' text)

/-- A text as a filename: without path separators and without blanks at its ends. -/
def sanitize (text : Text) : Text :=
  Text.strip (withoutSeparators text)

/-- Separators are replaced character by character, so a name keeps its length. -/
theorem withoutSeparators_eq_map (text : Text) :
    withoutSeparators text =
      text.map fun c => if c = .scalar '/' ∨ c = .scalar '\\' then .scalar '_' else c := by
  simp only [withoutSeparators, Text.replaceChar, List.map_map]
  refine List.map_congr_left fun c _ => ?_
  by_cases slash : c = '/'
  · subst slash
    decide
  · by_cases backslash : c = '\\' <;> simp [slash, backslash]

/-- No path separator is left. -/
theorem separators_notMem_withoutSeparators (text : Text) :
    .scalar '/' ∉ withoutSeparators text ∧ .scalar '\\' ∉ withoutSeparators text := by
  rw [withoutSeparators_eq_map]
  constructor <;>
  · rw [List.mem_map]
    rintro ⟨c, _, equal⟩
    split at equal
    · exact absurd equal (by decide)
    · next other => exact other (by simp [equal])

end RecordingName.Filename
