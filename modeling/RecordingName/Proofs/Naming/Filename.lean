import RecordingName.Naming.Filename
import RecordingName.Proofs.Text.Blank
import RecordingName.Proofs.Text.Digits

/-!
# Texts as filenames

A filename keeps its start if that has no blanks at its ends and no separator in it:
`sanitize_append_of_kept`. Separators are as visible as what replaces them, so that
stripping may come first: `sanitize_eq_withoutSeparators_strip`.
-/

namespace RecordingName.Filename

/-- Separators are replaced part by part. -/
theorem withoutSeparators_append (first second : Text) :
    withoutSeparators (first ++ second) = withoutSeparators first ++ withoutSeparators second := by
  simp [withoutSeparators_eq_map]

/-- A text without separators is left as it is. -/
theorem withoutSeparators_eq_self {text : Text} (slash : .scalar '/' ∉ text)
    (backslash : .scalar '\\' ∉ text) :
    withoutSeparators text = text := by
  rw [withoutSeparators_eq_map]
  refine (List.map_congr_left fun c member => ?_).trans (List.map_id text)
  refine if_neg ?_
  rintro (rfl | rfl)
  · exact slash member
  · exact backslash member

/-- A filename keeps its start if there is nothing to strip and no separator. -/
theorem sanitize_append_of_kept {kept : Text} (nonempty : kept ≠ [])
    (stripped : Text.strip kept = kept) (slash : .scalar '/' ∉ kept)
    (backslash : .scalar '\\' ∉ kept)
    (rest : Text) :
    sanitize (kept ++ rest) = kept ++ Text.stripEnd (withoutSeparators rest) := by
  rw [sanitize, withoutSeparators_append, withoutSeparators_eq_self slash backslash,
    Text.strip_append_of_stripped nonempty stripped]

/-- A filename keeps its start up to a visible character. -/
theorem sanitize_append {first last : CodePoint} {between rest : Text}
    (visible_first : Text.isBlank first = false) (visible_last : Text.isBlank last = false)
    (slash : .scalar '/' ∉ first :: (between ++ [last]))
    (backslash : .scalar '\\' ∉ first :: (between ++ [last])) :
    ∃ tail, sanitize (first :: (between ++ last :: rest)) = first :: (between ++ last :: tail) := by
  have stripped : Text.strip (first :: (between ++ [last])) = first :: (between ++ [last]) := by
    rw [Text.strip_cons_of_visible visible_first, Text.stripEnd_append_of_visible visible_last]
    rfl
  have kept := sanitize_append_of_kept (List.cons_ne_nil _ _) stripped slash backslash rest
  simp only [List.cons_append, List.append_assoc, List.nil_append] at kept
  exact ⟨_, kept⟩

/-- What stands for a character is as visible as the character. -/
theorem isBlank_replaced (c : CodePoint) :
    Text.isBlank (if c = '/' ∨ c = '\\' then '_' else c) = Text.isBlank c := by
  split
  next separator =>
    rcases separator with rfl | rfl
    · decide
    · decide
  · rfl

/-- A filename is made by stripping and then replacing, just as well. -/
theorem sanitize_eq_withoutSeparators_strip (text : Text) :
    sanitize text = withoutSeparators (Text.strip text) := by
  rw [sanitize, withoutSeparators_eq_map, withoutSeparators_eq_map]
  exact Text.strip_map isBlank_replaced text

/-- What replaces a separator is no digit, either. -/
theorem startsApart_withoutSeparators {text : Text} (apart : Text.StartsApart text) :
    Text.StartsApart (withoutSeparators text) := by
  intro c at_start
  rw [withoutSeparators_eq_map, List.head?_map] at at_start
  obtain ⟨old, old_start, rfl⟩ := Option.map_eq_some_iff.1 at_start
  split
  · decide
  · exact apart old old_start

/-- A filename that keeps its start keeps it apart from what follows, if that starts with no
digit. -/
theorem sanitize_append_apart {kept tail : Text} (nonempty : kept ≠ [])
    (stripped : Text.strip kept = kept) (slash : .scalar '/' ∉ kept)
    (backslash : .scalar '\\' ∉ kept)
    (apart : Text.StartsApart tail) :
    ∃ rest, Text.StartsApart rest ∧ sanitize (kept ++ tail) = kept ++ rest :=
  ⟨_, (startsApart_withoutSeparators apart).of_start (Text.stripEnd_prefix_self _),
    sanitize_append_of_kept nonempty stripped slash backslash tail⟩

/-- A filename has no path separator. -/
theorem separators_notMem_sanitize (text : Text) :
    .scalar '/' ∉ sanitize text ∧ .scalar '\\' ∉ sanitize text := by
  rw [sanitize_eq_withoutSeparators_strip]
  exact separators_notMem_withoutSeparators _

/-- A filename has no characters but those of its text and what replaces separators. -/
theorem mem_of_mem_sanitize {text : Text} {c : CodePoint} (member : c ∈ sanitize text) :
    c ∈ text ∨ c = '_' := by
  rw [sanitize_eq_withoutSeparators_strip, withoutSeparators_eq_map] at member
  obtain ⟨old, kept, rfl⟩ := List.mem_map.1 member
  split
  · exact .inr rfl
  · have inside : Text.strip text <:+: text :=
      (Text.stripEnd_prefix_self _).isInfix.trans (List.dropWhile_suffix _).isInfix
    exact .inl (inside.subset kept)

/-- A filename has as many blanks as its text, unless the text can be stripped: then it has
fewer. -/
theorem countP_sanitize_lt {text : Text} (strippable : Text.strip text ≠ text) :
    (sanitize text).countP Text.isBlank < text.countP Text.isBlank := by
  have same (text : Text) :
      (withoutSeparators text).countP Text.isBlank = text.countP Text.isBlank := by
    rw [withoutSeparators_eq_map, List.countP_map]
    refine List.countP_congr fun c _ => ?_
    rw [Function.comp_apply, isBlank_replaced]
  rw [sanitize_eq_withoutSeparators_strip, same]
  exact Text.countP_strip_lt strippable

end RecordingName.Filename
