import RecordingName.Text.Basic

/-!
# Blank characters

The characters that count as blank at the edges of a text, and the text without
them. `strip_eq_nil_iff` says that a text strips to nothing exactly when it is
blank throughout.
-/

namespace RecordingName.Text

/-- Blank characters: the controls and spaces that Unicode gives the white-space
property, and the four information separators U+001C to U+001F. -/
def isBlank (c : CodePoint) : Bool :=
  let n := c.toNat
  (0x09 ≤ n && n ≤ 0x0D) || (0x1C ≤ n && n ≤ 0x20) || n == 0x85 || n == 0xA0 || n == 0x1680 ||
    (0x2000 ≤ n && n ≤ 0x200A) || n == 0x2028 || n == 0x2029 || n == 0x202F || n == 0x205F ||
    n == 0x3000

/-- The text without the blank characters at its end. -/
def stripEnd : Text → Text
  | [] => []
  | head :: rest =>
      match stripEnd rest with
      | [] => if isBlank head then [] else [head]
      | kept => head :: kept

/-- The text without the blank characters at its two ends. -/
def strip (text : Text) : Text :=
  stripEnd (text.dropWhile isBlank)

/-- Nothing is left of blanks only. -/
theorem stripEnd_eq_nil_iff {text : Text} : stripEnd text = [] ↔ ∀ c ∈ text, isBlank c := by
  induction text with
  | nil => simp [stripEnd]
  | cons head rest ih =>
      rw [stripEnd]
      split
      · next empty =>
          have blank_rest := ih.1 empty
          by_cases blank : isBlank head
          · simpa [blank] using blank_rest
          · simp [blank]
      · next kept =>
          have visible_rest : ¬ ∀ c ∈ rest, isBlank c := fun blank_rest => kept (ih.2 blank_rest)
          simp only [List.cons_ne_nil, List.mem_cons, forall_eq_or_imp, false_iff]
          exact fun blank => visible_rest blank.2

/-- A text strips to nothing exactly when each of its characters is blank. -/
theorem strip_eq_nil_iff {text : Text} : strip text = [] ↔ ∀ c ∈ text, isBlank c := by
  rw [strip, stripEnd_eq_nil_iff]
  induction text with
  | nil => simp
  | cons head rest ih => by_cases blank : isBlank head <;> simp [blank, ih]

end RecordingName.Text
