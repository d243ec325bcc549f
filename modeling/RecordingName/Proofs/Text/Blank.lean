import RecordingName.Text.Blank
import RecordingName.Text.Digit

/-!
# Stripped texts

What stripping does around a character that is not blank: it stays, with all that stands
between it and another one. `strip_strip` says that a stripped text has nothing left to
strip, and `strip_eq_self_iff` that this depends on its two ends alone. What is stripped are
blanks: `countP_strip_lt`.
-/

namespace RecordingName.Text

/-- No digit is blank. -/
theorem isBlank_of_isDigit {c : CodePoint} (digit : isDigit c) : isBlank c = false := by
  have apart : ∀ start ∈ digitZeros, (0x20 < start ∧ start < 0x75) ∨
      (0xA0 < start ∧ start < 0x1670) ∨ (0x1680 < start ∧ start < 0x1FF0) ∨ 0x3000 < start := by
    decide
  obtain ⟨value, found⟩ := Option.isSome_iff_exists.1 digit
  obtain ⟨start, block, _⟩ := Option.map_eq_some_iff.1 found
  have within := List.find?_some block
  have bounds := apart start (List.mem_of_find?_eq_some block)
  simp only [Bool.and_eq_true, decide_eq_true_eq] at within
  simp only [isBlank, Bool.or_eq_false_iff, Bool.and_eq_false_iff, decide_eq_false_iff_not,
    beq_eq_false_iff_ne]
  omega

/-- A character that is not blank stays in front of what is left behind it. -/
theorem stripEnd_cons_of_visible {c : CodePoint} (visible : isBlank c = false) (rest : Text) :
    stripEnd (c :: rest) = c :: stripEnd rest := by
  rw [stripEnd]
  split
  next empty => simp [visible, empty]
  · rfl

/-- Everything in front of a character that is not blank stays. -/
theorem stripEnd_append_of_visible {c : CodePoint} (visible : isBlank c = false) (first rest : Text) :
    stripEnd (first ++ c :: rest) = first ++ c :: stripEnd rest := by
  induction first with
  | nil => exact stripEnd_cons_of_visible visible rest
  | cons head others ih => simp [stripEnd, ih]

/-- A character that is not blank stays at the start. -/
theorem strip_cons_of_visible {c : CodePoint} (visible : isBlank c = false) (rest : Text) :
    strip (c :: rest) = c :: stripEnd rest := by
  rw [strip, List.dropWhile_cons_of_neg (by simp [visible])]
  exact stripEnd_cons_of_visible visible rest

theorem stripEnd_stripEnd (text : Text) : stripEnd (stripEnd text) = stripEnd text := by
  induction text with
  | nil => rfl
  | cons head rest ih =>
      rw [stripEnd]
      split
      · by_cases blank : isBlank head
        · simp [blank, stripEnd]
        · simp [blank, stripEnd]
      next visible =>
        rw [stripEnd, ih]
        split
        next empty => exact absurd empty visible
        · rfl

/-- A stripped text is empty, or starts with a visible character and has no blanks at its
end. -/
theorem strip_eq_nil_or_cons (text : Text) :
    strip text = [] ∨ ∃ head rest, strip text = head :: stripEnd rest ∧ isBlank head = false := by
  change stripEnd (text.dropWhile isBlank) = [] ∨ ∃ head rest,
    stripEnd (text.dropWhile isBlank) = head :: stripEnd rest ∧ isBlank head = false
  cases shape : text.dropWhile isBlank with
  | nil => exact .inl rfl
  | cons head rest =>
      have visible : isBlank head = false := by
        simpa [shape] using List.head?_dropWhile_not isBlank text
      exact .inr ⟨head, rest, stripEnd_cons_of_visible visible rest, visible⟩

/-- A stripped text has nothing left to strip. -/
theorem strip_strip (text : Text) : strip (strip text) = strip text := by
  rcases strip_eq_nil_or_cons text with empty | ⟨head, rest, shape, visible⟩
  · rw [empty]
    rfl
  · rw [shape, strip_cons_of_visible visible, stripEnd_stripEnd]

/-- A stripped text has no blanks at its end. -/
theorem stripEnd_of_strip_eq {text : Text} (stripped : strip text = text) :
    stripEnd text = text := by
  rcases strip_eq_nil_or_cons text with empty | ⟨head, rest, shape, visible⟩
  · rw [← stripped, empty]
    rfl
  · rw [← stripped, shape, stripEnd_cons_of_visible visible, stripEnd_stripEnd]

/-- Two texts around a visible character have nothing to strip if the first has not and the
second has no blanks at its end. -/
theorem strip_append_of_visible {c : CodePoint} (visible : isBlank c = false) {first second : Text}
    (some_first : first ≠ []) (stripped : strip first = first) (ended : stripEnd second = second) :
    strip (first ++ c :: second) = first ++ c :: second := by
  rcases strip_eq_nil_or_cons first with empty | ⟨head, rest, shape, visible_head⟩
  · exact absurd (stripped.symm.trans empty) some_first
  · rw [stripped] at shape
    rw [shape, List.cons_append, strip_cons_of_visible visible_head,
      stripEnd_append_of_visible visible, ended]

/-- A text in front of another one stays if it has no blanks at its end. -/
theorem stripEnd_append_of_stripped {first : Text} (nonempty : first ≠ [])
    (stripped : stripEnd first = first) (second : Text) :
    stripEnd (first ++ second) = first ++ stripEnd second := by
  induction first with
  | nil => exact absurd rfl nonempty
  | cons head rest ih =>
      rw [stripEnd] at stripped
      split at stripped
      next empty =>
        by_cases blank : isBlank head
        · simp [blank] at stripped
        · rw [if_neg blank, List.cons.injEq] at stripped
          rw [← stripped.2]
          exact stripEnd_cons_of_visible (by simpa using blank) second
      next some_rest =>
        obtain ⟨_, rest_stripped⟩ := List.cons.inj stripped
        rw [rest_stripped] at some_rest
        have behind := ih some_rest rest_stripped
        rw [List.cons_append, stripEnd, behind]
        split
        next empty => exact absurd (List.append_eq_nil_iff.1 empty).1 some_rest
        · rfl

/-- A stripped text stays in front of another one. -/
theorem strip_append_of_stripped {first : Text} (nonempty : first ≠ [])
    (stripped : strip first = first) (second : Text) :
    strip (first ++ second) = first ++ stripEnd second := by
  rcases strip_eq_nil_or_cons first with empty | ⟨head, rest, shape, visible⟩
  · exact absurd (stripped.symm.trans empty) nonempty
  · have ended := stripEnd_of_strip_eq stripped
    rw [stripped] at shape
    rw [← stripEnd_append_of_stripped nonempty ended, shape, List.cons_append, strip,
      List.dropWhile_cons_of_neg (by simp [visible])]

/-- Stripping the end leaves a start of the text. -/
theorem stripEnd_prefix_self (text : Text) : stripEnd text <+: text := by
  induction text with
  | nil => exact List.prefix_rfl
  | cons head rest ih =>
      by_cases blank : isBlank head = true
      · cases kept : stripEnd rest with
        | nil => simp [stripEnd, kept, blank]
        | cons first others =>
            rw [kept] at ih
            simpa [stripEnd, kept] using ih
      · rw [stripEnd_cons_of_visible (by simpa using blank)]
        exact List.cons_prefix_cons.2 ⟨rfl, ih⟩

/-- A text that can be stripped gets shorter by it. -/
theorem length_strip_lt {text : Text} (strippable : strip text ≠ text) :
    (strip text).length < text.length := by
  have inside : strip text <:+: text :=
    (stripEnd_prefix_self _).isInfix.trans (List.dropWhile_suffix _).isInfix
  refine Nat.lt_of_le_of_ne inside.length_le fun same => ?_
  exact strippable (inside.eq_of_length same)

/-- A blank at the end gets lost. -/
theorem stripEnd_append_blank {c : CodePoint} (blank : isBlank c) (text : Text) :
    stripEnd (text ++ [c]) = stripEnd text := by
  induction text with
  | nil => simp [stripEnd, blank]
  | cons head rest ih => rw [List.cons_append, stripEnd, stripEnd, ih]

/-- A text has nothing to strip exactly if it has no blank at either end. -/
theorem strip_eq_self_iff {text : Text} :
    strip text = text ↔ (∀ c ∈ text.head?, isBlank c = false) ∧
      ∀ c ∈ text.getLast?, isBlank c = false := by
  constructor
  · intro stripped
    constructor
    · intro c at_start
      rcases strip_eq_nil_or_cons text with empty | ⟨head, rest, shape, visible⟩
      · rw [← stripped, empty] at at_start
        cases at_start
      · rw [← stripped, shape] at at_start
        exact (Option.some.inj at_start) ▸ visible
    · intro c at_end
      obtain ⟨before, rfl⟩ := List.getLast?_eq_some_iff.1 at_end
      have ended := stripEnd_of_strip_eq stripped
      refine Bool.eq_false_iff.2 fun blank => ?_
      rw [stripEnd_append_blank blank] at ended
      have shorter := (stripEnd_prefix_self before).length_le
      rw [ended, List.length_append, List.length_singleton] at shorter
      omega
  · rintro ⟨at_start, at_end⟩
    cases text with
    | nil => rfl
    | cons head rest =>
        obtain ⟨before, last, shape⟩ : ∃ before last, head :: rest = before ++ [last] :=
          ⟨_, _, (List.dropLast_concat_getLast (List.cons_ne_nil head rest)).symm⟩
        have visible_last := at_end last (List.getLast?_eq_some_iff.2 ⟨before, shape⟩)
        rw [strip, List.dropWhile_cons_of_neg (by simp [at_start head rfl]), shape]
        exact stripEnd_append_of_visible visible_last before []

/-- Stripping loses no visible character. -/
theorem countP_visible_strip (text : Text) :
    (strip text).countP (! isBlank ·) = text.countP (! isBlank ·) := by
  have at_end (rest : Text) :
      (stripEnd rest).countP (! isBlank ·) = rest.countP (! isBlank ·) := by
    induction rest with
    | nil => rfl
    | cons head others ih =>
        by_cases blank : isBlank head = true
        · rw [stripEnd, List.countP_cons, ← ih]
          split
          next empty => simp [blank, empty]
          · simp [blank]
        · rw [stripEnd_cons_of_visible (by simpa using blank), List.countP_cons, ih,
            List.countP_cons]
  rw [strip, at_end]
  induction text with
  | nil => rfl
  | cons head others ih => by_cases blank : isBlank head <;> simp [blank, ih]

/-- A text that can be stripped loses blanks by it. -/
theorem countP_strip_lt {text : Text} (strippable : strip text ≠ text) :
    (strip text).countP isBlank < text.countP isBlank := by
  have shorter := length_strip_lt strippable
  have visible := countP_visible_strip text
  have counts (text : Text) :
      text.length = text.countP isBlank + text.countP (! isBlank ·) := by
    simpa using List.length_eq_countP_add_countP isBlank
  rw [counts, counts text, visible] at shorter
  omega

/-- Stripping is exchanged with a change of characters that hides none and shows none. -/
theorem strip_map {change : CodePoint → CodePoint} (visible : ∀ c, isBlank (change c) = isBlank c)
    (text : Text) : strip (text.map change) = (strip text).map change := by
  have at_end : ∀ rest : Text, stripEnd (rest.map change) = (stripEnd rest).map change := by
    intro rest
    induction rest with
    | nil => rfl
    | cons head others ih =>
        rw [List.map_cons, stripEnd, stripEnd, ih, visible]
        cases stripEnd others with
        | nil => by_cases blank : isBlank head <;> simp [blank]
        | cons => rfl
  have at_start : (text.map change).dropWhile isBlank = (text.dropWhile isBlank).map change := by
    induction text with
    | nil => rfl
    | cons head others ih => by_cases blank : isBlank head <;> simp [visible, blank, ih]
  rw [strip, strip, at_start, at_end]

end RecordingName.Text
