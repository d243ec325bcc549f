import RecordingName.Text.Basic

/-!
# Pieces of a cut

The pieces of a cut are parts of the text, by `infix_of_mem_cut`, and the separator is
in none of them, by `not_infix_of_mem_cut`. A text without the separator is its only piece:
`cut_of_not_infix`. What follows a literal at the start of a text
comes first among what follows its occurrences: `afterEach_append`.
-/

namespace RecordingName.Text

variable {separator piece : Text}

/-- Joined texts start with the first of them. -/
theorem prefix_join_cons (separator first : Text) (others : List Text) :
    first <+: join separator (first :: others) := by
  cases others with
  | nil => exact List.prefix_rfl
  | cons second more =>
      rw [join, List.append_assoc]
      exact List.prefix_append ..

/-- Each of the joined texts is a part of the whole. -/
theorem infix_join_of_mem {pieces : List Text} (member : piece ∈ pieces) :
    piece <:+: join separator pieces := by
  induction pieces with
  | nil => cases member
  | cons first others ih =>
      rcases List.mem_cons.1 member with rfl | later
      · exact (prefix_join_cons separator piece others).isInfix
      · cases others with
        | nil => cases later
        | cons second more =>
            rw [join]
            exact (ih later).trans (List.suffix_append ..).isInfix

/-- A piece of a cut is a part of the text. -/
theorem infix_of_mem_cut (nonempty : separator ≠ []) {text : Text}
    (member : piece ∈ cut separator text) : piece <:+: text := by
  have inside := @infix_join_of_mem separator _ _ member
  rw [cut_join nonempty] at inside
  exact inside

theorem cut_ne_nil (separator text : Text) : cut separator text ≠ [] :=
  cutFrom_ne_nil separator 0 text

/-- The separator is in no piece of a cut, as every piece ends at the first place where the
separator stands. -/
theorem not_infix_of_mem_cutFrom (nonempty : separator ≠ []) {skip : Nat} {text : Text}
    (member : piece ∈ cutFrom separator skip text) : ¬ separator <:+: piece := by
  have not_in_nil : ¬ separator <:+: [] := fun inside => nonempty (List.infix_nil.1 inside)
  induction text generalizing skip piece with
  | nil =>
      have empty : piece = [] := by cases skip <;> simpa [cutFrom] using member
      rwa [empty]
  | cons head rest ih =>
      cases skip with
      | succ skip => exact ih member
      | zero =>
          rw [cutFrom] at member
          split at member
          · rcases List.mem_cons.1 member with rfl | later
            · exact not_in_nil
            · exact ih later
          next elsewhere =>
            obtain ⟨first, others, shape⟩ :=
              List.exists_cons_of_ne_nil (cutFrom_ne_nil separator 0 rest)
            have joined := cutFrom_join nonempty 0 rest
            rw [shape] at member joined
            rcases List.mem_cons.1 member with rfl | later
            · have start : first <+: rest := by
                have front := prefix_join_cons separator first others
                rwa [joined] at front
              intro inside
              rcases List.infix_cons_iff.1 inside with here | behind
              · refine elsewhere (List.isPrefixOf_iff_prefix.2 ?_)
                exact here.trans (List.cons_prefix_cons.2 ⟨rfl, start⟩)
              · exact ih (shape ▸ List.mem_cons_self ..) behind
            · exact ih (shape ▸ List.mem_cons_of_mem _ later)

/-- The separator is in no piece of a cut. -/
theorem not_infix_of_mem_cut (nonempty : separator ≠ []) {text : Text}
    (member : piece ∈ cut separator text) : ¬ separator <:+: piece :=
  not_infix_of_mem_cutFrom nonempty member

/-- The characters that are passed over leave no trace in a cut. -/
theorem cutFrom_eq_cut_drop (separator : Text) (skip : Nat) (text : Text) :
    cutFrom separator skip text = cut separator (text.drop skip) := by
  induction text generalizing skip with
  | nil => cases skip <;> rfl
  | cons head rest ih =>
      cases skip with
      | zero => rfl
      | succ skip => exact ih skip

/-- A separator at the start of a text is cut off. -/
theorem cut_append (nonempty : separator ≠ []) (rest : Text) :
    cut separator (separator ++ rest) = [] :: cut separator rest := by
  obtain ⟨head, others, rfl⟩ := List.exists_cons_of_ne_nil nonempty
  have starts : (head :: others).isPrefixOf (head :: (others ++ rest)) :=
    List.isPrefixOf_iff_prefix.2 (List.prefix_append (head :: others) rest)
  rw [cut, List.cons_append, cutFrom, if_pos starts, cutFrom_eq_cut_drop]
  simp

/-- A text without the separator stays in one piece. -/
theorem cut_of_not_infix {text : Text} (absent : ¬ separator <:+: text) :
    cut separator text = [text] := by
  induction text with
  | nil => rfl
  | cons head rest ih =>
      rw [List.infix_cons_iff, not_or] at absent
      have elsewhere : ¬ separator.isPrefixOf (head :: rest) :=
        fun starts => absent.1 (List.isPrefixOf_iff_prefix.1 starts)
      rw [cut, cutFrom, if_neg elsewhere, ← cut, ih absent.2]
      rfl

/-- What follows a literal at the start of a text comes first. -/
theorem afterEach_append {literal : Text} (nonempty : literal ≠ []) (rest : Text) :
    ∃ later, afterEach literal (literal ++ rest) = rest :: later := by
  obtain ⟨head, others, rfl⟩ := List.exists_cons_of_ne_nil nonempty
  have starts : (head :: others).isPrefixOf (head :: (others ++ rest)) :=
    List.isPrefixOf_iff_prefix.2 (List.prefix_append (head :: others) rest)
  have behind : (head :: (others ++ rest)).drop (head :: others).length = rest := by
    rw [← List.cons_append, List.drop_left]
  rw [afterEach, List.cons_append, afterEachFrom, if_pos starts, behind]
  exact ⟨_, rfl⟩

/-- A literal that is no part of a text has nothing behind it. -/
theorem afterEach_of_not_infix {literal text : Text} (absent : ¬ literal <:+: text) :
    afterEach literal text = [] := by
  refine List.eq_nil_iff_forall_not_mem.2 fun rest found => ?_
  obtain ⟨before, rfl⟩ := mem_afterEach found
  exact absent ⟨before, rest, rfl⟩

/-- A literal is part of a text if something follows it there, if only the end. -/
theorem afterEach_ne_nil_iff {literal text : Text} (nonempty : literal ≠ []) :
    afterEach literal text ≠ [] ↔ literal <:+: text := by
  constructor
  · intro follows
    refine Classical.byContradiction fun absent => follows ?_
    exact afterEach_of_not_infix absent
  · intro part
    induction text with
    | nil => exact absurd (List.infix_nil.1 part) nonempty
    | cons head rest ih =>
        rw [afterEach, afterEachFrom]
        split
        · exact List.cons_ne_nil _ _
        next elsewhere =>
          rw [List.isPrefixOf_iff_prefix] at elsewhere
          exact ih ((List.infix_cons_iff.1 part).resolve_left elsewhere)

end RecordingName.Text
