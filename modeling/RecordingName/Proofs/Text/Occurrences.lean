import Mathlib.Data.List.Basic
import RecordingName.Proofs.Text.Cutting

/-!
# Occurrences of a literal

A literal may occur in a text at positions that are closer to each other than it is long. A
search that goes on behind each occurrence passes over those that overlap one that it has found:
`afterEach_eq_map_searched` says that it finds the `searched` among the `occurrences`. These are
all of them if the literal does not overlap itself, by `searched_eq_occurrences`.
-/

namespace RecordingName.Text

/-- The positions at which a literal occurs in a text, from left to right. -/
def occurrences (literal text : Text) : List Nat :=
  (List.range (text.length + 1)).filter fun position => literal.isPrefixOf (text.drop position)

/-- The positions, among ascending ones, that are left from `next` on if each of them keeps out
those that are less than `width` behind it. -/
def spaced (width : Nat) : (next : Nat) → List Nat → List Nat
  | _, [] => []
  | next, position :: rest =>
      if position < next then spaced width next rest
      else position :: spaced width (position + width) rest

/-- The positions at which a search from left to right finds a literal, if it goes on behind each
occurrence. -/
def searched (literal text : Text) : List Nat :=
  spaced literal.length 0 (occurrences literal text)

/-- A literal can occur in a text for a second time before its first occurrence has ended. -/
def OverlapsItself (literal : Text) : Prop :=
  ∃ shift, 0 < shift ∧ shift < literal.length ∧ literal.drop shift <+: literal

variable {literal text : Text} {position width next : Nat}

/-- The occurrences are the positions from which the literal is read on. -/
theorem mem_occurrences :
    position ∈ occurrences literal text ↔
      position ≤ text.length ∧ literal <+: text.drop position := by
  rw [occurrences, List.mem_filter, List.mem_range, List.isPrefixOf_iff_prefix, Nat.lt_succ_iff]

/-- An occurrence ends within the text. -/
theorem add_length_le_of_mem_occurrences (member : position ∈ occurrences literal text) :
    position + literal.length ≤ text.length := by
  obtain ⟨within, stands⟩ := mem_occurrences.1 member
  have fits := stands.length_le
  rw [List.length_drop] at fits
  omega

theorem occurrences_nil (nonempty : literal ≠ []) : occurrences literal [] = [] := by
  refine List.eq_nil_iff_forall_not_mem.2 fun position member => ?_
  have ends := add_length_le_of_mem_occurrences member
  have long := List.length_pos_iff.2 nonempty
  rw [List.length_nil] at ends
  omega

/-- A literal occurs at the start of a text, or behind its first character. -/
theorem occurrences_cons (literal : Text) (head : CodePoint) (rest : Text) :
    occurrences literal (head :: rest) =
      (if literal.isPrefixOf (head :: rest) then [0] else []) ++
        (occurrences literal rest).map (· + 1) := by
  rw [occurrences, List.length_cons, List.range_succ_eq_map, List.filter_cons, List.filter_map,
    List.drop_zero]
  split <;> rfl

/-- The first occurrence of a literal that starts the text is there. -/
theorem occurrences_of_prefix (starts : literal <+: text) :
    ∃ others, occurrences literal text = 0 :: others := by
  rw [occurrences, List.range_succ_eq_map, List.filter_cons, List.drop_zero,
    if_pos (List.isPrefixOf_iff_prefix.2 starts)]
  exact ⟨_, rfl⟩

/-- No position is kept before the next one that is free. -/
theorem le_of_mem_spaced {positions : List Nat} (member : position ∈ spaced width next positions) :
    next ≤ position := by
  induction positions generalizing next with
  | nil => cases member
  | cons first rest ih =>
      rw [spaced] at member
      split at member
      · exact ih member
      · rcases List.mem_cons.1 member with rfl | later
        · omega
        · have behind := ih later
          omega

/-- A literal occurs where it has been put. -/
theorem mem_occurrences_append (front literal rest : Text) :
    front.length ∈ occurrences literal (front ++ (literal ++ rest)) := by
  refine mem_occurrences.2 ⟨by simp, ?_⟩
  rw [List.drop_left]
  exact List.prefix_append ..

/-- Where a text starts with a literal, the search goes on behind it. -/
theorem le_of_mem_searched (starts : literal <+: text) (found : position ∈ searched literal text) :
    position = 0 ∨ literal.length ≤ position := by
  obtain ⟨others, shape⟩ := occurrences_of_prefix starts
  rw [searched, shape, spaced, if_neg (Nat.lt_irrefl 0), Nat.zero_add] at found
  rcases List.mem_cons.1 found with first | later
  · exact .inl first
  · exact .inr (le_of_mem_spaced later)

/-- The first occurrence of a literal is always found. -/
theorem take_one_searched (literal text : Text) :
    (searched literal text).take 1 = (occurrences literal text).take 1 := by
  rw [searched]
  cases occurrences literal text with
  | nil => rfl
  | cons position others =>
      rw [spaced, if_neg (Nat.not_lt_zero _)]
      rfl

/-- Spacing does not depend on where the positions are counted from. -/
theorem spaced_map_succ (width next : Nat) (positions : List Nat) :
    spaced width next (positions.map (· + 1)) =
      (spaced width (next - 1) positions).map (· + 1) := by
  induction positions generalizing next with
  | nil => rfl
  | cons position rest ih =>
      rw [List.map_cons, spaced, spaced]
      by_cases early : position < next - 1
      · rw [if_pos (by omega), if_pos early, ih]
      · rw [if_neg (by omega), if_neg early, List.map_cons, ih,
          show position + 1 + width - 1 = position + width by omega]

/-- Positions that are far enough apart are all left. -/
theorem spaced_of_pairwise {positions : List Nat}
    (apart : positions.Pairwise fun first second => first + width ≤ second)
    (late : ∀ position ∈ positions, next ≤ position) : spaced width next positions = positions := by
  induction positions generalizing next with
  | nil => rfl
  | cons position rest ih =>
      obtain ⟨behind, rest_apart⟩ := List.pairwise_cons.1 apart
      have here := late position (List.mem_cons_self ..)
      rw [spaced, if_neg (by omega), ih rest_apart behind]

/-- A search finds what follows the occurrences that are left when those are passed over that
overlap one before them. -/
theorem afterEachFrom_eq_map_spaced (nonempty : literal ≠ []) (skip : Nat) (text : Text) :
    afterEachFrom literal skip text =
      (spaced literal.length skip (occurrences literal text)).map
        fun position => text.drop (position + literal.length) := by
  have behind (head : CodePoint) (rest : Text) (positions : List Nat) :
      (positions.map (· + 1)).map (fun position => (head :: rest).drop (position + literal.length)) =
        positions.map fun position => rest.drop (position + literal.length) := by
    rw [List.map_map]
    refine List.map_congr_left fun position _ => ?_
    rw [Function.comp_apply, Nat.add_right_comm, List.drop_succ_cons]
  induction text generalizing skip with
  | nil => cases skip <;> simp [afterEachFrom, occurrences_nil nonempty, spaced]
  | cons head rest ih =>
      rw [occurrences_cons]
      cases skip with
      | succ skip =>
          rw [afterEachFrom, ih]
          split
          · rw [List.singleton_append, spaced, if_pos (Nat.succ_pos skip), spaced_map_succ, behind]
            rfl
          · rw [List.nil_append, spaced_map_succ, behind]
            rfl
      | zero =>
          rw [afterEachFrom]
          split
          · rw [List.singleton_append, spaced, if_neg (Nat.lt_irrefl 0), List.map_cons,
              spaced_map_succ, behind, ih, Nat.zero_add]
          · rw [List.nil_append, spaced_map_succ, behind, ih]

/-- What follows the occurrences that a search finds. -/
theorem afterEach_eq_map_searched (nonempty : literal ≠ []) (text : Text) :
    afterEach literal text =
      (searched literal text).map fun position => text.drop (position + literal.length) :=
  afterEachFrom_eq_map_spaced nonempty 0 text

/-- The occurrences of a literal that does not overlap itself do not overlap. -/
theorem pairwise_occurrences (apart : ¬ OverlapsItself literal) (text : Text) :
    (occurrences literal text).Pairwise fun first second => first + literal.length ≤ second := by
  have ascending := (@List.pairwise_lt_range (text.length + 1)).filter
    fun position => literal.isPrefixOf (text.drop position)
  refine List.Pairwise.imp_of_mem (fun {first second} member other before => ?_) ascending
  refine Nat.le_of_not_lt fun close => apart ⟨second - first, by omega, by omega, ?_⟩
  -- Both the end of the first occurrence and the second one start where the second one does.
  obtain ⟨rest, shape⟩ := (mem_occurrences.1 member).2
  have again := (mem_occurrences.1 other).2
  rw [show second = first + (second - first) by omega, ← List.drop_drop, ← shape,
    List.drop_append_of_le_length (by omega)] at again
  refine List.prefix_of_prefix_length_le (List.prefix_append _ rest) again ?_
  rw [List.length_drop]
  omega

/-- A search misses no occurrence of a literal that does not overlap itself. -/
theorem searched_eq_occurrences (apart : ¬ OverlapsItself literal) (text : Text) :
    searched literal text = occurrences literal text :=
  spaced_of_pairwise (pairwise_occurrences apart text) fun _ _ => Nat.zero_le _

/-- A literal that overlaps itself stands twice in a text that is shorter than twice the literal. -/
theorem OverlapsItself.exists_append (overlaps : OverlapsItself literal) :
    ∃ front tail, tail ≠ [] ∧ tail.length < literal.length ∧
      front ++ literal = literal ++ tail := by
  obtain ⟨shift, positive, short, tail, shape⟩ := overlaps
  have lengths := congrArg List.length shape
  rw [List.length_append, List.length_drop] at lengths
  refine ⟨literal.take shift, tail, List.length_pos_iff.1 (by omega), by omega, ?_⟩
  calc literal.take shift ++ literal
      = literal.take shift ++ (literal.drop shift ++ tail) := by rw [shape]
    _ = literal ++ tail := by rw [← List.append_assoc, List.take_append_drop]

end RecordingName.Text
