import RecordingName.Text.Basic

/-!
# Sets of characters as ranges

A character property is a table of ranges of code points. A table that is
`ascending` has its ranges in order and apart, so no code point is named twice.
-/

namespace RecordingName.Text

/-- A set of code points: the first and the last of each range. -/
abbrev Ranges := List (Nat × Nat)

namespace Ranges

/-- Whether a character lies in one of the ranges. -/
def contains (ranges : Ranges) (c : CodePoint) : Bool :=
  ranges.any fun range => range.1 ≤ c.toNat && c.toNat ≤ range.2

/-- Whether every range starts above `floor`, at least one code point behind the
range before it, and ends no earlier than it starts. -/
def ascendingAbove (floor : Nat) : Ranges → Bool
  | [] => true
  | (first, last) :: others => floor < first && first ≤ last && ascendingAbove (last + 1) others

/-- Whether the ranges stand in order, apart from each other. -/
def ascending : Ranges → Bool
  | [] => true
  | (first, last) :: others => first ≤ last && ascendingAbove (last + 1) others

/-- A character lies in the ranges exactly when one of them reaches over it. -/
theorem contains_iff {ranges : Ranges} {c : CodePoint} :
    ranges.contains c ↔ ∃ range ∈ ranges, range.1 ≤ c.toNat ∧ c.toNat ≤ range.2 := by
  simp [contains]

end Ranges
end RecordingName.Text
