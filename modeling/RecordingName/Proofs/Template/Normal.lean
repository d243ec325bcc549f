import RecordingName.Proofs.Text.Blank
import RecordingName.Template.Printer

/-!
# Normal segments

The normal form of segments holds no empty literal, no two literals side by side, and no
blanks around a name. `normal_cons_literal` and `normal_cons_reference` build it segment
by segment, `literal_nil_notMem_normal` says the first of these of it, and `blankOffset?`
finds what has no normal form: a reference to a blank name.
-/

namespace RecordingName.Template

open Segment

/-- Segments without the empty literals. -/
def dropEmptyLiterals (segments : List Segment) : List Segment :=
  segments.filter (· ≠ .literal [])

/-- Segments with neighbouring literals put together. -/
def mergeLiterals : List Segment → List Segment
  | [] => []
  | .reference target :: rest => .reference target :: mergeLiterals rest
  | .literal text :: rest =>
      match mergeLiterals rest with
      | .literal following :: others => .literal (text ++ following) :: others
      | merged => .literal text :: merged

/-- A segment without blanks around its name. -/
def stripName : Segment → Segment
  | .literal text => .literal text
  | .reference target => .reference ⟨Text.strip target.name, target.argument⟩

/-- The normal form of segments. -/
def normal (segments : List Segment) : List Segment :=
  (mergeLiterals (dropEmptyLiterals segments)).map stripName

/-- Whether a segment refers to a blank name. -/
def isBlankReference : Segment → Bool
  | .literal _ => false
  | .reference target => Text.strip target.name = []

/-- Where the first reference to a blank name starts in the written form of segments. -/
def blankOffset? (segments : List Segment) : Option Nat :=
  (segments.findIdx? isBlankReference).map fun index =>
    (printSegments (segments.take index)).length

/-- Literal text is put in front of segments in one go or in two. -/
theorem joinLiteral_append (first second : Text) (segments : List Segment) :
    joinLiteral (first ++ second) segments = joinLiteral first (joinLiteral second segments) := by
  cases first with
  | nil => rfl
  | cons head others =>
      cases second with
      | nil => simp [joinLiteral]
      | cons next more =>
          cases segments with
          | nil => rfl
          | cons segment rest =>
              cases segment with
              | literal text => simp [joinLiteral]
              | reference target => rfl

/-- The normal form in front of a literal joins it. -/
theorem normal_cons_literal (text : Text) (rest : List Segment) :
    normal (.literal text :: rest) = joinLiteral text (normal rest) := by
  by_cases empty : text = []
  · simp [normal, dropEmptyLiterals, empty, joinLiteral]
  · obtain ⟨head, others, rfl⟩ := List.exists_cons_of_ne_nil empty
    have kept : dropEmptyLiterals (.literal (head :: others) :: rest) =
        .literal (head :: others) :: dropEmptyLiterals rest := by simp [dropEmptyLiterals]
    rw [normal, normal, kept, mergeLiterals]
    cases mergeLiterals (dropEmptyLiterals rest) with
    | nil => rfl
    | cons segment more =>
        cases segment with
        | literal following => rfl
        | reference target => rfl

/-- The normal form in front of a reference strips its name. -/
theorem normal_cons_reference (target : Reference) (rest : List Segment) :
    normal (.reference target :: rest) =
      .reference ⟨Text.strip target.name, target.argument⟩ :: normal rest := by
  have kept : dropEmptyLiterals (.reference target :: rest) =
      .reference target :: dropEmptyLiterals rest := by simp [dropEmptyLiterals]
  rw [normal, normal, kept, mergeLiterals]
  rfl

/-- Joining a literal and taking the normal form can be exchanged. -/
theorem normal_joinLiteral (text : Text) (segments : List Segment) :
    normal (joinLiteral text segments) = joinLiteral text (normal segments) := by
  cases text with
  | nil => rfl
  | cons head others =>
      cases segments with
      | nil => exact normal_cons_literal (head :: others) []
      | cons segment rest =>
          cases segment with
          | literal following =>
              change normal (.literal (head :: others ++ following) :: rest) = _
              rw [normal_cons_literal, normal_cons_literal, joinLiteral_append]
          | reference target => exact normal_cons_literal (head :: others) _

/-- Joining a literal makes no empty one. -/
theorem literal_nil_notMem_joinLiteral (text : Text) {segments : List Segment}
    (absent : .literal [] ∉ segments) : .literal [] ∉ joinLiteral text segments := by
  cases text with
  | nil => exact absent
  | cons head others =>
      cases segments with
      | nil => simp [joinLiteral]
      | cons segment rest => cases segment <;> simp_all [joinLiteral]

/-- The normal form holds no empty literal. -/
theorem literal_nil_notMem_normal (segments : List Segment) : .literal [] ∉ normal segments := by
  induction segments with
  | nil => exact List.not_mem_nil
  | cons segment rest ih =>
      cases segment with
      | literal text =>
          rw [normal_cons_literal]
          exact literal_nil_notMem_joinLiteral text ih
      | reference target =>
          rw [normal_cons_reference]
          simpa using ih

/-- A blank name that comes first is found first, and any other behind what comes first. -/
theorem blankOffset?_cons (segment : Segment) (rest : List Segment) :
    blankOffset? (segment :: rest) =
      if isBlankReference segment then some 0
      else (blankOffset? rest).map ((printSegment segment).length + ·) := by
  rw [blankOffset?, List.findIdx?_cons]
  split
  · rfl
  · rw [blankOffset?, Option.map_map, Option.map_map]
    congr 1
    funext index
    simp [printSegments]

end RecordingName.Template
