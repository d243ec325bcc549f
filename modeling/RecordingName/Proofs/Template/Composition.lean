import RecordingName.Proofs.Template.Grammar

/-!
# Templates one behind the other

Behind a template, a text is read as it is read by itself: `read_append`. Its segments follow those
of the template, where two literals that meet become one, by `joinSegments`, and its errors keep
their fault and move by the length of what stands before. That is so because the normal form of
segments one behind the other is made of the two normal forms, by `normal_append`.
-/

namespace RecordingName.Template

open Segment

/-- Segments one behind the other. A literal at the end of the first and a literal at the start of
the second are put together. -/
def joinSegments (first second : List Segment) : List Segment :=
  match first.getLast?, second with
  | some (.literal text), .literal following :: rest =>
      first.dropLast ++ .literal (text ++ following) :: rest
  | _, _ => first ++ second

/-- Only the last of the first segments can change. -/
theorem joinSegments_cons (segment : Segment) {rest : List Segment} (more : rest ≠ [])
    (second : List Segment) :
    joinSegments (segment :: rest) second = segment :: joinSegments rest second := by
  obtain ⟨next, others, rfl⟩ := List.exists_cons_of_ne_nil more
  unfold joinSegments
  rw [List.getLast?_cons_cons, List.dropLast_cons_cons]
  split
  · rfl
  · rfl

/-- A reference does not change. -/
theorem joinSegments_reference (target : Reference) (rest second : List Segment) :
    joinSegments (.reference target :: rest) second =
      .reference target :: joinSegments rest second := by
  by_cases last : rest = []
  · subst last
    rfl
  · exact joinSegments_cons _ last second

/-- Literal text is put in front of segments one behind the other by putting it in front of the
first. -/
theorem joinLiteral_joinSegments (text : Text) (first second : List Segment) :
    joinLiteral text (joinSegments first second) =
      joinSegments (joinLiteral text first) second := by
  cases text with
  | nil => rfl
  | cons head others =>
      cases first with
      | nil =>
          cases second with
          | nil => rfl
          | cons segment rest => cases segment <;> rfl
      | cons segment rest =>
          cases segment with
          | literal held =>
              by_cases last : rest = []
              · subst last
                cases second with
                | nil => rfl
                | cons next more =>
                    cases next with
                    | literal following =>
                        change [Segment.literal _] ++ more = [Segment.literal _] ++ more
                        rw [List.append_assoc]
                    | reference target => rfl
              · rw [joinSegments_cons _ last]
                exact (joinSegments_cons _ last second).symm
          | reference target =>
              rw [joinSegments_reference]
              have more : Segment.reference target :: rest ≠ [] := List.cons_ne_nil _ _
              exact ((joinSegments_cons _ more second).trans
                (congrArg _ (joinSegments_reference target rest second))).symm

/-- The normal form of segments one behind the other. -/
theorem normal_append (first second : List Segment) :
    normal (first ++ second) = joinSegments (normal first) (normal second) := by
  induction first with
  | nil => rfl
  | cons segment rest ih =>
      rw [List.cons_append]
      cases segment with
      | literal text => rw [normal_cons_literal, normal_cons_literal, ih, joinLiteral_joinSegments]
      | reference target =>
          rw [normal_cons_reference, normal_cons_reference, ih, joinSegments_reference]

/-- The meaning of items one behind the other is that of both parts, joined. -/
theorem meaning_append (first second : List Item) :
    meaning (first ++ second) = joinSegments (meaning first) (meaning second) := by
  rw [meaning, List.map_append, normal_append]
  rfl

theorem written_append (first second : List Item) :
    written (first ++ second) = written first ++ written second :=
  List.flatMap_append

/-- What stands behind a template is read as it is read by itself. If it is a template, too, the
segments of both follow each other; if not, it has the same fault, behind the first template. -/
theorem read_append {front : Text} {template : Template} (accepted : read front = .ok template)
    (text : Text) :
    read (front ++ text) =
      match read text with
      | .ok following => .ok ⟨joinSegments template.segments following.segments⟩
      | .error rejection =>
          .error ⟨front ++ text, rejection.error.fault,
            rejection.error.position + front.length⟩ := by
  obtain ⟨items, rfl, same⟩ := parse_eq_ok_iff.1 (read_eq_ok_iff_parse.1 accepted)
  obtain ⟨others, rest, rfl, done | ⟨flaw, found⟩⟩ := exists_items text
  · subst done
    rw [List.append_nil, read_eq_ok_iff_parse.2 (parse_written others), ← written_append,
      read_eq_ok_iff_parse.2 (parse_written _), meaning_append, same]
  · have alone : read (written others ++ rest) = .error ⟨written others ++ rest,
        flaw.fault, (written others).length + flaw.position⟩ :=
      read_eq_error_iff_parse.2 ⟨rfl, parse_flawed others found⟩
    have behind := parse_flawed (items ++ others) found
    rw [written_append, List.append_assoc, List.length_append] at behind
    rw [alone]
    refine read_eq_error_iff_parse.2 ⟨rfl, behind.trans ?_⟩
    rw [Nat.add_assoc, Nat.add_comm]

/-- Two literals that meet become one, and the empty name behind them stays an empty name. -/
theorem read_append_met :
    read ['a'] = .ok ⟨[.literal ['a']]⟩ ∧
      read ([CodePoint.scalar 'a'] ++ [CodePoint.scalar 'b', '{', 'p', '}']) =
        .ok ⟨[.literal ['a', 'b'], .reference ⟨['p'], none⟩]⟩ ∧
      read ([CodePoint.scalar 'a'] ++ [CodePoint.scalar 'b', '{', '}']) =
        .error ⟨['a', 'b', '{', '}'], .emptyName, 2⟩ :=
  have accepted : read ['a'] = .ok ⟨[.literal ['a']]⟩ := rfl
  ⟨accepted, read_append accepted ['b', '{', 'p', '}'], read_append accepted ['b', '{', '}']⟩

end RecordingName.Template
