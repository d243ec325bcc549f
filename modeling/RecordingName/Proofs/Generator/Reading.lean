import RecordingName.Generator
import RecordingName.Proofs.Text.Cutting

/-!
# Where a generator reads dates

A date at the start of a template, or behind a literal there, has its place in a name if the name
starts as the template does: `Generator.readTimestamp_at_start`. A name without the literal is not
read there: `Generator.candidates_of_not_infix`.
-/

namespace RecordingName

open DateFormat Naming Template

variable {argument : Option Text} {literal : Text} {rest : List Segment} {template : Template}

/-- A date that stands first is where a name starts. -/
theorem Template.dateLocations_first
    (segments : template.segments = .reference ⟨Variable.date.name, argument⟩ :: rest) :
    template.dateLocations =
      .after [] true :: locationsFrom Variable.date.name .arbitrary false rest := by
  rw [dateLocations, locations, segments, locationsFrom, if_pos rfl]

/-- A date behind a literal that stands first is behind that literal. -/
theorem Template.dateLocations_behind (segments : template.segments =
      .literal literal :: .reference ⟨Variable.date.name, argument⟩ :: rest) :
    template.dateLocations =
      .after literal true :: locationsFrom Variable.date.name .arbitrary false rest := by
  rw [dateLocations, locations, segments, locationsFrom, locationsFrom, if_pos rfl]

namespace Generator

variable {generator : Generator} {name : Text} {later : List Location} {timestamp : Timestamp}

/-- At the start of a name, what follows the literal is the only candidate. -/
theorem candidates_at_start (literal rest : Text) :
    candidates (literal ++ rest) (.after literal true) = [rest] := by
  by_cases empty : literal = []
  · rw [candidates, if_pos empty, empty]
    rfl
  · obtain ⟨later, follows⟩ := Text.afterEach_append empty rest
    rw [candidates, if_neg empty, if_pos rfl, follows]
    rfl

/-- Nothing follows a literal where it does not stand. -/
theorem candidates_of_not_infix (nonempty : literal ≠ []) (absent : ¬ literal <:+: name)
    (atStart : Bool) : candidates name (.after literal atStart) = [] := by
  rw [candidates, if_neg nonempty, Text.afterEach_of_not_infix absent, List.take_nil, ite_self]

/-- If dates are read behind a literal at the start first, a name that starts with the literal is
read from there. -/
theorem readTimestamp_at_start {rest : Text}
    (locations : generator.locations = .after literal true :: later)
    (read : generator.recording.session.formatter.read? rest = some timestamp) :
    generator.readTimestamp (literal ++ rest) = some timestamp := by
  rw [readTimestamp, locations, List.findSome?_cons, readAt, candidates_at_start,
    List.findSome?_cons, read]

end Generator
end RecordingName
