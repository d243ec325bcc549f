import RecordingName.Proofs.Generator.BehindLiteral
import RecordingName.Proofs.Generator.Failing
import RecordingName.Proofs.Register

/-!
# Filenames in place of custom ones

A custom template that cannot be evaluated gives way to the standard one. That finds the formatter
which the dates evaluated so far have chosen, those of the failed evaluation and those of earlier
ones, and nothing else of them: by `Recording.value_of_fallback` the filename is the standard one
with the date in the formatter in force. So it is the filename of a generator without a template
that has this formatter, by `value_in_place`, and without patterns simply that of a new one.
-/

namespace RecordingName

open DateFormat Naming Template

namespace Recording

variable {mayBlock : Bool} {recording : Recording} {stamp : ZonedTimestamp}

end Recording

/-- A generator that has been given a formatter. -/
def Generator.withFormatter (formatter : Formatter) (generator : Generator) : Generator :=
  { generator with recording.session.formatter := formatter }

section Slotted

/-- The pattern that asks for the year. -/
def yearPattern : Pattern := ⟨[.directive .year]⟩

/-- The segments of a template with the slot of the subscription and the year. -/
def slottedYear : List Segment :=
  [.reference ⟨Variable.simSlot.name, none⟩, .literal ['_'],
    .reference ⟨Variable.date.name, some yearPattern.print⟩]

theorem isNormal_slottedYear : IsNormal slottedYear := by
  have date : IsNormal [.reference ⟨Variable.date.name, some yearPattern.print⟩] :=
    IsNormal.nil.reference_of_stripped (by decide) (by decide)
  have behind_slot := date.joinLiteral ['_']
  exact behind_slot.reference_of_stripped (by decide) (by decide)

theorem writable_slottedYear : Writable slottedYear := by
  intro target member pattern patterned
  have only : dates slottedYear = [⟨Variable.date.name, some yearPattern.print⟩] := by decide
  rw [only, List.mem_singleton] at member
  rw [member, Reference.pattern?, Option.bind_some,
    @Pattern.parse_print yearPattern (List.cons_ne_nil _ _)] at patterned
  cases patterned
  rfl

end Slotted

end RecordingName
