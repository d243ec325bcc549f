import Mathlib.Data.List.Permutation
import RecordingName.Proofs.Redaction.Guarding

/-!
# Redacting twice

If all placeholders are bracketed, redacting a redacted message changes nothing: the placeholders
that it shows are found as a whole and cover themselves, and no source is found in what stands
between them, nor across an edge. `redact_redact` says so of the text and of its spans.
-/

namespace RecordingName.Redactor

/-- In a redacted message nothing is covered but the placeholders that it shows. -/
theorem ShowsBrackets.spans_redact {redactor : Redactor} (bracketed : redactor.ShowsBrackets)
    (message : Text) :
    redactor.spans (redactor.redact message) = (redactor.spans message).map Span.settled := by
  rw [spans_eq_foldl_guarded, bracketed.guarded_redact message]
  refine Span.foldl_coverAll_of_absent fun rule member text clear => ?_
  have registered : rule ∈ redactor.rules := List.mem_append_right _ member
  exact (redactor.decomposed_spans message).clear text (Span.clear_mem_settled clear) rule registered

/-- Redacting twice is redacting once, whatever the sources, if all placeholders are bracketed: the
second time each placeholder that shows covers itself, and nothing else is covered. -/
theorem redact_redact {calls : List (Text × Text)} (bracketed : ∀ call ∈ calls, Bracketed call.2)
    (order : SetOrder) (message : Text) :
    (ofCalls order calls).redact ((ofCalls order calls).redact message) =
        (ofCalls order calls).redact message ∧
      (ofCalls order calls).spans ((ofCalls order calls).redact message) =
        ((ofCalls order calls).spans message).map Span.settled := by
  have settled := (showsBrackets_ofCalls bracketed order).spans_redact message
  refine ⟨?_, settled⟩
  rw [redact, settled, Span.flatMap_shown_settled, ← redact]

/-- Sources that stand inside placeholders and at their edges. -/
def edgeCalls : List (Text × Text) :=
  [("55".text, "<n>".text), ("n".text, "<name>".text), (">n".text, "<edge>".text),
    ("<".text, "<bracket>".text)]

/-- Such sources are covered in a message, but not in the placeholders of a redacted one. -/
theorem redact_redact_edges : (∀ call ∈ edgeCalls, Bracketed call.2) ∧
    (ofCalls .byOccurrence edgeCalls).redact "n55n<".text = "<name><n><name><bracket>".text ∧
    (ofCalls .byOccurrence edgeCalls).redact "<name><n><name><bracket>".text =
      "<name><n><name><bracket>".text := by
  have bracketed : ∀ call ∈ edgeCalls, Bracketed call.2 := by decide
  have first : (ofCalls .byOccurrence edgeCalls).redact "n55n<".text =
      "<name><n><name><bracket>".text := by
    cbv
  have again := (redact_redact bracketed .byOccurrence "n55n<".text).1
  rw [first] at again
  exact ⟨bracketed, first, again⟩

end RecordingName.Redactor
