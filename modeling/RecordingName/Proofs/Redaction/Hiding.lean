import RecordingName.Proofs.Redaction.Decomposition

/-!
# What a redaction hides

A registered source is hidden in every message, by `Knows.hides`, and an offer forgets no
source, by `Knows.offered`. A message that is shorter than all that is covered is not
covered at all: `spans_of_short`.
-/

namespace RecordingName.Redactor

/-- A source is registered. -/
def Knows (redactor : Redactor) (source : Text) : Prop :=
  ∃ placeholder, redactor.register.get? source = some placeholder

/-- A text stands nowhere in what is left clear of a message. -/
def Hides (redactor : Redactor) (hidden message : Text) : Prop :=
  ∀ text, .clear text ∈ redactor.spans message → ¬ hidden <:+: text

/-- A source that is offered is known. -/
theorem knows_offered (redactor : Redactor) {source : Text} (nonempty : source ≠ [])
    (placeholder : Text) : (redactor.offered source placeholder).Knows source :=
  ⟨placeholder, by rw [get?_offered, if_pos ⟨rfl, nonempty⟩]⟩

/-- What is registered stays registered. -/
theorem Knows.offered {redactor : Redactor} {known : Text} (knows : redactor.Knows known)
    (source placeholder : Text) : (redactor.offered source placeholder).Knows known := by
  obtain ⟨shown, registered⟩ := knows
  by_cases same : known = source ∧ source ≠ []
  · exact ⟨placeholder, by rw [get?_offered, if_pos same]⟩
  · exact ⟨shown, by rw [get?_offered, if_neg same, registered]⟩

/-- What is registered has been so before, or is what has been offered. -/
theorem get?_of_offered {redactor : Redactor} {source placeholder known shown : Text}
    (found : (redactor.offered source placeholder).register.get? known = some shown) :
    (redactor.register.get? known = some shown ∧ (known = source → source = [])) ∨
      known = source ∧ shown = placeholder := by
  rw [get?_offered] at found
  split at found
  next same => exact .inr ⟨same.1, (Option.some.inj found).symm⟩
  next other =>
    refine .inl ⟨found, fun same => ?_⟩
    exact Classical.byContradiction fun nonempty => other ⟨same, nonempty⟩

/-- A registered source is hidden in every message. -/
theorem Knows.hides {redactor : Redactor} {source : Text} (knows : redactor.Knows source)
    (message : Text) : redactor.Hides source message := by
  obtain ⟨placeholder, registered⟩ := knows
  intro text clear
  exact (redactor.decomposed_spans message).clear text clear _
    ((redactor.mem_rules source placeholder).2 (.inl registered))

/-- A message that holds the source of no rule stays clear as a whole. -/
theorem spans_of_absent {redactor : Redactor} {message : Text}
    (absent : ∀ rule ∈ redactor.rules, ¬ rule.1 <:+: message) :
    redactor.spans message = [.clear message] := by
  refine Span.foldl_coverAll_of_absent fun rule member text clear => ?_
  cases List.mem_singleton.1 clear
  exact absent rule member

/-- A message that is shorter than all that is covered stays clear as a whole. -/
theorem spans_of_short {redactor : Redactor} {message : Text}
    (short : ∀ source placeholder, redactor.register.get? source = some placeholder →
      message.length < source.length ∧
        (placeholder = [] ∨ message.length < placeholder.length)) :
    redactor.spans message = [.clear message] := by
  refine spans_of_absent ?_
  rintro ⟨source, placeholder⟩ rule inside
  have fits := inside.length_le
  rcases (mem_rules _ source placeholder).1 rule with found | ⟨rfl, shows, hidden, found⟩
  · exact Nat.not_lt.2 fits (short source placeholder found).1
  · rcases (short hidden source found).2 with nothing | longer
    · exact shows nothing
    · exact Nat.not_lt.2 fits longer

/-- A text that is shorter than all that is registered shows once nothing is put in the place of
that. -/
theorem not_hides_of_emptied {redactor : Redactor} {shorter longer other : Text}
    (only : ∀ source, redactor.Knows source → source = longer ∨ source = other)
    (long : shorter.length < longer.length) (other_long : shorter.length < other.length) :
    ¬ ((redactor.offered longer []).offered other []).Hides shorter shorter := by
  intro hides
  refine hides shorter ?_ List.infix_rfl
  rw [spans_of_short]
  · exact List.mem_singleton_self _
  · intro source placeholder found
    rcases get?_of_offered found with ⟨earlier, not_other⟩ | ⟨rfl, rfl⟩
    · rcases get?_of_offered earlier with ⟨before, not_longer⟩ | ⟨rfl, rfl⟩
      · rcases only source ⟨placeholder, before⟩ with same | same
        · simp [not_longer same] at long
        · simp [not_other same] at other_long
      · exact ⟨long, .inl rfl⟩
    · exact ⟨other_long, .inl rfl⟩

end RecordingName.Redactor
