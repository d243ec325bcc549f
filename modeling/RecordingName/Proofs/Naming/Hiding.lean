import RecordingName.Proofs.Naming.Filename
import RecordingName.Proofs.Naming.Rendering
import RecordingName.Proofs.Redaction.Hiding

/-!
# What answers register for redaction

Numbers and names are registered before they are handed out, without separators just as
they are: `knows_of_resolve`. Nothing that an evaluation does forgets a registration, by
`Remembers.keeps_resolve`. A name has no blanks at its ends, by `strip_of_names`; a number
may have.
-/

namespace RecordingName.Naming

open Filename

variable {zone : Zone} {context : Context} {target : Reference} {answer : Option Text}
  {first second : Session}

/-- All that was registered is still registered. -/
def Remembers (before behind : Session) : Prop :=
  ∀ source, before.redactor.Knows source → behind.redactor.Knows source

namespace Remembers

/-- Nothing that an evaluation does makes the redactor forget. -/
theorem drift : Drift Remembers where
  refl _ _ knows := knows
  trans first second source knows := second source (first source knows)
  hide _ source placeholder _ knows := knows.offered source placeholder
  ask _ _ knows := knows
  lookUp _ _ _ _ _ knows := knows

/-- No answer forgets a registration. -/
theorem keeps_resolve (zone : Zone) (context : Context) (target : Reference) :
    Keeps Remembers (resolve zone context target) :=
  Keeps.resolve drift (fun _ _ _ _ _ knows => knows) zone context target

end Remembers

/-- The redactions behind a value that has been handed out. -/
def handedOut (redactor : Redactor) (value placeholder : Text) : Redactor :=
  if withoutSeparators value = value then redactor.offered value placeholder
  else (redactor.offered value placeholder).offered (withoutSeparators value) placeholder

/-- A value is handed out as it is, with nothing but its own redactions added. -/
theorem runOn_handOut {value : Text} (nonempty : value ≠ []) (context : Context)
    (single conference : Text) (session : Session) :
    runOn (handOut context value single conference) session =
      (.ok (some value), { session with
        redactor := handedOut session.redactor value
          (if context.isConference then conference else single) }) := by
  rw [handOut, if_neg nonempty, runOn_bind, runOn_hide, handedOut]
  dsimp only
  by_cases same : withoutSeparators value = value
  · rw [if_neg (not_not_intro same), if_pos same]
    rfl
  · rw [if_pos same, if_neg same, runOn_bind, runOn_hide]
    rfl

theorem runOn_handOut_nil (context : Context) (single conference : Text) (session : Session) :
    runOn (handOut context [] single conference) session = (.ok none, session) := rfl

/-- A value is registered in the form without separators when it has been handed out. -/
theorem knows_handedOut (redactor : Redactor) {value : Text} (nonempty : value ≠ [])
    (placeholder : Text) :
    (handedOut redactor value placeholder).Knows (withoutSeparators value) := by
  rw [handedOut]
  split
  next same =>
    rw [same]
    exact redactor.knows_offered nonempty placeholder
  · refine Redactor.knows_offered _ ?_ placeholder
    rw [withoutSeparators_eq_map]
    exact fun nothing => nonempty (List.map_eq_nil_iff.1 nothing)

/-- Nothing but a value and its form without separators is registered when it has been handed
out. -/
theorem get?_of_handedOut {redactor : Redactor} {value placeholder source shown : Text}
    (found : (handedOut redactor value placeholder).register.get? source = some shown) :
    redactor.register.get? source = some shown ∨
      (source = value ∨ source = withoutSeparators value) ∧ shown = placeholder := by
  rw [handedOut] at found
  split at found
  · rcases Redactor.get?_of_offered found with ⟨earlier, _⟩ | ⟨hit, same⟩
    · exact .inl earlier
    · exact .inr ⟨.inl hit, same⟩
  · rcases Redactor.get?_of_offered found with ⟨earlier, _⟩ | ⟨hit, same⟩
    · rcases Redactor.get?_of_offered earlier with ⟨before, _⟩ | ⟨hit, same⟩
      · exact .inl before
      · exact .inr ⟨.inl hit, same⟩
    · exact .inr ⟨.inr hit, same⟩

/-- What has been handed out is the value, and it is registered in the form without
separators. -/
theorem knows_of_handOut {value single conference : Text}
    (ran : runOn (handOut context value single conference) first = (.ok answer, second)) :
    answer.getD [] = value ∧ (value ≠ [] → second.redactor.Knows (withoutSeparators value)) := by
  by_cases empty : value = []
  · subst empty
    cases (runOn_handOut_nil context single conference first).symm.trans ran
    exact ⟨rfl, fun nonempty => absurd rfl nonempty⟩
  · cases (runOn_handOut empty context single conference first).symm.trans ran
    exact ⟨rfl, fun _ => knows_handedOut first.redactor empty _⟩

/-- A reference to what must not show: a number or a name. -/
def Sensitive (target : Reference) : Prop :=
  Variable.ofName? target.name = some .phoneNumber ∨
    Variable.ofName? target.name = some .callerName ∨
    Variable.ofName? target.name = some .contactName

/-- A sensitive answer is registered in the form that it takes in a filename. -/
theorem knows_of_resolve (sensitive : Sensitive target)
    (ran : runOn (resolve zone context target) first = (.ok answer, second))
    (shown : answer.getD [] ≠ []) :
    second.redactor.Knows (withoutSeparators (answer.getD [])) := by
  unfold resolve at ran
  rcases sensitive with number | caller | contact
  · rw [number] at ran
    obtain ⟨same, knows⟩ := knows_of_handOut ran
    rw [same] at shown ⊢
    exact knows shown
  · rw [caller] at ran
    obtain ⟨same, knows⟩ := knows_of_handOut ran
    rw [same] at shown ⊢
    exact knows shown
  · rw [contact] at ran
    obtain ⟨names, middle, _, handed⟩ := runOn_bind_eq_ok.1 ran
    obtain ⟨same, knows⟩ := knows_of_handOut handed
    rw [same] at shown ⊢
    exact knows shown

/-- Visible texts joined by commas have nothing to strip. -/
theorem strip_join {pieces : List Text} (visible : ∀ piece ∈ pieces, piece ≠ [])
    (stripped : ∀ piece ∈ pieces, Text.strip piece = piece) :
    Text.strip (Text.join [','] pieces) = Text.join [','] pieces := by
  induction pieces with
  | nil => rfl
  | cons head others ih =>
      cases others with
      | nil => exact stripped head (List.mem_cons_self ..)
      | cons next more =>
          have later := ih (fun piece member => visible piece (List.mem_cons_of_mem _ member))
            fun piece member => stripped piece (List.mem_cons_of_mem _ member)
          rw [Text.join, List.append_assoc, List.singleton_append]
          exact Text.strip_append_of_visible (by decide) (visible head (List.mem_cons_self ..))
            (stripped head (List.mem_cons_self ..)) (Text.stripEnd_of_strip_eq later)

/-- Stripped names joined by commas have nothing to strip. -/
theorem strip_joinDistinct (names : List (Option Text)) :
    Text.strip (joinDistinct (names.map fun name => name.map Text.strip)) =
      joinDistinct (names.map fun name => name.map Text.strip) := by
  refine strip_join ?_ ?_
  · intro piece member
    have kept := (List.mem_filter.1 (List.mem_eraseDups.1 member)).2
    simpa using kept
  · intro piece member
    have given := (List.mem_filter.1 (List.mem_eraseDups.1 member)).1
    obtain ⟨value, value_mem, shape⟩ := List.mem_filterMap.1 given
    obtain ⟨name, _, rfl⟩ := List.mem_map.1 value_mem
    obtain ⟨text, _, rfl⟩ := Option.map_eq_some_iff.1 shape
    exact Text.strip_strip text

/-- The names of callers and contacts are handed out without blanks at their ends. -/
theorem strip_of_names (named : Variable.ofName? target.name = some .callerName ∨
      Variable.ofName? target.name = some .contactName)
    (ran : runOn (resolve zone context target) first = (.ok answer, second)) :
    Text.strip (answer.getD []) = answer.getD [] := by
  unfold resolve at ran
  rcases named with caller | contact
  · rw [caller] at ran
    rw [(knows_of_handOut ran).1]
    have stripped := strip_joinDistinct (context.parties.map Details.callerName)
    rw [List.map_map] at stripped
    exact stripped
  · rw [contact] at ran
    obtain ⟨names, middle, _, handed⟩ := runOn_bind_eq_ok.1 ran
    rw [(knows_of_handOut handed).1]
    exact strip_joinDistinct names

end RecordingName.Naming
