import RecordingName.Proofs.Call.Handle
import RecordingName.Proofs.Generator.Publishing
import RecordingName.Proofs.Generator.Run
import RecordingName.Proofs.Naming.Hiding
import RecordingName.Proofs.Template.RoundTrip

/-!
# What stays hidden in a filename

A number or a name is registered before it gets into a filename, and stays registered, so
that it is hidden there from the publication on: `staysHidden_of_stripped`. But blanks at
its ends get lost in the filename, and the text that is left there has not been registered:
`stripped_of_staysHidden`. Names never have such blanks, and numbers may.
-/

namespace RecordingName

open Naming Template

namespace Generator

/-- No action forgets a registration. -/
theorem remembers_perform (action : Action) (generator : Generator) :
    Remembers generator.recording.session (generator.perform action).recording.session := by
  refine @perform_induction
    (fun after => Remembers generator.recording.session after.recording.session) _ ?_ ?_ ?_ action
  · intro mayBlock parent children
    rw [update_recording]
    exact Recording.publish_kept Remembers.drift mayBlock
      { generator.recording with parent, children }
      fun _ _ target _ => Remembers.keeps_resolve _ _ target
  · intro source placeholder
    exact Remembers.drift.hide generator.recording.session source placeholder
  · intro provider directory log
    exact Remembers.drift.refl generator.recording.session

/-- No run forgets a registration. -/
theorem remembers_run (actions : List Action) (generator : Generator) :
    Remembers generator.recording.session (generator.run actions).recording.session := by
  induction actions generalizing generator with
  | nil => exact Remembers.drift.refl _
  | cons action others ih =>
      exact Remembers.drift.trans (remembers_perform action generator) (ih _)

end Generator

variable {origin : Origin} {recording : Recording} {mayBlock : Bool} {generator : Generator}
  {rendering : Rendering} {target : Reference} {value : Text}

/-- The redacted form of a filename is the one under the redactions at its publication. -/
theorem Publishes.redacted_eq (publishes : Publishes origin recording mayBlock generator) :
    generator.publication.redacted =
      generator.recording.session.redactor.redact generator.publication.value := by
  obtain ⟨rendering, behind, log, _, publication, after⟩ :=
    Recording.publish_eq_ok publishes.published
  rw [publication, after]
  rfl

/-- A sensitive value is registered, in the form that it takes in a filename, when the filename
is published. -/
theorem Publishes.knows (publishes : Publishes origin recording mayBlock generator)
    (rendered : (recording.rendering mayBlock).1 = .ok rendering) (sensitive : Sensitive target)
    (member : (.reference target, value) ∈ rendering) (nonempty : value ≠ []) :
    generator.recording.session.redactor.Knows (Filename.withoutSeparators value) := by
  obtain ⟨made, behind, log, ran, _, after⟩ := Recording.publish_eq_ok publishes.published
  rw [ran] at rendered
  cases rendered
  obtain ⟨answer, first, second, answered, shape, _, later⟩ :=
    answer_of_mem_rendering Remembers.drift
      (fun other _ => Remembers.keeps_resolve recording.zone (recording.context mayBlock) other)
      ran member
  rw [shape] at nonempty ⊢
  have registered := later _ (knows_of_resolve sensitive answered nonempty)
  rw [after]
  exact registered

/-- Wherever a value has been the answer to a sensitive reference in a published filename, the
redacted form of the filename is the one under the redactions of that time, and from then on no
redacted form shows the value, as it stands in a filename, anywhere between placeholders. A value
of which nothing gets into a filename has nothing to show. -/
def StaysHidden (value : Text) : Prop :=
  Filename.sanitize value ≠ [] →
    ∀ origin recording mayBlock generator rendering target,
      Publishes origin recording mayBlock generator →
      (recording.rendering mayBlock).1 = .ok rendering →
      Sensitive target → (.reference target, value) ∈ rendering →
      generator.publication.redacted =
          generator.recording.session.redactor.redact generator.publication.value ∧
        ∀ actions, (generator.run actions).recording.session.redactor.Hides
          (Filename.sanitize value) generator.publication.value

/-- What shows in a file name is not empty. -/
theorem ne_nil_of_sanitize (shown : Filename.sanitize value ≠ []) : value ≠ [] := by
  rintro rfl
  exact shown rfl

/-- A value without blanks at its ends stays hidden. -/
theorem staysHidden_of_stripped (stripped : Text.strip value = value) : StaysHidden value := by
  intro shown origin recording mayBlock generator rendering target publishes rendered sensitive
    member
  refine ⟨publishes.redacted_eq, fun actions => ?_⟩
  have knows := publishes.knows rendered sensitive member (ne_nil_of_sanitize shown)
  rw [Filename.sanitize_eq_withoutSeparators_strip, stripped]
  exact (Generator.remembers_run actions generator _ knows).hides _

/-- The number of a handle in which it is encoded. -/
theorem Handle.phoneNumber?_encoded (nonempty : value ≠ []) :
    Handle.phoneNumber? (Handle.ofNumber (Text.Percent.encode value)) = some value := by
  simp [Handle.phoneNumber?_ofNumber, Text.Percent.decode_encode, nonempty]

/-- The reference that is answered by numbers. -/
def numberReference : Reference := ⟨Variable.phoneNumber.name, none⟩

theorem numberReference_sensitive : Sensitive numberReference :=
  .inl (Variable.ofName?_name .phoneNumber)

theorem isNormal_numberReference : IsNormal [.reference numberReference] :=
  IsNormal.nil.reference_of_stripped (by decide) (by decide)

namespace Origin

/-- A call from a number, whose recording is named by nothing else. -/
def ofNumber (number : Text) : Origin where
  templateText := some (Template.print ⟨[.reference numberReference]⟩)
  zone := .utc
  directory := .absent
  parent := { Details.ofMillis 0 with
    handle := some (Handle.ofNumber (Text.Percent.encode number)) }
  children := []

/-- The template is read as it was printed. -/
theorem choice_ofNumber (number : Text) :
    (ofNumber number).recording.choice = .custom ⟨[.reference numberReference]⟩ := by
  rw [recording_choice, ofNumber, TemplateChoice.load]
  simp only [isNormal_numberReference.parse_print]

/-- A single party has no other number to be joined with. -/
theorem joinDistinct_ofNumber (nonempty : value ≠ []) (mayBlock : Bool) :
    joinDistinct (((ofNumber value).recording.context mayBlock).parties.map
      Details.phoneNumber?) = value := by
  have alone : ((ofNumber value).recording.context mayBlock).parties = [(ofNumber value).parent] :=
    rfl
  have number : (ofNumber value).parent.phoneNumber? = some value := by
    rw [Details.phoneNumber?, ofNumber, Option.bind_some]
    exact Handle.phoneNumber?_encoded nonempty
  rw [alone, List.map_singleton, number]
  simp [joinDistinct, nonempty, List.eraseDups_cons, Text.join]

end Origin

/-- A number is answered as it is, and handed out. -/
theorem runOn_resolveNumber {zone : Zone} {context : Context} (nonempty : value ≠ [])
    (number : joinDistinct (context.parties.map Details.phoneNumber?) = value) (session : Session) :
    runOn (resolve zone context numberReference) session =
      (.ok (some value), { session with
        redactor := handedOut session.redactor value
          (if context.isConference then "<conference phone numbers>".text
            else "<phone number>".text) }) := by
  have named : Variable.ofName? numberReference.name = some .phoneNumber :=
    Variable.ofName?_name .phoneNumber
  rw [resolve, named, ← runOn_handOut nonempty, ← number]
  rfl

/-- The recording of a call from a number is named by it, and nothing else is registered. -/
theorem exists_publishes_ofNumber (nonempty : value ≠ []) :
    ∃ recording generator, Publishes (.ofNumber value) recording false generator ∧
      (recording.rendering false).1 = .ok [(.reference numberReference, value)] ∧
      generator.publication.value = Filename.sanitize value ∧
      ∀ source placeholder,
        generator.recording.session.redactor.register.get? source = some placeholder →
          (source = value ∨ source = Filename.withoutSeparators value) ∧
            placeholder = "<phone number>".text := by
  have answered := @runOn_resolveNumber value (Origin.ofNumber value).recording.zone _ nonempty
    (Origin.joinDistinct_ofNumber nonempty false) (Origin.ofNumber value).recording.session
  have rendered : runOn (renderSegments (resolve (Origin.ofNumber value).recording.zone
      ((Origin.ofNumber value).recording.context false)) [.reference numberReference])
      (Origin.ofNumber value).recording.session = (.ok [(.reference numberReference, value)], _) :=
    runOn_render_reference.2 ⟨some value, _, [], answered, rfl, rfl⟩
  obtain ⟨attempt, made⟩ :=
    Recording.rendering_of_custom (Origin.choice_ofNumber value) rendered
  obtain ⟨log, published⟩ := Recording.publish_of_rendered made
  have text : Rendering.text [(.reference numberReference, value)] = value := by simp
  refine ⟨_, _, .of_published .start published, ?_, ?_, ?_⟩
  · rw [made]
  · rw [Generator.publishing_publication, attempt]
    exact congrArg Filename.sanitize text
  · intro source placeholder found
    rw [Generator.publishing_recording] at found
    rcases get?_of_handedOut found with earlier | known
    · rw [Origin.recording_redactor] at earlier
      cases earlier
    · exact known

/-- A number with blanks at its ends shows in the filename that it makes, once its own
placeholders are taken away. -/
theorem stripped_of_staysHidden (hidden : StaysHidden value)
    (shown : Filename.sanitize value ≠ []) : Text.strip value = value := by
  apply Classical.byContradiction
  intro strippable
  have width (text : Text) : (Filename.withoutSeparators text).length = text.length := by
    rw [Filename.withoutSeparators_eq_map, List.length_map]
  have shorter : (Filename.sanitize value).length < value.length := by
    rw [Filename.sanitize_eq_withoutSeparators_strip, width]
    exact Text.length_strip_lt strippable
  obtain ⟨recording, generator, publishes, rendered, name, only⟩ :=
    exists_publishes_ofNumber (ne_nil_of_sanitize shown)
  have hides := (hidden shown _ _ _ _ _ numberReference publishes rendered
    numberReference_sensitive (List.mem_singleton_self _)).2
    [.redaction value [], .redaction (Filename.withoutSeparators value) []]
  rw [name] at hides
  refine Redactor.not_hides_of_emptied ?_ shorter ((width value).symm ▸ shorter) hides
  rintro source ⟨placeholder, found⟩
  exact (only source placeholder found).1

/-- What a sensitive reference stands for stays hidden, in every filename and in every later
state of the redactions, exactly if it has no blanks at its ends or is blank throughout. The
names of callers and contacts never have any, so that only a number can show. -/
theorem staysHidden_iff_stripped (value : Text) :
    (StaysHidden value ↔ (Filename.sanitize value ≠ [] → Text.strip value = value)) ∧
      ∀ recording mayBlock rendering target,
        (Recording.rendering mayBlock recording).1 = .ok rendering →
        (.reference target, value) ∈ rendering →
        (Variable.ofName? target.name = some .callerName ∨
          Variable.ofName? target.name = some .contactName) →
        Text.strip value = value := by
  refine ⟨⟨stripped_of_staysHidden, ?_⟩, ?_⟩
  · intro stripped shown
    exact staysHidden_of_stripped (stripped shown) shown
  · intro recording mayBlock rendering target rendered member named
    cases ran : recording.rendering mayBlock with
    | mk result behind =>
        rw [ran] at rendered
        cases rendered
        obtain ⟨answer, first, second, answered, shape, _⟩ :=
          answer_of_mem_rendering Remembers.drift (fun other _ => Remembers.keeps_resolve
            recording.zone (recording.context mayBlock) other) ran member
        rw [shape]
        exact strip_of_names named answered

/-- The number of a call that begins with a blank: it shows when the filename is published, as
only the longer text with the blank in front has been registered. -/
theorem spaced_number_shows :
    (∃ recording generator, Publishes (.ofNumber [' ', '5', '5', '5']) recording false generator ∧
      (recording.rendering false).1 =
        .ok [(.reference numberReference, [' ', '5', '5', '5'])] ∧
      generator.publication.value = [CodePoint.scalar '5', '5', '5'] ∧
      generator.publication.redacted = [CodePoint.scalar '5', '5', '5']) ∧
    ¬ ∀ value, StaysHidden value := by
  obtain ⟨recording, generator, publishes, rendered, name, only⟩ :=
    @exists_publishes_ofNumber [' ', '5', '5', '5'] (List.cons_ne_nil _ _)
  have number : Filename.sanitize [' ', '5', '5', '5'] =
      [CodePoint.scalar '5', '5', '5'] := by decide
  have shown : Filename.sanitize [' ', '5', '5', '5'] ≠ [] := by
    rw [number]
    exact List.cons_ne_nil _ _
  rw [number] at name
  have spans : generator.recording.session.redactor.spans ['5', '5', '5'] =
      [.clear ['5', '5', '5']] := by
    refine Redactor.spans_of_short ?_
    intro source placeholder found
    obtain ⟨known, rfl⟩ := only source placeholder found
    refine ⟨?_, .inr (by decide)⟩
    rcases known with rfl | rfl
    · decide
    · decide
  refine ⟨⟨recording, generator, publishes, rendered, name, ?_⟩, ?_⟩
  · rw [publishes.redacted_eq, name, Redactor.redact, spans]
    rfl
  · intro hidden
    have hides := (hidden _ shown _ _ _ _ _ numberReference publishes rendered
      numberReference_sensitive (List.mem_singleton_self _)).2 []
    rw [number, name] at hides
    refine hides ['5', '5', '5'] ?_ List.infix_rfl
    rw [Generator.run_nil, spans]
    exact List.mem_singleton_self _

end RecordingName
