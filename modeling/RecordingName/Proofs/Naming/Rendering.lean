import RecordingName.Proofs.Naming.Evaluation
import RecordingName.Proofs.Template.Rendering

/-!
# Renderings on a session

How a template is rendered on a session: `runOn_render_literal` and
`runOn_render_reference` take off the first segment. A relation that every answer keeps
is kept by the whole rendering, by `Keeps.render`; `answer_of_mem_rendering` finds the
answer behind a rendered reference.
-/

namespace RecordingName.Naming

open Template

variable {answer : Reference → Evaluation (Option Text)} {rest : List Segment}
  {session behind : Session} {rendering : Rendering}

theorem runOn_render_nil :
    runOn (renderSegments answer []) session = (.ok rendering, behind) ↔
      rendering = [] ∧ behind = session := by
  constructor
  · intro rendered
    cases rendered
    exact ⟨rfl, rfl⟩
  · rintro ⟨rfl, rfl⟩
    rfl

/-- A literal is rendered as itself. -/
theorem runOn_render_literal {text : Text} :
    runOn (renderSegments answer (.literal text :: rest)) session = (.ok rendering, behind) ↔
      ∃ following, runOn (renderSegments answer rest) session = (.ok following, behind) ∧
        rendering = (.literal text, text) :: following := by
  rw [renderSegments, runOn_bind_eq_ok]
  constructor
  · rintro ⟨following, middle, rendered, done⟩
    cases done
    exact ⟨following, rendered, rfl⟩
  · rintro ⟨following, rendered, rfl⟩
    exact ⟨following, behind, rendered, rfl⟩

/-- A reference is rendered as its answer, on the session behind which the rest follows. -/
theorem runOn_render_reference {target : Reference} :
    runOn (renderSegments answer (.reference target :: rest)) session = (.ok rendering, behind) ↔
      ∃ value middle following, runOn (answer target) session = (.ok value, middle) ∧
        runOn (renderSegments answer rest) middle = (.ok following, behind) ∧
        rendering = (.reference target, value.getD []) :: following := by
  rw [renderSegments, runOn_bind_eq_ok]
  constructor
  · rintro ⟨value, middle, answered, rendered⟩
    obtain ⟨following, last, rendered, done⟩ := runOn_bind_eq_ok.1 rendered
    cases done
    exact ⟨value, middle, following, answered, rendered, rfl⟩
  · rintro ⟨value, middle, following, answered, rendered, rfl⟩
    exact ⟨value, middle, answered, runOn_bind_eq_ok.2 ⟨following, behind, rendered, rfl⟩⟩

/-- A rendering keeps to the segments. -/
theorem segments_of_render {segments : List Segment}
    (rendered : runOn (renderSegments answer segments) session = (.ok rendering, behind)) :
    rendering.map (·.1) = segments := by
  induction segments generalizing session rendering with
  | nil =>
      obtain ⟨rfl, _⟩ := runOn_render_nil.1 rendered
      rfl
  | cons segment rest ih =>
      cases segment with
      | literal text =>
          obtain ⟨following, after_head, rfl⟩ := runOn_render_literal.1 rendered
          exact congrArg _ (ih after_head)
      | reference target =>
          obtain ⟨value, middle, following, _, after_head, rfl⟩ := runOn_render_reference.1 rendered
          exact congrArg _ (ih after_head)

/-- Segments in two halves are rendered one half behind the other. -/
theorem runOn_render_append {first second : List Segment} :
    runOn (renderSegments answer (first ++ second)) session = (.ok rendering, behind) ↔
      ∃ before middle following,
        runOn (renderSegments answer first) session = (.ok before, middle) ∧
        runOn (renderSegments answer second) middle = (.ok following, behind) ∧
        rendering = before ++ following := by
  rw [renderSegments_append, runOn_bind_eq_ok]
  constructor
  · rintro ⟨before, middle, front, rendered⟩
    obtain ⟨following, last, back, done⟩ := runOn_bind_eq_ok.1 rendered
    cases done
    exact ⟨before, middle, following, front, back, rfl⟩
  · rintro ⟨before, middle, following, front, back, rfl⟩
    exact ⟨before, middle, front, runOn_bind_eq_ok.2 ⟨following, behind, back, rfl⟩⟩

/-- A rendering fails at a reference that has no answer when all before it has been rendered. -/
theorem runOn_render_eq_error {segments : List Segment} {fault : Fault} :
    runOn (renderSegments answer segments) session = (.error fault, behind) ↔
      ∃ front target back before middle, segments = front ++ .reference target :: back ∧
        runOn (renderSegments answer front) session = (.ok before, middle) ∧
        runOn (answer target) middle = (.error fault, behind) := by
  constructor
  · intro failed
    induction segments generalizing session with
    | nil => cases failed
    | cons segment rest ih =>
        cases segment with
        | literal text =>
            rw [renderSegments, runOn_bind_eq_error] at failed
            rcases failed with later | ⟨following, middle, _, done⟩
            · obtain ⟨front, target, back, before, middle, rfl, rendered, unanswered⟩ := ih later
              exact ⟨.literal text :: front, target, back, _, middle, rfl,
                runOn_render_literal.2 ⟨before, rendered, rfl⟩, unanswered⟩
            · cases done
        | reference head =>
            rw [renderSegments, runOn_bind_eq_error] at failed
            rcases failed with here | ⟨value, start, answered, failed⟩
            · exact ⟨[], head, rest, [], session, rfl, rfl, here⟩
            rcases runOn_bind_eq_error.1 failed with later | ⟨following, middle, _, done⟩
            · obtain ⟨front, target, back, before, middle, rfl, rendered, unanswered⟩ := ih later
              exact ⟨.reference head :: front, target, back, _, middle, rfl,
                runOn_render_reference.2 ⟨value, start, before, answered, rendered, rfl⟩,
                unanswered⟩
            · cases done
  · rintro ⟨front, target, back, before, middle, rfl, rendered, unanswered⟩
    rw [renderSegments_append]
    refine runOn_bind_eq_error.2 (.inr ⟨before, middle, rendered, ?_⟩)
    refine runOn_bind_eq_error.2 (.inl ?_)
    exact runOn_bind_eq_error.2 (.inl unanswered)

/-- What holds of all answers holds of the rendering. -/
theorem Composable.render {holds : ∀ α : Type, Evaluation α → Prop} (composable : Composable holds)
    (segments : List Segment)
    (each : ∀ target, .reference target ∈ segments → holds (Option Text) (answer target)) :
    holds Rendering (renderSegments answer segments) := by
  induction segments with
  | nil => exact composable.pure _
  | cons segment rest ih =>
      have later := ih fun target member => each target (List.mem_cons_of_mem _ member)
      cases segment with
      | literal text => exact composable.bind later fun _ => composable.pure _
      | reference target =>
          refine composable.bind (each target (List.mem_cons_self ..)) fun _ => ?_
          exact composable.bind later fun _ => composable.pure _

/-- A rendering keeps what all answers keep. -/
theorem Keeps.render {relation : Session → Session → Prop} (drift : Drift relation)
    (segments : List Segment)
    (each : ∀ target, .reference target ∈ segments → Keeps relation (answer target)) :
    Keeps relation (renderSegments answer segments) :=
  (Keeps.composable drift).render segments each

/-- A reference in a rendering has been answered with its text, somewhere between the session
before the rendering and the session behind it. -/
theorem answer_of_mem_rendering {relation : Session → Session → Prop} (drift : Drift relation)
    {segments : List Segment}
    (each : ∀ target, .reference target ∈ segments → Keeps relation (answer target))
    (rendered : runOn (renderSegments answer segments) session = (.ok rendering, behind))
    {target : Reference} {text : Text} (member : (.reference target, text) ∈ rendering) :
    ∃ value first second, runOn (answer target) first = (.ok value, second) ∧
      text = value.getD [] ∧ relation session first ∧ relation second behind := by
  induction segments generalizing session rendering with
  | nil =>
      obtain ⟨rfl, _⟩ := runOn_render_nil.1 rendered
      cases member
  | cons segment rest ih =>
      have later := fun target member => each target (List.mem_cons_of_mem segment member)
      cases segment with
      | literal literal =>
          obtain ⟨following, after_head, rfl⟩ := runOn_render_literal.1 rendered
          rcases List.mem_cons.1 member with head | tail
          · cases head
          · exact ih later after_head tail
      | reference first_target =>
          obtain ⟨value, middle, following, answered, after_head, rfl⟩ :=
            runOn_render_reference.1 rendered
          rcases List.mem_cons.1 member with head | tail
          · cases head
            have behind_rest := Keeps.render drift rest later middle
            rw [after_head] at behind_rest
            exact ⟨value, session, middle, answered, rfl, drift.refl session, behind_rest⟩
          · obtain ⟨found, start, finish, found_answer, shape, before, after⟩ :=
              ih later after_head tail
            have at_head := each first_target (List.mem_cons_self ..) session
            rw [answered] at at_head
            exact ⟨found, start, finish, found_answer, shape, drift.trans at_head before, after⟩

end RecordingName.Naming
