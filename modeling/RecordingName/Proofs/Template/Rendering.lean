import RecordingName.Template.Basic

/-!
# Renderings

A rendering keeps the segments of a template apart, each with the text that it is
rendered as. `evaluateSegments_eq_render` says that evaluating a template is rendering
it and putting the texts one behind the other.
-/

namespace RecordingName

/-- The segments of a template, each with the text that it is rendered as. -/
abbrev Rendering := List (Segment × Text)

namespace Rendering

/-- The rendered text. -/
def text (rendering : Rendering) : Text :=
  rendering.flatMap (·.2)

@[simp] theorem text_nil : text [] = [] := rfl

@[simp] theorem text_cons (entry : Segment × Text) (rendering : Rendering) :
    text (entry :: rendering) = entry.2 ++ text rendering := rfl

theorem text_append (first second : Rendering) :
    text (first ++ second) = text first ++ text second :=
  List.flatMap_append

end Rendering

namespace Template

variable {m : Type → Type} [Monad m]

/-- Render segments from left to right, each reference answered exactly once. -/
def renderSegments (answer : Reference → m (Option Text)) : List Segment → m Rendering
  | [] => pure []
  | .literal text :: rest => do
      let following ← renderSegments answer rest
      pure ((.literal text, text) :: following)
  | .reference target :: rest => do
      let value ← answer target
      let following ← renderSegments answer rest
      pure ((.reference target, value.getD []) :: following)

/-- The evaluation of segments is the text of their rendering. -/
theorem evaluateSegments_eq_render [LawfulMonad m] (answer : Reference → m (Option Text))
    (segments : List Segment) :
    evaluateSegments answer segments = Rendering.text <$> renderSegments answer segments := by
  induction segments with
  | nil => simp [evaluateSegments, renderSegments]
  | cons segment rest ih =>
      cases segment with
      | literal text => simp [evaluateSegments, renderSegments, ih]
      | reference target => simp [evaluateSegments, renderSegments, ih]

/-- Segments in two halves are rendered one half behind the other. -/
theorem renderSegments_append [LawfulMonad m] (answer : Reference → m (Option Text))
    (first second : List Segment) :
    renderSegments answer (first ++ second) =
      (renderSegments answer first >>= fun before =>
        renderSegments answer second >>= fun following => pure (before ++ following)) := by
  induction first with
  | nil => simp [renderSegments]
  | cons segment rest ih =>
      cases segment with
      | literal text => simp [renderSegments, ih]
      | reference target => simp [renderSegments, ih]

end Template
end RecordingName
