import RecordingName.Text.Basic

/-!
# Filename templates

A template is a sequence of literal texts and references to variables. This
module holds the type, the template that is used when no other is given, and the
evaluation of a template by whatever answers its references.

`evaluateSegments_append` says that evaluation goes through a template from left to
right: a template in two halves is the first half evaluated before the second.
-/

namespace RecordingName

/-- A reference to a variable, with an argument if one is given. An empty
argument differs from none. -/
structure Reference where
  name : Text
  argument : Option Text
  deriving DecidableEq, Repr

/-- One element of a template. -/
inductive Segment where
  | literal (text : Text)
  | reference (target : Reference)
  deriving DecidableEq, Repr

namespace Segment

/-- Put literal text in front of segments, as part of the literal that they start
with if they do. Empty text adds nothing. -/
def joinLiteral (text : Text) (segments : List Segment) : List Segment :=
  match text, segments with
  | [], _ => segments
  | _, .literal following :: rest => .literal (text ++ following) :: rest
  | _, _ => .literal text :: segments

end Segment

/-- A filename template. -/
structure Template where
  segments : List Segment
  deriving DecidableEq, Repr

namespace Template

/-- The template that names a recording by the date, the direction and the phone
number of its call. -/
def standard : Template where
  segments := [
    .reference ⟨"date".text, none⟩, .literal ['_'],
    .reference ⟨"direction".text, none⟩, .literal ['_'],
    .reference ⟨"phone_number".text, none⟩]

variable {m : Type → Type} [Monad m]

/-- Evaluate segments from left to right. Each reference is answered exactly once,
and no answer counts as the empty text. -/
def evaluateSegments (answer : Reference → m (Option Text)) : List Segment → m Text
  | [] => pure []
  | .literal text :: rest => do
      let following ← evaluateSegments answer rest
      pure (text ++ following)
  | .reference target :: rest => do
      let value ← answer target
      let following ← evaluateSegments answer rest
      pure (value.getD [] ++ following)

/-- The text of a template whose references `answer` answers. -/
def evaluate (template : Template) (answer : Reference → m (Option Text)) : m Text :=
  evaluateSegments answer template.segments

/-- Segments in two halves are the first half evaluated before the second. -/
theorem evaluateSegments_append [LawfulMonad m] (answer : Reference → m (Option Text))
    (first second : List Segment) :
    evaluateSegments answer (first ++ second) = (do
      let before ← evaluateSegments answer first
      let behind ← evaluateSegments answer second
      pure (before ++ behind)) := by
  induction first with
  | nil => simp [evaluateSegments]
  | cons segment rest ih =>
      cases segment <;>
        simp only [List.cons_append, evaluateSegments, ih, bind_assoc, pure_bind, List.append_assoc]

end Template
end RecordingName
