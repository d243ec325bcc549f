import RecordingName.Generator
import RecordingName.Proofs.Naming.Rendering

/-!
# Publishing the filename of a recording

A filename is made by one rendering, which starts anew with the standard template if the
custom one fails. `publish_of_rendered` and `publish_of_failed` say what publishing does
with that rendering. The locations that a filename is issued with are those of the dates in the
template that it was made from, by `issue_eq`.
-/

namespace RecordingName

open Naming Template

/-- A filename with the locations at which dates are read when it has been published. -/
def Publication.issued (publication : Publication) : Publication × List Location :=
  (publication, publication.template.dateLocations)

/-- The filename that a rendering of a template makes under the redactions behind it. -/
def Publication.ofRendering (template : Template) (rendering : Rendering) (redactor : Redactor) :
    Publication :=
  ⟨template, Filename.sanitize rendering.text, redactor.redact (Filename.sanitize rendering.text)⟩

namespace Recording

/-- Make the filename of a recording. -/
def publish (mayBlock : Bool) (recording : Recording) : Except Fault Publication × Recording :=
  Prod.map (Except.map Prod.fst) id (recording.issue mayBlock)

/-- Evaluating a template is rendering it and making a filename of the rendering. -/
theorem runOn_evaluate (template : Template) (zone : Zone) (context : Context) (session : Session) :
    runOn (evaluate template zone context) session =
      match runOn (renderSegments (resolve zone context) template.segments) session with
      | (.ok rendering, behind) =>
          (.ok (Publication.ofRendering template rendering behind.redactor), behind)
      | (.error fault, behind) => (.error fault, behind) := by
  unfold evaluate Template.evaluate
  rw [evaluateSegments_eq_render, map_eq_pure_bind, bind_assoc, runOn_bind]
  cases ran : runOn (renderSegments (resolve zone context) template.segments) session with
  | mk result behind =>
      cases result with
      | ok rendering => rfl
      | error fault => rfl

/-- A template is evaluated with the locations of its dates. -/
theorem runOn_evaluate_located (template : Template) (zone : Zone) (context : Context)
    (session : Session) :
    runOn (evaluate template zone context >>= fun publication =>
        pure (publication, template.dateLocations)) session =
      match runOn (renderSegments (resolve zone context) template.segments) session with
      | (.ok rendering, behind) =>
          (.ok (Publication.ofRendering template rendering behind.redactor).issued, behind)
      | (.error fault, behind) => (.error fault, behind) := by
  rw [runOn_bind, runOn_evaluate]
  cases ran : runOn (renderSegments (resolve zone context) template.segments) session with
  | mk result behind =>
      cases result with
      | ok rendering => rfl
      | error fault => rfl

/-- The template that is evaluated last to make the filename of a recording, and the session
that its evaluation starts on. -/
def lastAttempt (mayBlock : Bool) (recording : Recording) : Template × Session :=
  match recording.choice with
  | .standard => (Template.standard, recording.session)
  | .custom template =>
      match runOn (evaluate template recording.zone (recording.context mayBlock))
        recording.session with
      | (.ok _, _) => (template, recording.session)
      | (.error _, behind) =>
          (Template.standard, { behind with
            log := behind.log ++ [⟨.warning, .generator,
              "Failed to evaluate custom template: ".text ++ template.print⟩] })

/-- The rendering that makes the filename of a recording. -/
def rendering (mayBlock : Bool) (recording : Recording) : Except Fault Rendering × Session :=
  runOn (renderSegments (resolve recording.zone (recording.context mayBlock))
    (recording.lastAttempt mayBlock).1.segments) (recording.lastAttempt mayBlock).2

/-- The chosen template is evaluated by the last attempt. -/
theorem runOn_evaluateChoice (mayBlock : Bool) (recording : Recording) :
    runOn (evaluateChoice recording.choice recording.zone (recording.context mayBlock))
        recording.session =
      match recording.rendering mayBlock with
      | (.ok rendering, behind) =>
          (.ok (Publication.ofRendering (recording.lastAttempt mayBlock).1 rendering
            behind.redactor).issued, behind)
      | (.error fault, behind) => (.error fault, behind) := by
  unfold rendering lastAttempt
  cases recording.choice with
  | standard => exact runOn_evaluate_located ..
  | custom template =>
      simp only [evaluateChoice]
      rw [runOn_tryCatch, runOn_evaluate_located, runOn_evaluate]
      cases ran : runOn (renderSegments (resolve recording.zone (recording.context mayBlock))
          template.segments) recording.session with
      | mk result behind =>
          cases result with
          | ok rendering =>
              dsimp only
              rw [ran]
          | error fault =>
              dsimp only
              rw [runOn_bind, runOn_report]
              exact runOn_evaluate_located ..

/-- Issuing a filename is evaluating the chosen template and reporting the filename. -/
theorem issue_eq_runOn (mayBlock : Bool) (recording : Recording) :
    recording.issue mayBlock =
      Prod.map id (fun session => { recording with session })
        (runOn (evaluateChoice recording.choice recording.zone (recording.context mayBlock) >>=
          fun issued =>
            report .info .generator ("Updated filename: ".text ++ issued.1.redacted) >>=
              fun _ => pure issued) recording.session) :=
  rfl

/-- A rendering is issued under the redactions behind it, with the locations of the dates in its
template. -/
theorem issue_of_rendered {mayBlock : Bool} {recording : Recording} {rendering : Rendering}
    {behind : Session} (rendered : recording.rendering mayBlock = (.ok rendering, behind)) :
    ∃ log, recording.issue mayBlock =
      (.ok (Publication.ofRendering (recording.lastAttempt mayBlock).1 rendering
        behind.redactor).issued, { recording with session := { behind with log } }) := by
  have chosen := runOn_evaluateChoice mayBlock recording
  rw [rendered] at chosen
  rw [issue_eq_runOn, runOn_bind, chosen]
  exact ⟨_, rfl⟩

/-- A failed rendering issues nothing. -/
theorem issue_of_failed {mayBlock : Bool} {recording : Recording} {fault : Fault}
    {behind : Session} (failed : recording.rendering mayBlock = (.error fault, behind)) :
    recording.issue mayBlock = (.error fault, { recording with session := behind }) := by
  have chosen := runOn_evaluateChoice mayBlock recording
  rw [failed] at chosen
  rw [issue_eq_runOn, runOn_bind, chosen]
  rfl

/-- What is issued is what is published, with the locations of the dates in the template that it
was made from. -/
theorem issue_eq (mayBlock : Bool) (recording : Recording) :
    recording.issue mayBlock =
      Prod.map (Except.map Publication.issued) id (recording.publish mayBlock) := by
  unfold publish
  cases ran : recording.rendering mayBlock with
  | mk result behind =>
      cases result with
      | ok rendering =>
          obtain ⟨log, issued⟩ := issue_of_rendered ran
          rw [issued]
          rfl
      | error fault =>
          rw [issue_of_failed ran]
          rfl

/-- A rendering is published under the redactions behind it. -/
theorem publish_of_rendered {mayBlock : Bool} {recording : Recording} {rendering : Rendering}
    {behind : Session} (rendered : recording.rendering mayBlock = (.ok rendering, behind)) :
    ∃ log, recording.publish mayBlock =
      (.ok (Publication.ofRendering (recording.lastAttempt mayBlock).1 rendering behind.redactor),
        { recording with session := { behind with log } }) := by
  obtain ⟨log, issued⟩ := issue_of_rendered rendered
  rw [publish, issued]
  exact ⟨log, rfl⟩

/-- A failed rendering publishes nothing. -/
theorem publish_of_failed {mayBlock : Bool} {recording : Recording} {fault : Fault}
    {behind : Session} (failed : recording.rendering mayBlock = (.error fault, behind)) :
    recording.publish mayBlock = (.error fault, { recording with session := behind }) := by
  rw [publish, issue_of_failed failed]
  rfl

/-- Publishing succeeds exactly when the rendering does, and publishes what it makes. -/
theorem publish_eq_ok {mayBlock : Bool} {recording after : Recording} {publication : Publication}
    (published : recording.publish mayBlock = (.ok publication, after)) :
    ∃ rendering behind log, recording.rendering mayBlock = (.ok rendering, behind) ∧
      publication = Publication.ofRendering (recording.lastAttempt mayBlock).1 rendering
        behind.redactor ∧
      after = { recording with session := { behind with log } } := by
  cases ran : recording.rendering mayBlock with
  | mk result behind =>
      cases result with
      | ok rendering =>
          obtain ⟨log, made⟩ := publish_of_rendered ran
          rw [made] at published
          cases published
          exact ⟨rendering, behind, log, rfl, rfl, rfl⟩
      | error fault =>
          rw [publish_of_failed ran] at published
          cases published

/-- A custom template that can be rendered makes the filename. -/
theorem rendering_of_custom {mayBlock : Bool} {recording : Recording} {template : Template}
    {rendered : Rendering} {behind : Session} (chosen : recording.choice = .custom template)
    (ran : runOn (renderSegments (resolve recording.zone (recording.context mayBlock))
      template.segments) recording.session = (.ok rendered, behind)) :
    recording.lastAttempt mayBlock = (template, recording.session) ∧
      recording.rendering mayBlock = (.ok rendered, behind) := by
  have attempt : recording.lastAttempt mayBlock = (template, recording.session) := by
    unfold lastAttempt
    rw [chosen]
    dsimp only
    rw [runOn_evaluate, ran]
  refine ⟨attempt, ?_⟩
  rw [rendering, attempt]
  exact ran

/-- Without a custom template, the standard one is evaluated at once. -/
theorem lastAttempt_of_standard {mayBlock : Bool} {recording : Recording}
    (chosen : recording.choice = .standard) :
    recording.lastAttempt mayBlock = (Template.standard, recording.session) := by
  rw [lastAttempt, chosen]

/-- A custom template that cannot be rendered gives way to the standard one, which starts on what
it has left behind. -/
theorem lastAttempt_of_failed {mayBlock : Bool} {recording : Recording} {template : Template}
    {fault : Fault} {behind : Session} (chosen : recording.choice = .custom template)
    (failed : runOn (renderSegments (resolve recording.zone (recording.context mayBlock))
      template.segments) recording.session = (.error fault, behind)) :
    ∃ log, recording.lastAttempt mayBlock = (Template.standard, { behind with log }) := by
  unfold lastAttempt
  rw [chosen]
  dsimp only
  rw [runOn_evaluate, failed]
  exact ⟨_, rfl⟩

/-- The template that is evaluated last is the chosen one or the standard one. -/
theorem lastAttempt_template (mayBlock : Bool) (recording : Recording) :
    (recording.lastAttempt mayBlock).1 = recording.choice.template ∨
      (recording.lastAttempt mayBlock).1 = Template.standard := by
  unfold lastAttempt
  split
  · exact .inr rfl
  next template chosen =>
    rw [chosen]
    split
    · exact .inl rfl
    · exact .inr rfl

section Kept

variable {relation : Session → Session → Prop} (drift : Drift relation)
include drift

/-- What every answer of a template keeps is kept by its evaluation. -/
theorem keeps_evaluate {template : Template} {zone : Zone} {context : Context}
    (each : ∀ target, .reference target ∈ template.segments →
      Keeps relation (resolve zone context target)) :
    Keeps relation (evaluate template zone context) := by
  intro session
  have rendered := Keeps.render drift template.segments each session
  rw [runOn_evaluate]
  split
  next rendering behind ran =>
    rw [ran] at rendered
    exact rendered
  next fault behind ran =>
    rw [ran] at rendered
    exact rendered

variable (mayBlock : Bool) (recording : Recording)
  (each : ∀ template, template = recording.choice.template ∨ template = Template.standard →
    ∀ target, .reference target ∈ template.segments →
      Keeps relation (resolve recording.zone (recording.context mayBlock) target))
include each

/-- What every answer keeps, a failed attempt with a custom template keeps. -/
theorem lastAttempt_kept : relation recording.session (recording.lastAttempt mayBlock).2 := by
  unfold lastAttempt
  split
  · exact drift.refl _
  next template chosen =>
    have attempted := keeps_evaluate drift (each template (.inl (by rw [chosen]; rfl)))
      recording.session
    split
    · exact drift.refl _
    next fault behind ran =>
      rw [ran] at attempted
      exact drift.trans attempted (drift.report _ _)

/-- What every answer keeps, publishing keeps. -/
theorem publish_kept : relation recording.session (recording.publish mayBlock).2.session := by
  have before := lastAttempt_kept drift mayBlock recording each
  have rendered := Keeps.render drift (recording.lastAttempt mayBlock).1.segments
    (each _ (lastAttempt_template mayBlock recording)) (recording.lastAttempt mayBlock).2
  cases ran : recording.rendering mayBlock with
  | mk result behind =>
      have behind_eq := congrArg Prod.snd ran
      rw [rendering] at behind_eq
      rw [behind_eq] at rendered
      cases result with
      | ok rendering =>
          obtain ⟨log, published⟩ := publish_of_rendered ran
          rw [published]
          exact drift.trans (drift.trans before rendered) (drift.report _ _)
      | error fault =>
          rw [publish_of_failed ran]
          exact drift.trans before rendered

end Kept
end Recording
end RecordingName
