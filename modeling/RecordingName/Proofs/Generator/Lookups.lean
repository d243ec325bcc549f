import RecordingName.Proofs.Generator.Publishing
import RecordingName.Proofs.Generator.Run
import RecordingName.Proofs.Naming.Lookups

/-!
# Look-ups of a generator

A generator looks something up only when its filename is made anew by an update that may wait. Such
an update makes the look-ups of the references to the names of contacts that the evaluation of the
chosen template comes to, `Recording.sought`; the standard template in place of a custom one has no
such references. `lookups_perform` says so of every action, and `lookups_exact` of whole runs and of
the names that are found.
-/

namespace RecordingName

open Contacts Naming Template

namespace Recording

/-- The look-ups for a template, evaluated for a call on a session: those of the references that the
evaluation comes to. -/
def soughtBy (template : Template) (zone : Zone) (context : Context) (session : Session) :
    List Lookup :=
  (reached (resolve zone context) template.segments session).flatMap fun come =>
    context.sought come.2.directory come.1

/-- The look-ups of an update that may wait. -/
def sought (recording : Recording) : List Lookup :=
  soughtBy recording.choice.template recording.zone (recording.context true) recording.session

variable {zone : Zone} {context : Context} {session : Session}

/-- The standard template does not ask for the names of contacts. -/
theorem soughtBy_standard : soughtBy Template.standard zone context session = [] := by
  have others : ∀ target, .reference target ∈ Template.standard.segments →
      target.name ≠ Variable.contactName.name := by
    intro target member contact
    have none_there : referencesTo Variable.contactName.name Template.standard.segments = [] := by
      decide
    have there := mem_referencesTo.2 ⟨member, contact⟩
    rw [none_there] at there
    cases there
  refine List.flatMap_eq_nil_iff.2 fun come member => ?_
  exact if_neg fun seeks => others come.1 (mem_of_mem_reached member) seeks.1

/-- Without waiting, nothing is looked up. -/
theorem soughtBy_of_immediate (immediate : context.mayBlock = false) (template : Template) :
    soughtBy template zone context session = [] := by
  refine List.flatMap_eq_nil_iff.2 fun come _ => if_neg ?_
  rintro ⟨_, blocking⟩
  rw [immediate] at blocking
  cases blocking

/-- An evaluation makes the enquiries of the contact names that it comes to. -/
theorem looksUp_evaluate (template : Template) (zone : Zone) (context : Context)
    (session : Session) :
    LooksUp (soughtBy template zone context session) session
      (runOn (evaluate template zone context) session).2 := by
  have rendered := looksUp_render zone context template.segments session
  rw [runOn_evaluate]
  split
  next ran =>
    rw [ran] at rendered
    exact rendered
  next ran =>
    rw [ran] at rendered
    exact rendered

/-- The default template makes none. -/
theorem looksUp_evaluate_standard (zone : Zone) (context : Context) (session : Session) :
    LooksUp [] session (runOn (evaluate Template.standard zone context) session).2 := by
  have evaluated := looksUp_evaluate Template.standard zone context session
  rwa [soughtBy_standard] at evaluated

/-- Whether or not a custom template can be evaluated, only its own look-ups are made. -/
theorem looksUp_evaluateChoice (choice : TemplateChoice) (zone : Zone) (context : Context)
    (session : Session) :
    LooksUp (soughtBy choice.template zone context session) session
      (runOn (evaluateChoice choice zone context) session).2 := by
  cases choice with
  | standard =>
      rw [evaluateChoice, behind_bind_pure]
      exact looksUp_evaluate Template.standard zone context session
  | custom template =>
      have attempted := looksUp_evaluate template zone context session
      rw [← behind_bind_pure _ fun publication => (publication, template.dateLocations)] at attempted
      rw [evaluateChoice, runOn_tryCatch]
      cases ran : runOn (evaluate template zone context >>= fun publication =>
          pure (publication, template.dateLocations)) session with
      | mk result middle =>
          rw [ran] at attempted
          cases result with
          | ok issued => exact attempted
          | error fault =>
              dsimp only
              rw [runOn_bind, runOn_report, behind_bind_pure, ← List.append_nil (soughtBy _ _ _ _)]
              exact (attempted.reported _).trans (looksUp_evaluate_standard zone context _)

/-- Publishing a filename makes the look-ups for the chosen template. -/
theorem looksUp_publish (mayBlock : Bool) (recording : Recording) :
    LooksUp (soughtBy recording.choice.template recording.zone (recording.context mayBlock)
      recording.session) recording.session (recording.publish mayBlock).2.session := by
  have evaluated := looksUp_evaluateChoice recording.choice recording.zone
    (recording.context mayBlock) recording.session
  change LooksUp _ _ (recording.issue mayBlock).2.session
  rw [issue_eq_runOn, runOn_bind]
  cases ran : runOn (evaluateChoice recording.choice recording.zone (recording.context mayBlock))
      recording.session with
  | mk result behind =>
      rw [ran] at evaluated
      cases result with
      | ok issued => exact evaluated.reported _
      | error fault => exact evaluated

/-- An attempt that may wait makes the look-ups that its session leads to. -/
theorem lookups_publish_waiting (recording : Recording) :
    (recording.publish true).2.session.lookups = recording.session.lookups ++ recording.sought :=
  looksUp_publish true recording

/-- An attempt that may not wait makes none. -/
theorem lookups_publish_immediate (recording : Recording) :
    (recording.publish false).2.session.lookups = recording.session.lookups := by
  have published := looksUp_publish false recording
  rwa [soughtBy_of_immediate rfl, LooksUp, List.append_nil] at published

end Recording

namespace Generator

/-- The look-ups that an action leads to. -/
def soughtBy (action : Action) (generator : Generator) : List Lookup :=
  match action with
  | .update true => generator.recording.sought
  | .update false => []
  | .details _ _ => []
  | .parse _ => []
  | .redaction _ _ => []
  | .surroundings _ _ => []

/-- The look-ups that a run of actions leads to, one action after the other. -/
def soughtDuring : List Action → Generator → List Lookup
  | [], _ => []
  | action :: others, generator =>
      generator.soughtBy action ++ soughtDuring others (generator.perform action)

/-- Nor does an update that may not wait. -/
theorem lookups_update_immediate (generator : Generator) :
    (generator.update false).2.recording.session.lookups = generator.recording.session.lookups := by
  rw [update_recording, Recording.lookups_publish_immediate]

/-- Every action makes the look-ups that it leads to. -/
theorem lookups_perform (action : Action) (generator : Generator) :
    (generator.perform action).recording.session.lookups =
      generator.recording.session.lookups ++ generator.soughtBy action := by
  cases action with
  | update mayBlock =>
      cases mayBlock with
      | false =>
          rw [soughtBy, List.append_nil]
          exact generator.lookups_update_immediate
      | true =>
          rw [perform, update_recording, soughtBy]
          exact Recording.lookups_publish_waiting generator.recording
  | details line details =>
      rw [soughtBy, List.append_nil]
      cases line with
      | parent => exact lookups_update_immediate { generator with recording.parent := details }
      | child number =>
          exact lookups_update_immediate { generator with
            recording.children := generator.recording.children.put number details }
      | unrelated => rfl
  | parse name => exact (List.append_nil _).symm
  | redaction source placeholder => exact (List.append_nil _).symm
  | surroundings device directory => exact (List.append_nil _).symm

/-- A run makes the look-ups that its actions lead to. -/
theorem lookups_run (actions : List Action) (generator : Generator) :
    (generator.run actions).recording.session.lookups =
      generator.recording.session.lookups ++ generator.soughtDuring actions := by
  induction actions generalizing generator with
  | nil => exact (List.append_nil _).symm
  | cons action others ih =>
      have behind := ih (generator.perform action)
      rw [lookups_perform, List.append_assoc] at behind
      exact behind

end Generator

/-- A generator looks nothing up for its first filename, not even if that cannot be made. From then
on it makes exactly the look-ups of those of its updates that may wait: for each reference to the
names of contacts that the evaluation comes to, those of the enquiries about the parties. These are
made about one party after the other, and only for one that has a number but no name of its own: for
all such parties if look-ups are always possible, and for none if they never are. A number is looked
up as the address of an internet call if it has an at sign, plain or percent-encoded. Such a
reference is answered with the names that the enquiries give, to which a look-up that fails adds
none: trimmed, without blank ones, each of them once, in the order of the parties, and joined by
commas. It fails if the directory does not tell whether look-ups are possible. -/
theorem lookups_exact (origin : Origin) :
    (origin.recording.publish false).2.session.lookups = [] ∧
    (∀ generator, origin.start = .ok generator → ∀ actions,
      (generator.run actions).recording.session.lookups = generator.soughtDuring actions) ∧
    (∀ number, isSipAddress number = true ↔
      .scalar '@' ∈ number ∨ [CodePoint.scalar '%', '4', '0'] <:+: number) ∧
    (∀ (directory : Directory) parties,
      (∃ front, front <+: parties ∧
        List.Forall₂ Enquiry.About front (directory.enquiries parties).made ∧
        ((directory.enquiries parties).failure = none → front = parties)) ∧
      (directory.Tells (.ok true) →
        (directory.enquiries parties).lookups = parties.filterMap Details.lookup? ∧
          (directory.enquiries parties).failure = none) ∧
      ∀ status, directory.Tells status → status ≠ .ok true →
        (directory.enquiries parties).lookups = []) ∧
    ∀ zone context session target, target.name = Variable.contactName.name →
      context.mayBlock = true →
      (∀ failure, (session.directory.enquiries context.parties).failure = some failure →
        (runOn (resolve zone context target) session).1 = .error (.directory failure)) ∧
      ((session.directory.enquiries context.parties).failure = none →
        ∃ value, (runOn (resolve zone context target) session).1 = .ok value ∧
          value.getD [] = Text.join [','] ((((session.directory.enquiries context.parties).names.map
            Text.strip).filter (· ≠ [])).eraseDups)) := by
  have first := Recording.lookups_publish_immediate origin.recording
  refine ⟨first, fun generator started actions => ?_, isSipAddress_iff, fun directory parties =>
    ⟨directory.about_enquiries parties, fun tells => Directory.lookups_of_configured tells parties,
      fun _ tells closed => Directory.lookups_of_unconfigured tells closed parties⟩, ?_⟩
  · have published := (Origin.publish_of_start started).1
    rw [published] at first
    rw [Generator.lookups_run, first]
    rfl
  · intro zone context session target contact blocking
    obtain ⟨result, behind, ran, _, fails, succeeds⟩ := runOn_resolveContactName blocking session
    rw [resolve_of_contactName contact, ran]
    exact ⟨fails, succeeds⟩

/-- A directory that is always configured, fails the first time that it is asked for a number, and
has one name for all numbers later. -/
def failingOnce : Directory :=
  .given fun count => ⟨.ok true, fun _ _ => if count = 1 then .failed else .found "Bob ".text⟩

/-- The reference to the names of contacts. -/
def contactReference : Reference := ⟨Variable.contactName.name, none⟩

/-- A conference of a call that came with the name of its contact, one whose look-up fails, and one
with the address of an internet call. -/
def mixedConference : Origin where
  templateText := some "\x7bcontact_name\x7d".text
  zone := .utc
  directory := failingOnce
  parent := { Details.ofMillis 0 with isConference := true }
  children := [
    (1, { Details.ofMillis 0 with contactName := some "Ann".text }),
    (2, { Details.ofMillis 0 with handle := some "tel:5".text }),
    (3, { Details.ofMillis 0 with handle := some "tel:6%40x".text })]

/-- The generator of the conference with its first filename. -/
def mixedGenerator : Generator :=
  .publishing (mixedConference.recording.publish false).2
    ⟨⟨[.reference contactReference]⟩, "Ann".text, "<conference contact names>".text⟩

/-- An update that may wait asks for two of the parties, one of them in vain, and the names of the
others are found. -/
theorem lookups_exact_mixed :
    mixedConference.start = .ok mixedGenerator ∧
    (mixedGenerator.run [.update false, .update true]).recording.session.lookups =
      [⟨['5'], false⟩, ⟨"6@x".text, true⟩] ∧
    ∃ value, (runOn (resolve mixedGenerator.recording.zone (mixedGenerator.recording.context true)
        contactReference) mixedGenerator.recording.session).1 = .ok value ∧
      value.getD [] = "Ann,Bob".text := by
  have published : (mixedConference.recording.publish false).1 =
      .ok mixedGenerator.publication := by decide +kernel
  have started : mixedConference.start = .ok mixedGenerator := by
    rw [Origin.start_eq, published]
    rfl
  obtain ⟨_, run, _, _, named⟩ := lookups_exact mixedConference
  have sought : mixedGenerator.soughtDuring [.update false, .update true] =
      [⟨['5'], false⟩, ⟨"6@x".text, true⟩] := by decide +kernel
  obtain ⟨_, told⟩ := named mixedGenerator.recording.zone (mixedGenerator.recording.context true)
    mixedGenerator.recording.session contactReference rfl rfl
  obtain ⟨value, answered, shown⟩ := told (by decide +kernel)
  refine ⟨started, (run mixedGenerator started _).trans sought, value, answered, shown.trans ?_⟩
  decide +kernel

end RecordingName
