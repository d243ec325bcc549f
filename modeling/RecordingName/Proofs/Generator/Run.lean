import RecordingName.Proofs.Generator.Publishing
import RecordingName.Settings

/-!
# Runs of generators

What can happen to a generator, and what it becomes by that. A run starts at an
`Origin`; `Reaches` holds of the generators that the runs from there lead to, and
`Publishes` of those that have just published a filename, which are among them by
`Publishes.reaches`. `Generator.perform_induction` is the case distinction over what an
action does.
-/

namespace RecordingName

/-- What can happen to a generator. -/
inductive Action where
  /-- The filename is made anew. -/
  | update (mayBlock : Bool)
  /-- New details of a call come in. -/
  | details (line : Line) (details : Details)
  /-- A timestamp is read out of a name. -/
  | parse (name : Text)
  /-- Somebody registers a redaction. -/
  | redaction (source placeholder : Text)
  /-- The device and the directory change what they will answer. A device about which nothing
  tells cannot. -/
  | surroundings (device : Device) (directory : Contacts.Directory)

namespace Generator

/-- A generator behind what has happened to it. -/
def perform : Action → Generator → Generator
  | .update mayBlock, generator => (generator.update mayBlock).2
  | .details line details, generator => (generator.updateDetails line details).2
  | .parse name, generator => generator.withLog (generator.readingLog name)
  | .redaction source placeholder, generator =>
      let redactor := generator.recording.session.redactor
      { generator with
        recording.session.redactor := (redactor.add? source placeholder).getD redactor }
  | .surroundings device directory, generator =>
      { generator with
        recording.session := { generator.recording.session.answering device with directory } }

/-- A generator behind a run of actions. -/
def run (actions : List Action) (generator : Generator) : Generator :=
  actions.foldl (fun current action => perform action current) generator

@[simp] theorem run_nil (generator : Generator) : run [] generator = generator := rfl

/-- A generator reads dates where the template has them that its filename was made from. -/
def Located (generator : Generator) : Prop :=
  generator.locations = generator.publication.template.dateLocations

/-- A generator that has just published a filename. -/
def publishing (recording : Recording) (publication : Publication) : Generator :=
  ⟨recording, publication.template.dateLocations, publication⟩

@[simp] theorem publishing_recording (recording : Recording) (publication : Publication) :
    (publishing recording publication).recording = recording := rfl

@[simp] theorem publishing_publication (recording : Recording) (publication : Publication) :
    (publishing recording publication).publication = publication := rfl

end Generator

/-- What a generator is made of: its template if one is set, the surroundings of the call with
what tells about the subscriptions of the device, if there is anything, the details of the call,
and those of the calls that have joined it. The order in which sets are enumerated may be any. -/
structure Origin where
  templateText : Option Text
  zone : Zone
  order : SetOrder := .byOccurrence
  device : Option Device := none
  directory : Contacts.Directory
  parent : Details
  children : List (Nat × Details)

namespace Origin

/-- The recording for which the first filename is made. -/
def recording (origin : Origin) : Recording where
  choice := (TemplateChoice.load origin.templateText).1
  zone := origin.zone
  isConference := origin.parent.isConference
  parent := origin.parent
  children := (if origin.parent.isConference then origin.children else []).foldl
    (fun register child => register.put child.1 child.2) .empty
  session := { Naming.Session.start origin.order origin.device origin.directory with
    log := (TemplateChoice.load origin.templateText).2 ++ [⟨.info, .generator,
      "Filename template: ".text ++
        (TemplateChoice.load origin.templateText).1.template.print⟩] }

theorem recording_choice (origin : Origin) :
    origin.recording.choice = (TemplateChoice.load origin.templateText).1 := rfl

theorem recording_redactor (origin : Origin) :
    origin.recording.session.redactor = .empty origin.order := rfl

/-- The generator with its first filename. -/
def start (origin : Origin) : Except Naming.Fault Generator :=
  (Generator.start origin.templateText origin.zone origin.order origin.device origin.directory
    origin.parent origin.children).1

/-- Starting a generator is publishing the first filename. -/
theorem start_eq (origin : Origin) :
    origin.start = (origin.recording.publish false).1.map fun publication =>
      .publishing (origin.recording.publish false).2 publication := by
  change (origin.recording.issue false).1.map
    (fun issued => Generator.mk (origin.recording.issue false).2 issued.2 issued.1) = _
  rw [Recording.issue_eq]
  cases origin.recording.publish false with
  | mk result after => cases result <;> rfl

/-- A generator starts by publishing what it shows, with the dates where its template has them. -/
theorem publish_of_start {origin : Origin} {generator : Generator}
    (started : origin.start = .ok generator) :
    origin.recording.publish false = (.ok generator.publication, generator.recording) ∧
      generator.Located := by
  rw [start_eq] at started
  cases made : (origin.recording.publish false).1 with
  | ok publication =>
      rw [made] at started
      cases started
      exact ⟨Prod.ext made rfl, rfl⟩
  | error fault =>
      rw [made] at started
      cases started

/-- The first filename changes the session alone. -/
theorem recording_of_start {origin : Origin} {generator : Generator}
    (started : origin.start = .ok generator) :
    ∃ session, generator.recording = { origin.recording with session } := by
  have made : (origin.recording.publish false).2 = generator.recording :=
    congrArg Prod.snd (publish_of_start started).1
  rw [← made]
  exact ⟨_, rfl⟩

end Origin

/-- The generators that a run from an origin leads to. -/
inductive Reaches (origin : Origin) : Generator → Prop where
  | start {generator} (started : origin.start = .ok generator) : Reaches origin generator
  | step {generator} (prior : Reaches origin generator) (action : Action) :
      Reaches origin (generator.perform action)

/-- A run leads from one generator of an origin to another. -/
theorem Reaches.run {origin : Origin} (actions : List Action) {generator : Generator}
    (reached : Reaches origin generator) : Reaches origin (generator.run actions) := by
  induction actions generalizing generator with
  | nil => exact reached
  | cons action others inductionHypothesis => exact inductionHypothesis (reached.step action)

/-- The recordings for which a generator of an origin makes a filename, and whether that may
wait for a look-up. -/
inductive Requests (origin : Origin) : Recording → Bool → Prop where
  | start : Requests origin origin.recording false
  | update {generator} (prior : Reaches origin generator) (mayBlock : Bool) :
      Requests origin generator.recording mayBlock
  | parent {generator} (prior : Reaches origin generator) (details : Details) :
      Requests origin { generator.recording with parent := details } false
  | child {generator} (prior : Reaches origin generator) (number : Nat) (details : Details) :
      Requests origin { generator.recording with
        children := generator.recording.children.put number details } false

/-- The generators of an origin that have just published a filename for a recording. -/
structure Publishes (origin : Origin) (recording : Recording) (mayBlock : Bool)
    (generator : Generator) : Prop where
  requested : Requests origin recording mayBlock
  issued : recording.issue mayBlock =
    (.ok (generator.publication, generator.locations), generator.recording)

section Publishes

variable {origin : Origin} {recording after : Recording} {mayBlock : Bool} {generator : Generator}
  {publication : Publication}

/-- What was published is what the attempt made. -/
theorem Publishes.published (publishes : Publishes origin recording mayBlock generator) :
    recording.publish mayBlock = (.ok generator.publication, generator.recording) := by
  rw [Recording.publish, publishes.issued]
  rfl

/-- A generator that has just published a filename reads dates where its template has them. -/
theorem Publishes.located (publishes : Publishes origin recording mayBlock generator) :
    generator.Located := by
  have issued := publishes.issued
  rw [Recording.issue_eq, publishes.published] at issued
  exact (congrArg Prod.snd (Except.ok.inj (congrArg Prod.fst issued))).symm

/-- A generator starts by publishing what it shows. -/
theorem Publishes.of_start (started : origin.start = .ok generator) :
    Publishes origin origin.recording false generator := by
  obtain ⟨published, located⟩ := Origin.publish_of_start started
  refine ⟨.start, ?_⟩
  rw [Recording.issue_eq, published, located]
  rfl

/-- An attempt that makes a name publishes it. -/
theorem Publishes.of_published (requested : Requests origin recording mayBlock)
    (published : recording.publish mayBlock = (.ok publication, after)) :
    Publishes origin recording mayBlock (.publishing after publication) := by
  refine ⟨requested, ?_⟩
  rw [Recording.issue_eq, published]
  rfl

end Publishes

namespace Generator

/-- An update publishes what its attempt makes. -/
theorem update_of_published {mayBlock : Bool} {generator : Generator} {publication : Publication}
    {after : Recording}
    (published : generator.recording.publish mayBlock = (.ok publication, after)) :
    generator.update mayBlock = (.ok publication, .publishing after publication) := by
  unfold update
  rw [Recording.issue_eq, published]
  rfl

/-- An update whose attempt fails leaves what was published. -/
theorem update_of_failed {mayBlock : Bool} {generator : Generator} {fault : Naming.Fault}
    {after : Recording} (failed : generator.recording.publish mayBlock = (.error fault, after)) :
    generator.update mayBlock = (.error fault, { generator with recording := after }) := by
  unfold update
  rw [Recording.issue_eq, failed]
  rfl

/-- Whether an update succeeds or fails, the recording is the one behind publishing. -/
theorem update_recording (mayBlock : Bool) (generator : Generator) :
    (generator.update mayBlock).2.recording = (generator.recording.publish mayBlock).2 := by
  cases made : generator.recording.publish mayBlock with
  | mk result after =>
      cases result with
      | ok publication =>
          rw [update_of_published made]
          rfl
      | error fault => rw [update_of_failed made]

/-- An update gives what publishing gives. -/
theorem update_result (mayBlock : Bool) (generator : Generator) :
    (generator.update mayBlock).1 = (generator.recording.publish mayBlock).1 := by
  cases made : generator.recording.publish mayBlock with
  | mk result after =>
      cases result with
      | ok publication => rw [update_of_published made]
      | error fault => rw [update_of_failed made]

/-- New details of the recorded call lead to an attempt to make the filename anew. -/
theorem perform_parent (details : Details) (generator : Generator) :
    generator.perform (.details .parent details) =
      (update false { generator with recording.parent := details }).2 := rfl

/-- New details of a call that has joined lead to an attempt to make the filename anew. -/
theorem perform_child (number : Nat) (details : Details) (generator : Generator) :
    generator.perform (.details (.child number) details) =
      (update false { generator with
        recording.children := generator.recording.children.put number details }).2 := rfl

/-- What holds behind every attempt to make the filename anew, behind every redaction, and
behind every change of the log and the surroundings, holds behind every action. -/
theorem perform_induction {holds : Generator → Prop} {generator : Generator}
    (update : ∀ mayBlock parent children, holds (Generator.update mayBlock
      { generator with recording.parent := parent, recording.children := children }).2)
    (redaction : ∀ source placeholder, holds (generator.perform (.redaction source placeholder)))
    (other : ∀ device directory log, holds
      { generator with
        recording.session := { generator.recording.session with device, directory, log } })
    (action : Action) :
    holds (generator.perform action) := by
  cases action with
  | update mayBlock => exact update mayBlock _ _
  | details line details =>
      cases line with
      | parent => exact update false details _
      | child number => exact update false _ (generator.recording.children.put number details)
      | unrelated => exact other _ _ _
  | parse name => exact other _ _ _
  | redaction source placeholder => exact redaction source placeholder
  | surroundings device directory => exact other _ directory _

end Generator

/-- Whatever happens to a generator, it goes on reading dates where the template has them that its
filename was made from: a failed attempt changes neither the one nor the other, and one that
succeeds changes both. -/
theorem Generator.Located.perform {generator : Generator} (located : generator.Located)
    (action : Action) : (generator.perform action).Located := by
  refine Generator.perform_induction ?_ ?_ ?_ action
  · intro mayBlock parent children
    let changed : Generator := { generator with
      recording.parent := parent, recording.children := children }
    cases made : changed.recording.publish mayBlock with
    | mk result after =>
        cases result with
        | ok publication =>
            rw [@update_of_published mayBlock changed _ _ made]
            exact rfl
        | error fault =>
            rw [@update_of_failed mayBlock changed _ _ made]
            exact located
  · intro source placeholder
    exact located
  · intro device directory log
    exact located

/-- Every generator reads dates where the template has them that its filename was made from. -/
theorem Reaches.located {origin : Origin} {generator : Generator}
    (reached : Reaches origin generator) : generator.Located := by
  induction reached with
  | start started => exact (Origin.publish_of_start started).2
  | step prior action inductionHypothesis => exact inductionHypothesis.perform action

/-- Publishing a filename is one way to reach a generator. -/
theorem Publishes.reaches {origin : Origin} {recording : Recording} {mayBlock : Bool}
    {generator : Generator} (publishes : Publishes origin recording mayBlock generator) :
    Reaches origin generator := by
  have shape : Generator.publishing generator.recording generator.publication = generator := by
    rw [Generator.publishing, ← publishes.located]
  have published := publishes.published
  rw [← shape]
  cases publishes.requested with
  | start =>
      refine Reaches.start ?_
      rw [Origin.start_eq, published]
      rfl
  | @update before prior mayBlock =>
      have reached := prior.step (.update mayBlock)
      rw [Generator.perform, Generator.update_of_published published] at reached
      exact reached
  | @parent before prior details =>
      have reached := prior.step (.details .parent details)
      have updated := @Generator.update_of_published _ { before with
        recording.parent := details } _ _ published
      rw [Generator.perform_parent, updated] at reached
      exact reached
  | @child before prior number details =>
      have reached := prior.step (.details (.child number) details)
      have updated := @Generator.update_of_published _ { before with
        recording.children := before.recording.children.put number details } _ _ published
      rw [Generator.perform_child, updated] at reached
      exact reached

end RecordingName
