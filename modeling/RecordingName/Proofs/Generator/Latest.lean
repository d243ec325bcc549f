import RecordingName.Proofs.Generator.Attempts
import RecordingName.Proofs.Naming.Answers
import RecordingName.Proofs.Register

/-!
# Filenames by the latest details

Details of calls come in one by one, calls join, and some attempts to make the filename fail. None
of this shows in the filename in the end: as soon as an attempt has succeeded, the filename is the
one that a new generator gives for the latest details of each call, by `value_of_latest`. A
generator records no more of a run than these, by `Generator.run_recorded`, and shows the filename
for them, by `Generator.run_shows`. What two recordings of the same details have been through makes
no difference, by `Recording.value_of_publish_eq`.
-/

namespace RecordingName

open DateFormat Naming Template

namespace Recording

variable {mayBlock : Bool} {recording first second : Recording} {publication : Publication}

/-- If the device answers, no filename is made of the standard template in place of the chosen
one: what makes that fail makes both fail. -/
theorem chosen_of_publish (answers : recording.session.Answers)
    (published : (recording.publish false).1 = .ok publication) :
    ∃ rendering behind, runOn (renderSegments (resolve recording.zone (recording.context false))
        recording.choice.template.segments) recording.session = (.ok rendering, behind) ∧
      publication.value = Filename.sanitize rendering.text := by
  cases ran : runOn (renderSegments (resolve recording.zone (recording.context false))
      recording.choice.template.segments) recording.session with
  | mk result behind =>
      cases result with
      | ok rendering =>
          obtain ⟨same, after, made, value⟩ := publish_of_chosen ran
          rw [made] at published
          cases published
          exact ⟨rendering, behind, rfl, value⟩
      | error fault =>
          exfalso
          obtain ⟨obstacle, found⟩ := @exists_dateFault_of_render_failed recording.zone
            (recording.context false) _ _ _ _ answers rfl ran
          obtain ⟨cause, failed⟩ := publish_fails_of_failed ran found
          rw [failed] at published
          cases published

/-- Two recordings with the same template, surroundings and details get the same filename, on
sessions that agree for the template. -/
theorem value_of_publish_eq (choice : first.choice = second.choice)
    (zone : first.zone = second.zone)
    (context : (first.context false).unflagged = (second.context false).unflagged)
    (answers : first.session.Answers)
    (agree : Agree first.session second.session first.choice.template.segments)
    (published : (first.publish false).1 = .ok publication) :
    ∃ other after, second.publish false = (.ok other, after) ∧
      other.value = publication.value := by
  obtain ⟨rendering, behind, rendered, value⟩ := chosen_of_publish answers published
  have resolved : resolve first.zone (first.context false) =
      resolve second.zone (second.context false) := by
    funext target
    rw [← resolve_unflagged, ← resolve_unflagged second.zone, context, zone]
  have same := @result_of_render_eq (first.context false) _ _ _ first.zone rfl agree
  rw [rendered, resolved, choice] at same
  cases ran : runOn (renderSegments (resolve second.zone (second.context false))
      second.choice.template.segments) second.session with
  | mk result after =>
      rw [ran] at same
      cases same
      obtain ⟨other, last, made, other_value⟩ := publish_of_chosen ran
      exact ⟨other, last, made, other_value.trans value.symm⟩

end Recording

namespace Action

/-- An action that does not wait for a look-up and leaves the surroundings alone. -/
def Immediate : Action → Prop
  | .update mayBlock => mayBlock = false
  | .surroundings _ _ => False
  | _ => True

/-- The new details of the recorded call that come in with an action. -/
def parent? : Action → Option Details
  | .details .parent known => some known
  | _ => none

/-- The new details of a call that has joined, which come in with an action. -/
def child? : Action → Option (Nat × Details)
  | .details (.child number) known => some (number, known)
  | _ => none

/-- The details of the recorded call that have come in last, or else the first ones. -/
def lastParent (first : Details) (actions : List Action) : Details :=
  (actions.filterMap parent?).getLast?.getD first

end Action

/-- The results of the attempts that a run makes, in order. -/
def Generator.outcomes : List Action → Generator → List (Except Fault Publication)
  | [], _ => []
  | action :: others, generator =>
      ((generator.request? action).map fun request => (request.1.publish request.2).1).toList ++
        outcomes others (generator.perform action)

namespace Origin

/-- The details of the calls that count at the start: those of a conference. -/
def joined (origin : Origin) : List (Nat × Details) :=
  if origin.parent.isConference then origin.children else []

/-- The recording of an origin behind a run, on a session. -/
def recorded (origin : Origin) (actions : List Action) (session : Session) : Recording :=
  { origin.recording with
    parent := Action.lastParent origin.parent actions
    children := Register.empty.putAll (origin.joined ++ actions.filterMap Action.child?)
    session }

/-- The origin of a new generator for the last details of the recorded call, which is a conference
if it has been one at the start, and for details of other calls. -/
def renewed (origin : Origin) (actions : List Action) (children : List (Nat × Details)) : Origin :=
  { origin with
    parent := { Action.lastParent origin.parent actions with
      isConference := origin.parent.isConference }
    children }

/-- An origin at which the device has been asked some questions already. -/
def after (count : Nat) (origin : Origin) : Origin :=
  { origin with device := origin.device.map (Device.after count) }

variable {origin : Origin} {actions : List Action} {action : Action} {session : Session}

/-- Questions leave a device that gives the same answers every time as it is. -/
theorem after_of_isSteady (steady : IsSteady origin.device) (count : Nat) :
    origin.after count = origin := by
  have same : origin.device.map (Device.after count) = origin.device := by
    cases present : origin.device with
    | none => rfl
    | some device =>
        exact congrArg some (Device.after_of_behind_eq
          (Device.behind_eq_self_iff.2 (steady device present)) count)
  rw [after, same]

/-- What has been recorded of a run is what a new generator records of the latest details, but for
flags that do not count. -/
theorem context_renewed (origin : Origin) (actions : List Action) (session : Session)
    {children : List (Nat × Details)} (reported : origin.parent.isConference →
      children = Register.latest (origin.children ++ actions.filterMap Action.child?)) :
    ((origin.recorded actions session).context false).unflagged =
      ((origin.renewed actions children).recording.context false).unflagged := by
  cases conference : origin.parent.isConference with
  | false =>
      have single : (origin.recorded actions session).isConference = false := conference
      have renewed_single : (origin.renewed actions children).recording.isConference = false :=
        conference
      rw [Recording.context, Recording.context, single, renewed_single]
      rfl
  | true =>
      have several : (origin.recorded actions session).isConference = true := conference
      have renewed_several : (origin.renewed actions children).recording.isConference = true :=
        conference
      have parties : (origin.recorded actions session).children =
          (origin.renewed actions children).recording.children := by
        have renewed_parent : (origin.renewed actions children).parent.isConference = true :=
          conference
        rw [recording, renewed_parent, if_pos rfl, recorded, joined, conference, if_pos rfl,
          ← Register.putAll_latest, ← reported conference]
        rfl
      rw [Recording.context, Recording.context, several, renewed_several, parties]
      rfl

theorem recorded_nil (origin : Origin) (session : Session) :
    origin.recorded [] session = { origin.recording with session } := by
  rw [recorded, List.filterMap_nil, List.append_nil]
  rfl

/-- The last details of the call are those that count. -/
theorem recorded_concat_parent (origin : Origin) (actions : List Action) (details : Details)
    (session : Session) :
    origin.recorded (actions ++ [.details .parent details]) session =
      { origin.recorded actions session with parent := details } := by
  have delivered : (actions ++ [Action.details .parent details]).filterMap Action.child? =
      actions.filterMap Action.child? := by
    rw [List.filterMap_append]
    exact List.append_nil _
  have last : Action.lastParent origin.parent (actions ++ [.details .parent details]) =
      details := by
    simp [Action.lastParent, Action.parent?]
  rw [recorded, delivered, last]
  rfl

/-- The last details of a child are those that count, in the place of the first. -/
theorem recorded_concat_child (origin : Origin) (actions : List Action) (number : Nat)
    (details : Details) (session : Session) :
    origin.recorded (actions ++ [.details (.child number) details]) session =
      { origin.recorded actions session with
        children := (origin.recorded actions session).children.put number details } := by
  have delivered : (actions ++ [Action.details (.child number) details]).filterMap Action.child? =
      actions.filterMap Action.child? ++ [(number, details)] := List.filterMap_append
  have same : Action.lastParent origin.parent (actions ++ [.details (.child number) details]) =
      Action.lastParent origin.parent actions := by
    simp [Action.lastParent, Action.parent?]
  rw [recorded, delivered, same, ← List.append_assoc, Register.putAll_concat]
  rfl

/-- What brings no new details of a known call is not recorded. -/
theorem recorded_concat_other (origin : Origin) (actions : List Action)
    (parent : action.parent? = none) (child : action.child? = none) :
    origin.recorded (actions ++ [action]) = origin.recorded actions := by
  funext session
  simp [recorded, Action.lastParent, parent, child]

end Origin

namespace Generator

variable {origin : Origin} {generator started : Generator} {actions : List Action} {action : Action}
  {session : Session}

/-- An immediate action that requests nothing is not recorded, and one that requests something
requests what is recorded with it. -/
theorem request?_of_recorded (immediate : action.Immediate)
    (known : generator.recording = origin.recorded actions session) :
    (generator.request? action = none ∧
      origin.recorded (actions ++ [action]) = origin.recorded actions) ∨
    generator.request? action = some (origin.recorded (actions ++ [action]) session, false) := by
  cases action with
  | update mayBlock =>
      right
      rw [origin.recorded_concat_other actions rfl rfl, ← known, request?, immediate]
  | details line details =>
      cases line with
      | parent =>
          right
          rw [origin.recorded_concat_parent, ← known, request?]
      | child number =>
          right
          rw [origin.recorded_concat_child, ← known, request?]
      | unrelated => exact .inl ⟨rfl, origin.recorded_concat_other actions rfl rfl⟩
  | parse name => exact .inl ⟨rfl, origin.recorded_concat_other actions rfl rfl⟩
  | redaction source placeholder =>
      exact .inl ⟨rfl, origin.recorded_concat_other actions rfl rfl⟩
  | surroundings device directory => cases immediate

/-- An immediate action that requests nothing changes the session alone, and leaves the device. -/
theorem perform_of_idle (immediate : action.Immediate)
    (silent : generator.request? action = none) :
    ∃ session, generator.perform action =
        { generator with recording := { generator.recording with session } } ∧
      session.device = generator.recording.session.device := by
  cases action with
  | update mayBlock => cases silent
  | details line details =>
      cases line with
      | parent => cases silent
      | child number => cases silent
      | unrelated => exact ⟨_, rfl, rfl⟩
  | parse name => exact ⟨_, rfl, rfl⟩
  | redaction source placeholder => exact ⟨_, rfl, rfl⟩
  | surroundings device directory => cases immediate

/-- The last action is performed behind all others. -/
theorem run_concat (actions : List Action) (action : Action) (generator : Generator) :
    generator.run (actions ++ [action]) = (generator.run actions).perform action := by
  rw [run, List.foldl_append]
  rfl

/-- The last action adds the outcome of the attempt that it requests, if it requests one. -/
theorem outcomes_concat (actions : List Action) (action : Action) (generator : Generator) :
    generator.outcomes (actions ++ [action]) = generator.outcomes actions ++
      (((generator.run actions).request? action).map fun request =>
        (request.1.publish request.2).1).toList := by
  induction actions generalizing generator with
  | nil => simp [outcomes]
  | cons first others ih =>
      rw [List.cons_append, outcomes, outcomes, ih, List.append_assoc]
      rfl

/-- The filename that a generator shows was made for what its origin has recorded of a run, on the
device behind some questions. -/
def ShowsRecorded (origin : Origin) (actions : List Action) (generator : Generator) : Prop :=
  ∃ before, Requests origin (origin.recorded actions before) false ∧
    MovesOn origin.recording.session before ∧
    ((origin.recorded actions before).publish false).1 = .ok generator.publication

/-- An immediate action is recorded, and may put questions to the device. -/
theorem perform_recording (immediate : action.Immediate)
    (known : generator.recording = origin.recorded actions session) :
    ∃ after, (generator.perform action).recording = origin.recorded (actions ++ [action]) after ∧
      MovesOn session after := by
  rcases request?_of_recorded immediate known with ⟨silent, unrecorded⟩ | requested
  · obtain ⟨after, performed, same⟩ := perform_of_idle immediate silent
    rw [known] at same
    rw [performed, unrecorded, known]
    exact ⟨after, rfl, .of_same same⟩
  · rw [perform_of_request requested, update_recording]
    exact ⟨_, rfl, Recording.movesOn_publish false (origin.recorded (actions ++ [action]) session)⟩

/-- Behind an immediate action a generator shows what has been recorded if its attempt has
succeeded, or if the action is no attempt and the generator has shown it before. -/
theorem perform_shows (reached : Reaches origin generator) (immediate : action.Immediate)
    (known : generator.recording = origin.recorded actions session)
    (moves : MovesOn origin.recording.session session)
    (shows : generator.request? action = none → generator.ShowsRecorded origin actions)
    (succeeded : ∀ request fault, generator.request? action = some request →
      (request.1.publish request.2).1 ≠ .error fault) :
    (generator.perform action).ShowsRecorded origin (actions ++ [action]) := by
  rcases request?_of_recorded immediate known with ⟨silent, unrecorded⟩ | requested
  · obtain ⟨after, performed, _⟩ := perform_of_idle immediate silent
    rw [performed, ShowsRecorded, unrecorded]
    exact shows silent
  · cases made : (origin.recorded (actions ++ [action]) session).publish false with
    | mk result after =>
        cases result with
        | ok publication =>
            rw [perform_of_request requested, @update_of_published false
              { generator with recording := origin.recorded (actions ++ [action]) session } _ _
              made]
            exact ⟨session, .of_request reached requested, moves, congrArg Prod.fst made⟩
        | error fault => exact absurd (congrArg Prod.fst made) (succeeded _ fault requested)

/-- Behind a run of immediate actions a generator has recorded the last details of each call, and
the device is behind some more questions. -/
theorem run_recorded (began : origin.start = .ok started)
    (immediate : ∀ action ∈ actions, action.Immediate) :
    ∃ session, (started.run actions).recording = origin.recorded actions session ∧
      MovesOn origin.recording.session session := by
  induction actions using List.reverseRecOn with
  | nil =>
      have made := congrArg Prod.snd ((Origin.publish_of_start began).1)
      exact ⟨_, made.symm.trans (origin.recorded_nil _).symm,
        origin.recording.movesOn_publish false⟩
  | append_singleton actions action ih =>
      obtain ⟨session, known, moves⟩ := ih fun other member =>
        immediate other (List.mem_append_left _ member)
      obtain ⟨after, recorded, onwards⟩ := perform_recording (immediate action
        (List.mem_append_right _ (List.mem_singleton_self _))) known
      rw [run_concat]
      exact ⟨after, recorded, MovesOn.drift.trans moves onwards⟩

/-- Unless the last attempt in a run of immediate actions has failed, a generator shows the
filename for the last details of each call. -/
theorem run_shows (began : origin.start = .ok started)
    (immediate : ∀ action ∈ actions, action.Immediate)
    (succeeded : ∀ fault, (started.outcomes actions).getLast? ≠ some (.error fault)) :
    (started.run actions).ShowsRecorded origin actions := by
  induction actions using List.reverseRecOn with
  | nil =>
      refine ⟨origin.recording.session, ?_⟩
      rw [origin.recorded_nil]
      exact ⟨.start, .of_same rfl, congrArg Prod.fst ((Origin.publish_of_start began).1)⟩
  | append_singleton actions action ih =>
      have earlier : ∀ other ∈ actions, other.Immediate := fun other member =>
        immediate other (List.mem_append_left _ member)
      obtain ⟨session, known, moves⟩ := run_recorded began earlier
      rw [outcomes_concat] at succeeded
      rw [run_concat]
      refine perform_shows (Reaches.run actions (.start began)) (immediate action
        (List.mem_append_right _ (List.mem_singleton_self _))) known moves ?_ ?_
      · intro silent
        refine ih earlier fun fault failed => succeeded fault ?_
        rw [silent, Option.map_none, Option.toList_none, List.append_nil]
        exact failed
      · intro request fault requested failed
        refine succeeded fault ?_
        rw [requested, Option.map_some, Option.toList_some, List.getLast?_concat, failed]

/-- Making the filename anew behind a run succeeds if the last details of the recorded call have a
timestamp and the patterns in the template can be written by. -/
theorem update_succeeds {stamp : ZonedTimestamp} (began : origin.start = .ok started)
    (writable : Writable origin.recording.choice.template.segments)
    (immediate : ∀ action ∈ actions, action.Immediate)
    (made : ZonedTimestamp.ofMillis origin.zone
      (Action.lastParent origin.parent actions).creationMillis = .ok stamp) (fault : Fault) :
    (started.outcomes (actions ++ [.update false])).getLast? ≠ some (.error fault) := by
  obtain ⟨session, known, _⟩ := run_recorded began immediate
  rw [outcomes_concat, request?, known, Option.map_some, Option.toList_some,
    List.getLast?_concat]
  have encodable := (Reaches.run actions (.start began)).isEncodable writable
  rw [known] at encodable
  obtain ⟨publication, after, published⟩ := @Recording.exists_publication
    (origin.recorded actions session) stamp made writable encodable false
  rw [published]
  simp

end Generator

/-- Whatever details have come in, in whatever order, been refused, or led to nothing because the
filename could not be made: unless the last attempt has failed, the filename is the one that a new
generator gives for a call with the last details of the recorded call, the conference flag that it
had at the start and, for a conference, the calls that had joined it at the start and those that
have joined it later, in the order of their first details, each with its last details. Other calls
do not count. This needs a template in which no date has a valid pattern or the first one has, and
a device that answers. The new generator asks the device behind some questions, which makes no
difference to a device that gives the same answers every time. -/
theorem value_of_latest {origin : Origin} {started : Generator} {actions : List Action}
    (began : origin.start = .ok started)
    (answers : ∀ device, origin.device = some device → device.Answers)
    (settled : Unpatterned origin.recording.choice.template.segments ∨
      PatternedFirst origin.recording.choice.template.segments)
    (immediate : ∀ action ∈ actions, action.Immediate)
    (succeeded : ∀ fault, (started.outcomes actions).getLast? ≠ some (.error fault))
    {children : List (Nat × Details)} (reported : origin.parent.isConference →
      children = Register.latest (origin.children ++ actions.filterMap Action.child?)) :
    ∃ count fresh, ((origin.renewed actions children).after count).start = .ok fresh ∧
      fresh.publication.value = (started.run actions).publication.value ∧
      (IsSteady origin.device →
        (origin.renewed actions children).after count = origin.renewed actions children) := by
  obtain ⟨before, requested, ⟨count, device⟩, published⟩ :=
    Generator.run_shows began immediate succeeded
  have agree : Agree (origin.recorded actions before).session
      ((origin.renewed actions children).after count).recording.session
      origin.recording.choice.template.segments :=
    ⟨device, settled.imp_left fun unpatterned => requested.formatter_of_unpatterned unpatterned⟩
  have answering : (origin.recorded actions before).session.Answers := by
    intro present found
    obtain ⟨first, told, rfl⟩ := Option.map_eq_some_iff.1 (device.symm.trans found)
    exact (answers first told).after count
  obtain ⟨other, after, made, value⟩ :=
    @Recording.value_of_publish_eq (origin.recorded actions before)
      ((origin.renewed actions children).after count).recording _ rfl rfl
      (origin.context_renewed actions before reported) answering agree published
  refine ⟨count, .publishing after other, ?_, value, fun steady =>
    @Origin.after_of_isSteady (origin.renewed actions children) steady count⟩
  rw [Origin.start_eq, made]
  rfl

/-- Details of a call from a number at an instant. -/
def Details.ofNumber (millis : Int) (number : Text) : Details :=
  { Details.ofMillis millis with handle := some (Handle.ofNumber number) }

/-- A conference with one call, which is named by the standard template. -/
def Origin.conference : Origin where
  templateText := none
  zone := .utc
  directory := .absent
  parent := { Details.ofMillis 0 with isConference := true }
  children := [(7, .ofNumber 0 ['1'])]

/-- A call joins, details without a timestamp come in and keep the filename from being made, and
the first call gets another number before the timestamp is there again. -/
def joiningActions : List Action :=
  [.details (.child 3) (.ofNumber 0 ['2']), .details .parent (.ofMillis 100000000000000000000),
    .details (.child 7) (.ofNumber 0 ['3']), .details .unrelated (.ofMillis 1),
    .details .parent (.ofMillis 1651255369123)]

/-- The conference is named as a new one with its two latest calls. -/
theorem value_of_latest_joining : ∃ started fresh, Origin.conference.start = .ok started ∧
    (Origin.conference.renewed (joiningActions ++ [.update false])
      [(7, .ofNumber 0 ['3']), (3, .ofNumber 0 ['2'])]).start = .ok fresh ∧
    fresh.publication.value =
      (started.run (joiningActions ++ [.update false])).publication.value := by
  obtain ⟨started, began⟩ :=
    @Origin.exists_start Origin.conference _ rfl unpatterned_standard.writable
  have unasked (device : Device) : Origin.conference.device ≠ some device := nofun
  have immediate : ∀ action ∈ joiningActions ++ [.update false], action.Immediate := by
    intro action member
    simp only [joiningActions, List.cons_append, List.nil_append, List.mem_cons,
      List.not_mem_nil, or_false] at member
    rcases member with rfl | rfl | rfl | rfl | rfl | rfl
    · trivial
    · trivial
    · trivial
    · trivial
    · trivial
    · rfl
  have succeeded := Generator.update_succeeds began unpatterned_standard.writable
    (fun action member => immediate action (List.mem_append_left _ member))
    (show ZonedTimestamp.ofMillis .utc 1651255369123 = .ok _ from rfl)
  obtain ⟨count, fresh, renewed, value, same⟩ := @value_of_latest _ _ _ began
    (fun device present => absurd present (unasked device)) (.inl unpatterned_standard) immediate
    succeeded [(7, .ofNumber 0 ['3']), (3, .ofNumber 0 ['2'])] fun _ => rfl
  rw [same fun device present => absurd present (unasked device)] at renewed
  exact ⟨started, fresh, began, renewed, value⟩

end RecordingName
