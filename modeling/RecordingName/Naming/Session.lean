import RecordingName.Call.Details
import RecordingName.Call.Subscriptions
import RecordingName.Contacts.Directory
import RecordingName.DateFormat.Formatter
import RecordingName.Instant
import RecordingName.Redaction

/-!
# Sessions

What outlives the evaluation of one template: the formatter in force, the last
timestamp of the call, the redactions, the device and the directory as they are by then,
and a record of look-ups and reports. An evaluation works on a session and keeps its
changes even if it fails.
-/

namespace RecordingName.Naming

/-- A look-up in the directory. -/
structure Lookup where
  number : Text
  isSip : Bool
  deriving DecidableEq, Repr

/-- What outlives the evaluation of a template. -/
structure Session where
  formatter : DateFormat.Formatter
  timestamp : Option ZonedTimestamp
  redactor : Redactor
  /-- What tells about the subscriptions of the device, if there is anything. -/
  device : Option Device
  directory : Contacts.Directory
  lookups : List Lookup
  log : List LogEntry

namespace Session

/-- A session in which nothing has happened. -/
def start (order : SetOrder) (device : Option Device) (directory : Contacts.Directory) : Session :=
  ⟨.standard, none, .empty order, device, directory, [], []⟩

/-- The subscriptions of the device, as it would tell about them now. Without anything that
tells there are none. -/
def subscriptions (session : Session) : Subscriptions :=
  session.device.elim .none Device.subscriptions

/-- The session when the device goes on as another one. If nothing tells about it, nothing
changes. -/
def answering (device : Device) (session : Session) : Session :=
  { session with device := session.device.map fun _ => device }

end Session

/-- The call that a template is evaluated for. -/
structure Context where
  parent : Details
  /-- The parent itself, or else every participant of the conference. -/
  parties : List Details
  isConference : Bool
  /-- Whether the evaluation may wait for a look-up. -/
  mayBlock : Bool
  deriving DecidableEq, Repr

/-- Why an evaluation fails. -/
inductive Fault where
  /-- The call's instant has no timestamp. -/
  | instant (error : InstantError)
  /-- The formatter in force cannot write the call's timestamp. -/
  | format (error : DateFormat.FormatError)
  /-- The device did not answer, with its words. -/
  | subscriptions (message : Text)
  /-- The directory did not tell whether it is configured. -/
  | directory (failure : Contacts.StatusFailure)
  deriving DecidableEq, Repr

/-- Work on a session that may fail. -/
abbrev Evaluation := ExceptT Fault (StateM Session)

/-- Report something. -/
def report (level : Level) (component : Component) (message : Text) : Evaluation Unit :=
  modify fun session => { session with log := session.log ++ [⟨level, component, message⟩] }

end RecordingName.Naming
