import RecordingName.DateFormat.Reading
import RecordingName.Naming.Resolution
import RecordingName.Template.Location
import RecordingName.Template.Parser
import RecordingName.Template.Printer

/-!
# Generators

A generator keeps the filename of a recording up to date while the details of its
call change, and reads the timestamp of a call back out of filenames, at the
locations where the last template has its dates. A template of the user's that
cannot be evaluated gives way to the standard one for that time.
`update_publication_of_error` says that a failing update leaves what was published
as it was.
-/

namespace RecordingName

/-- The template of a generator. A custom template that says the same as the standard
one is still custom. -/
inductive TemplateChoice where
  | standard
  | custom (template : Template)
  deriving DecidableEq, Repr

namespace TemplateChoice

/-- The chosen template. -/
def template : TemplateChoice → Template
  | .standard => Template.standard
  | .custom template => template

/-- The template that a setting chooses, and the report about one that cannot be
read. -/
def load : Option Text → TemplateChoice × List LogEntry
  | none => (.standard, [])
  | some text =>
      match Template.parse text with
      | .ok template => (.custom template, [])
      | .error error =>
          (.standard, [⟨.warning, .generator,
            "Invalid filename template; using default: ".text ++ error.message text⟩])

end TemplateChoice

/-- The locations of the date in a template. -/
def Template.dateLocations (template : Template) : List Location :=
  template.locations Naming.Variable.date.name

/-- A filename with its redacted form, and the template that it was made from. -/
structure Publication where
  template : Template
  value : Text
  redacted : Text
  deriving DecidableEq, Repr

/-- What is known about a recording: how it is named and in which zone, whether its
call started as a conference, the details of the call and of the calls that have
joined it, and the session of its evaluations. -/
structure Recording where
  choice : TemplateChoice
  zone : Zone
  isConference : Bool
  parent : Details
  children : Register Nat Details
  session : Naming.Session

namespace Recording

/-- The call as templates are evaluated for it. -/
def context (mayBlock : Bool) (recording : Recording) : Naming.Context where
  parent := recording.parent
  parties := if recording.isConference then recording.children.values else [recording.parent]
  isConference := recording.isConference
  mayBlock := mayBlock

/-- Evaluate a template to a filename. -/
def evaluate (template : Template) (zone : Zone) (context : Naming.Context) :
    Naming.Evaluation Publication := do
  let text ← template.evaluate (Naming.resolve zone context)
  let value := Filename.sanitize text
  return ⟨template, value, (← get).redactor.redact value⟩

/-- Evaluate the chosen template, and the standard one if a custom one fails. Dates are
read from then on where the template has them that has been evaluated. -/
def evaluateChoice (choice : TemplateChoice) (zone : Zone) (context : Naming.Context) :
    Naming.Evaluation (Publication × List Location) :=
  match choice with
  | .standard => do
      return (← evaluate Template.standard zone context, Template.standard.dateLocations)
  | .custom template =>
      tryCatch (do return (← evaluate template zone context, template.dateLocations)) fun _ => do
        Naming.report .warning .generator
          ("Failed to evaluate custom template: ".text ++ template.print)
        return (← evaluate Template.standard zone context, Template.standard.dateLocations)

/-- Make the filename of a recording, with the locations at which dates are read from then
on. -/
def issue (mayBlock : Bool) (recording : Recording) :
    Except Naming.Fault (Publication × List Location) × Recording :=
  let work : Naming.Evaluation (Publication × List Location) := do
    let issued ← evaluateChoice recording.choice recording.zone (recording.context mayBlock)
    Naming.report .info .generator ("Updated filename: ".text ++ issued.1.redacted)
    return issued
  let (result, session) := work.run.run recording.session
  (result, { recording with session })

end Recording

/-- A call as a generator sees it: the one that is recorded, one that has joined it, or
any other. -/
inductive Line where
  | parent
  | child (number : Nat)
  | unrelated
  deriving DecidableEq, Repr

/-- A generator: the recording, the locations at which dates are read in names, and the
filename that was published last. -/
structure Generator where
  recording : Recording
  locations : List Location
  publication : Publication

/-- Why new details of a call are not taken over, or the filename is not updated. -/
inductive UpdateError where
  /-- The call is neither the recorded one nor one that has joined it. -/
  | mismatch
  | fault (fault : Naming.Fault)
  deriving DecidableEq, Repr

namespace Generator

/-- Start a generator with a first filename. The reports are there even if it cannot
be made. -/
def start (templateText : Option Text) (zone : Zone) (order : SetOrder) (device : Option Device)
    (directory : Contacts.Directory) (parent : Details) (children : List (Nat × Details)) :
    Except Naming.Fault Generator × List LogEntry :=
  let (choice, warnings) := TemplateChoice.load templateText
  let session := Naming.Session.start order device directory
  let joined := if parent.isConference then children else []
  let recording : Recording := {
    choice, zone, isConference := parent.isConference, parent
    children := joined.foldl (fun register child => register.put child.1 child.2) .empty
    session := { session with
      log := warnings ++ [⟨.info, .generator,
        "Filename template: ".text ++ choice.template.print⟩] } }
  let (result, recording) := recording.issue false
  (result.map fun issued => ⟨recording, issued.2, issued.1⟩, recording.session.log)

/-- Make the filename anew. What was published stays if that fails, and dates are read
where they were. -/
def update (mayBlock : Bool) (generator : Generator) :
    Except Naming.Fault Publication × Generator :=
  let (result, recording) := generator.recording.issue mayBlock
  match result with
  | .ok (publication, locations) => (.ok publication, ⟨recording, locations, publication⟩)
  | .error fault => (.error fault, { generator with recording })

/-- Take over new details of a call, and make the filename anew. -/
def updateDetails (line : Line) (details : Details) (generator : Generator) :
    Except UpdateError Unit × Generator :=
  let recording := generator.recording
  let store (recording : Recording) : Except UpdateError Unit × Generator :=
    let (result, updated) := update false { generator with recording }
    (match result with
      | .ok _ => .ok ()
      | .error fault => .error (.fault fault), updated)
  match line with
  | .parent => store { recording with parent := details }
  | .child number =>
      store { recording with children := recording.children.put number details }
  | .unrelated => (.error .mismatch, generator)

/-- The texts that may start with a date at a location: what follows the occurrences of
the literal before it. -/
def candidates (name : Text) : Location → List Text
  | .arbitrary => []
  | .after literal atStart =>
      if literal = [] then [name]
      else if atStart then (Text.afterEach literal name).take 1
      else Text.afterEach literal name

/-- The timestamp that is read at a location. -/
def readAt (formatter : DateFormat.Formatter) (name : Text) (location : Location) :
    Option Timestamp :=
  (candidates name location).findSome? formatter.read?

/-- The timestamp of a call, read back out of a filename. -/
def readTimestamp (name : Text) (generator : Generator) : Option Timestamp :=
  generator.locations.findSome? (readAt generator.recording.session.formatter name)

/-- The reports on reading a timestamp. -/
def readingLog (name : Text) (generator : Generator) : List LogEntry :=
  let tried := generator.locations.takeWhile fun location =>
    readAt generator.recording.session.formatter name location = none
  let found := match generator.readTimestamp name with
    | none => "None".text
    | some stamp => stamp.text ' '
  (tried.filter (· = .arbitrary)).map
    (fun _ => ⟨.debug, .generator, "Date might be at an arbitrary location".text⟩) ++
  [⟨.debug, .generator,
    "Parsed ".text ++ found ++ " from ".text ++ Text.truncated 2 name⟩]

/-- A generator that has reported something more. -/
def withLog (entries : List LogEntry) (generator : Generator) : Generator :=
  { generator with recording.session.log := generator.recording.session.log ++ entries }

/-- A failing update leaves what was published as it was, and dates are read where they
were. -/
theorem update_publication_of_error {mayBlock : Bool} {generator : Generator} {fault : Naming.Fault}
    (failed : (generator.update mayBlock).1 = .error fault) :
    (generator.update mayBlock).2.publication = generator.publication ∧
      (generator.update mayBlock).2.locations = generator.locations := by
  rcases made : generator.recording.issue mayBlock with ⟨result, recording⟩
  cases result with
  | ok issued => simp [update, made] at failed
  | error cause => simp [update, made]

end Generator
end RecordingName
