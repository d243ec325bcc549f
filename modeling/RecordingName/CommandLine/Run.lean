import RecordingName.CommandLine.Invocation
import RecordingName.Generator

/-!
# Running a command line

The effect of a command line as a value: the exit code, what is printed, and the
line of an error. Contacts are looked up in the account of the environment, whose
network is given.
-/

namespace RecordingName.CommandLine

/-- What a run ends with. -/
structure Exit where
  code : Nat
  output : Text
  error : Text
  deriving DecidableEq, Repr

/-- Why a run breaks off. -/
inductive RunError where
  /-- The direction was given without a value. -/
  | blankDirection
  /-- The date is asked for, and the time was given without a value. -/
  | blankTime
  | fault (fault : Naming.Fault)
  deriving DecidableEq, Repr

/-- The message about a direction without a value. -/
def blankDirectionMessage : Text := "unhashable type: 'list'".text

/-- The message about a time without a value. -/
def blankTimeMessage : Text := "unsupported operand type(s) for divmod(): 'list' and 'int'".text

/-- The line about settings at fault. -/
def configurationMessage (errors : List SettingError) : Text :=
  "Invalid configuration: ".text ++ Text.decimal errors.length ++
    (if errors.length = 1 then " validation error" else " validation errors").text ++
    " for Settings".text

/-- The settings of the environment as given values. -/
def givenValues (settings : Settings) : List (Text × SettingValue) :=
  let ofText (value : Option Text) : SettingValue := value.elim .null .text
  [(SettingName.filenameTemplate.text, ofText settings.filenameTemplate),
    (SettingName.timezone.text, ofText (settings.timezone.map (·.name))),
    (SettingName.contactLookupEnabled.text, .boolean settings.contactLookupEnabled),
    (SettingName.logLevel.text, .text settings.logLevel.name),
    (SettingName.googleClientId.text, ofText settings.googleClientId),
    (SettingName.googleClientSecret.text, ofText settings.googleClientSecret),
    (SettingName.googleRefreshToken.text, ofText settings.googleRefreshToken)]

/-- The settings of the environment, with those given on the command line in their place. -/
def overridden (zones : Zone.Database) (invocation : Invocation) (settings : Settings) :
    Except (List SettingError) Settings :=
  let given (name : SettingName) (value : Option SettingValue) : List (Text × SettingValue) :=
    value.toList.map fun value => (name.text, value)
  Settings.read zones {
    given := given .filenameTemplate invocation.template ++ given .timezone invocation.timezone ++
      givenValues settings
    environment := [] }

/-- Generate a filename, and print it plain and redacted. -/
def runGenerate (zone : Zone) (order : SetOrder) (settings : Settings)
    (directory : Contacts.Directory) (call : Details × List Details) (mayBlock : Bool) :
    Except Naming.Fault Exit := do
  let children := call.2.mapIdx fun index details => (index, details)
  let generator ←
    (Generator.start settings.filenameTemplate zone order none directory call.1 children).1
  let publication ← (generator.update mayBlock).1
  return ⟨0, publication.value ++ .scalar '\n' ::
    publication.redacted ++ [CodePoint.scalar '\n'], []⟩

/-- Parse the timestamp out of a filename, and print it. -/
def runParse (zone : Zone) (order : SetOrder) (settings : Settings)
    (directory : Contacts.Directory) (filename : Text) : Except Naming.Fault Exit := do
  let generator ←
    (Generator.start settings.filenameTemplate zone order none directory (.ofMillis 0) []).1
  match generator.readTimestamp filename with
  | none => return ⟨1, [], "No timestamp found".text⟩
  | some stamp => return ⟨0, stamp.text 'T' ++ [CodePoint.scalar '\n'], []⟩

/-- The time of a call in milliseconds. A time without a value is only noticed if the
template refers to the date; any other time does for the rest. -/
def callMillis (settings : Settings) (now : Int) : CallTime → Except RunError Int
  | .now => .ok now
  | .millis value => .ok value
  | .blank =>
      if (TemplateChoice.load settings.filenameTemplate).1.template.dateLocations = [] then .ok now
      else .error .blankTime

/-- Run a command line in an environment. Calls without a time are made `now`. The order in
which sets are enumerated may be any, and so may be the zones that are known and what the
network answers. -/
def run (order : SetOrder) (zones : Zone.Database) (network : Contacts.Network)
    (arguments : List Text) (environment : List (Text × Text)) (now : Int) : Except RunError Exit :=
  match Invocation.read arguments with
  | .error .help => .ok ⟨0, [], []⟩
  | .error refusal => .ok ⟨2, [], refusal.message⟩
  | .ok invocation =>
      match Settings.read zones ⟨[], environment⟩ with
      | .error errors => .ok ⟨2, [], configurationMessage errors⟩
      | .ok base =>
          match overridden zones invocation base with
          | .error errors => .ok ⟨2, [], configurationMessage errors⟩
          | .ok settings =>
              let directory := Contacts.Directory.account (.start base network)
              match invocation.command with
              | .generate _ _ _ none _ _ => .error .blankDirection
              | .generate numbers name contact (some direction) time mayBlock => do
                  let millis ← callMillis settings now time
                  (runGenerate (settings.zone zones) order settings directory
                    (callOf millis name contact direction numbers) mayBlock).mapError .fault
              | .parse filename =>
                  (runParse (settings.zone zones) order settings directory filename).mapError .fault

end RecordingName.CommandLine
