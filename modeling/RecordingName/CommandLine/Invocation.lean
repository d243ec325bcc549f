import RecordingName.Call.Details
import RecordingName.CommandLine.Arguments
import RecordingName.Settings
import RecordingName.Text.Lines

/-!
# Invocations

What a command line asks for: to generate a filename for a call, or to parse the
timestamp out of a filename, with settings that go before those of the
environment.

A mark `--` that is attached to an option by an equals sign is dropped, so that the option
is there without a value: `settingValue`, `textValue`, `directionOf` and `timeOf` say what
comes of that. This follows the option reader before release 3.11.10, which keeps an
attached mark as the value.
-/

namespace RecordingName.CommandLine

/-- The time that a call is given. -/
inductive CallTime where
  | now
  | millis (value : Int)
  /-- The option is there, but a mark is attached to it in place of a value. -/
  | blank
  deriving DecidableEq, Repr

/-- What is to be done. -/
inductive Command where
  /-- Generate a filename. There is no direction if a mark takes its place. -/
  | generate (numbers : List Text) (name contact : Option Text) (direction : Option Direction)
      (time : CallTime) (mayBlock : Bool)
  | parse (filename : Text)
  deriving DecidableEq, Repr

/-- A command, and the settings given with it. -/
structure Invocation where
  template : Option SettingValue
  timezone : Option SettingValue
  command : Command
  deriving DecidableEq, Repr

/-- Why there is no invocation: help is asked for, or there is an error in the arguments
of the program or of one of its commands. -/
inductive Refusal where
  | help
  | usage (command : Option Text) (error : ArgumentError)
  deriving DecidableEq, Repr

/-- The last line about a refusal. -/
def Refusal.message : Refusal → Text
  | .help => []
  | .usage none error => Text.lastLine ("callname: error: ".text ++ error.message)
  | .usage (some command) error =>
      Text.lastLine ("callname ".text ++ command ++ ": error: ".text ++ error.message)

/-- A reading of arguments that stopped, as a refusal. -/
def refuse (command : Option Text) : Stop → Refusal
  | .help => .help
  | .error error => .usage command error

/-- A value of an option as a setting. An attached mark is dropped, and what is left is none
that a setting takes. -/
def settingValue (value : Text) : SettingValue :=
  if value = separatorText then .compound else .text value

/-- A value of an option as text. An attached mark is dropped, and what is left counts as
empty. -/
def textValue (value : Text) : Text :=
  if value = separatorText then [] else value

/-- The direction of a word. There is none where an attached mark is dropped. -/
def directionOf (word : Text) : Option Direction :=
  if word = separatorText then none
  else if word = "in".text then some .incoming
  else if word = "out".text then some .outgoing
  else some .unknown

/-- The time that the value of an option gives, if there is one. An attached mark is
dropped. -/
def timeOf : Option Text → CallTime
  | none => .now
  | some value =>
      if value = separatorText then .blank
      else (Text.toInteger? value).elim .now .millis

/-- The options of the program. -/
def programFlags : List Flag := [.help, .template, .timezone]

/-- The options of the command that generates. -/
def generateFlags : List Flag :=
  [.help, .number, .name, .contact, .direction, .timeMillis, .blocking]

/-- The command that generates, from its arguments. -/
def generateCommand (reading : Reading) : Command :=
  .generate ((reading.valuesOf .number).map textValue) ((reading.value? .name).map textValue)
    ((reading.value? .contact).map textValue)
    ((reading.value? .direction).elim (some .unknown) directionOf)
    (timeOf (reading.value? .timeMillis)) (reading.value? .blocking).isSome

/-- Read a command with its arguments, and what is left over of them. -/
def readCommand (word : Text) (arguments : List Text) : Except Refusal (Command × List Text) :=
  if word = "generate".text then
    match readArguments generateFlags .none arguments with
    | .error stop => .error (refuse (some word) stop)
    | .ok reading => .ok (generateCommand reading, reading.leftOver)
  else if word = "parse".text then
    match readArguments [.help] .one arguments with
    | .error stop => .error (refuse (some word) stop)
    | .ok reading =>
        match reading.operand with
        | none => .error (.usage (some word) (.required "filename".text))
        | some filename => .ok (.parse filename, reading.leftOver)
  else
    .error (.usage none (.invalidCommand word))

/-- Read a command line. -/
def Invocation.read (arguments : List Text) : Except Refusal Invocation :=
  match readArguments programFlags .command arguments with
  | .error stop => .error (refuse none stop)
  | .ok reading =>
      match reading.command with
      | none => .error (.usage none (.required "command".text))
      | some (word, rest) =>
          match readCommand word rest with
          | .error refusal => .error refusal
          | .ok (command, leftOver) =>
              if reading.leftOver ++ leftOver = [] then
                .ok ⟨(reading.value? .template).map settingValue,
                  (reading.value? .timezone).map settingValue, command⟩
              else
                .error (.usage none (.unrecognized (reading.leftOver ++ leftOver)))

/-- The details of a party with the given number; the empty number is none. -/
def partyDetails (creationMillis : Int) (name contact : Option Text) (direction : Direction)
    (number : Text) : Details :=
  ⟨creationMillis, if number = [] then none else some (Handle.ofNumber number), name, contact,
    some direction, none, false⟩

/-- The call that a command describes: the details of the recorded call, and those of the
calls that join it. Several numbers make a conference. -/
def callOf (creationMillis : Int) (name contact : Option Text) (direction : Direction) :
    List Text → Details × List Details
  | [] => (partyDetails creationMillis name contact direction [], [])
  | [number] => (partyDetails creationMillis name contact direction number, [])
  | numbers =>
      ({ partyDetails creationMillis name contact direction [] with isConference := true },
        numbers.map (partyDetails creationMillis name contact direction))

end RecordingName.CommandLine
