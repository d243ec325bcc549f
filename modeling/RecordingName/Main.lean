import RecordingName.CommandLine.Run
import RecordingName.Zone.Tables
import Std.Time.DateTime.Timestamp

/-!
# The command line

Reads the arguments, the environment and the clock, runs the command line, and
prints what came of it.
-/

namespace RecordingName

/-- A text as it is printed: a surrogate, which no encoding writes, as the replacement
character. -/
def Text.shown (text : Text) : String :=
  String.ofList (text.map fun
    | .scalar c => c
    | .surrogate _ => '\uFFFD')

/-- The environment variables of the settings, in the two cases that they are usually
written in. -/
def readEnvironment : IO (List (Text × Text)) := do
  let names := SettingName.all.flatMap fun setting =>
    [setting.text, setting.text.map CodePoint.toUpper]
  let entries ← names.mapM fun name => do
    let value ← IO.getEnv name.shown
    return value.map fun value => (name, value.text)
  return entries.filterMap id

end RecordingName

open RecordingName in
/-- Run the command line. -/
def main (arguments : List String) : IO UInt32 := do
  let environment ← readEnvironment
  let now ← Std.Time.Timestamp.now
  -- No network is reached from here.
  let network : Contacts.Network := ⟨[], [], "no network".text⟩
  match CommandLine.run .byOccurrence .tabulated network (arguments.map String.text) environment
      now.toMillisecondsSinceUnixEpoch.val with
  | .ok done =>
      IO.print (done.output.shown)
      unless done.error = [] do
        IO.eprintln done.error.shown
      return done.code.toUInt32
  | .error error =>
      let words := match error with
        | .blankDirection => CommandLine.blankDirectionMessage
        | .blankTime => CommandLine.blankTimeMessage
        | .fault (.instant error) => error.message
        | .fault (.format error) => error.message
        | .fault (.subscriptions message) => message
        | .fault (.directory (.settings errors)) => CommandLine.configurationMessage errors
        | .fault (.directory (.failed words)) => words
      IO.eprintln words.shown
      return 1
