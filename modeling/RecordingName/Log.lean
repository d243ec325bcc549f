import RecordingName.Text.Basic

/-!
# Log entries

What the parts of the library report while they work.
-/

namespace RecordingName

/-- How grave a report is. -/
inductive Level where
  | debug
  | info
  | warning
  | error
  deriving DecidableEq, Repr

/-- The name of a level. -/
def Level.name : Level → Text
  | .debug => "DEBUG".text
  | .info => "INFO".text
  | .warning => "WARNING".text
  | .error => "ERROR".text

/-- The part that reports. -/
inductive Component where
  | variables
  | generator
  | contacts
  deriving DecidableEq, Repr

/-- One report. -/
structure LogEntry where
  level : Level
  component : Component
  message : Text
  deriving DecidableEq, Repr

end RecordingName
