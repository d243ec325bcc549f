import RecordingName.Text.Basic

/-!
# Variables

The variables that a filename template can refer to. `ofName?_name` says that
their names tell them apart.
-/

namespace RecordingName.Naming

/-- A variable of filename templates. -/
inductive Variable where
  | date
  | direction
  | simSlot
  | phoneNumber
  | callerName
  | contactName
  deriving DecidableEq, Repr

namespace Variable

/-- Every variable. -/
def all : List Variable :=
  [.date, .direction, .simSlot, .phoneNumber, .callerName, .contactName]

/-- The name of a variable. -/
def name : Variable → Text
  | .date => "date".text
  | .direction => "direction".text
  | .simSlot => "sim_slot".text
  | .phoneNumber => "phone_number".text
  | .callerName => "caller_name".text
  | .contactName => "contact_name".text

/-- The variable of a name. -/
def ofName? (name : Text) : Option Variable :=
  all.find? (·.name = name)

/-- Names tell variables apart. -/
theorem ofName?_name (variable_ : Variable) : ofName? variable_.name = some variable_ := by
  cases variable_ <;> decide

end Variable
end RecordingName.Naming
