import RecordingName.Call.Handle

/-!
# Call details

What is known about one call at one time. Every change of a call comes as new
details.
-/

namespace RecordingName

/-- The direction of a call. -/
inductive Direction where
  | incoming
  | outgoing
  | unknown
  deriving DecidableEq, Repr

/-- What is known about a call. -/
structure Details where
  creationMillis : Int
  handle : Option Text
  callerName : Option Text
  contactName : Option Text
  direction : Option Direction
  account : Option Text
  isConference : Bool
  deriving DecidableEq, Repr

namespace Details

/-- Details that tell only when a call was created. -/
def ofMillis (creationMillis : Int) : Details :=
  ⟨creationMillis, none, none, none, some .unknown, none, false⟩

/-- The telephone number of a call. -/
def phoneNumber? (details : Details) : Option Text :=
  details.handle.bind Handle.phoneNumber?

end Details
end RecordingName
