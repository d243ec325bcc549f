import RecordingName.Text.Lower
import RecordingName.Text.Percent

/-!
# Handles

A handle names the other end of a call: a scheme, a colon and a percent-encoded
part. The colon counts only behind a scheme.
-/

namespace RecordingName

/-- A handle taken apart, its second part decoded. -/
structure Handle where
  scheme : Option Text
  body : Text
  deriving DecidableEq, Repr

namespace Handle

/-- The scheme of telephone numbers. -/
def telephone : Text := [CodePoint.scalar 't', 'e', 'l']

/-- Take a handle apart at its first colon. The scheme counts in lower case. -/
def parse (text : Text) : Handle :=
  let scheme := text.takeWhile (· ≠ .scalar ':')
  match text.dropWhile (· ≠ .scalar ':') with
  | [] => ⟨none, Text.Percent.decode text⟩
  | _ :: body =>
      if scheme = [] then ⟨none, Text.Percent.decode text⟩
      else ⟨some (Text.lower scheme), Text.Percent.decode body⟩

/-- The handle of a telephone number, as it is given. -/
def ofNumber (number : Text) : Text :=
  telephone ++ .scalar ':' :: number

/-- The telephone number of a handle, if it has the telephone scheme and a number. -/
def phoneNumber? (text : Text) : Option Text :=
  let handle := parse text
  if text ≠ [] ∧ handle.scheme = some telephone ∧ handle.body ≠ [] then some handle.body else none

end Handle
end RecordingName
