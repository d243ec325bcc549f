import RecordingName.Call.Handle
import RecordingName.Proofs.Text.Percent

/-!
# Handles of telephone numbers

The handle of a number is the number as it stands, behind the telephone scheme, and taking the
handle apart decodes what stands behind the scheme. `parse_ofNumber_eq_iff` says which numbers
come back.
-/

namespace RecordingName.Handle

/-- The handle of a number has the telephone scheme, and the decoded number behind it. -/
@[simp] theorem parse_ofNumber (number : Text) :
    parse (ofNumber number) = ⟨some telephone, Text.Percent.decode number⟩ := by
  have lowered : Text.lower telephone = telephone := by decide
  change Handle.mk (some (Text.lower telephone)) (Text.Percent.decode number) = _
  rw [lowered]

/-- A number comes back from its handle exactly if no encoded octet is in it. -/
theorem parse_ofNumber_eq_iff (number : Text) :
    parse (ofNumber number) = ⟨some telephone, number⟩ ↔
      ¬ Text.Percent.HoldsOctet number := by
  simp [Text.Percent.decode_eq_self_iff]

/-- The telephone number of such a handle is the decoded number, unless that is empty. -/
theorem phoneNumber?_ofNumber (number : Text) :
    phoneNumber? (ofNumber number) =
      if Text.Percent.decode number = [] then none else some (Text.Percent.decode number) := by
  have shown : ofNumber number ≠ [] := by simp [ofNumber, telephone]
  simp [phoneNumber?, shown]

end RecordingName.Handle
