import RecordingName.Text.Basic

/-!
# Subscriptions

What a device tells about its SIM subscriptions. Every question may fail, with
words about the failure, and every question may find the device changed.
-/

namespace RecordingName

/-- The answers of a device about its subscriptions at a moment. -/
structure Subscriptions where
  /-- Whether the device has telephone subscriptions at all. -/
  hasTelephony : Except Text Bool
  /-- Whether the subscriptions may be read. -/
  hasPermission : Except Text Bool
  /-- How many subscriptions are active. -/
  activeCount : Except Text Nat
  /-- The slot, from zero, of the subscription behind an account. -/
  slotOf : Option Text → Except Text (Option Int)

namespace Subscriptions

/-- A device without telephone subscriptions. -/
def none : Subscriptions :=
  ⟨.ok false, .ok false, .ok 0, fun _ => .ok Option.none⟩

/-- A device whose accounts have fixed slots. -/
def ofSlots (slots : List (Text × Int)) (permission : Bool) : Subscriptions :=
  ⟨.ok true, .ok permission, .ok slots.length,
    fun account => .ok (account.bind fun name => slots.lookup name)⟩

end Subscriptions

/-- A device, by the answers that it would give at the time of each question to come. -/
structure Device where
  atQuestion : Nat → Subscriptions

namespace Device

/-- A device that gives the same answers every time. -/
def steady (subscriptions : Subscriptions) : Device :=
  ⟨fun _ => subscriptions⟩

/-- What a device would answer to the next question. -/
def subscriptions (device : Device) : Subscriptions :=
  device.atQuestion 0

/-- A device behind a question. -/
def behind (device : Device) : Device :=
  ⟨fun count => device.atQuestion (count + 1)⟩

end Device
end RecordingName
