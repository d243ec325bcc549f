import RecordingName.Call.Subscriptions

/-!
# Devices that are asked

A device may answer every question in its own way. One that does not change by being asked is one
that gives the same answers every time: `Device.behind_eq_self_iff`. What is left of a device
behind some questions is `Device.after`.
-/

namespace RecordingName

/-- Every question is answered at a moment. -/
structure Subscriptions.Answers (subscriptions : Subscriptions) : Prop where
  telephony : ∃ value, subscriptions.hasTelephony = .ok value
  permission : ∃ value, subscriptions.hasPermission = .ok value
  count : ∃ value, subscriptions.activeCount = .ok value
  slot : ∀ account, ∃ value, subscriptions.slotOf account = .ok value

namespace Device

/-- A device that answers every question. -/
def Answers (device : Device) : Prop :=
  ∀ count, (device.atQuestion count).Answers

/-- A device that answers every question goes on answering. -/
theorem Answers.behind {device : Device} (answers : device.Answers) : device.behind.Answers :=
  fun count => answers (count + 1)

/-- A device changes by no question exactly if it gives the same answers every time. -/
theorem behind_eq_self_iff {device : Device} :
    device.behind = device ↔ ∃ subscriptions, device = steady subscriptions := by
  constructor
  · intro same
    refine ⟨device.subscriptions, ?_⟩
    have step (count : Nat) : device.atQuestion (count + 1) = device.atQuestion count :=
      congrFun (congrArg atQuestion same) count
    obtain ⟨atQuestion⟩ := device
    refine congrArg mk (funext fun count => ?_)
    induction count with
    | zero => rfl
    | succ count ih => exact (step count).trans ih
  · rintro ⟨subscriptions, rfl⟩
    rfl

/-- A device behind some questions. -/
def after (count : Nat) (device : Device) : Device :=
  ⟨fun later => device.atQuestion (later + count)⟩

theorem after_after (first second : Nat) (device : Device) :
    (device.after first).after second = device.after (second + first) :=
  congrArg mk (funext fun later => congrArg device.atQuestion (Nat.add_assoc later second first))

/-- However many questions have been asked, an answering device goes on answering. -/
theorem Answers.after {device : Device} (answers : device.Answers) (count : Nat) :
    (device.after count).Answers :=
  fun later => answers (later + count)

/-- A device that gives the same answers every time is the same behind any questions. -/
theorem after_of_behind_eq {device : Device} (same : device.behind = device) (count : Nat) :
    device.after count = device := by
  obtain ⟨subscriptions, rfl⟩ := behind_eq_self_iff.1 same
  rfl

end Device
end RecordingName
