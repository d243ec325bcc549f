import RecordingName.Proofs.Redaction.Decomposition
import RecordingName.Proofs.Register

/-!
# Sources that are offered again

A source keeps the place of its first registration and the placeholder of its last one. So sources
that are offered to a redactor a second time, in the same order and under the same placeholders,
change nothing, even if they have been under other placeholders on the way: `offeredAll_offeredAll`.
-/

namespace RecordingName

/-- Registers with the same keys and the same values under them are the same. -/
theorem Register.eq_of_get? {κ α : Type} [DecidableEq κ] {first second : Register κ α}
    (keys : first.keys = second.keys) (same : ∀ key, first.get? key = second.get? key) :
    first = second := by
  apply eq_of_entries
  rw [← filterMap_lookup first.keys_nodup, ← filterMap_lookup second.keys_nodup]
  change first.keys.filterMap _ = second.keys.filterMap _
  rw [keys]
  refine List.filterMap_congr fun key _ => ?_
  exact congrArg (Option.map _) (same key)

namespace Redactor

variable {redactor first second : Redactor} {calls : List (Text × Text)}

/-- A redactor is its order and its register. -/
theorem eq_of_register (order : first.order = second.order)
    (register : first.register = second.register) : first = second := by
  cases first
  cases second
  cases order
  cases register
  rfl

theorem order_offered (redactor : Redactor) (source placeholder : Text) :
    (redactor.offered source placeholder).order = redactor.order := by
  by_cases empty : source = []
  · simp [offered, add?, empty]
  · simp [offered, add?, empty, add]

/-- No offer changes the order. -/
theorem order_offeredAll (redactor : Redactor) (calls : List (Text × Text)) :
    (redactor.offeredAll calls).order = redactor.order := by
  induction calls generalizing redactor with
  | nil => rfl
  | cons call others ih => exact (ih _).trans (redactor.order_offered ..)

/-- A source that is registered keeps its place, an empty one gets none, and any other comes
last. -/
theorem keys_offered (redactor : Redactor) (source placeholder : Text) :
    (redactor.offered source placeholder).register.keys =
      if source = [] ∨ source ∈ redactor.register.keys then redactor.register.keys
      else redactor.register.keys ++ [source] := by
  by_cases empty : source = []
  · simp [offered, add?, empty]
  · simp only [offered, add?, dif_neg empty, Option.getD_some, add, empty, false_or]
    rw [Register.keys_put]
    split
    · rfl
    · rfl

/-- An offer leaves the known sources where they are. -/
theorem keys_prefix_offered (redactor : Redactor) (source placeholder : Text) :
    redactor.register.keys <+: (redactor.offered source placeholder).register.keys := by
  rw [keys_offered]
  split
  · exact List.prefix_rfl
  · exact List.prefix_append _ _

/-- So do any number of offers. -/
theorem keys_prefix_offeredAll (redactor : Redactor) (calls : List (Text × Text)) :
    redactor.register.keys <+: (redactor.offeredAll calls).register.keys := by
  induction calls generalizing redactor with
  | nil => exact List.prefix_rfl
  | cons call others ih => exact (redactor.keys_prefix_offered ..).trans (ih _)

/-- What has been offered is registered, unless it is empty. -/
theorem mem_keys_offeredAll {call : Text × Text} (member : call ∈ calls) :
    call.1 = [] ∨ call.1 ∈ (redactor.offeredAll calls).register.keys := by
  induction calls generalizing redactor with
  | nil => cases member
  | cons first others ih =>
      rcases List.mem_cons.1 member with rfl | later
      · by_cases empty : call.1 = []
        · exact .inl empty
        · refine .inr (((redactor.offered call.1 call.2).keys_prefix_offeredAll others).subset ?_)
          rw [keys_offered]
          split
          next known => exact known.resolve_left empty
          · exact List.mem_append_right _ (List.mem_singleton_self _)
      · exact ih later

/-- Sources that are registered keep their places. -/
theorem keys_offeredAll_of_known
    (known : ∀ call ∈ calls, call.1 = [] ∨ call.1 ∈ redactor.register.keys) :
    (redactor.offeredAll calls).register.keys = redactor.register.keys := by
  induction calls generalizing redactor with
  | nil => rfl
  | cons call others ih =>
      have kept : (redactor.offered call.1 call.2).register.keys = redactor.register.keys := by
        rw [keys_offered, if_pos (known call (List.mem_cons_self ..))]
      refine (@ih (redactor.offered call.1 call.2) fun other later => ?_).trans kept
      rw [kept]
      exact known other (List.mem_cons_of_mem _ later)

/-- Sources that have been offered one after the other change nothing when they are offered so
again. -/
theorem offeredAll_offeredAll (redactor : Redactor) (calls : List (Text × Text)) :
    (redactor.offeredAll calls).offeredAll calls = redactor.offeredAll calls := by
  apply eq_of_register (order_offeredAll _ calls)
  apply Register.eq_of_get?
  · exact keys_offeredAll_of_known fun call member => mem_keys_offeredAll member
  · intro source
    rw [get?_offeredAll, get?_offeredAll, ← Option.or_assoc, Option.or_self]

theorem offeredAll_append (redactor : Redactor) (calls others : List (Text × Text)) :
    redactor.offeredAll (calls ++ others) = (redactor.offeredAll calls).offeredAll others :=
  List.foldl_append

end Redactor
end RecordingName
