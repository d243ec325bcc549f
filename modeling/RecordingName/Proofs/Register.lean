import Mathlib.Data.List.Basic
import Mathlib.Data.List.Induction
import RecordingName.Register

/-!
# Registers filled from a list

A register that is filled with entries one by one holds the `latest` of them: its keys come in
the order in which they came first, each with the value that came last. `entries_putAll` says so,
and `putAll_latest` that the entries before the last of a key leave no trace.
-/

namespace RecordingName.Register

variable {κ α : Type}

/-- Registers are told apart by their entries. -/
theorem eq_of_entries {first second : Register κ α} (same : first.entries = second.entries) :
    first = second := by
  cases first
  cases second
  cases same
  rfl

variable [DecidableEq κ]

/-- The value under a key is that of the first entry with the key. -/
theorem get?_eq_find? (register : Register κ α) (key : κ) :
    register.get? key = (register.entries.find? (·.1 = key)).map (·.2) := by
  rw [get?]
  induction register.entries with
  | nil => rfl
  | cons entry rest ih =>
      obtain ⟨present, value⟩ := entry
      rw [List.lookup_cons, List.find?_cons]
      by_cases same : present = key
      · simp [same]
      · simp [same, ih, beq_false_of_ne (Ne.symm same)]

/-- A register behind entries that are put one by one. -/
def putAll (register : Register κ α) (entries : List (κ × α)) : Register κ α :=
  entries.foldl (fun current entry => current.put entry.1 entry.2) register

/-- The keys among entries in the order of their first occurrences, each with its last value. -/
def latest (entries : List (κ × α)) : List (κ × α) :=
  (entries.map (·.1)).eraseDups.filterMap fun key =>
    (entries.reverse.lookup key).map fun value => (key, value)

theorem putAll_concat (register : Register κ α) (entries : List (κ × α)) (entry : κ × α) :
    register.putAll (entries ++ [entry]) = (register.putAll entries).put entry.1 entry.2 := by
  rw [putAll, List.foldl_append]
  rfl

/-- The keys are there in the order in which they came first. -/
theorem keys_putAll (entries : List (κ × α)) :
    (empty.putAll entries).keys = (entries.map (·.1)).eraseDups := by
  induction entries using List.reverseRecOn with
  | nil => rfl
  | append_singleton entries entry ih =>
      rw [putAll_concat, keys_put, ih, List.map_append, List.map_singleton, List.eraseDups_append]
      split
      next known =>
        rw [List.mem_eraseDups] at known
        simp [List.removeAll, known]
      next fresh =>
        rw [List.mem_eraseDups] at fresh
        simp [List.removeAll, fresh, List.eraseDups_cons]

/-- Each key has the value that came last. -/
theorem get?_putAll (entries : List (κ × α)) (key : κ) :
    (empty.putAll entries).get? key = entries.reverse.lookup key := by
  induction entries using List.reverseRecOn with
  | nil => rfl
  | append_singleton entries entry ih =>
      obtain ⟨last, value⟩ := entry
      rw [putAll_concat, List.reverse_append, List.reverse_singleton, List.singleton_append,
        List.lookup_cons]
      by_cases same : key = last
      · rw [same, get?_put_self, beq_self_eq_true]
      · rw [get?_put_of_ne _ same, ih, beq_false_of_ne same]

/-- Entries under distinct keys are found by their keys. -/
theorem filterMap_lookup {entries : List (κ × α)} (nodup : (entries.map (·.1)).Nodup) :
    ((entries.map (·.1)).filterMap fun key => (entries.lookup key).map fun value => (key, value)) =
      entries := by
  induction entries with
  | nil => rfl
  | cons entry rest ih =>
      obtain ⟨first, value⟩ := entry
      obtain ⟨fresh, rest_nodup⟩ := List.nodup_cons.1 nodup
      have later : ∀ key ∈ rest.map (·.1),
          (((first, value) :: rest).lookup key).map (fun value => (key, value)) =
            (rest.lookup key).map fun value => (key, value) := by
        intro key member
        have other : key ≠ first := fun same => fresh (same ▸ member)
        rw [List.lookup_cons, beq_false_of_ne other]
      rw [List.map_cons, List.filterMap_cons, List.lookup_cons, beq_self_eq_true]
      exact congrArg _ ((List.filterMap_congr later).trans (ih rest_nodup))

/-- A register that is filled with entries holds the latest of them. -/
theorem entries_putAll (entries : List (κ × α)) :
    (empty.putAll entries).entries = latest entries := by
  have found := filterMap_lookup (empty.putAll entries).keys_nodup
  rw [← found, latest, ← keys_putAll]
  refine List.filterMap_congr fun key _ => ?_
  rw [← get?_putAll, get?]

theorem putEntry_of_notMem {key : κ} {entries : List (κ × α)} (fresh : key ∉ entries.map (·.1))
    (value : α) : putEntry key value entries = entries ++ [(key, value)] := by
  induction entries with
  | nil => rfl
  | cons entry rest ih =>
      rw [List.map_cons, List.mem_cons, not_or] at fresh
      rw [putEntry, if_neg fun same => fresh.1 same.symm, ih fresh.2, List.cons_append]

/-- A key that has a value keeps it, and any other comes last. -/
theorem entries_putNew (register : Register κ α) (key : κ) (value : α) :
    (register.putNew key value).entries =
      if key ∈ register.keys then register.entries else register.entries ++ [(key, value)] := by
  rw [putNew]
  split
  · rfl
  next fresh => exact putEntry_of_notMem fresh value

/-- A new entry adds its key and no other. -/
theorem mem_keys_putNew {register : Register κ α} {key other : κ} {value : α} :
    other ∈ (register.putNew key value).keys ↔ other ∈ register.keys ∨ other = key := by
  rw [keys, entries_putNew]
  split
  next present =>
    refine ⟨.inl, ?_⟩
    rintro (member | rfl)
    · exact member
    · exact present
  · rw [List.map_append, List.mem_append, List.map_singleton, List.mem_singleton]
    rfl

/-- Entries under distinct keys stay as they are. -/
theorem entries_putAll_of_nodup {entries : List (κ × α)} (nodup : (entries.map (·.1)).Nodup) :
    (empty.putAll entries).entries = entries := by
  induction entries using List.reverseRecOn with
  | nil => rfl
  | append_singleton entries entry ih =>
      rw [List.map_append, List.map_singleton, List.nodup_append] at nodup
      obtain ⟨before, _, apart⟩ := nodup
      have fresh : entry.1 ∉ entries.map (·.1) := fun early =>
        apart _ early _ (List.mem_singleton_self _) rfl
      rw [putAll_concat]
      change putEntry entry.1 entry.2 (empty.putAll entries).entries = _
      rw [ih before, putEntry_of_notMem fresh]

/-- Entries before the last of a key leave no trace. -/
theorem putAll_latest (entries : List (κ × α)) :
    empty.putAll (latest entries) = empty.putAll entries := by
  have filled := entries_putAll entries
  refine eq_of_entries ((entries_putAll_of_nodup ?_).trans filled.symm)
  rw [← filled]
  exact (empty.putAll entries).keys_nodup

end RecordingName.Register
