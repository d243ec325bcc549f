/-!
# Registers

A register keeps values under keys in the order in which the keys came first. A
value that is put again takes the place of the old one. `get?_put_self`,
`get?_put_of_ne` and `keys_put` say what putting does.
-/

namespace RecordingName

/-- Put a value into the place of its key, or behind all others if the key is new. -/
def Register.putEntry {κ α : Type} [DecidableEq κ] (key : κ) (value : α) :
    List (κ × α) → List (κ × α)
  | [] => [(key, value)]
  | entry :: rest =>
      if entry.1 = key then (key, value) :: rest else entry :: putEntry key value rest

/-- A known key keeps its place, a new one goes to the end. -/
theorem Register.keys_putEntry {κ α : Type} [DecidableEq κ] (key : κ) (value : α)
    (entries : List (κ × α)) :
    (putEntry key value entries).map (·.1) =
      if key ∈ entries.map (·.1) then entries.map (·.1) else entries.map (·.1) ++ [key] := by
  induction entries with
  | nil => simp [putEntry]
  | cons entry rest ih =>
      by_cases same : entry.1 = key
      · simp [putEntry, same]
      · have other : key ≠ entry.1 := fun equal => same equal.symm
        simp only [putEntry, if_neg same, List.map_cons, ih, List.mem_cons, other, false_or]
        split <;> simp

/-- No key is entered twice. -/
theorem Register.nodup_putEntry {κ α : Type} [DecidableEq κ] (key : κ) (value : α)
    {entries : List (κ × α)} (nodup : (entries.map (·.1)).Nodup) :
    ((putEntry key value entries).map (·.1)).Nodup := by
  rw [keys_putEntry]
  split
  · exact nodup
  · next fresh =>
      refine List.nodup_append.2 ⟨nodup, by simp, ?_⟩
      intro first first_mem second second_mem equal
      rw [List.mem_singleton] at second_mem
      exact fresh (second_mem ▸ equal ▸ first_mem)

/-- Values under distinct keys, in the order in which the keys came first. -/
structure Register (κ α : Type) where
  entries : List (κ × α)
  keys_nodup : (entries.map (·.1)).Nodup

namespace Register

variable {κ α : Type}

/-- The register without entries. -/
def empty : Register κ α := ⟨[], List.nodup_nil⟩

/-- The keys, in order. -/
def keys (register : Register κ α) : List κ :=
  register.entries.map (·.1)

/-- The values, in the order of their keys. -/
def values (register : Register κ α) : List α :=
  register.entries.map (·.2)

variable [DecidableEq κ]

/-- The value under a key. -/
def get? (register : Register κ α) (key : κ) : Option α :=
  register.entries.lookup key

/-- Put a value under a key, in the place of the old one if there is one. -/
def put (register : Register κ α) (key : κ) (value : α) : Register κ α :=
  ⟨putEntry key value register.entries, nodup_putEntry key value register.keys_nodup⟩

/-- Put a value under a key unless the key has one. -/
def putNew (register : Register κ α) (key : κ) (value : α) : Register κ α :=
  if key ∈ register.keys then register else register.put key value

/-- A key keeps its place, and a new one comes last. -/
theorem keys_put (register : Register κ α) (key : κ) (value : α) :
    (register.put key value).keys =
      if key ∈ register.keys then register.keys else register.keys ++ [key] :=
  keys_putEntry key value register.entries

/-- The key that was put has its value. -/
theorem lookup_putEntry_self (key : κ) (value : α) (entries : List (κ × α)) :
    (putEntry key value entries).lookup key = some value := by
  induction entries with
  | nil => simp [putEntry]
  | cons entry rest ih =>
      obtain ⟨present, old⟩ := entry
      by_cases same : present = key
      · simp [putEntry, same]
      · have other : (key == present) = false := by simpa using fun equal => same equal.symm
        simp only [putEntry, if_neg same, List.lookup_cons, other, ih]

/-- Other keys keep theirs. -/
theorem lookup_putEntry_of_ne {key other : κ} (different : other ≠ key) (value : α)
    (entries : List (κ × α)) :
    (putEntry key value entries).lookup other = entries.lookup other := by
  have unequal : (other == key) = false := by simpa using different
  induction entries with
  | nil => simp [putEntry, List.lookup_cons, unequal]
  | cons entry rest ih =>
      obtain ⟨present, old⟩ := entry
      by_cases same : present = key
      · subst same
        simp [putEntry, List.lookup_cons, unequal]
      · simp only [putEntry, if_neg same, List.lookup_cons, ih]

/-- The value that was put is the one that is found. -/
theorem get?_put_self (register : Register κ α) (key : κ) (value : α) :
    (register.put key value).get? key = some value :=
  lookup_putEntry_self key value register.entries

/-- Putting leaves the other keys alone. -/
theorem get?_put_of_ne (register : Register κ α) {key other : κ} (different : other ≠ key)
    (value : α) : (register.put key value).get? other = register.get? other :=
  lookup_putEntry_of_ne different value register.entries

end Register
end RecordingName
