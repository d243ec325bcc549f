import RecordingName.Template.Basic

/-!
# Where a variable stands in a template

A reference that follows a literal is found in a finished text behind that
literal; one that follows another reference may be anywhere.
`length_locations` says that there is one location for each reference.
-/

namespace RecordingName

/-- Where a reference stands. -/
inductive Location where
  /-- Behind a literal; `atStart` if nothing else stands before it. -/
  | after (literal : Text) (atStart : Bool)
  /-- Behind another reference. -/
  | arbitrary
  deriving DecidableEq, Repr

namespace Template

/-- The locations of the references to `name` among segments, where `here` is the
location of a reference that stands first, and `atStart` says whether the segments
are the whole template. -/
def locationsFrom (name : Text) (here : Location) (atStart : Bool) : List Segment → List Location
  | [] => []
  | .literal text :: rest => locationsFrom name (.after text atStart) false rest
  | .reference target :: rest =>
      if target.name = name then here :: locationsFrom name .arbitrary false rest
      else locationsFrom name .arbitrary false rest

/-- The locations of the references to `name`, in order. -/
def locations (template : Template) (name : Text) : List Location :=
  locationsFrom name (.after [] true) true template.segments

/-- The references among segments to the variable `name`, in order. -/
def referencesTo (name : Text) : List Segment → List Reference
  | [] => []
  | .literal _ :: rest => referencesTo name rest
  | .reference target :: rest =>
      if target.name = name then target :: referencesTo name rest else referencesTo name rest

/-- The first reference to `name` and the locations of all of them, if there are
any. -/
def find? (template : Template) (name : Text) : Option (Reference × List Location) :=
  (referencesTo name template.segments).head?.map fun first => (first, template.locations name)

theorem referencesTo_append (name : Text) (first second : List Segment) :
    referencesTo name (first ++ second) = referencesTo name first ++ referencesTo name second := by
  induction first with
  | nil => rfl
  | cons segment rest ih =>
      cases segment with
      | literal text => exact ih
      | reference target =>
          by_cases same : target.name = name <;> simp [referencesTo, same, ih]

/-- The references to a name are those of the template that bear it. -/
theorem mem_referencesTo {name : Text} {target : Reference} {segments : List Segment} :
    target ∈ referencesTo name segments ↔ .reference target ∈ segments ∧ target.name = name := by
  induction segments with
  | nil => simp [referencesTo]
  | cons segment rest ih =>
      cases segment with
      | literal text => simp [referencesTo, ih]
      | reference head =>
          rw [referencesTo]
          split <;> grind

/-- There is one location for each reference. -/
theorem length_locationsFrom (name : Text) (here : Location) (atStart : Bool)
    (segments : List Segment) :
    (locationsFrom name here atStart segments).length = (referencesTo name segments).length := by
  induction segments generalizing here atStart with
  | nil => rfl
  | cons segment rest ih =>
      cases segment with
      | literal text => exact ih _ _
      | reference target =>
          by_cases same : target.name = name <;> simp [locationsFrom, referencesTo, same, ih]

/-- There is one location for each reference. -/
theorem length_locations (template : Template) (name : Text) :
    (template.locations name).length = (referencesTo name template.segments).length :=
  length_locationsFrom ..

end Template
end RecordingName
