import RecordingName.Calendar.Timestamp

/-!
# Time zones

A time zone gives the offset in force at every instant, an instant being the
seconds since 1970-01-01 of universal time. A zone may be a fixed offset or come
from a table of transitions with a yearly rule for the time behind the last one.
-/

namespace RecordingName

/-- A time zone: the offset in force at every instant. -/
structure Zone where
  offsetAt : Int → Offset

namespace Zone

/-- The zone that keeps one offset. -/
def fixed (offset : Offset) : Zone := ⟨fun _ => offset⟩

/-- Universal time as a zone. -/
def utc : Zone := fixed Offset.utc

/-- A change of offset that comes every year: on the given occurrence of a weekday
in a month, counted from Sunday as zero, where the fifth is the last one, and at
the given seconds of the local day. -/
structure YearlyChange where
  month : Nat
  week : Nat
  weekday : Nat
  seconds : Int

/-- The local seconds at which a change comes in a year. -/
def YearlyChange.localSeconds (change : YearlyChange) (year : Int) : Int :=
  let first := (Date.mk year change.month 1).dayNumber
  let firstWeekday := (first + 4) % 7
  let inFirstWeek := (change.weekday - firstWeekday) % 7
  let day := inFirstWeek + 7 * (change.week - 1)
  let inMonth :=
    if day < Date.daysInMonth (Date.isLeap year) change.month then day else day - 7
  86400 * (first + inMonth) + change.seconds

/-- What holds behind the last transition of a table. -/
inductive Rule where
  | constant (offset : Offset)
  | yearly (standard summer : Offset) (start stop : YearlyChange)

/-- The offset that a rule gives for an instant. The changes are those of the year
that the instant has in universal time; a start behind the stop means a summer
over the turn of the year. -/
def Rule.offsetAt (instant : Int) : Rule → Offset
  | .constant offset => offset
  | .yearly standard summer start stop =>
      let year := (Date.ofDayNumber (instant / 86400)).year
      let begins := start.localSeconds year - standard.seconds
      let ends := stop.localSeconds year - summer.seconds
      let isSummer :=
        if begins < ends then begins ≤ instant && instant < ends
        else !(ends ≤ instant && instant < begins)
      if isSummer then summer else standard

/-- An instant from which on another offset is in force. -/
structure Transition where
  instant : Int
  offset : Offset

/-- A table of transitions in the order of their instants, the offset before the
first one and the rule behind the last one. -/
structure Table where
  before : Offset
  transitions : List Transition
  rule : Rule

/-- The offset of a table at an instant. -/
def Table.offsetAt (table : Table) (instant : Int) : Offset :=
  if table.transitions.all (·.instant < instant) then
    table.rule.offsetAt instant
  else
    match (table.transitions.takeWhile (·.instant ≤ instant)).getLast? with
    | none => table.before
    | some transition => transition.offset

/-- The zone of a table. -/
def ofTable (table : Table) : Zone := ⟨table.offsetAt⟩

/-- The zones that are known: those with names, and that of the system. -/
structure Database where
  named? : Text → Option Zone
  system : Zone

end Zone
end RecordingName
