import RecordingName.Contacts.Account

/-!
# Directories

A directory maps telephone numbers to names. It may be missing, be given by what it
tells, or be an account; one whose settings are at fault cannot even tell whether it is
configured. Every question leaves the directory behind that answers the next one.
-/

namespace RecordingName.Contacts

/-- The answer of a directory to a look-up. -/
inductive Answer where
  | found (name : Text)
  | notFound
  | failed
  deriving DecidableEq, Repr

/-- What a directory tells at a moment: whether look-ups are possible, or words about its
failure to tell, and its answers to look-ups. -/
structure Service where
  configured : Except Text Bool
  answer : Text → Bool → Answer

/-- A directory of contacts. -/
inductive Directory where
  | absent
  /-- A directory by what it would tell at the time of each question to come. -/
  | given (atQuestion : Nat → Service)
  | account (account : Account)
  | unusable (errors : List SettingError)

/-- Why a directory does not tell whether look-ups are possible. -/
inductive StatusFailure where
  | failed (words : Text)
  | settings (errors : List SettingError)
  deriving DecidableEq, Repr

/-- Whether look-ups are possible, and the directory behind that question. -/
def Directory.isConfigured : Directory → Except StatusFailure Bool × Directory
  | .absent => (.ok false, .absent)
  | .given atQuestion =>
      ((atQuestion 0).configured.mapError .failed, .given fun count => atQuestion (count + 1))
  | .account known => (.ok known.isConfigured, .account known)
  | .unusable errors => (.error (.settings errors), .unusable errors)

/-- Look up the name of a number. The directory behind the look-up is part of the
result. -/
def Directory.lookup (number : Text) (isSip : Bool) :
    Directory → Answer × Directory × List LogEntry
  | .absent => (.notFound, .absent, [])
  | .given atQuestion =>
      ((atQuestion 0).answer number isSip, .given fun count => atQuestion (count + 1), [])
  | .account known =>
      let outcome := known.lookup number isSip
      (outcome.value.elim .notFound .found, .account outcome.account, outcome.log)
  | .unusable errors => (.failed, .unusable errors, [])

end RecordingName.Contacts
