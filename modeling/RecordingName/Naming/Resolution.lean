import RecordingName.Naming.Filename
import RecordingName.Naming.Session
import RecordingName.Naming.Variable
import RecordingName.Template.Basic

/-!
# Answering references

How each variable of a template is answered from the details of a call. Numbers
and names are registered for redaction before they are handed out, also in the
form that they take in a filename.
-/

namespace RecordingName.Naming

/-- Different non-empty texts in the order of their first occurrences, joined by
commas. -/
def joinDistinct (values : List (Option Text)) : Text :=
  Text.join [','] ((values.filterMap id).filter (· ≠ [])).eraseDups

/-- Register what will be hidden, unless it is empty. -/
def hide (source placeholder : Text) : Evaluation Unit :=
  modify fun session =>
    { session with redactor := (session.redactor.add? source placeholder).getD session.redactor }

/-- Hand out a sensitive value, hidden under one of two placeholders from then on. The
empty value is none. -/
def handOut (context : Context) (value single conference : Text) : Evaluation (Option Text) := do
  if value = [] then
    return none
  let placeholder := if context.isConference then conference else single
  hide value placeholder
  let inFilename := Filename.withoutSeparators value
  if inFilename ≠ value then
    hide inFilename placeholder
  return some value

/-- A timestamp as the formatter in force writes it. -/
def writeStamp (stamp : ZonedTimestamp) : Evaluation (Option Text) := do
  match (← get).formatter.format stamp.toTimestamp with
  | .ok text => return some text
  | .error error => throw (.format error)

/-- The date of the call, in the formatter in force. A valid pattern as argument
puts its own formatter in force, even one by which nothing can be written; an invalid one is
reported. -/
def resolveDate (zone : Zone) (context : Context) (argument : Option Text) :
    Evaluation (Option Text) := do
  let stamp ← match ZonedTimestamp.ofMillis zone context.parent.creationMillis with
    | .ok stamp => pure stamp
    | .error error => throw (.instant error)
  modify fun session => { session with timestamp := some stamp }
  match argument with
  | none => pure ()
  | some text =>
      report .debug .variables ("Using custom datetime pattern: ".text ++ text)
      match DateFormat.Pattern.parse text with
      | .ok pattern => modify fun session => { session with formatter := .custom pattern }
      | .error error =>
          let formatter := (← get).formatter
          report .warning .variables ("Invalid custom datetime pattern: ".text ++ text ++
            "; using ".text ++ formatter.shown ++ ": ".text ++ error.message text)
  writeStamp stamp

/-- The words for a direction that cannot be used. -/
def directionText : Option Direction → Text
  | none => "None".text
  | some .incoming => "CallDirection.INCOMING".text
  | some .outgoing => "CallDirection.OUTGOING".text
  | some .unknown => "CallDirection.UNKNOWN".text

/-- The direction of the call. A conference has none of its own. -/
def resolveDirection (context : Context) : Evaluation (Option Text) := do
  if context.isConference then
    return some "conference".text
  match context.parent.direction with
  | some .incoming => return some "in".text
  | some .outgoing => return some "out".text
  | other =>
      report .debug .variables ("Call direction not available: ".text ++ directionText other)
      return none

/-- An answer of the device to a question. -/
def ask {α : Type} (question : Subscriptions → Except Text α) : Evaluation α := do
  let answer := question (← get).subscriptions
  modify fun session => { session with device := session.device.map Device.behind }
  match answer with
  | .ok value => return value
  | .error message => throw (.subscriptions message)

/-- The slot of the call's subscription, counted from one, if the device has several. -/
def resolveSimSlot (context : Context) : Evaluation (Option Text) := do
  if !(← ask Subscriptions.hasTelephony) then
    report .debug .variables "Telephony subscriptions not supported".text
    return none
  if !(← ask Subscriptions.hasPermission) then
    report .debug .variables "Permissions not granted for reading phone state".text
    return none
  if (← ask Subscriptions.activeCount) ≤ 1 then
    return none
  match ← ask (·.slotOf context.parent.account) with
  | none =>
      report .debug .variables "No active subscription for the call's phone account".text
      return none
  | some slot => return some (Text.signedDecimal (slot + 1))

/-- The telephone numbers of the parties. -/
def resolvePhoneNumber (context : Context) : Evaluation (Option Text) :=
  handOut context (joinDistinct (context.parties.map Details.phoneNumber?))
    "<phone number>".text "<conference phone numbers>".text

/-- The names under which the parties called. -/
def resolveCallerName (context : Context) : Evaluation (Option Text) :=
  handOut context (joinDistinct (context.parties.map fun party => party.callerName.map Text.strip))
    "<caller name>".text "<conference caller names>".text

/-- Whether a number is the address of an internet call. -/
def isSipAddress (number : Text) : Bool :=
  number.contains '@' || (Text.afterEach ['%', '4', '0'] number != [])

/-- The name of a contact from the directory, if the evaluation may wait for it. -/
def lookUpContact (context : Context) (party : Details) : Evaluation (Option Text) := do
  if !context.mayBlock then
    report .debug .variables "Manual lookup is disabled for this invocation".text
    return none
  let (status, asked) := (← get).directory.isConfigured
  modify fun session => { session with directory := asked }
  let configured ← match status with
    | .ok configured => pure configured
    | .error failure => throw (.directory failure)
  if !configured then
    report .warning .variables "Contact lookup not permitted or not configured".text
    return none
  match party.phoneNumber? with
  | none =>
      report .warning .variables "Cannot determine phone number from call".text
      return none
  | some number =>
      report .debug .variables "Performing manual contact lookup".text
      let isSip := isSipAddress number
      let (answer, directory, log) := (← get).directory.lookup number isSip
      modify fun session => { session with
        directory, lookups := session.lookups ++ [⟨number, isSip⟩], log := session.log ++ log }
      match answer with
      | .found name =>
          report .debug .variables "Found contact display name via manual lookup".text
          return some name
      | .notFound =>
          report .debug .variables "Contact not found via manual lookup".text
          return none
      | .failed =>
          report .warning .variables "Manual contact lookup failed".text
          return none

/-- The name of a party among the contacts: the one that came with the call, or else
the one in the directory. -/
def contactName (context : Context) (party : Details) : Evaluation (Option Text) := do
  match party.contactName with
  | some name => return some name
  | none =>
      if context.isConference then
        report .warning .variables "Contact display name missing in conference child call".text
      lookUpContact context party

/-- The names of the parties among the contacts. -/
def resolveContactName (context : Context) : Evaluation (Option Text) := do
  let names ← context.parties.mapM (contactName context)
  handOut context (joinDistinct (names.map fun name => name.map Text.strip))
    "<contact name>".text "<conference contact names>".text

/-- The answer to a reference in a template. -/
def resolve (zone : Zone) (context : Context) (target : Reference) : Evaluation (Option Text) :=
  match Variable.ofName? target.name with
  | none => do
      report .warning .variables ("Unknown filename template variable: ".text ++ target.name)
      return none
  | some .date => resolveDate zone context target.argument
  | some .direction => resolveDirection context
  | some .simSlot => resolveSimSlot context
  | some .phoneNumber => resolvePhoneNumber context
  | some .callerName => resolveCallerName context
  | some .contactName => resolveContactName context

end RecordingName.Naming
