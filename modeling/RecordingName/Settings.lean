import RecordingName.Log
import RecordingName.Text.Blank
import RecordingName.Text.Lower
import RecordingName.Word
import RecordingName.Zone.Basic

/-!
# Settings

Settings are read from given values and, for those not given, from environment
variables. Names count in any case. Every value at fault is reported, in the order
of the settings. Blank templates and time zones count as not set.
-/

namespace RecordingName

/-- The settings, in the order of reports. -/
inductive SettingName where
  | filenameTemplate
  | timezone
  | contactLookupEnabled
  | logLevel
  | googleClientId
  | googleClientSecret
  | googleRefreshToken
  deriving DecidableEq, Repr

/-- The name of a setting and of its environment variable. -/
def SettingName.text : SettingName → Text
  | .filenameTemplate => "filename_template".text
  | .timezone => "timezone".text
  | .contactLookupEnabled => "contact_lookup_enabled".text
  | .logLevel => "log_level".text
  | .googleClientId => "google_client_id".text
  | .googleClientSecret => "google_client_secret".text
  | .googleRefreshToken => "google_refresh_token".text

/-- Every setting. -/
def SettingName.all : List SettingName :=
  [.filenameTemplate, .timezone, .contactLookupEnabled, .logLevel, .googleClientId,
    .googleClientSecret, .googleRefreshToken]

/-- Whether a name is that of a setting in any case. -/
def SettingName.isNamed (setting : SettingName) (name : Text) : Bool :=
  Text.lower name = setting.text

/-- A value as it is given for a setting. -/
inductive SettingValue where
  | text (value : Text)
  | boolean (value : Bool)
  | integer (value : Int)
  /-- A number that was written with a point. -/
  | fraction (numerator : Int) (denominator : Nat)
  | null
  /-- A list or another value that no setting takes. -/
  | compound
  deriving DecidableEq, Repr

/-- What can be wrong with the value of a setting. -/
inductive SettingProblem where
  | notText
  | unreadableBoolean
  | notBoolean
  | unknownLevel
  | unknownZone (name : Text)
  deriving DecidableEq, Repr

/-- The code of a problem. -/
def SettingProblem.code : SettingProblem → Text
  | .notText => "string_type".text
  | .unreadableBoolean => "bool_parsing".text
  | .notBoolean => "bool_type".text
  | .unknownLevel => "literal_error".text
  | .unknownZone _ => "value_error".text

/-- The message about a problem. -/
def SettingProblem.message : SettingProblem → Text
  | .notText => "Input should be a valid string".text
  | .unreadableBoolean =>
      "Input should be a valid boolean, unable to interpret input".text
  | .notBoolean => "Input should be a valid boolean".text
  | .unknownLevel => "Input should be 'DEBUG', 'INFO', 'WARNING' or 'ERROR'".text
  | .unknownZone name => "Value error, Unknown time zone: ".text ++ name

/-- A setting and what is wrong with its value. -/
structure SettingError where
  setting : SettingName
  problem : SettingProblem
  deriving DecidableEq, Repr

/-- A time zone with the name that it was asked for by. -/
structure NamedZone where
  name : Text
  zone : Zone

/-- The settings of the library. -/
structure Settings where
  filenameTemplate : Option Text
  timezone : Option NamedZone
  contactLookupEnabled : Bool
  logLevel : Level
  googleClientId : Option Text
  googleClientSecret : Option Text
  googleRefreshToken : Option Text

namespace Settings

/-- The zone of timestamps: the one that is set, or else the zone of the system. -/
def zone (zones : Zone.Database) (settings : Settings) : Zone :=
  match settings.timezone with
  | none => zones.system
  | some named => named.zone

/-- Whether contacts may be looked up and the account for it is set. -/
def canLookUpContacts (settings : Settings) : Bool :=
  settings.contactLookupEnabled &&
    [settings.googleClientId, settings.googleClientSecret, settings.googleRefreshToken].all
      fun value => value.getD [] != []

/-- A text or nothing. -/
def readText : SettingValue → Except SettingProblem (Option Text)
  | .text value => .ok (some value)
  | .null => .ok none
  | _ => .error .notText

/-- A text or nothing, where a blank text is nothing. -/
def readVisibleText (value : SettingValue) : Except SettingProblem (Option Text) :=
  (readText value).map fun read => read.filter fun text => Text.strip text ≠ []

/-- The name of a time zone that is known, or nothing. -/
def readZone (zones : Zone.Database) (value : SettingValue) :
    Except SettingProblem (Option NamedZone) :=
  match readVisibleText value with
  | .error problem => .error problem
  | .ok none => .ok none
  | .ok (some name) =>
      match zones.named? name with
      | none => .error (.unknownZone name)
      | some zone => .ok (some ⟨name, zone⟩)

/-- The words for yes. -/
def yesWords : List Text :=
  ["1".text, "true".text, "t".text, "yes".text, "y".text, "on".text]

/-- The words for no. -/
def noWords : List Text :=
  ["0".text, "false".text, "f".text, "no".text, "n".text, "off".text]

/-- The truth value of a number that is one or zero. -/
def readTruth (value : Int) : Except SettingProblem Bool :=
  if value = 1 then .ok true else if value = 0 then .ok false else .error .unreadableBoolean

/-- A truth value, the numbers one and zero, or a word in any case. Of numbers written with
a point, only those count that are whole and lie strictly between -2^63 and 2^63. -/
def readBoolean : SettingValue → Except SettingProblem Bool
  | .boolean value => .ok value
  | .integer value => if Word.fits64 value then readTruth value else .error .notBoolean
  | .fraction numerator denominator =>
      let value := numerator / denominator
      if numerator % denominator = 0 ∧ Word.fits64 value ∧ value ≠ -9223372036854775808 then
        readTruth value
      else .error .notBoolean
  | .text value =>
      let word := value.map CodePoint.toLower
      if yesWords.contains word then .ok true
      else if noWords.contains word then .ok false
      else .error .unreadableBoolean
  | .null => .error .notBoolean
  | .compound => .error .notBoolean

/-- The upper case of a letter in the name of a level; the dotless i has one, too. -/
def upperLetter (c : CodePoint) : CodePoint :=
  if c = 'ı' then 'I' else c.toUpper

/-- The name of a level in any case, with blanks around it. -/
def readLevel : SettingValue → Except SettingProblem Level
  | .text value =>
      let name := (Text.strip value).map upperLetter
      match [Level.debug, .info, .warning, .error].find? (·.name = name) with
      | some level => .ok level
      | none => .error .unknownLevel
  | _ => .error .unknownLevel

/-- Given values and environment variables, each under its name. -/
structure Source where
  given : List (Text × SettingValue)
  environment : List (Text × Text)

/-- The value of a setting: the first given one, or else that of the last environment
variable. -/
def Source.value? (source : Source) (setting : SettingName) : Option SettingValue :=
  ((source.given.find? fun entry => setting.isNamed entry.1).map (·.2)).or
    ((source.environment.reverse.find? fun entry => setting.isNamed entry.1).map
      fun entry => .text entry.2)

/-- Read one setting, with a default for a value that is not there. -/
def Source.read {α : Type} (source : Source) (setting : SettingName) (default : α)
    (reader : SettingValue → Except SettingProblem α) : Except SettingError α :=
  match source.value? setting with
  | none => .ok default
  | some value => (reader value).mapError fun problem => ⟨setting, problem⟩

/-- The error of a reading, if it failed. -/
def errorOf {α : Type} : Except SettingError α → List SettingError
  | .error error => [error]
  | .ok _ => []

/-- Read all settings, or report every value at fault. -/
def read (zones : Zone.Database) (source : Source) : Except (List SettingError) Settings :=
  let template := source.read .filenameTemplate none readVisibleText
  let timezone := source.read .timezone none (readZone zones)
  let lookup := source.read .contactLookupEnabled true readBoolean
  let level := source.read .logLevel Level.info readLevel
  let clientId := source.read .googleClientId none readText
  let clientSecret := source.read .googleClientSecret none readText
  let refreshToken := source.read .googleRefreshToken none readText
  match template, timezone, lookup, level, clientId, clientSecret, refreshToken with
  | .ok template, .ok timezone, .ok lookup, .ok level, .ok clientId, .ok clientSecret,
      .ok refreshToken =>
      .ok ⟨template, timezone, lookup, level, clientId, clientSecret, refreshToken⟩
  | _, _, _, _, _, _, _ =>
      .error (errorOf template ++ errorOf timezone ++ errorOf lookup ++ errorOf level ++
        errorOf clientId ++ errorOf clientSecret ++ errorOf refreshToken)

end Settings
end RecordingName
