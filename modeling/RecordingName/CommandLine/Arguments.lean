import RecordingName.Text.Integer
import RecordingName.Text.Quoted

/-!
# Arguments of a command line

The arguments of a command are options, which may be shortened as long as they
stay clear and may carry their value behind an equals sign, and operands. What
looks like a negative number or holds a space is an operand, and so is everything
behind the first `--`. Options that nobody knows are left over.
-/

namespace RecordingName.CommandLine

/-- The options of the commands. -/
inductive Flag where
  | help
  | template
  | timezone
  | number
  | name
  | contact
  | direction
  | timeMillis
  | blocking
  deriving DecidableEq, Repr

/-- The ways to write an option. -/
def Flag.names : Flag → List Text
  | .help => ["-h".text, "--help".text]
  | .template => ["--template".text]
  | .timezone => ["--timezone".text]
  | .number => ["--number".text]
  | .name => ["--name".text]
  | .contact => ["--contact".text]
  | .direction => ["--direction".text]
  | .timeMillis => ["--time-ms".text]
  | .blocking => ["--blocking".text]

/-- An option as messages show it. -/
def Flag.shown (flag : Flag) : Text :=
  Text.join ['/'] flag.names

/-- Whether an option has a value. -/
def Flag.takesValue : Flag → Bool
  | .help => false
  | .blocking => false
  | _ => true

/-- The words for directions. -/
def directionWords : List Text :=
  ["in".text, "out".text, "unknown".text]

/-- The commands. -/
def commandWords : List Text :=
  ["generate".text, "parse".text]

/-- What can be wrong with arguments. -/
inductive ArgumentError where
  | ambiguous (argument : Text) (candidates : List Text)
  | missingValue (flag : Flag)
  | unexpectedValue (flag : Flag) (value : Text)
  | notInteger (flag : Flag) (value : Text)
  | invalidDirection (value : Text)
  | invalidCommand (value : Text)
  | required (name : Text)
  | unrecognized (arguments : List Text)
  deriving DecidableEq, Repr

/-- The words to choose from, as messages show them. -/
def choiceText (value : Text) (words : List Text) : Text :=
  "invalid choice: ".text ++ Text.quoted value ++ " (choose from ".text ++
    Text.join ", ".text (words.map Text.quoted) ++ [CodePoint.scalar ')']

/-- The message about an error. -/
def ArgumentError.message : ArgumentError → Text
  | .ambiguous argument candidates =>
      "ambiguous option: ".text ++ argument ++ " could match ".text ++
        Text.join ", ".text candidates
  | .missingValue flag => "argument ".text ++ flag.shown ++ ": expected one argument".text
  | .unexpectedValue flag value =>
      "argument ".text ++ flag.shown ++ ": ignored explicit argument ".text ++ Text.quoted value
  | .notInteger flag value =>
      "argument ".text ++ flag.shown ++ ": invalid int value: ".text ++ Text.quoted value
  | .invalidDirection value =>
      "argument ".text ++ Flag.direction.shown ++ ": ".text ++ choiceText value directionWords
  | .invalidCommand value => "argument command: ".text ++ choiceText value commandWords
  | .required name => "the following arguments are required: ".text ++ name
  | .unrecognized arguments =>
      "unrecognized arguments: ".text ++ Text.join [' '] arguments

/-- Why no arguments are read: help is asked for, or there is an error. -/
inductive Stop where
  | help
  | error (error : ArgumentError)
  deriving DecidableEq, Repr

/-- An argument, by what it looks like. -/
inductive Argument where
  | operand (text : Text)
  | separator
  | option (text : Text) (flag : Flag) (attached : Option Text)
  | unknown (text : Text)
  deriving DecidableEq, Repr

/-- The mark behind which all arguments are operands. -/
def separatorText : Text := [CodePoint.scalar '-', '-']

/-- An argument as it was written. -/
def Argument.text : Argument → Text
  | .operand text => text
  | .separator => separatorText
  | .option text _ _ => text
  | .unknown text => text

/-- The digits of a number, possibly with a point among or before them, up to a line
feed at the end. -/
def isPlainNumber (text : Text) : Bool :=
  let trimmed := if text.getLast? = some (.scalar '\n') then text.dropLast else text
  let whole := trimmed.takeWhile Text.isDigit
  match trimmed.dropWhile Text.isDigit with
  | [] => whole ≠ []
  | head :: fraction => head = '.' && fraction ≠ [] && fraction.all Text.isDigit

/-- Whether an argument looks like a negative number. -/
def isNegativeNumber : Text → Bool
  | .scalar '-' :: digits => isPlainNumber digits
  | _ => false

/-- A text in two parts around its first equals sign, if there is one. -/
def splitAtEquals (text : Text) : Text × Option Text :=
  match text.dropWhile (· ≠ .scalar '=') with
  | [] => (text, none)
  | _ :: value => (text.takeWhile (· ≠ .scalar '='), some value)

/-- The ways to write the given options, each with its option. -/
def namedFlags (flags : List Flag) : List (Text × Flag) :=
  flags.flatMap fun flag => flag.names.map fun name => (name, flag)

/-- The options that an argument may be short for, each with its full name and its
value. Behind one hyphen only a single letter counts, and the rest is its value. -/
def abbreviated (flags : List Flag) (text : Text) : List (Text × Flag × Option Text) :=
  if separatorText.isPrefixOf text then
    let (start, value) := splitAtEquals text
    (namedFlags flags).filterMap fun (name, flag) =>
      if start.isPrefixOf name then some (name, flag, value) else none
  else
    (namedFlags flags).filterMap fun (name, flag) =>
      if name = text.take 2 then some (name, flag, some (text.drop 2))
      else if text.isPrefixOf name then some (name, flag, none)
      else none

/-- Tell what an argument looks like, given the options there are. -/
def classify (flags : List Flag) (text : Text) : Except ArgumentError Argument :=
  if text.head? ≠ some (.scalar '-') ∨ text.length = 1 then .ok (.operand text)
  else
    match (namedFlags flags).lookup text with
    | some flag => .ok (.option text flag none)
    | none =>
        let (start, value) := splitAtEquals text
        match value.bind fun _ => (namedFlags flags).lookup start with
        | some flag => .ok (.option text flag value)
        | none =>
            match abbreviated flags text with
            | [(_, flag, attached)] => .ok (.option text flag attached)
            | [] =>
                if isNegativeNumber text || text.contains ' ' then .ok (.operand text)
                else .ok (.unknown text)
            | candidates => .error (.ambiguous text (candidates.map (·.1)))

/-- Tell what each argument looks like. -/
def classifyAll (flags : List Flag) : List Text → Except ArgumentError (List Argument)
  | [] => .ok []
  | text :: rest =>
      if text = separatorText then .ok (.separator :: rest.map .operand)
      else do
        let argument ← classify flags text
        let others ← classifyAll flags rest
        return argument :: others

/-- Which operands a command takes. -/
inductive Operands where
  | none
  | one
  /-- A word after which all arguments belong to the command that it names. -/
  | command
  deriving DecidableEq, Repr

/-- What has been read: the values of options in the order in which they came, the
operand, the command with its arguments, and what is left over. -/
structure Reading where
  values : List (Flag × Text)
  operand : Option Text
  command : Option (Text × List Text)
  leftOver : List Text
  deriving DecidableEq, Repr

/-- Nothing has been read. -/
def Reading.start : Reading := ⟨[], none, none, []⟩

/-- Check the value of an option. A mark attached as value counts as no value. -/
def checkValue (flag : Flag) (value : Text) : Except Stop Unit :=
  if value = separatorText then .ok ()
  else
    match flag with
    | .direction =>
        if directionWords.contains value then .ok () else .error (.error (.invalidDirection value))
    | .timeMillis =>
        if (Text.toInteger? value).isSome then .ok ()
        else .error (.error (.notInteger .timeMillis value))
    | _ => .ok ()

/-- What comes of a value attached to an option that has none. Letters of one hyphen may
repeat the option; anything else is an error. -/
def attachedToSwitch (text : Text) (flag : Flag) (value : Text) : Stop :=
  let behind := value.dropWhile (· = .scalar 'h')
  if separatorText.isPrefixOf text ∨ value = [] then .error (.unexpectedValue flag value)
  else if behind = [] then .help
  else .error (.unexpectedValue flag behind)

/-- Read arguments from left to right. -/
def walk (operands : Operands) (reading : Reading) : List Argument → Except Stop Reading
  | [] => .ok reading
  | .option text flag (some value) :: rest =>
      if flag.takesValue then do
        checkValue flag value
        walk operands { reading with values := reading.values ++ [(flag, value)] } rest
      else .error (attachedToSwitch text flag value)
  | .option _ flag none :: rest =>
      if flag.takesValue then
        match rest with
        | .operand value :: others => do
            checkValue flag value
            walk operands { reading with values := reading.values ++ [(flag, value)] } others
        | _ => .error (.error (.missingValue flag))
      else if flag = .help then .error .help
      else walk operands { reading with values := reading.values ++ [(flag, [])] } rest
  | .unknown text :: rest =>
      walk operands { reading with leftOver := reading.leftOver ++ [text] } rest
  | .operand text :: rest =>
      match operands with
      | .command => .ok { reading with command := some (text, rest.map Argument.text) }
      | .one =>
          if reading.operand.isNone then
            match rest with
            | .separator :: others => walk operands { reading with operand := some text } others
            | others => walk operands { reading with operand := some text } others
          else walk operands { reading with leftOver := reading.leftOver ++ [text] } rest
      | .none => walk operands { reading with leftOver := reading.leftOver ++ [text] } rest
  | .separator :: rest =>
      match operands with
      | .command =>
          if rest.isEmpty then
            .ok { reading with leftOver := reading.leftOver ++ [separatorText] }
          else .ok { reading with command := some (separatorText, rest.map Argument.text) }
      | .one =>
          if reading.operand.isNone then
            match rest with
            | .operand text :: others => walk operands { reading with operand := some text } others
            | others =>
                walk operands
                  { reading with leftOver := reading.leftOver ++ [separatorText] } others
          else
            walk operands { reading with leftOver := reading.leftOver ++ [separatorText] } rest
      | .none =>
          walk operands { reading with leftOver := reading.leftOver ++ [separatorText] } rest

/-- Read the arguments of a command with the given options. -/
def readArguments (flags : List Flag) (operands : Operands) (arguments : List Text) :
    Except Stop Reading :=
  match classifyAll flags arguments with
  | .error error => .error (.error error)
  | .ok classified => walk operands .start classified

namespace Reading

/-- The value that was given last for an option. -/
def value? (reading : Reading) (flag : Flag) : Option Text :=
  (reading.values.reverse.lookup flag)

/-- All values that were given for an option. -/
def valuesOf (reading : Reading) (flag : Flag) : List Text :=
  (reading.values.filter (·.1 = flag)).map (·.2)

end Reading
end RecordingName.CommandLine
