import RecordingName.CommandLine.Invocation

/-!
# Numbers among arguments

An option takes any text as its value behind an equals sign, so that there is a command line for
any numbers. The program itself does not know the option and leaves it to the command, which
reads the numbers in their order: `read_generateArguments`. Only the mark `--` is lost on the way.
-/

namespace RecordingName.CommandLine

variable {flags : List Flag}

/-- The argument that gives a number, in one piece. -/
def numberArgument (number : Text) : Text :=
  "--number=".text ++ number

/-- The arguments that ask for the filename of a call with the given numbers. -/
def generateArguments (numbers : List Text) : List Text :=
  "generate".text :: numbers.map numberArgument

theorem numberArgument_ne_separator (number : Text) : numberArgument number ≠ separatorText := by
  change .scalar '-' :: .scalar '-' :: .scalar 'n' :: _ ≠ [CodePoint.scalar '-', '-']
  simp

/-- What an argument that gives a number is among the options of the command. -/
def numberOption (number : Text) : Argument :=
  .option (numberArgument number) .number (some number)

/-- For the parser of `generate`, the argument is its option with the number as its value. -/
theorem classify_numberOption (number : Text) :
    classify generateFlags (numberArgument number) = .ok (numberOption number) :=
  rfl

/-- What an argument that gives a number is to the program, which has no such option. -/
def foreignArgument (number : Text) : Argument :=
  if isNegativeNumber (numberArgument number) || (numberArgument number).contains ' ' then
    .operand (numberArgument number)
  else .unknown (numberArgument number)

/-- For the parser of the whole program, it is an operand or an option that is not known. -/
theorem classify_foreignArgument (number : Text) :
    classify programFlags (numberArgument number) = .ok (foreignArgument number) := by
  unfold foreignArgument
  split
  next spaced => exact if_pos spaced
  next plain => exact if_neg plain

@[simp] theorem text_foreignArgument (number : Text) :
    (foreignArgument number).text = numberArgument number := by
  unfold foreignArgument
  split <;> rfl

/-- Numbers are told one by one, as none of their arguments is the mark. -/
theorem classifyAll_numbers {kind : Text → Argument}
    (told : ∀ number, classify flags (numberArgument number) = .ok (kind number))
    (numbers : List Text) :
    classifyAll flags (numbers.map numberArgument) = .ok (numbers.map kind) := by
  induction numbers with
  | nil => rfl
  | cons first others ih =>
      simp [classifyAll, numberArgument_ne_separator, told, ih, bind, Except.bind, pure,
        Except.pure]

/-- Numbers are read in their order, whatever they are. -/
theorem walk_numbers (reading : Reading) (numbers : List Text) :
    walk .none reading (numbers.map numberOption) =
      .ok { reading with values := reading.values ++ numbers.map (Prod.mk Flag.number) } := by
  induction numbers generalizing reading with
  | nil => simp [walk]
  | cons first others ih =>
      have accepted : checkValue .number first = .ok () := by simp [checkValue]
      rw [List.map_cons, numberOption, walk]
      simp [Flag.takesValue, accepted, ih, bind, Except.bind]

/-- What has been read of numbers and nothing else. -/
def numbersReading (numbers : List Text) : Reading :=
  { Reading.start with values := numbers.map (Prod.mk Flag.number) }

/-- The parser of `generate` reads numbers alone, in the order in which they are given. -/
theorem readArguments_numbers (numbers : List Text) :
    readArguments generateFlags .none (numbers.map numberArgument) =
      .ok (numbersReading numbers) := by
  simp [readArguments, classifyAll_numbers classify_numberOption, walk_numbers, numbersReading,
    Reading.start]

/-- The program takes the word of the command, and leaves all that is behind it to the command. -/
theorem readArguments_generate (numbers : List Text) :
    readArguments programFlags .command (generateArguments numbers) =
      .ok { Reading.start with
        command := some ("generate".text, numbers.map numberArgument) } := by
  have word : classify programFlags "generate".text = .ok (.operand "generate".text) := rfl
  have no_mark : "generate".text ≠ separatorText := by decide
  have classified : classifyAll programFlags (generateArguments numbers) =
      .ok (.operand "generate".text :: numbers.map foreignArgument) := by
    rw [generateArguments, classifyAll, if_neg no_mark, word,
      classifyAll_numbers classify_foreignArgument]
    rfl
  have behind : (numbers.map foreignArgument).map Argument.text = numbers.map numberArgument := by
    simp [Function.comp_def]
  simp only [readArguments, classified, walk, behind]

/-- Numbers alone make a command with every other option at its default. -/
theorem generateCommand_numbers (numbers : List Text) :
    generateCommand (numbersReading numbers) =
      .generate (numbers.map textValue) none none (some .unknown) .now false := by
  have absent (flag : Flag) (other : flag ≠ .number) :
      (numbersReading numbers).value? flag = none := by
    simp [Reading.value?, numbersReading, List.lookup_eq_none_iff, other]
  have all : (numbersReading numbers).valuesOf .number = numbers := by
    rw [Reading.valuesOf, numbersReading, List.filter_eq_self.2 (by simp), List.map_map]
    exact List.map_id numbers
  simp [generateCommand, all, absent, timeOf]

/-- A command line that gives numbers asks for a call with these in their order. The mark counts
as the empty number. -/
theorem read_generateArguments (numbers : List Text) :
    Invocation.read (generateArguments numbers) = .ok ⟨none, none,
      .generate (numbers.map textValue) none none (some .unknown) .now false⟩ := by
  have command : readCommand "generate".text (numbers.map numberArgument) =
      .ok (.generate (numbers.map textValue) none none (some .unknown) .now false, []) := by
    simp only [readCommand, readArguments_numbers, generateCommand_numbers]
    rfl
  simp only [Invocation.read, readArguments_generate, command]
  rfl

end RecordingName.CommandLine
