import Mathlib.Data.List.Nodup
import RecordingName.Proofs.Call.Handle
import RecordingName.Proofs.CommandLine.Arguments
import RecordingName.Proofs.Generator.Run
import RecordingName.Proofs.Register

/-!
# Numbers given on the command line

The numbers of a command line become the numbers of the parties of a call. Each is put into a
handle as it stands, but decoded when it is taken out again, so that the parties have the
numbers that were given exactly if no encoded octet stands in one of them: `numbers_kept_iff`.
-/

namespace RecordingName.CommandLine

open Text.Percent

variable {first second : Text}

/-- The parties of a call: those that have joined it if it is a conference, or else the call
itself. -/
def parties (call : Details × List Details) : List Details :=
  if call.1.isConference then call.2 else [call.1]

/-- A generator for a call evaluates its templates for the parties of the call. -/
theorem parties_context (templateText : Option Text) (zone : Zone) (order : SetOrder)
    (device : Option Device) (directory : Contacts.Directory) (call : Details × List Details)
    (mayBlock : Bool) :
    ((Origin.mk templateText zone order device directory call.1
      (call.2.mapIdx fun index details => (index, details))).recording.context mayBlock).parties =
      parties call := by
  have numbered : (call.2.mapIdx fun index details => (index, details)) =
      call.2.zipIdx.map Prod.swap := List.mapIdx_eq_zipIdx_map
  have distinct : ((call.2.zipIdx.map Prod.swap).map (·.1)).Nodup := by
    simpa [Function.comp_def] using List.nodup_range'
  have stored := Register.entries_putAll_of_nodup distinct
  rw [Register.putAll] at stored
  rw [numbered]
  cases conference : call.1.isConference with
  | false => simp [Recording.context, Origin.recording, parties, conference]
  | true =>
      simp [Recording.context, Origin.recording, parties, conference, Register.values, stored,
        Function.comp_def]

/-- The numbers of the parties of a call. -/
def numbersOf (call : Details × List Details) : List (Option Text) :=
  (parties call).map Details.phoneNumber?

/-- A number as it is given: the empty one is none. -/
def given (number : Text) : Option Text :=
  if number = [] then none else some number

/-- The numbers that are given to the parties of a call. A call for which there are none has one
party without a number. -/
def givenNumbers (numbers : List Text) : List (Option Text) :=
  if numbers = [] then [none] else numbers.map given

/-- Different numbers are given as different ones. -/
theorem given_inj : given first = given second ↔ first = second := by
  unfold given
  grind

/-- Changing the numbers makes no difference only if it changes none of them. -/
theorem givenNumbers_map_eq_iff (change : Text → Text) (numbers : List Text) :
    givenNumbers (numbers.map change) = givenNumbers numbers ↔
      ∀ number ∈ numbers, change number = number := by
  by_cases absent : numbers = []
  · simp [givenNumbers, absent]
  · simp [givenNumbers, absent, given_inj]

/-- A party has the number that its text stands for. -/
theorem phoneNumber?_partyDetails (creationMillis : Int) (name contact : Option Text)
    (direction : Direction) (number : Text) :
    (partyDetails creationMillis name contact direction number).phoneNumber? =
      given (decode number) := by
  by_cases absent : number = []
  · subst absent
    rfl
  · simp [partyDetails, Details.phoneNumber?, absent, Handle.phoneNumber?_ofNumber, given]

/-- The parties of a call have the numbers that the given texts stand for. -/
theorem numbersOf_callOf (creationMillis : Int) (name contact : Option Text)
    (direction : Direction) (numbers : List Text) :
    numbersOf (callOf creationMillis name contact direction numbers) =
      givenNumbers (numbers.map decode) := by
  match numbers with
  | [] => rfl
  | [number] =>
      change [(partyDetails creationMillis name contact direction number).phoneNumber?] =
        [given (decode number)]
      rw [phoneNumber?_partyDetails]
  | first :: second :: others =>
      simp [numbersOf, parties, callOf, givenNumbers, phoneNumber?_partyDetails]

/-- The numbers of the call that a command line asks for, if it asks for one. -/
def askedNumbers (creationMillis : Int) (arguments : List Text) : Option (List (Option Text)) :=
  match Invocation.read arguments with
  | .ok ⟨_, _, .generate numbers name contact (some direction) _ _⟩ =>
      some (numbersOf (callOf creationMillis name contact direction numbers))
  | _ => none

/-- The parties of the command have the decoded values of the options as their numbers. -/
theorem askedNumbers_generateArguments (creationMillis : Int) (numbers : List Text) :
    askedNumbers creationMillis (generateArguments numbers) =
      some (givenNumbers (numbers.map fun number => decode (textValue number))) := by
  simp [askedNumbers, read_generateArguments, numbersOf_callOf, Function.comp_def]

/-- A number comes through the reader and the decoding unless it is the separator or holds an
octet. -/
theorem decode_textValue_eq_iff (number : Text) :
    decode (textValue number) = number ↔ number ≠ separatorText ∧ ¬ HoldsOctet number := by
  by_cases mark : number = separatorText
  · subst mark
    simp [textValue, decode, decodeFrom, flush, separatorText]
  · simp [textValue, mark, decode_eq_self_iff]

/-- The parties of a call have the numbers that are given for it, in their order and with none
for an empty one, exactly if no encoded octet stands in one of them: those are the numbers that
come back from their handles. From a command line they come as they are written there, but for
the mark. -/
theorem numbers_kept_iff (creationMillis : Int) (name contact : Option Text)
    (direction : Direction) (numbers : List Text) :
    (numbersOf (callOf creationMillis name contact direction numbers) = givenNumbers numbers ↔
      ∀ number ∈ numbers, ¬ HoldsOctet number) ∧
    (∀ number, Handle.parse (Handle.ofNumber number) = ⟨some Handle.telephone, number⟩ ↔
      ¬ HoldsOctet number) ∧
    (askedNumbers creationMillis (generateArguments numbers) = some (givenNumbers numbers) ↔
      ∀ number ∈ numbers, number ≠ separatorText ∧ ¬ HoldsOctet number) := by
  refine ⟨?_, Handle.parse_ofNumber_eq_iff, ?_⟩
  · simp only [numbersOf_callOf, givenNumbers_map_eq_iff, decode_eq_self_iff]
  · simp only [askedNumbers_generateArguments, Option.some_inj, givenNumbers_map_eq_iff,
      decode_textValue_eq_iff]

/-- The number `5%41` of a command line: the call has the number `5A`, as `%41` is an encoded
octet. -/
theorem encoded_number_decoded :
    askedNumbers 0 ["--template".text, "{phone_number}".text, "generate".text,
        "--number".text, "5%41".text, "--time-ms".text, "0".text] =
      some [some "5A".text] ∧
    ¬ ∀ creationMillis name contact direction numbers,
      numbersOf (callOf creationMillis name contact direction numbers) = givenNumbers numbers := by
  refine ⟨by decide, fun kept => ?_⟩
  have same := kept 0 none none .unknown ["5%41".text]
  exact absurd same (by decide)

end RecordingName.CommandLine
