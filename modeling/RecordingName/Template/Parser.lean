import RecordingName.Template.Basic
import RecordingName.Text.Blank
import RecordingName.Text.Decimal
import RecordingName.Text.Quoted

/-!
# Reading templates

A template is written as literal text with references `{name}` or
`{name:argument}` in it, and a backslash takes the next character as it is.
Reading fails with the position of the character that is at fault: the opening
brace of a reference that is not closed or has no name, and else the brace or the
backslash itself. `position_lt_length` says that the position lies in the text.
-/

namespace RecordingName.Template

/-- What can be wrong with the written form of a template. -/
inductive SyntaxFault where
  | danglingEscape
  | unmatchedClose
  | nestedOpen
  | unterminated
  | emptyName
  deriving DecidableEq, Repr

/-- The words for a fault. -/
def SyntaxFault.text : SyntaxFault → Text
  | .danglingEscape => "Dangling escape character".text
  | .unmatchedClose => "Unmatched '\x7d'".text
  | .nestedOpen => "Nested '\x7b'".text
  | .unterminated => "Unterminated variable reference".text
  | .emptyName => "Empty variable name".text

/-- A fault and the position of the character at fault. -/
structure SyntaxError where
  fault : SyntaxFault
  position : Nat
  deriving DecidableEq, Repr

/-- The message about an error in the given text. -/
def SyntaxError.message (error : SyntaxError) (text : Text) : Text :=
  error.fault.text ++ " at position ".text ++ Text.decimal error.position ++ ": ".text ++
    Text.quoted text

/-- Where the reader stands: in literal text, or in a reference whose brace opened
at `start`, with the name and, behind the colon, the argument read so far, both
from their last character to their first. -/
inductive Mode where
  | outside
  | inside (start : Nat) (name : Text) (argument : Option Text)
  deriving DecidableEq, Repr

/-- Add a character to the part of a reference that is being read. -/
def Mode.extend (c : CodePoint) : Mode → Mode
  | .outside => .outside
  | .inside start name none => .inside start (c :: name) none
  | .inside start name (some argument) => .inside start name (some (c :: argument))

/-- Put a character that stands for itself in front of what follows: outside a
reference it is literal text, inside it has already been added to the reference. -/
def Mode.keep (c : CodePoint) (mode : Mode) (segments : List Segment) : List Segment :=
  match mode with
  | .outside => Segment.joinLiteral [c] segments
  | .inside .. => segments

/-- Read segments from a text that starts at `position`. -/
def scan (position : Nat) (mode : Mode) (text : Text) : Except SyntaxError (List Segment) :=
  match text with
  | [] =>
      match mode with
      | .outside => .ok []
      | .inside start _ _ => .error ⟨.unterminated, start⟩
  | head :: rest =>
      if head = '\\' then
        match rest with
        | [] => .error ⟨.danglingEscape, position⟩
        | escaped :: others =>
            (scan (position + 2) (mode.extend escaped) others).map (mode.keep escaped)
      else
        match mode with
        | .outside =>
            if head = '{' then scan (position + 1) (.inside position [] none) rest
            else if head = '}' then .error ⟨.unmatchedClose, position⟩
            else (scan (position + 1) .outside rest).map (Mode.outside.keep head)
        | .inside start name argument =>
            if head = '}' then
              if Text.strip name.reverse = [] then .error ⟨.emptyName, start⟩
              else
                (scan (position + 1) .outside rest).map
                  (.reference ⟨Text.strip name.reverse, argument.map List.reverse⟩ :: ·)
            else if head = '{' then .error ⟨.nestedOpen, position⟩
            else if head = ':' ∧ argument = none then
              scan (position + 1) (.inside start name (some [])) rest
            else
              (scan (position + 1) ((Mode.inside start name argument).extend head) rest).map
                ((Mode.inside start name argument).keep head)

/-- Read a template. -/
def parse (text : Text) : Except SyntaxError Template :=
  (scan 0 .outside text).map (⟨·⟩)

/-- A text that is no template, and what is wrong with it. -/
structure Rejection where
  text : Text
  error : SyntaxError
  deriving DecidableEq, Repr

/-- The message about a text that is no template. -/
def Rejection.message (rejection : Rejection) : Text :=
  rejection.error.message rejection.text

/-- Read a template, or hand the text back with what is wrong with it. -/
def read (text : Text) : Except Rejection Template :=
  (parse text).mapError fun error => ⟨text, error⟩

/-- Where the reference that is being read started. -/
def Mode.start? : Mode → Option Nat
  | .outside => none
  | .inside start _ _ => some start

theorem Mode.start?_extend (c : CodePoint) (mode : Mode) :
    (mode.extend c).start? = mode.start? := by
  match mode with
  | .outside => rfl
  | .inside _ _ none => rfl
  | .inside _ _ (some _) => rfl

/-- A mapped result fails as the result does. -/
theorem error_of_map {α β : Type} {f : α → β} {result : Except SyntaxError α} {error : SyntaxError}
    (failed : result.map f = .error error) : result = .error error := by
  cases result with
  | error cause => simpa [Except.map] using failed
  | ok value => simp [Except.map] at failed

/-- The position of an error lies between the start of the open reference, or else
the start of the text, and the end of the text. -/
theorem scan_position_lt {position : Nat} {mode : Mode} {text : Text} {error : SyntaxError}
    (opened : ∀ start ∈ mode.start?, start < position)
    (failed : scan position mode text = .error error) :
    error.position < position + text.length := by
  fun_induction scan position mode text with
  | case1 => simp at failed
  | case2 position start name argument =>
      obtain rfl := Except.error.inj failed
      exact opened start (by simp [Mode.start?])
  | case3 => simp at failed; simp [← failed]
  | case4 position mode escaped others ih =>
      have := ih (fun start found => by
        rw [Mode.start?_extend] at found
        exact Nat.lt_of_lt_of_le (opened start found) (Nat.le_add_right _ _)) (error_of_map failed)
      simp only [List.length_cons]
      omega
  | case5 position rest _ ih =>
      have := ih (fun start found => by simp [Mode.start?] at found; omega) failed
      simp only [List.length_cons]
      omega
  | case6 => simp at failed; simp [← failed]
  | case7 position head rest _ _ _ ih =>
      have := ih (fun start found => by simp [Mode.start?] at found) (error_of_map failed)
      simp only [List.length_cons]
      omega
  | case8 position rest start name argument =>
      obtain rfl := Except.error.inj failed
      have := opened start (by simp [Mode.start?])
      simp only [List.length_cons]
      omega
  | case9 position rest start name argument _ _ ih =>
      have := ih (fun start found => by simp [Mode.start?] at found) (error_of_map failed)
      simp only [List.length_cons]
      omega
  | case10 => simp at failed; simp [← failed]
  | case11 position head rest _ start name argument _ _ _ ih =>
      have := ih (fun other found => by
        have := opened start (by simp [Mode.start?])
        simp [Mode.start?] at found
        omega) failed
      simp only [List.length_cons]
      omega
  | case12 position head rest start name argument _ _ _ _ ih =>
      have := ih (fun other found => by
        rw [Mode.start?_extend] at found
        exact Nat.lt_of_lt_of_le (opened other found) (Nat.le_add_right _ _)) (error_of_map failed)
      simp only [List.length_cons]
      omega

/-- The position of a syntax error is that of a character of the text. -/
theorem position_lt_length {text : Text} {error : SyntaxError}
    (failed : parse text = .error error) : error.position < text.length := by
  have none_open : ∀ start ∈ Mode.outside.start?, start < 0 := by simp [Mode.start?]
  simpa using scan_position_lt none_open (error_of_map failed)

end RecordingName.Template
