import RecordingName.DateFormat.Directive
import RecordingName.Text.Quoted

/-!
# Date patterns

A date pattern is literal characters and directives; a percent sign is written
twice. `parse_print` and `print_of_parse` say that a pattern and its written form
determine each other.
-/

namespace RecordingName.DateFormat

/-- One element of a date pattern. -/
inductive Item where
  | literal (c : CodePoint)
  | directive (kind : Directive)
  deriving DecidableEq, Repr

/-- A date pattern. -/
structure Pattern where
  items : List Item
  deriving DecidableEq, Repr

/-- What can be wrong with the written form of a date pattern. -/
inductive PatternError where
  | empty
  | dangling
  | unsupported (letter : CodePoint)
  deriving DecidableEq, Repr

/-- The message about an error in the given text. -/
def PatternError.message (text : Text) : PatternError → Text
  | .empty => "Date pattern is empty".text
  | .dangling => "Dangling '%' in date pattern: ".text ++ Text.quoted text
  | .unsupported letter =>
      "Unsupported directive %".text ++ letter :: " in date pattern: ".text ++ Text.quoted text

namespace Pattern

/-- The items that a text writes. -/
def parseItems : Text → Except PatternError (List Item)
  | [] => .ok []
  | head :: rest =>
      if head = '%' then
        match rest with
        | [] => .error .dangling
        | letter :: others =>
            if letter = '%' then (parseItems others).map (.literal '%' :: ·)
            else
              match Directive.ofLetter? letter with
              | none => .error (.unsupported letter)
              | some kind => (parseItems others).map (.directive kind :: ·)
      else (parseItems rest).map (.literal head :: ·)

/-- Read a date pattern. The empty text is none. -/
def parse (text : Text) : Except PatternError Pattern :=
  if text = [] then .error .empty else (parseItems text).map (⟨·⟩)

/-- The written form of an item. -/
def printItem : Item → Text
  | .literal c => if c = '%' then ['%', '%'] else [c]
  | .directive kind => ['%', kind.letter]

/-- The written form of a date pattern. -/
def print (pattern : Pattern) : Text :=
  pattern.items.flatMap printItem

/-- The piece that reads an item back. -/
def itemPiece : Item → Piece
  | .literal c => .literal c
  | .directive kind => kind.piece

/-- The pieces that read a pattern back. -/
def pieces (pattern : Pattern) : List Piece :=
  pattern.items.map itemPiece

/-- What an item writes for a timestamp. -/
def writeItem (stamp : Timestamp) : Item → Text
  | .literal c => [c]
  | .directive kind => kind.write stamp

/-- What a pattern writes for a timestamp. The null character ends what is written. -/
def write (pattern : Pattern) (stamp : Timestamp) : Text :=
  (pattern.items.takeWhile (· != .literal '\x00')).flatMap (writeItem stamp)

theorem letter_ne_percent (kind : Directive) : kind.letter ≠ '%' := by
  cases kind <;> decide

/-- A directive that a letter names has that letter. -/
theorem letter_of_ofLetter? {letter : CodePoint} {kind : Directive}
    (found : Directive.ofLetter? letter = some kind) : kind.letter = letter := by
  simpa using List.find?_some found

/-- Every list of items is read from the pattern that it prints. -/
theorem parseItems_print (items : List Item) :
    parseItems (items.flatMap printItem) = .ok items := by
  induction items with
  | nil => rfl
  | cons item rest ih =>
      cases item with
      | literal c =>
          by_cases percent : c = '%'
          · simp [printItem, parseItems, percent, ih, Except.map]
          · rw [List.flatMap_cons, printItem, if_neg percent, List.singleton_append]
            unfold parseItems
            rw [if_neg percent, ih]
            rfl
      | directive kind =>
          simp [printItem, parseItems, letter_ne_percent, Directive.ofLetter?_letter, ih,
            Except.map]

/-- The items that are read print the pattern, character by character. -/
theorem print_of_parseItems {text : Text} {items : List Item}
    (read : parseItems text = .ok items) : items.flatMap printItem = text := by
  fun_induction parseItems text generalizing items with
  | case1 => simp_all
  | case2 => simp at read
  | case3 others ih =>
      cases behind : parseItems others with
      | error => simp [behind, Except.map] at read
      | ok rest =>
          simp only [behind, Except.map, Except.ok.injEq] at read
          simp [← read, printItem, ih behind]
  | case4 => simp at read
  | case5 letter others _ kind found ih =>
      cases behind : parseItems others with
      | error => simp [behind, Except.map] at read
      | ok rest =>
          simp only [behind, Except.map, Except.ok.injEq] at read
          simp [← read, printItem, ih behind, letter_of_ofLetter? found]
  | case6 head rest other ih =>
      cases behind : parseItems rest with
      | error => simp [behind, Except.map] at read
      | ok items_behind =>
          simp only [behind, Except.map, Except.ok.injEq] at read
          simp [← read, printItem, ih behind, other]

/-- A pattern with at least one item is read back from its written form. -/
theorem parse_print {pattern : Pattern} (nonempty : pattern.items ≠ []) :
    parse pattern.print = .ok pattern := by
  obtain ⟨items⟩ := pattern
  have written : Pattern.print ⟨items⟩ ≠ [] := by
    obtain ⟨item, rest, rfl⟩ := List.exists_cons_of_ne_nil nonempty
    cases item with
    | literal c => by_cases percent : c = '%' <;> simp [Pattern.print, printItem, percent]
    | directive kind => simp [Pattern.print, printItem]
  rw [parse, if_neg written, Pattern.print, parseItems_print]
  rfl

/-- A pattern is written as the text that it was read from. -/
theorem print_of_parse {text : Text} {pattern : Pattern} (read : parse text = .ok pattern) :
    pattern.print = text := by
  unfold parse at read
  split at read
  · simp at read
  · cases items : parseItems text with
    | error => simp [items, Except.map] at read
    | ok found =>
        simp only [items, Except.map, Except.ok.injEq] at read
        simp [← read, Pattern.print, print_of_parseItems items]

end Pattern
end RecordingName.DateFormat
