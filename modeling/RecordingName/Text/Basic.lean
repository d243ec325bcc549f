import RecordingName.Text.CodePoint

/-!
# Text

Text is a list of code points, so that every position, length and index counts
code points. This module holds the operations that know nothing about what a
character means: cutting a text at the occurrences of another one, and joining.

`cut_join` says that the pieces of a cut, joined by the separator, are the text
again; `mem_afterEach` says that what follows an occurrence is a tail of the text.
-/

/-- A text, as the list of its code points. -/
abbrev RecordingName.Text := List RecordingName.CodePoint

/-- A string as a text. -/
def String.text (string : String) : RecordingName.Text :=
  string.toList.map .scalar

namespace RecordingName.Text

/-- Put `head` in front of the first piece of a cut. -/
def growFirst (head : CodePoint) : List Text → List Text
  | [] => [[head]]
  | first :: others => (head :: first) :: others

/-- Cut a text at the occurrences of `separator`, after passing over the `skip`
characters that an occurrence still covers. -/
def cutFrom (separator : Text) : (skip : Nat) → Text → List Text
  | _, [] => [[]]
  | skip + 1, _ :: rest => cutFrom separator skip rest
  | 0, head :: rest =>
      if separator.isPrefixOf (head :: rest) then
        [] :: cutFrom separator (separator.length - 1) rest
      else
        growFirst head (cutFrom separator 0 rest)

/-- The pieces of a text between the occurrences of a non-empty separator, found
from left to right without overlap. -/
def cut (separator text : Text) : List Text :=
  cutFrom separator 0 text

/-- What follows each occurrence of `literal`, after passing over the `skip`
characters that an occurrence still covers. -/
def afterEachFrom (literal : Text) : (skip : Nat) → Text → List Text
  | _, [] => []
  | skip + 1, _ :: rest => afterEachFrom literal skip rest
  | 0, head :: rest =>
      if literal.isPrefixOf (head :: rest) then
        (head :: rest).drop literal.length ::
          afterEachFrom literal (literal.length - 1) rest
      else
        afterEachFrom literal 0 rest

/-- What follows each occurrence of a non-empty literal, the occurrences found
from left to right without overlap. -/
def afterEach (literal text : Text) : List Text :=
  afterEachFrom literal 0 text

/-- Texts one after the other, with `separator` between neighbours. -/
def join (separator : Text) : List Text → Text
  | [] => []
  | [only] => only
  | first :: second :: others => first ++ separator ++ join separator (second :: others)

/-- Every occurrence of one character replaced by another. -/
def replaceChar (old new : CodePoint) (text : Text) : Text :=
  text.map fun c => if c = old then new else c

/-- A character that is put before the first piece is put before the whole. -/
theorem join_growFirst (separator : Text) (head : CodePoint) (pieces : List Text) :
    join separator (growFirst head pieces) = head :: join separator pieces := by
  match pieces with
  | [] => rfl
  | [_] => rfl
  | _ :: _ :: _ => rfl

/-- A text is cut into one piece at least. -/
theorem cutFrom_ne_nil (separator : Text) (skip : Nat) (text : Text) :
    cutFrom separator skip text ≠ [] := by
  induction text generalizing skip with
  | nil => cases skip <;> simp [cutFrom]
  | cons head rest ih =>
      cases skip with
      | succ skip => simpa [cutFrom] using ih skip
      | zero =>
          by_cases starts : separator.isPrefixOf (head :: rest)
          · simp [cutFrom, starts]
          · cases pieces : cutFrom separator 0 rest <;> simp [cutFrom, starts, pieces, growFirst]

theorem join_nil_cons (separator : Text) {pieces : List Text} (some_piece : pieces ≠ []) :
    join separator ([] :: pieces) = separator ++ join separator pieces := by
  cases pieces with
  | nil => exact absurd rfl some_piece
  | cons first others => simp [join]

/-- A cut loses nothing: its pieces joined by the separator are the text that
was left after the skipped characters. -/
theorem cutFrom_join {separator : Text} (nonempty : separator ≠ []) (skip : Nat) (text : Text) :
    join separator (cutFrom separator skip text) = text.drop skip := by
  induction text generalizing skip with
  | nil => cases skip <;> simp [cutFrom, join]
  | cons head rest ih =>
      cases skip with
      | succ skip => simpa [cutFrom] using ih skip
      | zero =>
          by_cases starts : separator.isPrefixOf (head :: rest)
          · have follows := ih (separator.length - 1)
            obtain ⟨tail, shape⟩ := List.isPrefixOf_iff_prefix.1 starts
            obtain ⟨first, others, rfl⟩ := List.exists_cons_of_ne_nil nonempty
            have rest_eq : rest = others ++ tail := by
              have := congrArg List.tail shape
              simpa using this.symm
            rw [cutFrom, if_pos starts, join_nil_cons _ (cutFrom_ne_nil _ _ _), follows]
            simpa [rest_eq] using shape
          · rw [cutFrom, if_neg starts, join_growFirst, ih 0]
            simp

/-- The pieces of a cut, joined by the separator, are the text. -/
theorem cut_join {separator : Text} (nonempty : separator ≠ []) (text : Text) :
    join separator (cut separator text) = text := by
  simpa [cut] using cutFrom_join nonempty 0 text

/-- What follows an occurrence is the rest of the text behind some beginning and
the literal. -/
theorem mem_afterEachFrom {literal : Text} {skip : Nat} {text rest : Text}
    (found : rest ∈ afterEachFrom literal skip text) :
    ∃ before, text = before ++ literal ++ rest := by
  induction text generalizing skip with
  | nil => cases skip <;> simp [afterEachFrom] at found
  | cons head tail ih =>
      cases skip with
      | succ skip =>
          obtain ⟨before, rfl⟩ := ih (by simpa [afterEachFrom] using found)
          exact ⟨head :: before, by simp⟩
      | zero =>
          by_cases starts : literal.isPrefixOf (head :: tail)
          · rw [afterEachFrom, if_pos starts] at found
            rcases List.mem_cons.1 found with rfl | later
            · obtain ⟨behind, shape⟩ := List.isPrefixOf_iff_prefix.1 starts
              exact ⟨[], by simp [← shape]⟩
            · obtain ⟨before, rfl⟩ := ih later
              exact ⟨head :: before, by simp⟩
          · rw [afterEachFrom, if_neg starts] at found
            obtain ⟨before, rfl⟩ := ih found
            exact ⟨head :: before, by simp⟩

/-- What follows an occurrence of `literal` stands behind it in the text. -/
theorem mem_afterEach {literal text rest : Text} (found : rest ∈ afterEach literal text) :
    ∃ before, text = before ++ literal ++ rest :=
  mem_afterEachFrom found

end RecordingName.Text
