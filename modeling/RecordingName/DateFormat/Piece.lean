import RecordingName.DateFormat.Field

/-!
# Matching the pieces of a format

A format is read as a sequence of pieces. Each piece offers, for the text at hand,
its readings in the order of preference: longer digits before shorter ones. The
sequence takes the first combination that carries through, so that a piece gives
back characters only where a later piece needs them.
-/

namespace RecordingName.DateFormat

/-- One piece of a format, as it is read. -/
inductive Piece where
  /-- A character that stands for itself. -/
  | literal (c : CodePoint)
  /-- A field of `least` to `most` decimal digits. -/
  | digits (field : Field) (least most : Nat)
  /-- One of some words in any case, kept as a field or passed over. -/
  | word (field : Option Field) (words : List Text)
  /-- An offset: a sign and four or six digits, or the letter `Z` if `zulu`. -/
  | offset (zulu : Bool)
  /-- The abbreviation of a time zone, passed over. -/
  | zoneName
  /-- A point and up to nine digits, or nothing. -/
  | fraction
  deriving DecidableEq, Repr

/-- The numbers from `most` down to `least`. -/
def downFrom (most least : Nat) : List Nat :=
  (List.range (most + 1 - least)).map (most - ·)

/-- How many of the first `most` characters belong to a class without a gap. -/
def runLength (class_ : CodePoint → Bool) (most : Nat) (text : Text) : Nat :=
  ((text.take most).takeWhile class_).length

/-- What a text leaves behind some of the characters of a class that it starts with, the shortest
rest first, in front of `longer` rests. -/
def restsBehind (class_ : CodePoint → Bool) : (text : Text) → (longer : List Text) → List Text
  | [], longer => [] :: longer
  | head :: rest, longer =>
      if class_ head then restsBehind class_ rest ((head :: rest) :: longer)
      else (head :: rest) :: longer

/-- Whether a character stands for a letter of a word in any case. Besides the two
cases of the letter itself, the long s stands for an s, and the dotted and the
dotless i for an i. -/
def sameLetter (letter c : CodePoint) : Bool :=
  c.toLower = letter.toLower || (letter.toLower = 's' && c = 'ſ') ||
    (letter.toLower = 'i' && (c = 'ı' || c = 'İ'))

/-- What follows a word that the text starts with, in any case. -/
def afterWord? : (word text : Text) → Option Text
  | [], text => some text
  | _ :: _, [] => none
  | letter :: letters, c :: text =>
      if sameLetter letter c then afterWord? letters text else none

/-- Whether a zone abbreviation can start with a character. -/
def isZoneStart (c : CodePoint) : Bool :=
  c.isAlpha

/-- Whether a zone abbreviation can go on with a character. -/
def isZonePart (c : CodePoint) : Bool :=
  c.isAlphanum || c = '_' || c = '/' || c = ':' || c = '+' || c = '-'

/-- The readings that keep the first `count` characters as a field, for each of the
given counts. -/
def fieldReadings (field : Field) (counts : List Nat) (text : Text) : List (Fields × Text) :=
  counts.map fun count => ([(field, text.take count)], text.drop count)

/-- The readings of an offset behind its sign: with seconds if there are six digits,
then without. -/
def offsetReadings (text : Text) : List (Fields × Text) :=
  let run := runLength Text.isDigit 6 (text.drop 1)
  fieldReadings .offset ((if run = 6 then [7] else []) ++ (if 4 ≤ run then [5] else [])) text

/-- The readings of a piece, the preferred ones first: the fields it yields and the
text behind it. -/
def Piece.readings : Piece → Text → List (Fields × Text)
  | .literal c, text =>
      match text with
      | [] => []
      | head :: rest => if head = c then [([], rest)] else []
  | .digits field least most, text =>
      fieldReadings field (downFrom (runLength Text.isDigit most text) least) text
  | .word field words, text =>
      words.filterMap fun word => (afterWord? word text).map fun rest =>
        (match field with
          | none => []
          | some name => [(name, text.take word.length)], rest)
  | .offset zulu, text =>
      match text with
      | [] => []
      | head :: rest =>
          if head = '+' || head = '-' then offsetReadings text
          else if zulu && head = 'Z' then [([(.offset, [head])], rest)]
          else []
  | .zoneName, text =>
      match text with
      | [] => []
      | head :: rest =>
          if isZoneStart head then (restsBehind isZonePart rest []).map fun behind => ([], behind)
          else []
  | .fraction, text =>
      match text with
      | [] => [([], [])]
      | head :: rest =>
          (if head = '.' then
            fieldReadings .fraction (downFrom (runLength Text.isDigit 9 rest) 0) rest
          else []) ++ [([], text)]

/-- The first reading of a sequence of pieces, and the text behind it. -/
def readPieces : List Piece → Text → Option (Fields × Text)
  | [], text => some ([], text)
  | piece :: others, text =>
      (piece.readings text).findSome? fun reading =>
        (readPieces others reading.2).map fun behind => (reading.1 ++ behind.1, behind.2)

end RecordingName.DateFormat
