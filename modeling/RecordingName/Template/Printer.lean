import RecordingName.Template.Basic
import RecordingName.Text.Quoted

/-!
# Writing templates

The written form of a template escapes the characters that would be read as
something else: braces and backslashes everywhere, and the colon in a name.
`print_append` says that a template is written segment by segment.
-/

namespace RecordingName.Template

/-- The characters that are escaped in literal text and in an argument. -/
def isSpecial (c : CodePoint) : Bool :=
  c = '{' || c = '}' || c = '\\'

/-- The characters that are escaped in a name. -/
def isSpecialInName (c : CodePoint) : Bool :=
  isSpecial c || c = ':'

/-- A text with a backslash before each special character. -/
def escape (special : CodePoint → Bool) (text : Text) : Text :=
  text.flatMap fun c => if special c then ['\\', c] else [c]

/-- The written form of a segment. -/
def printSegment : Segment → Text
  | .literal text => escape isSpecial text
  | .reference ⟨name, none⟩ => .scalar '{' :: escape isSpecialInName name ++ [CodePoint.scalar '}']
  | .reference ⟨name, some argument⟩ =>
      .scalar '{' :: escape isSpecialInName name ++ .scalar ':' :: escape isSpecial argument ++
        [CodePoint.scalar '}']

/-- The written form of segments. -/
def printSegments (segments : List Segment) : Text :=
  segments.flatMap printSegment

/-- The written form of a template. -/
def print (template : Template) : Text :=
  printSegments template.segments

/-- A template as messages show it. -/
def shown (template : Template) : Text :=
  "Template(".text ++ Text.quoted template.print ++ [CodePoint.scalar ')']

/-- A template is written segment by segment. -/
theorem print_append (first second : List Segment) :
    printSegments (first ++ second) = printSegments first ++ printSegments second :=
  List.flatMap_append

end RecordingName.Template
