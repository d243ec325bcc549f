import RecordingName.Proofs.Template.Signs

/-!
# Reading written templates

An escaped text is read as it was before it was escaped, whatever part of a template it
is and whatever follows it: `scan_escape`. A written reference is read as that reference,
by `scan_reference`, and so written segments are read as their normal form, by
`scan_printSegments`. All that is read is in normal form: `isNormal_of_scan`.
-/

namespace RecordingName.Template

open Segment

/-- A text with a backslash before each special character, sign by sign. -/
def escapingSigns (special : CodePoint → Bool) (text : Text) : List (Sign special) :=
  text.map fun c => if ordinary : special c = false then .plain c ordinary else .escaped c

/-- The signs of a text write it escaped. -/
theorem writtenSigns_escapingSigns (special : CodePoint → Bool) (text : Text) :
    writtenSigns (escapingSigns special text) = escape special text := by
  rw [writtenSigns, escapingSigns, List.flatMap_map, escape]
  congr 1
  funext c
  by_cases ordinary : special c = false <;> simp [ordinary, Sign.written]

/-- The signs of a text stand for it. -/
theorem unescaped_escapingSigns (special : CodePoint → Bool) (text : Text) :
    unescaped (escapingSigns special text) = text := by
  rw [unescaped, escapingSigns, List.map_map]
  refine (List.map_congr_left fun c _ => ?_).trans (List.map_id text)
  by_cases ordinary : special c = false <;> simp [ordinary, Sign.char]

/-- An escaped text is read as the text. -/
theorem scan_escape (position : Nat) (mode : Mode) (text rest : Text) :
    scan position mode (escape mode.special text ++ rest) =
      (scan (position + (escape mode.special text).length) (mode.extendBy text) rest).map
        (mode.keepBy text) := by
  have read := scan_signs position rfl (escapingSigns mode.special text) rest
  rw [writtenSigns_escapingSigns, unescaped_escapingSigns] at read
  exact read

theorem scan_open (position : Nat) (rest : Text) :
    scan position .outside (.scalar '{' :: rest) =
      scan (position + 1) (.inside position [] none) rest := by
  rw [scan.eq_def]
  rfl

theorem scan_colon (position start : Nat) (name rest : Text) :
    scan position (.inside start name none) (.scalar ':' :: rest) =
      scan (position + 1) (.inside start name (some [])) rest := by
  rw [scan.eq_def]
  rfl

theorem scan_close (position start : Nat) (name rest : Text) (argument : Option Text) :
    scan position (.inside start name argument) (.scalar '}' :: rest) =
      if Text.strip name.reverse = [] then .error ⟨.emptyName, start⟩
      else (scan (position + 1) .outside rest).map
        (.reference ⟨Text.strip name.reverse, argument.map List.reverse⟩ :: ·) := by
  rw [scan.eq_def]
  rfl

/-- Inside a reference, an escaped text only extends the part that is being read. -/
theorem scan_escape_inside (position start : Nat) (name text rest : Text) (argument : Option Text) :
    scan position (.inside start name argument)
        (escape (Mode.special (.inside start name argument)) text ++ rest) =
      scan (position + (escape (Mode.special (.inside start name argument)) text).length)
        ((Mode.inside start name argument).extendBy text) rest := by
  rw [scan_escape]
  exact congrFun Except.map_id _

/-- A written reference is read as itself with its name stripped, unless that is blank. -/
theorem scan_reference (position : Nat) (target : Reference) (rest : Text) :
    scan position .outside (printSegment (.reference target) ++ rest) =
      if Text.strip target.name = [] then .error ⟨.emptyName, position⟩
      else (scan (position + (printSegment (.reference target)).length) .outside rest).map
        (stripName (.reference target) :: ·) := by
  obtain ⟨name, argument⟩ := target
  have named (tail : Text) := scan_escape_inside (position + 1) position [] name tail none
  simp only [Mode.special, Mode.extendBy_name, List.append_nil] at named
  cases argument with
  | none =>
      have width : position + 1 + (escape isSpecialInName name).length + 1 =
          position + (printSegment (.reference ⟨name, none⟩)).length := by
        simp [printSegment]
        omega
      rw [← width]
      simp only [printSegment, List.cons_append, List.append_assoc, List.nil_append, scan_open,
        named, scan_close, List.reverse_reverse, stripName, Option.map_none]
  | some argument =>
      have argued (from_name : Nat) (tail : Text) :=
        scan_escape_inside from_name position name.reverse argument tail (some [])
      simp only [Mode.special, Mode.extendBy_argument, List.append_nil] at argued
      have width : position + 1 + (escape isSpecialInName name).length + 1 +
          (escape isSpecial argument).length + 1 =
            position + (printSegment (.reference ⟨name, some argument⟩)).length := by
        simp [printSegment]
        omega
      rw [← width]
      simp only [printSegment, List.cons_append, List.append_assoc, List.nil_append, scan_open,
        named, scan_colon, argued, scan_close, List.reverse_reverse, stripName, Option.map_some]

/-- Written segments are read as their normal form, or else up to the first blank name. -/
theorem scan_printSegments (position : Nat) (segments : List Segment) :
    scan position .outside (printSegments segments) =
      match blankOffset? segments with
      | none => .ok (normal segments)
      | some offset => .error ⟨.emptyName, position + offset⟩ := by
  induction segments generalizing position with
  | nil => rfl
  | cons segment rest ih =>
      rw [printSegments, List.flatMap_cons, ← printSegments, blankOffset?_cons]
      cases segment with
      | literal text =>
          have read := scan_escape position .outside text (printSegments rest)
          rw [Mode.extendBy_outside, ih] at read
          rw [if_neg (by simp [isBlankReference]), normal_cons_literal]
          refine read.trans ?_
          cases blankOffset? rest with
          | none => rfl
          | some offset => exact congrArg _ (congrArg _ (Nat.add_assoc ..))
      | reference target =>
          rw [scan_reference, ih, normal_cons_reference]
          by_cases blank : Text.strip target.name = []
          · simp [isBlankReference, blank]
          · rw [if_neg blank, if_neg (by simpa [isBlankReference] using blank)]
            cases blankOffset? rest with
            | none => rfl
            | some offset => exact congrArg _ (congrArg _ (Nat.add_assoc ..))

/-- Segments in normal form, none of which refers to a blank name. -/
structure IsNormal (segments : List Segment) : Prop where
  fixed : normal segments = segments
  named : ∀ segment ∈ segments, isBlankReference segment = false

namespace IsNormal

variable {segments : List Segment}

/-- No name of a template in normal form is blank. -/
theorem blankOffset?_eq_none (known : IsNormal segments) : blankOffset? segments = none := by
  rw [blankOffset?, List.findIdx?_eq_none_iff.2 known.named]
  rfl

theorem nil : IsNormal [] := ⟨rfl, fun _ member => absurd member List.not_mem_nil⟩

/-- Literal text in front keeps it. -/
theorem joinLiteral (known : IsNormal segments) (text : Text) :
    IsNormal (Segment.joinLiteral text segments) := by
  refine ⟨by rw [normal_joinLiteral, known.fixed], ?_⟩
  intro segment member
  cases text with
  | nil => exact known.named segment member
  | cons head others =>
      cases segments with
      | nil =>
          rw [List.mem_singleton.1 member]
          rfl
      | cons first rest =>
          cases first with
          | literal text =>
              rcases List.mem_cons.1 member with rfl | later
              · rfl
              · exact known.named segment (List.mem_cons_of_mem _ later)
          | reference target =>
              rcases List.mem_cons.1 member with rfl | later
              · rfl
              · exact known.named segment later

/-- A kept character leaves segments in normal form. -/
theorem keep (known : IsNormal segments) (c : CodePoint) (mode : Mode) :
    IsNormal (mode.keep c segments) := by
  cases mode with
  | outside => exact known.joinLiteral [c]
  | inside start name argument => exact known

/-- Reading one reference more keeps it. -/
theorem reference (known : IsNormal segments) {name : Text} (visible : Text.strip name ≠ [])
    (argument : Option Text) : IsNormal (.reference ⟨Text.strip name, argument⟩ :: segments) := by
  refine ⟨by rw [normal_cons_reference, Text.strip_strip, known.fixed], ?_⟩
  intro segment member
  rcases List.mem_cons.1 member with rfl | later
  · simpa [isBlankReference, Text.strip_strip] using visible
  · exact known.named segment later

/-- Normal forms have no empty literals. -/
theorem literal_nil_notMem (known : IsNormal segments) : .literal [] ∉ segments := by
  rw [← known.fixed]
  exact literal_nil_notMem_normal segments

/-- A reference with a name and no blanks around it keeps the normal form. -/
theorem reference_of_stripped (known : IsNormal segments) {target : Reference}
    (stripped : Text.strip target.name = target.name) (named : target.name ≠ []) :
    IsNormal (.reference target :: segments) := by
  have read := known.reference (stripped.symm ▸ named) target.argument
  rw [stripped] at read
  exact read

end IsNormal

/-- A mapped result comes from a result. -/
theorem exists_of_map_eq_ok {α β : Type} {change : α → β} {result : Except SyntaxError α}
    {value : β} (mapped : result.map change = .ok value) :
    ∃ before, result = .ok before ∧ change before = value := by
  cases result with
  | error error => cases mapped
  | ok before => exact ⟨before, rfl, Except.ok.inj mapped⟩

/-- All that is read is in normal form. -/
theorem isNormal_of_scan {position : Nat} {mode : Mode} {text : Text} {segments : List Segment}
    (read : scan position mode text = .ok segments) : IsNormal segments := by
  fun_induction scan position mode text generalizing segments with
  | case1 =>
      cases read
      exact ⟨rfl, by simp⟩
  | case2 => cases read
  | case3 => cases read
  | case4 position mode escaped others ih =>
      obtain ⟨later, later_read, rfl⟩ := exists_of_map_eq_ok read
      exact (ih later_read).keep escaped mode
  | case5 position rest _ ih => exact ih read
  | case6 => cases read
  | case7 position head rest _ _ _ ih =>
      obtain ⟨later, later_read, rfl⟩ := exists_of_map_eq_ok read
      exact (ih later_read).keep head .outside
  | case8 => cases read
  | case9 position rest start name argument visible _ ih =>
      obtain ⟨later, later_read, rfl⟩ := exists_of_map_eq_ok read
      exact (ih later_read).reference visible _
  | case10 => cases read
  | case11 position head rest _ start name argument _ _ _ ih => exact ih read
  | case12 position head rest _ start name argument _ _ _ ih =>
      obtain ⟨later, later_read, rfl⟩ := exists_of_map_eq_ok read
      exact (ih later_read).keep head (.inside start name argument)

/-- What is read is in normal form. -/
theorem isNormal_of_parse {text : Text} {template : Template}
    (read : parse text = .ok template) : IsNormal template.segments := by
  obtain ⟨segments, scanned, rfl⟩ := exists_of_map_eq_ok read
  exact isNormal_of_scan scanned

/-- Written segments without a blank name are read as their normal form. -/
theorem parse_print_eq (segments : List Segment) :
    parse (print ⟨segments⟩) =
      match blankOffset? segments with
      | none => .ok ⟨normal segments⟩
      | some offset => .error ⟨.emptyName, offset⟩ := by
  rw [parse, print, scan_printSegments]
  cases blankOffset? segments with
  | none => rfl
  | some offset => exact congrArg _ (congrArg _ (Nat.zero_add offset))

/-- Segments in normal form are read as they are written. -/
theorem IsNormal.parse_print {segments : List Segment} (known : IsNormal segments) :
    parse (print ⟨segments⟩) = .ok ⟨segments⟩ := by
  rw [parse_print_eq, known.blankOffset?_eq_none, known.fixed]

/-- Writing and reading are inverse to each other up to the normal form. Written segments are
read as their normal form, or refused at the first reference to a blank name; and what is read
from a text is in normal form, so that it is read again from its written form. -/
theorem reads_written_segments :
    (∀ segments, parse (print ⟨segments⟩) =
      match blankOffset? segments with
      | none => .ok ⟨normal segments⟩
      | some offset => .error ⟨.emptyName, offset⟩) ∧
    ∀ text template, parse text = .ok template →
      normal template.segments = template.segments ∧ parse template.print = .ok template := by
  refine ⟨parse_print_eq, ?_⟩
  intro text template read
  obtain ⟨segments, scanned, rfl⟩ := exists_of_map_eq_ok read
  have known := isNormal_of_scan scanned
  exact ⟨known.fixed, known.parse_print⟩

/-- A reference with blanks around its name is read without them, and written so. -/
theorem reads_written_segments_padded :
    parse ['{', ' ', 'p', '}'] = .ok ⟨[.reference ⟨['p'], none⟩]⟩ ∧
      parse (print ⟨[.reference ⟨['p'], none⟩]⟩) = .ok ⟨[.reference ⟨['p'], none⟩]⟩ :=
  ⟨rfl, (reads_written_segments.2 ['{', ' ', 'p', '}'] _ rfl).2⟩

end RecordingName.Template
