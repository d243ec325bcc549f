import RecordingName.Proofs.Template.Normal
import RecordingName.Template.Parser

/-!
# Signs

A character of a template is written as it is or behind a backslash, and some characters only
behind one. However a text is written, it is read as that text, whatever part of a template it is
and whatever follows it: `scan_signs`. The signs that a text starts with are determined, by
`takeSigns_writtenSigns`.
-/

namespace RecordingName.Template

open Segment

namespace Mode

/-- The characters that are escaped where the reader stands. -/
def special : Mode → CodePoint → Bool
  | .outside => isSpecial
  | .inside _ _ none => isSpecialInName
  | .inside _ _ (some _) => isSpecial

/-- Add a text to the part of a reference that is being read. -/
def extendBy (text : Text) (mode : Mode) : Mode :=
  text.foldl (fun current c => current.extend c) mode

/-- Put a text that stands for itself in front of what follows. -/
def keepBy (text : Text) (mode : Mode) (segments : List Segment) : List Segment :=
  match mode with
  | .outside => joinLiteral text segments
  | .inside .. => segments

/-- A character that is kept does not change which characters are special. -/
theorem special_extend (c : CodePoint) (mode : Mode) : (mode.extend c).special = mode.special := by
  match mode with
  | .outside => rfl
  | .inside _ _ none => rfl
  | .inside _ _ (some _) => rfl

theorem extendBy_outside (text : Text) : extendBy text .outside = .outside := by
  induction text with
  | nil => rfl
  | cons head rest ih => exact ih

theorem extendBy_name (text : Text) (start : Nat) (name : Text) :
    extendBy text (.inside start name none) = .inside start (text.reverse ++ name) none := by
  induction text generalizing name with
  | nil => rfl
  | cons head rest ih =>
      rw [extendBy, List.foldl_cons, ← extendBy, extend, ih]
      simp

theorem extendBy_argument (text : Text) (start : Nat) (name argument : Text) :
    extendBy text (.inside start name (some argument)) =
      .inside start name (some (text.reverse ++ argument)) := by
  induction text generalizing argument with
  | nil => rfl
  | cons head rest ih =>
      rw [extendBy, List.foldl_cons, ← extendBy, extend, ih]
      simp

theorem keepBy_cons (c : CodePoint) (rest : Text) (mode : Mode) (segments : List Segment) :
    keepBy (c :: rest) mode segments =
      mode.keep c (keepBy rest (mode.extend c) segments) := by
  match mode with
  | .outside => exact joinLiteral_append [c] rest segments
  | .inside _ _ none => rfl
  | .inside _ _ (some _) => rfl

end Mode

/-- Mapping a result twice is mapping it once by both. -/
theorem map_map_result {α β γ : Type} (first : α → β) (second : β → γ)
    (result : Except SyntaxError α) :
    (result.map first).map second = result.map fun value => second (first value) := by
  cases result <;> rfl

/-- A character as it is written where some characters are special: those only behind a
backslash. -/
inductive Sign (special : CodePoint → Bool) where
  | plain (c : CodePoint) (ordinary : special c = false)
  | escaped (c : CodePoint)

namespace Sign

variable {special : CodePoint → Bool}

/-- The character that a sign stands for. -/
def char : Sign special → CodePoint
  | .plain c _ => c
  | .escaped c => c

/-- A sign as it is written. -/
def written : Sign special → Text
  | .plain c _ => [c]
  | .escaped c => ['\\', c]

end Sign

section Signs

variable {special : CodePoint → Bool}

/-- The text that signs stand for. -/
def unescaped (signs : List (Sign special)) : Text :=
  signs.map Sign.char

/-- Signs as they are written. -/
def writtenSigns (signs : List (Sign special)) : Text :=
  signs.flatMap Sign.written

/-- The signs that a text starts with, and what stands behind them. -/
def takeSigns (special : CodePoint → Bool) : Text → List (Sign special) × Text
  | [] => ([], [])
  | head :: rest =>
      if head = '\\' then
        match rest with
        | [] => ([], [head])
        | c :: others =>
            let behind := takeSigns special others
            (.escaped c :: behind.1, behind.2)
      else if ordinary : special head = false then
        let behind := takeSigns special rest
        (.plain head ordinary :: behind.1, behind.2)
      else ([], head :: rest)

/-- No sign stands at the start of a text. -/
def Halts (special : CodePoint → Bool) (text : Text) : Prop :=
  takeSigns special text = ([], text)

theorem Halts.nil : Halts special [] := rfl

theorem Halts.cons {c : CodePoint} (no_escape : c ≠ '\\') (found : special c = true) (rest : Text) :
    Halts special (c :: rest) := by
  rw [Halts, takeSigns.eq_def]
  simp [no_escape, found]

/-- Nothing of a text is lost when its signs are taken. -/
theorem writtenSigns_takeSigns (text : Text) :
    writtenSigns (takeSigns special text).1 ++ (takeSigns special text).2 = text := by
  fun_induction takeSigns special text with
  | case1 => rfl
  | case2 => simp [writtenSigns]
  | case3 c others behind ih => simpa [writtenSigns, Sign.written] using ih
  | case4 head rest no_escape ordinary behind ih =>
      simpa [writtenSigns, Sign.written] using ih
  | case5 => rfl

/-- Signs are taken as they have been written. -/
theorem takeSigns_writtenSigns (backslash : special '\\' = true) (signs : List (Sign special))
    {rest : Text} (halts : Halts special rest) :
    takeSigns special (writtenSigns signs ++ rest) = (signs, rest) := by
  induction signs with
  | nil => exact halts
  | cons sign others ih =>
      rw [writtenSigns, List.flatMap_cons, ← writtenSigns, List.append_assoc]
      cases sign with
      | plain c ordinary =>
          have no_escape : c ≠ '\\' := by
            rintro rfl
            rw [backslash] at ordinary
            cases ordinary
          rw [Sign.written, List.singleton_append, takeSigns.eq_def]
          simp [no_escape, ordinary, ih]
      | escaped c =>
          rw [Sign.written, List.cons_append, List.singleton_append, takeSigns.eq_def]
          simp [ih]

/-- A sign does not start with a special character that is no backslash. -/
theorem Sign.written_append_ne {c : CodePoint} (no_escape : c ≠ '\\') (found : special c = true)
    (sign : Sign special) (rest other : Text) : sign.written ++ rest ≠ c :: other := by
  intro same
  cases sign with
  | plain head ordinary =>
      cases same
      rw [found] at ordinary
      cases ordinary
  | escaped head =>
      cases same
      exact no_escape rfl

/-- What stands behind a sign is told apart from it. -/
theorem Sign.eq_of_written_append (backslash : special '\\' = true) {first second : Sign special}
    {rest other : Text} (same : first.written ++ rest = second.written ++ other) :
    first = second ∧ rest = other := by
  have no_escape {c : CodePoint} (ordinary : special c = false) : c ≠ '\\' := by
    rintro rfl
    rw [backslash] at ordinary
    cases ordinary
  cases first with
  | plain c ordinary =>
      cases second with
      | plain d other_ordinary =>
          cases same
          exact ⟨rfl, rfl⟩
      | escaped d =>
          cases same
          exact absurd rfl (no_escape ordinary)
  | escaped c =>
      cases second with
      | plain d ordinary =>
          cases same
          exact absurd rfl (no_escape ordinary)
      | escaped d =>
          cases same
          exact ⟨rfl, rfl⟩

/-- What stands behind the signs of a text: nothing, a backslash with nothing behind it, or a
special character. -/
theorem takeSigns_rest (text : Text) :
    (takeSigns special text).2 = [] ∨ (takeSigns special text).2 = [CodePoint.scalar '\\'] ∨
      ∃ c rest, (takeSigns special text).2 = c :: rest ∧ c ≠ '\\' ∧ special c = true := by
  fun_induction takeSigns special text with
  | case1 => exact .inl rfl
  | case2 => exact .inr (.inl rfl)
  | case3 c others behind ih => exact ih
  | case4 head rest no_escape ordinary behind ih => exact ih
  | case5 head rest no_escape found =>
      exact .inr (.inr ⟨head, rest, rfl, no_escape, by simpa using found⟩)

/-- A sign is read as the character that it stands for. -/
theorem scan_sign (position : Nat) {mode : Mode} (same : mode.special = special)
    (sign : Sign special) (rest : Text) :
    scan position mode (sign.written ++ rest) =
      (scan (position + sign.written.length) (mode.extend sign.char) rest).map
        (mode.keep sign.char) := by
  cases sign with
  | escaped c =>
      rw [Sign.written, List.cons_append, List.singleton_append, scan.eq_def]
      exact if_pos rfl
  | plain c ordinary =>
      rw [← same] at ordinary
      rw [Sign.written, List.singleton_append, scan.eq_def]
      cases mode with
      | outside =>
          obtain ⟨opens, closes, backslash⟩ : c ≠ '{' ∧ c ≠ '}' ∧ c ≠ '\\' := by
            simpa [Mode.special, isSpecial, and_assoc] using ordinary
          simp only [if_neg backslash, if_neg opens, if_neg closes]
          rfl
      | inside start name argument =>
          cases argument with
          | none =>
              obtain ⟨opens, closes, backslash, colon⟩ :
                  c ≠ '{' ∧ c ≠ '}' ∧ c ≠ '\\' ∧ c ≠ ':' := by
                simpa [Mode.special, isSpecialInName, isSpecial, and_assoc] using ordinary
              simp only [if_neg backslash, if_neg opens, if_neg closes, colon, false_and, if_false]
              rfl
          | some argument =>
              obtain ⟨opens, closes, backslash⟩ : c ≠ '{' ∧ c ≠ '}' ∧ c ≠ '\\' := by
                simpa [Mode.special, isSpecial, and_assoc] using ordinary
              simp only [if_neg backslash, if_neg opens, if_neg closes, reduceCtorEq, and_false,
                if_false]
              rfl

/-- Signs are read as the text that they stand for. -/
theorem scan_signs (position : Nat) {mode : Mode} (same : mode.special = special)
    (signs : List (Sign special)) (rest : Text) :
    scan position mode (writtenSigns signs ++ rest) =
      (scan (position + (writtenSigns signs).length) (mode.extendBy (unescaped signs)) rest).map
        (mode.keepBy (unescaped signs)) := by
  induction signs generalizing position mode with
  | nil =>
      have nothing : (mode.keepBy [] : List Segment → List Segment) = id := by
        funext segments
        cases mode <;> rfl
      rw [unescaped, List.map_nil, nothing]
      change scan position mode rest = (scan position mode rest).map id
      cases scan position mode rest <;> rfl
  | cons sign others ih =>
      have tail := ih (position + sign.written.length) ((mode.special_extend sign.char).trans same)
      rw [writtenSigns, List.flatMap_cons, ← writtenSigns, List.append_assoc,
        scan_sign position same, tail, map_map_result, List.length_append, Nat.add_assoc]
      congr 1
      funext segments
      exact (Mode.keepBy_cons sign.char (unescaped others) mode segments).symm

end Signs
end RecordingName.Template
