/-!
# Code points

Most code points are characters. The surrogates, U+D800 to U+DFFF, are none, and no encoding
writes them, but a text can hold them all the same, as where octets that could not be decoded
were kept. `toNat_inj` says that code points are told apart by their numbers.
-/

namespace RecordingName

/-- A code point of Unicode: a character, or a surrogate by its distance from the first one. -/
inductive CodePoint where
  | scalar (c : Char)
  | surrogate (distance : Fin 0x800)
  deriving DecidableEq, Repr

instance : Coe Char CodePoint :=
  ⟨.scalar⟩

namespace CodePoint

/-- The number of a code point. -/
def toNat : CodePoint → Nat
  | .scalar c => c.toNat
  | .surrogate distance => 0xD800 + distance

/-- Whether a code point is a surrogate. -/
def isSurrogate : CodePoint → Bool
  | .scalar _ => false
  | .surrogate _ => true

/-- Whether a code point is a character that passes a test. -/
def passes (test : Char → Bool) : CodePoint → Bool
  | .scalar c => test c
  | .surrogate _ => false

/-- Whether a code point is an ASCII digit. -/
def isDigit : CodePoint → Bool :=
  passes Char.isDigit

/-- Whether a code point is an ASCII letter. -/
def isAlpha : CodePoint → Bool :=
  passes Char.isAlpha

/-- Whether a code point is an ASCII letter or digit. -/
def isAlphanum (c : CodePoint) : Bool :=
  c.isAlpha || c.isDigit

/-- What a character is turned into. A surrogate stays as it is. -/
def mapChar (change : Char → Char) : CodePoint → CodePoint
  | .scalar c => .scalar (change c)
  | .surrogate distance => .surrogate distance

/-- The small form of an ASCII letter. -/
def toLower : CodePoint → CodePoint :=
  mapChar Char.toLower

/-- The capital form of an ASCII letter. -/
def toUpper : CodePoint → CodePoint :=
  mapChar Char.toUpper

@[simp] theorem toNat_scalar (c : Char) : (scalar c).toNat = c.toNat :=
  rfl

@[simp] theorem toNat_surrogate (distance : Fin 0x800) :
    (surrogate distance).toNat = 0xD800 + distance :=
  rfl

@[simp] theorem isSurrogate_scalar (c : Char) : (scalar c).isSurrogate = false :=
  rfl

@[simp] theorem passes_scalar (test : Char → Bool) (c : Char) :
    (scalar c).passes test = test c :=
  rfl

@[simp] theorem passes_surrogate (test : Char → Bool) (distance : Fin 0x800) :
    (surrogate distance).passes test = false :=
  rfl

/-- No character has the number of a surrogate. -/
theorem toNat_scalar_ne (c : Char) (distance : Fin 0x800) :
    (scalar c).toNat ≠ (surrogate distance).toNat := by
  have valid : c.toNat < 0xD800 ∨ 0xDFFF < c.toNat ∧ c.toNat < 0x110000 := c.valid
  rw [toNat_scalar, toNat_surrogate]
  omega

/-- Code points with the same number are the same. -/
theorem toNat_inj {first second : CodePoint} : first.toNat = second.toNat ↔ first = second := by
  constructor
  · intro same
    cases first with
    | scalar c =>
        cases second with
        | scalar d => exact congrArg scalar (Char.toNat_inj.1 same)
        | surrogate distance => exact absurd same (toNat_scalar_ne c distance)
    | surrogate distance =>
        cases second with
        | scalar d => exact absurd same.symm (toNat_scalar_ne d distance)
        | surrogate other => exact congrArg surrogate (Fin.ext (Nat.add_left_cancel same))
  · rintro rfl
    rfl

/-- The ASCII digits have the numbers 48 to 57. -/
theorem isDigit_iff_toNat {c : CodePoint} : c.isDigit ↔ 48 ≤ c.toNat ∧ c.toNat ≤ 57 := by
  cases c with
  | scalar c => exact Char.isDigit_iff_toNat
  | surrogate distance =>
      rw [toNat_surrogate]
      exact iff_of_false Bool.false_ne_true (by omega)

/-- The ASCII letters have the numbers 65 to 90 and 97 to 122. -/
theorem isAlpha_iff_toNat {c : CodePoint} :
    c.isAlpha ↔ 65 ≤ c.toNat ∧ c.toNat ≤ 90 ∨ 97 ≤ c.toNat ∧ c.toNat ≤ 122 := by
  cases c with
  | scalar c =>
      change (decide (65 ≤ c.val ∧ c.val ≤ 90) ||
        (decide (97 ≤ c.val) && decide (c.val ≤ 122))) = true ↔ _
      simp only [Bool.or_eq_true, Bool.and_eq_true, decide_eq_true_eq, UInt32.le_iff_toNat_le]
      rfl
  | surrogate distance =>
      rw [toNat_surrogate]
      exact iff_of_false Bool.false_ne_true (by omega)

/-- The small form of a capital letter has a number that is greater by 32. -/
theorem toNat_toLower (c : CodePoint) :
    c.toLower.toNat = if 65 ≤ c.toNat ∧ c.toNat ≤ 90 then c.toNat + 32 else c.toNat := by
  cases c with
  | scalar c =>
      change c.toLower.toNat = if 65 ≤ c.toNat ∧ c.toNat ≤ 90 then c.toNat + 32 else c.toNat
      unfold Char.toLower
      split
      next capital =>
        have inside : 65 ≤ c.toNat ∧ c.toNat ≤ 90 := by
          simpa [UInt32.le_iff_toNat_le] using capital
        rw [if_pos inside]
        exact Nat.mod_eq_of_lt (Nat.lt_of_le_of_lt (Nat.add_le_add_right inside.2 32) (by decide))
      next other =>
        rw [if_neg]
        simpa [UInt32.le_iff_toNat_le] using other
  | surrogate distance =>
      change (surrogate distance).toNat = _
      rw [if_neg]
      rw [toNat_surrogate]
      omega

/-- A letter stays one when it becomes small, and nothing else becomes one. -/
theorem isAlpha_toLower (c : CodePoint) : c.toLower.isAlpha = c.isAlpha := by
  rw [Bool.eq_iff_iff, isAlpha_iff_toNat, isAlpha_iff_toNat, toNat_toLower]
  split <;> omega

end CodePoint
end RecordingName
