import Mathlib.Data.List.Lex
import Mathlib.Order.Basic
import Mathlib.Tactic.Ring
import RecordingName.Proofs.Text.Digits

/-!
# The order of texts

Texts are ordered by the code points at which they first differ. Behind beginnings of the same
length that is decided by the beginnings unless they are equal, by `append_lt_append_iff`. So
numbers that fit the width in which they are written are ordered as their texts are, whatever
follows them: `padded_append_lt_iff`.
-/

namespace RecordingName

/-- Code points are ordered by their numbers. -/
instance : LinearOrder CodePoint :=
  LinearOrder.lift' CodePoint.toNat fun _ _ same => CodePoint.toNat_inj.1 same

namespace Text

variable {first second : Text}

/-- Behind beginnings of the same length, the rest counts only if these are equal. -/
theorem append_lt_append_iff (same : first.length = second.length) (rest other : Text) :
    first ++ rest < second ++ other ↔ first < second ∨ first = second ∧ rest < other := by
  induction first generalizing second with
  | nil =>
      obtain rfl := List.length_eq_zero_iff.1 same.symm
      simp
  | cons head tail ih =>
      cases second with
      | nil => cases same
      | cons c more =>
          rw [List.cons_append, List.cons_append, List.cons_lt_cons_iff, List.cons_lt_cons_iff,
            ih (Nat.succ.inj same), List.cons.injEq]
          tauto

/-- The first of the digits of a number counts by as many tens as there are digits behind it. -/
theorem toNumber_cons (c : CodePoint) (rest : Text) :
    toNumber (c :: rest) = digitValue c * 10 ^ rest.length + toNumber rest := by
  induction rest using List.reverseRecOn with
  | nil => simp [toNumber]
  | append_singleton front last ih =>
      rw [← List.cons_append, toNumber_append_singleton, toNumber_append_singleton, ih,
        List.length_append, List.length_singleton, Nat.pow_succ]
      ring

/-- The value of an ASCII digit is its distance from zero. -/
theorem toNat_of_isDigit {c : CodePoint} (digit : c.isDigit) : c.toNat = 48 + digitValue c := by
  have least : 48 ≤ c.toNat := (CodePoint.isDigit_iff_toNat.1 digit).1
  rw [digitValue, digitValue?_of_isDigit digit, Option.getD_some]
  omega

/-- Texts of as many ASCII digits are ordered as the numbers that they stand for. -/
theorem lt_iff_toNumber_lt (digits : ∀ c ∈ first, c.isDigit) (others : ∀ c ∈ second, c.isDigit)
    (same : first.length = second.length) : first < second ↔ toNumber first < toNumber second := by
  induction first generalizing second with
  | nil =>
      obtain rfl := List.length_eq_zero_iff.1 same.symm
      simp
  | cons c rest ih =>
      cases second with
      | nil => cases same
      | cons d more =>
          have same_rest : rest.length = more.length := Nat.succ.inj same
          have behind := ih (fun c written => digits c (List.mem_cons_of_mem _ written))
            (fun d written => others d (List.mem_cons_of_mem _ written)) same_rest
          have first_value := toNat_of_isDigit (digits c (List.mem_cons_self ..))
          have second_value := toNat_of_isDigit (others d (List.mem_cons_self ..))
          have order : c < d ↔ digitValue c < digitValue d := by
            change c.toNat < d.toNat ↔ _
            omega
          have equal : c = d ↔ digitValue c = digitValue d := by
            rw [← CodePoint.toNat_inj]
            omega
          have rest_lt := toNumber_lt rest
          have more_lt := toNumber_lt more
          rw [List.cons_lt_cons_iff, behind, order, equal, toNumber_cons, toNumber_cons, same_rest]
          rw [same_rest] at rest_lt
          generalize 10 ^ more.length = scale at rest_lt more_lt
          rcases Nat.lt_trichotomy (digitValue c) (digitValue d) with less | alike | greater
          · have step := Nat.mul_le_mul_right scale (Nat.succ_le_of_lt less)
            rw [Nat.succ_mul] at step
            omega
          · rw [alike]
            omega
          · have step := Nat.mul_le_mul_right scale (Nat.succ_le_of_lt greater)
            rw [Nat.succ_mul] at step
            omega

/-- Numbers that fit the width in which they are written come in the order of their texts, and what
follows them counts only if they are equal. -/
theorem padded_append_lt_iff {width number other : Nat} (positive : 0 < width)
    (fits : number < Nat.pow 10 width) (other_fits : other < Nat.pow 10 width)
    (behind following : Text) :
    padded width number ++ behind < padded width other ++ following ↔
      number < other ∨ number = other ∧ behind < following := by
  have same : (padded width number).length = (padded width other).length :=
    (length_padded positive fits).trans (length_padded positive other_fits).symm
  have order := lt_iff_toNumber_lt
    (fun c (written : c ∈ padded width number) => core_isDigit_of_mem_padded written)
    (fun c (written : c ∈ padded width other) => core_isDigit_of_mem_padded written) same
  have equal : padded width number = padded width other ↔ number = other := by
    constructor
    · intro alike
      rw [← toNumber_padded width number, alike, toNumber_padded]
    · rintro rfl
      rfl
  rw [toNumber_padded, toNumber_padded] at order
  rw [append_lt_append_iff same, order, equal]

end Text
end RecordingName
