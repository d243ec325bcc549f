import RecordingName.Text.Percent

/-!
# Percent encoding

A text becomes percent-encoded by encoding its percent signs and spaces, and
`decode_encode` reads it back. Decoding leaves a text alone exactly if no encoded
octet stands in it, by `decode_eq_self_iff`: every encoded octet makes the text shorter,
even where it is no UTF-8.
-/

namespace RecordingName.Text.Percent

variable {text rest : Text} {head : CodePoint}

/-- A text with its percent signs and spaces encoded. -/
def encode (text : Text) : Text :=
  text.flatMap fun c : CodePoint =>
    if c = '%' then "%25".text else if c = ' ' then "%20".text else [c]

/-- Whether a text starts with an encoded octet: a percent sign with its two digits. -/
def StartsOctet (text : Text) : Prop :=
  ∃ high low rest, text = .scalar '%' :: high :: low :: rest ∧
    (hexValue? high).isSome ∧ (hexValue? low).isSome

/-- Whether an encoded octet stands anywhere in a text. -/
def HoldsOctet (text : Text) : Prop :=
  ∃ behind, behind <:+ text ∧ StartsOctet behind

/-- An octet stands at the first character or behind it. -/
theorem holdsOctet_cons_iff :
    HoldsOctet (head :: rest) ↔ StartsOctet (head :: rest) ∨ HoldsOctet rest := by
  simp [HoldsOctet, List.suffix_cons_iff, or_and_right, exists_or]

/-- A character that starts no encoded octet stands for itself. -/
theorem decodeFrom_of_not_startsOctet (plain : ¬ StartsOctet (head :: rest))
    (pending : Option Pending) :
    decodeFrom pending (head :: rest) = flush pending ++ head :: decodeFrom none rest := by
  generalize shape : head :: rest = text at plain ⊢
  fun_cases decodeFrom pending text with
  | case1 => cases shape
  | case2 high low rest upper lower low_value high_value =>
      exact absurd ⟨high, low, rest, rfl, by simp [high_value], by simp [low_value]⟩ plain
  | case3 => cases shape; rfl
  | case4 => cases shape; rfl

/-- A character other than the percent sign stands for itself. -/
theorem decodeFrom_cons {c : CodePoint} (plain : c ≠ '%') (rest : Text) :
    decodeFrom none (c :: rest) = c :: decodeFrom none rest := by
  refine decodeFrom_of_not_startsOctet ?_ none
  rintro ⟨high, low, rest, shape, -⟩
  exact plain (List.cons.inj shape).1

/-- An encoded text stands for the text. -/
theorem decode_encode (text : Text) : decode (encode text) = text := by
  unfold decode
  induction text with
  | nil => rfl
  | cons head rest ih =>
      rw [encode, List.flatMap_cons, ← encode]
      by_cases percent : head = '%'
      · subst percent
        change .scalar '%' :: decodeFrom none (encode rest) = _
        rw [ih]
      · by_cases space : head = ' '
        · subst space
          change .scalar ' ' :: decodeFrom none (encode rest) = _
          rw [ih]
        · rw [if_neg percent, if_neg space, List.singleton_append, decodeFrom_cons percent, ih]

/-- An octet yields one character or leaves one open. -/
theorem length_lead (octet : Nat) :
    (lead octet).1.length + (flush (lead octet).2).length = 1 := by
  unfold lead
  repeat' split
  all_goals rfl

/-- An octet adds at most one character to the one that may be open before it. -/
theorem length_feed_le (pending : Option Pending) (octet : Nat) :
    (feed pending octet).1.length + (flush (feed pending octet).2).length ≤
      (flush pending).length + 1 := by
  have begun := length_lead octet
  cases pending with
  | none => simpa [feed, flush] using Nat.le_of_eq begun
  | some open_ =>
      have owed : (flush (some open_)).length = 1 := rfl
      rw [feed, owed]
      split
      next => split <;> simp [flush]
      next =>
        simp only [List.length_cons]
        omega

/-- Decoding adds at most the character that may be open before the text. -/
theorem length_decodeFrom_le (pending : Option Pending) (text : Text) :
    (decodeFrom pending text).length ≤ (flush pending).length + text.length := by
  have nothing : (flush none).length = 0 := rfl
  fun_induction decodeFrom pending text with
  | case1 pending => simp
  | case2 pending high low rest upper lower low_value high_value fed ih =>
      have grown : fed.1.length + (flush fed.2).length ≤ (flush pending).length + 1 :=
        length_feed_le pending (16 * upper + lower)
      simp only [List.length_append, List.length_cons]
      omega
  | case3 pending high low rest unread ih =>
      simp only [List.length_append, List.length_cons] at ih ⊢
      omega
  | case4 pending head rest other ih =>
      simp only [List.length_append, List.length_cons]
      omega

/-- A text that starts with an encoded octet becomes shorter. -/
theorem StartsOctet.length_decode_lt (starts : StartsOctet text) :
    (decode text).length < text.length := by
  obtain ⟨high, low, rest, rfl, high_digit, low_digit⟩ := starts
  obtain ⟨upper, high_value⟩ := Option.isSome_iff_exists.1 high_digit
  obtain ⟨lower, low_value⟩ := Option.isSome_iff_exists.1 low_digit
  have first := length_feed_le none (16 * upper + lower)
  have others := length_decodeFrom_le (feed none (16 * upper + lower)).2 rest
  have nothing : (flush none).length = 0 := rfl
  have decoded : decode (.scalar '%' :: high :: low :: rest) =
      (feed none (16 * upper + lower)).1 ++ decodeFrom (feed none (16 * upper + lower)).2 rest := by
    simp [decode, decodeFrom, high_value, low_value]
  simp only [decoded, List.length_append, List.length_cons]
  omega

/-- A text stands for itself exactly if no encoded octet is in it. -/
theorem decode_eq_self_iff (text : Text) : decode text = text ↔ ¬ HoldsOctet text := by
  induction text with
  | nil => simp [decode, decodeFrom, flush, HoldsOctet, StartsOctet]
  | cons head rest ih =>
      by_cases starts : StartsOctet (head :: rest)
      · have changed : decode (head :: rest) ≠ head :: rest := fun same =>
          Nat.ne_of_lt starts.length_decode_lt (congrArg List.length same)
        simp [holdsOctet_cons_iff, starts, changed]
      · have kept : decode (head :: rest) = head :: decode rest :=
          decodeFrom_of_not_startsOctet starts none
        simp [holdsOctet_cons_iff, starts, kept, ih]

/-- Decoding a text tells whether an encoded octet stands in it. -/
instance (text : Text) : Decidable (HoldsOctet text) :=
  decidable_of_iff (decode text ≠ text) (by simp [decode_eq_self_iff])

example : HoldsOctet ['5', '%', '4', '1'] ∧ ¬ HoldsOctet ['5', '%', '4', 'x'] := by decide

end RecordingName.Text.Percent
