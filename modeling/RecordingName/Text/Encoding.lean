import RecordingName.Text.Decimal
import RecordingName.Text.Quoted

/-!
# Texts that cannot be encoded

UTF-8 writes every character, and no surrogate. A text that holds surrogates is refused with the
place of the first of them and of those right behind it. `encodingError?_eq_none_iff` says that
no other text is.
-/

namespace RecordingName.Text

/-- Why a text cannot be encoded: its first surrogates, and where they start. -/
structure EncodingError where
  position : Nat
  surrogates : Text
  deriving DecidableEq, Repr

/-- What stands in the way of encoding a text. -/
def encodingError? (text : Text) : Option EncodingError :=
  (text.findIdx? CodePoint.isSurrogate).map fun position =>
    ⟨position, (text.drop position).takeWhile CodePoint.isSurrogate⟩

/-- The message about a text that cannot be encoded. -/
def EncodingError.message (error : EncodingError) : Text :=
  let place :=
    if error.surrogates.length = 1 then
      "character ".text ++ quoted error.surrogates ++ " in position ".text ++
        decimal error.position
    else
      "characters in position ".text ++ decimal error.position ++
        .scalar '-' :: decimal (error.position + error.surrogates.length - 1)
  "'utf-8' codec can't encode ".text ++ place ++ ": surrogates not allowed".text

/-- Whether a text holds no surrogate. -/
def IsEncodable (text : Text) : Prop :=
  ∀ c ∈ text, c.isSurrogate = false

instance (text : Text) : Decidable text.IsEncodable :=
  inferInstanceAs (Decidable (∀ c ∈ text, c.isSurrogate = false))

/-- Nothing stands in the way of encoding a text exactly if it holds no surrogate. -/
theorem encodingError?_eq_none_iff {text : Text} :
    text.encodingError? = none ↔ text.IsEncodable := by
  rw [encodingError?, Option.map_eq_none_iff, List.findIdx?_eq_none_iff, IsEncodable]

end RecordingName.Text
