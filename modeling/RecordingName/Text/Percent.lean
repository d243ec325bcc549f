import RecordingName.Text.Basic

/-!
# Percent decoding

A percent sign and two hexadecimal digits stand for an octet; a run of octets is
read as UTF-8, where every longest beginning of a character that is not carried
through, and every octet that begins none, becomes one replacement character.
A percent sign without its two digits stands for itself.
-/

namespace RecordingName.Text.Percent

/-- The value of an ASCII hexadecimal digit. -/
def hexValue? (c : CodePoint) : Option Nat :=
  let n := c.toNat
  if 0x30 ≤ n ∧ n ≤ 0x39 then some (n - 0x30)
  else if 0x41 ≤ n ∧ n ≤ 0x46 then some (n - 0x41 + 10)
  else if 0x61 ≤ n ∧ n ≤ 0x66 then some (n - 0x61 + 10)
  else none

/-- A UTF-8 character that has begun: the bits so far, how many octets are still
owed, and the least and greatest octet that may come next. -/
structure Pending where
  bits : Nat
  owed : Nat
  least : Nat
  greatest : Nat
  deriving DecidableEq, Repr

/-- The character that stands for octets that are no UTF-8. -/
def replacement : CodePoint := '\uFFFD'

/-- What an octet begins: the text it yields at once, and the character it leaves
open. -/
def lead (octet : Nat) : Text × Option Pending :=
  if octet ≤ 0x7F then ([Char.ofNat octet], none)
  else if 0xC2 ≤ octet ∧ octet ≤ 0xDF then ([], some ⟨octet - 0xC0, 1, 0x80, 0xBF⟩)
  else if octet = 0xE0 then ([], some ⟨0, 2, 0xA0, 0xBF⟩)
  else if octet = 0xED then ([], some ⟨0xD, 2, 0x80, 0x9F⟩)
  else if 0xE1 ≤ octet ∧ octet ≤ 0xEF then ([], some ⟨octet - 0xE0, 2, 0x80, 0xBF⟩)
  else if octet = 0xF0 then ([], some ⟨0, 3, 0x90, 0xBF⟩)
  else if 0xF1 ≤ octet ∧ octet ≤ 0xF3 then ([], some ⟨octet - 0xF0, 3, 0x80, 0xBF⟩)
  else if octet = 0xF4 then ([], some ⟨4, 3, 0x80, 0x8F⟩)
  else ([replacement], none)

/-- What an octet yields behind a character that may be open. -/
def feed (pending : Option Pending) (octet : Nat) : Text × Option Pending :=
  match pending with
  | none => lead octet
  | some open_ =>
      if open_.least ≤ octet ∧ octet ≤ open_.greatest then
        let bits := open_.bits * 64 + (octet - 0x80)
        if open_.owed ≤ 1 then ([Char.ofNat bits], none)
        else ([], some ⟨bits, open_.owed - 1, 0x80, 0xBF⟩)
      else
        let begun := lead octet
        (replacement :: begun.1, begun.2)

/-- What is yielded when no octet follows a character that may be open. -/
def flush (pending : Option Pending) : Text :=
  match pending with
  | none => []
  | some _ => [replacement]

/-- Decode a text that follows a character that may be open. -/
def decodeFrom (pending : Option Pending) : Text → Text
  | [] => flush pending
  | .scalar '%' :: high :: low :: rest =>
      match hexValue? high, hexValue? low with
      | some upper, some lower =>
          let fed := feed pending (16 * upper + lower)
          fed.1 ++ decodeFrom fed.2 rest
      | _, _ => flush pending ++ .scalar '%' :: decodeFrom none (high :: low :: rest)
  | head :: rest => flush pending ++ head :: decodeFrom none rest

/-- The text that a percent-encoded text stands for. -/
def decode (text : Text) : Text :=
  decodeFrom none text

end RecordingName.Text.Percent
