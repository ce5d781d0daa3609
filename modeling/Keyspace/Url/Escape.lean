/-
# Escapes in URLs

A byte that may not stand in a part of a URL is written as a percent sign and two
hexadecimal digits. Which characters that concerns depends on the part. Escapes that are
already there are left alone, and a percent sign is never escaped itself.
-/

import Keyspace.Text.Numeral

namespace Keyspace.Url

/-- A byte as a percent sign and two capital hexadecimal digits. -/
def escapeByte (b : UInt8) : List Char :=
  let digit (n : Nat) := (Nat.digitChar n).toUpper
  ['%', digit (b.toNat / 16), digit (b.toNat % 16)]

/-- Escapes controls, all that is not ASCII, and the characters in `special`. -/
def escape (special : String) (text : List Char) : List Char :=
  text.flatMap fun c =>
    if 0x20 ≤ c.toNat ∧ c.toNat < 0x7f ∧ c ∉ special.toList then [c]
    else (String.utf8EncodeChar c).flatMap escapeByte

/-- The bytes of a text whose escapes stand for bytes. -/
def unescape : List Char → List UInt8
  | '%' :: a :: b :: rest =>
    match Text.readBase? 16 [a, b] with
    | some value => value.toUInt8 :: unescape rest
    | none => (String.utf8EncodeChar '%') ++ unescape (a :: b :: rest)
  | c :: rest => String.utf8EncodeChar c ++ unescape rest
  | [] => []

/-- The text in a text whose escapes stand for bytes. -/
def unescapeText? (text : List Char) : Option (List Char) :=
  (String.fromUTF8? ⟨(unescape text).toArray⟩).map String.toList

end Keyspace.Url
