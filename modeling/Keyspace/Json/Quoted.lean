/-
# Quoted texts

A text is written between double quotes in UTF-8, with the quote, the backslash and
the control characters escaped. All escaped characters are single bytes in UTF-8, so
writing works byte by byte and leaves every other byte alone.

Reading accepts more than writing produces: every character may be escaped by its
number, the characters beyond the basic plane as a surrogate pair. The scanner
consumes one byte at a time and keeps between two bytes only a cursor, which says how
far into an escape it is. A text that ends inside an escape is truncated even where
the escape has already gone wrong: its four digits are judged together.
-/

import Keyspace.Json.Reader

namespace Keyspace.Json

/-- The lower-case hexadecimal digit of a value below 16. -/
def hexDigit (n : UInt8) : UInt8 :=
  if n < 10 then 0x30 + n else 0x57 + n

/-- The escape letter of a byte that has one. -/
def escapeLetter? (b : UInt8) : Option UInt8 :=
  if b = ascii '"' then some (ascii '"')
  else if b = ascii '\\' then some (ascii '\\')
  else if b = 0x08 then some (ascii 'b')
  else if b = 0x09 then some (ascii 't')
  else if b = 0x0a then some (ascii 'n')
  else if b = 0x0c then some (ascii 'f')
  else if b = 0x0d then some (ascii 'r')
  else none

/-- How a byte of a text is written between the quotes. -/
def writeByte (b : UInt8) : List UInt8 :=
  match escapeLetter? b with
  | some letter => [ascii '\\', letter]
  | none =>
    if b < 0x20 then
      [ascii '\\', ascii 'u', ascii '0', ascii '0', hexDigit (b >>> 4), hexDigit (b &&& 0x0f)]
    else [b]

/-- A text between double quotes. -/
def writeQuoted (text : String) : List UInt8 :=
  ascii '"' :: (utf8 text).flatMap writeByte ++ [ascii '"']

/-- The byte that an escape letter stands for. -/
def unescape? (letter : UInt8) : Option UInt8 :=
  if letter = ascii '"' then some (ascii '"')
  else if letter = ascii '\\' then some (ascii '\\')
  else if letter = ascii '/' then some (ascii '/')
  else if letter = ascii 'b' then some 0x08
  else if letter = ascii 't' then some 0x09
  else if letter = ascii 'n' then some 0x0a
  else if letter = ascii 'f' then some 0x0c
  else if letter = ascii 'r' then some 0x0d
  else none

/-- The value of a hexadecimal digit of either case. -/
def hexValue? (b : UInt8) : Option Nat :=
  if isDigit b then some (b.toNat - 0x30)
  else if 0x61 ≤ b ∧ b ≤ 0x66 then some (b.toNat - 0x57)
  else if 0x41 ≤ b ∧ b ≤ 0x46 then some (b.toNat - 0x37)
  else none

/-- The value of hexadecimal digits, the highest first. -/
def hexNumber? (digits : List UInt8) : Option Nat :=
  digits.foldlM (fun n b => (hexValue? b).map (16 * n + ·)) 0

/-- Where a scanner stands inside a quoted text. `high` is the first half of a surrogate pair. -/
inductive Cursor where
  /-- Outside of escapes. -/
  | plain
  /-- After a backslash. -/
  | escape
  /-- After `\u` and fewer than four digits. -/
  | digits (high : Option Nat) (seen : List UInt8)
  /-- Before the backslash that must follow the first half of a pair. -/
  | pairBackslash (high : Nat)
  /-- Before the `u` that must follow that backslash. -/
  | pairLetter (high : Nat)

/-- Where four digits of value `n` lead: the character that they complete, or the first half of a
pair. -/
def Cursor.ofUnit (high : Option Nat) (n : Nat) : Except DecodeError (List UInt8 × Cursor) :=
  match high with
  | none =>
    if 0xdc00 ≤ n ∧ n ≤ 0xdfff then .error .malformed
    else if 0xd800 ≤ n ∧ n ≤ 0xdbff then .ok ([], .pairBackslash n)
    else .ok (String.utf8EncodeChar (Char.ofNat n), .plain)
  | some high =>
    if 0xdc00 ≤ n ∧ n ≤ 0xdfff then
      let scalar := (high - 0xd800) * 0x400 + (n - 0xdc00) + 0x10000
      .ok (String.utf8EncodeChar (Char.ofNat scalar), .plain)
    else .error .malformed

/-- Scans to the closing quote. `text` holds the bytes of the text so far, the last first; the
whole must be UTF-8. -/
def scanQuoted (text : List UInt8) : Cursor → Reader String
  | _, [] => .error .truncated
  | .plain, b :: rest =>
    if b = ascii '"' then
      match String.fromUTF8? ⟨text.reverse.toArray⟩ with
      | some text => .ok (text, rest)
      | none => .error .malformed
    else if b = ascii '\\' then scanQuoted text .escape rest
    else if b < 0x20 then .error .malformed
    else scanQuoted (b :: text) .plain rest
  | .escape, b :: rest =>
    if b = ascii 'u' then scanQuoted text (.digits none []) rest
    else
      match unescape? b with
      | some byte => scanQuoted (byte :: text) .plain rest
      | none => .error .malformed
  | .digits high seen, b :: rest =>
    if seen.length < 3 then scanQuoted text (.digits high (seen ++ [b])) rest
    else
      match hexNumber? (seen ++ [b]) with
      | none => .error .malformed
      | some n =>
        match Cursor.ofUnit high n with
        | .error e => .error e
        | .ok (bytes, cursor) => scanQuoted (bytes.reverse ++ text) cursor rest
  | .pairBackslash high, b :: rest =>
    if b = ascii '\\' then scanQuoted text (.pairLetter high) rest else .error .malformed
  | .pairLetter high, b :: rest =>
    if b = ascii 'u' then scanQuoted text (.digits (some high) []) rest else .error .malformed

/-- Reads a text whose opening quote is the next byte. -/
def Reader.quoted : Reader String := do
  Reader.skip
  scanQuoted [] .plain

/-- Where a scanner stands inside a quoted text that nobody wants. -/
inductive SkipCursor where
  | plain
  | escape
  | digits (seen : List UInt8)

/-- Scans to the closing quote and forgets the text. The form of escapes is checked, but neither
UTF-8 nor the pairing of surrogates. -/
def skipQuoted : SkipCursor → Reader Unit
  | _, [] => .error .truncated
  | .plain, b :: rest =>
    if b = ascii '"' then .ok ((), rest)
    else if b = ascii '\\' then skipQuoted .escape rest
    else if b < 0x20 then .error .malformed
    else skipQuoted .plain rest
  | .escape, b :: rest =>
    if b = ascii 'u' then skipQuoted (.digits []) rest
    else if (unescape? b).isSome then skipQuoted .plain rest
    else .error .malformed
  | .digits seen, b :: rest =>
    if seen.length < 3 then skipQuoted (.digits (seen ++ [b])) rest
    else if (hexNumber? (seen ++ [b])).isSome then skipQuoted .plain rest
    else .error .malformed

end Keyspace.Json
