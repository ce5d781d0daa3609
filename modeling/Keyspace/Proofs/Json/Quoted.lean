/-
# Quoted texts are read back

The scanner takes what was written for a byte as that byte and is then where it was
before, whatever text it has gathered. So it gathers the bytes of a written text one by
one, and at the closing quote they are the UTF-8 of the text.
-/

import Mathlib
import Keyspace.Proofs.Json.Reader

namespace Keyspace.Json

/-- An escape letter stands for the byte that it was written for. -/
theorem unescape?_of_escapeLetter? {b letter : UInt8} (h : escapeLetter? b = some letter) :
    letter ≠ ascii 'u' ∧ unescape? letter = some b := by
  revert h
  unfold escapeLetter?
  split_ifs with h1 h2 h3 h4 h5 h6 h7 <;> intro h <;> cases h <;> subst_vars <;> decide

/-- Four digits that complete a character are taken as that character. -/
theorem scanQuoted_unit (text : List UInt8) {a b c d : UInt8} {n : Nat} {bytes : List UInt8}
    {cursor : Cursor} (hnumber : hexNumber? [a, b, c, d] = some n)
    (hunit : Cursor.ofUnit none n = .ok (bytes, cursor)) (rest : List UInt8) :
    scanQuoted text .plain (ascii '\\' :: ascii 'u' :: a :: b :: c :: d :: rest) =
      scanQuoted (bytes.reverse ++ text) cursor rest := by
  show scanQuoted text (.digits none [a, b, c]) (d :: rest) = _
  rw [scanQuoted, if_neg (by simp), show [a, b, c] ++ [d] = [a, b, c, d] from rfl, hnumber]
  simp only [hunit]

/-- The digits of a control character are its value, and it is written as a single byte. -/
theorem hexNumber?_control : ∀ n < 32,
    let b := UInt8.ofNat n
    hexNumber? [ascii '0', ascii '0', hexDigit (b >>> 4), hexDigit (b &&& 0x0f)] = some n ∧
      String.utf8EncodeChar (Char.ofNat n) = [b] := by
  decide

/-- What was written for a byte is taken as that byte. -/
theorem scanQuoted_writeByte (text : List UInt8) (b : UInt8) (rest : List UInt8) :
    scanQuoted text .plain (writeByte b ++ rest) = scanQuoted (b :: text) .plain rest := by
  cases hletter : escapeLetter? b with
  | some letter =>
      obtain ⟨hne, hletter'⟩ := unescape?_of_escapeLetter? hletter
      rw [writeByte, hletter]
      show scanQuoted text .escape (letter :: rest) = _
      rw [scanQuoted, if_neg hne, hletter']
  | none =>
      by_cases hcontrol : b < 0x20
      · rw [writeByte, hletter]
        simp only [if_pos hcontrol]
        obtain ⟨hnumber, hchar⟩ := hexNumber?_control b.toNat hcontrol
        rw [UInt8.ofNat_toNat] at hnumber hchar
        have hunit : Cursor.ofUnit none b.toNat = .ok ([b], .plain) := by
          have hlt : b.toNat < 0x20 := hcontrol
          rw [Cursor.ofUnit, if_neg (by omega), if_neg (by omega), hchar]
        exact scanQuoted_unit text hnumber hunit rest
      · have hquote : b ≠ ascii '"' := by
          rintro rfl
          cases hletter
        have hslash : b ≠ ascii '\\' := by
          rintro rfl
          cases hletter
        rw [writeByte, hletter]
        simp only [if_neg hcontrol]
        show scanQuoted text .plain (b :: rest) = _
        rw [scanQuoted, if_neg hquote, if_neg hslash, if_neg hcontrol]

theorem scanQuoted_flatMap_writeByte (bytes text rest : List UInt8) :
    scanQuoted text .plain (bytes.flatMap writeByte ++ rest) =
      scanQuoted (bytes.reverse ++ text) .plain rest := by
  induction bytes generalizing text with
  | nil => rfl
  | cons b bytes ih =>
      rw [List.flatMap_cons, List.append_assoc, scanQuoted_writeByte, ih, List.reverse_cons,
        List.append_assoc]
      rfl

/-- The UTF-8 of a text stands for the text. -/
theorem fromUTF8?_utf8 (text : String) : String.fromUTF8? ⟨(utf8 text).toArray⟩ = some text :=
  dif_pos text.isValidUTF8

/-- A quoted text is read back, whatever follows. -/
theorem quoted_writeQuoted (text : String) (rest : List UInt8) :
    Reader.quoted (writeQuoted text ++ rest) = .ok (text, rest) := by
  have hscan := scanQuoted_flatMap_writeByte (utf8 text) [] (ascii '"' :: rest)
  rw [Reader.quoted, writeQuoted, List.cons_append, List.cons_append, List.append_assoc,
    Reader.bind_ok (Reader.skip_cons _ _)]
  refine hscan.trans ?_
  rw [List.append_nil, scanQuoted, if_pos rfl, List.reverse_reverse, fromUTF8?_utf8]

end Keyspace.Json
