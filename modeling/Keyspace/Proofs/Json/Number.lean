/-
# Numbers are read back

The decimal digits of a number are taken as its value if no further digit, no point and
no exponent follows. A number has no leading zero unless it is zero, so that its digits
are taken as a whole.
-/

import Mathlib
import Keyspace.Proofs.Json.Reader

namespace Keyspace.Json

/-- The value of an ASCII digit. -/
abbrev digitValue (b : UInt8) : Nat := b.toNat - 0x30

/-- The decimal digits of a number, as bytes. -/
def decimal (n : Nat) : List UInt8 := (Nat.toDigits 10 n).map Char.toUInt8

variable {n : Nat} {rest : List UInt8}

/-- The digits are ASCII. -/
theorem toNat_of_mem_toDigits {c : Char} (h : c ∈ Nat.toDigits 10 n) :
    0x30 ≤ c.toNat ∧ c.toNat ≤ 0x39 := by
  have hdigit := Nat.isDigit_of_mem_toDigits (by decide) (by decide) h
  simpa [Char.isDigit, UInt32.le_iff_toNat_le] using hdigit

theorem toNat_toUInt8_of_mem_toDigits {c : Char} (h : c ∈ Nat.toDigits 10 n) :
    c.toUInt8.toNat = c.toNat := by
  have hbounds := toNat_of_mem_toDigits h
  show c.toNat % 256 = c.toNat
  omega

theorem utf8_toString (n : Nat) : utf8 (toString n) = decimal n := by
  have hchar : ∀ c ∈ Nat.toDigits 10 n, String.utf8EncodeChar c = [c.toUInt8] := by
    intro c hc
    have hbounds := toNat_of_mem_toDigits hc
    have hsize : c.utf8Size = 1 := by
      rw [Char.utf8Size_eq_one_iff, UInt32.le_iff_toNat_le]
      show c.toNat ≤ 127
      omega
    exact String.utf8EncodeChar_eq_singleton hsize
  have hflat : (Nat.toDigits 10 n).flatMap String.utf8EncodeChar = decimal n := by
    rw [decimal, List.map_eq_flatMap]
    exact List.flatMap_congr hchar
  rw [utf8, Nat.toString_eq_ofList_toDigits, String.toUTF8_eq_toByteArray,
    String.toByteArray_ofList, List.utf8Encode, hflat, List.data_toByteArray]

theorem isDigit_of_mem_decimal {b : UInt8} (h : b ∈ decimal n) : isDigit b := by
  obtain ⟨c, hc, rfl⟩ := List.mem_map.mp h
  have hbounds := toNat_of_mem_toDigits hc
  simp only [isDigit, Bool.and_eq_true, decide_eq_true_eq, UInt8.le_iff_toNat_le,
    toNat_toUInt8_of_mem_toDigits hc]
  exact hbounds

theorem decimal_ne_nil (n : Nat) : decimal n ≠ [] := by
  simp [decimal]

/-- The digits are worth the number. -/
theorem digitsValue_decimal (n : Nat) : digitsValue ((decimal n).map digitValue) = n := by
  have hvalues : (decimal n).map digitValue =
      (Nat.toDigits 10 n).map fun c => c.toNat - '0'.toNat := by
    rw [decimal, List.map_map]
    refine List.map_congr_left fun c hc => ?_
    show c.toUInt8.toNat - 0x30 = _
    rw [toNat_toUInt8_of_mem_toDigits hc]
    rfl
  rw [hvalues, digitsValue, List.foldl_map]
  refine Eq.trans ?_ (Nat.ofDigitChars_ten_toDigits (n := n))
  rw [Nat.ofDigitChars_eq_foldl]
  simp only [Nat.mul_comm]

/-- Only zero begins with a zero. -/
theorem eq_zero_of_toDigits_eq_cons {tail : List Char} (h : Nat.toDigits 10 n = '0' :: tail) :
    n = 0 := by
  induction n using Nat.strongRecOn generalizing tail with
  | ind n ih =>
      by_cases hlt : n < 10
      · rw [Nat.toDigits_of_lt_base hlt] at h
        have hdigit : n.digitChar = '0' := (List.cons.inj h).1
        have hall : ∀ d < 10, Nat.digitChar d = '0' → d = 0 := by decide
        exact hall n hlt hdigit
      · rw [Nat.toDigits_of_base_le (by decide) (by omega)] at h
        obtain ⟨c, digits, hdigits⟩ := List.exists_cons_of_ne_nil
          (Nat.toDigits_ne_nil : Nat.toDigits 10 (n / 10) ≠ [])
        rw [hdigits, List.cons_append] at h
        obtain ⟨rfl, -⟩ := List.cons.inj h
        have hzero := ih (n / 10) (by omega) hdigits
        omega

theorem eq_zero_of_decimal_eq_cons {tail : List UInt8} (h : decimal n = ascii '0' :: tail) :
    n = 0 := by
  obtain ⟨c, chars, hchars⟩ := List.exists_cons_of_ne_nil
    (Nat.toDigits_ne_nil : Nat.toDigits 10 n ≠ [])
  rw [decimal, hchars, List.map_cons] at h
  have hbyte : c.toUInt8 = ascii '0' := (List.cons.inj h).1
  have hc : c.toNat = '0'.toNat := by
    have hmem : c ∈ Nat.toDigits 10 n := hchars ▸ List.mem_cons_self
    rw [← toNat_toUInt8_of_mem_toDigits hmem, hbyte]
    rfl
  obtain rfl : c = '0' := Char.toNat_inj.mp hc
  exact eq_zero_of_toDigits_eq_cons hchars

theorem isBlank_of_isDigit {b : UInt8} (h : isDigit b) : isBlank b = false := by
  rw [Bool.eq_false_iff]
  intro hblank
  simp only [isBlank, Bool.or_eq_true, beq_iff_eq, or_assoc] at hblank
  rcases hblank with rfl | rfl | rfl | rfl <;> cases h

theorem not_isDigit_of_delimited (h : Delimited rest) : ∀ b ∈ rest.head?, ¬ isDigit b := by
  intro b hb
  rcases h b hb with rfl | rfl | rfl <;> decide

theorem scanDigits_append {digits : List UInt8} (hdigits : ∀ b ∈ digits, isDigit b)
    (hrest : ∀ b ∈ rest.head?, ¬ isDigit b) :
    scanDigits (digits ++ rest) = (digits.map digitValue, rest) := by
  have htake : rest.takeWhile isDigit = [] := by
    cases rest with
    | nil => rfl
    | cons b rest => exact List.takeWhile_cons_of_neg (hrest b rfl)
  have hdrop : rest.dropWhile isDigit = rest := by
    cases rest with
    | nil => rfl
    | cons b rest => exact List.dropWhile_cons_of_neg (hrest b rfl)
  rw [scanDigits, List.takeWhile_append_of_pos hdigits, List.dropWhile_append_of_pos hdigits, htake,
    hdrop, List.append_nil]

theorem scanWhole_decimal (atEnd : DecodeError) (n : Nat) (h : Delimited rest) :
    scanWhole atEnd (decimal n ++ rest) = .ok ((decimal n).map digitValue, rest) := by
  have hrest := not_isDigit_of_delimited h
  obtain ⟨b, digits, hdecimal⟩ := List.exists_cons_of_ne_nil (decimal_ne_nil n)
  have hdigits : ∀ b' ∈ b :: digits, isDigit b' := by
    intro b' hb'
    rw [← hdecimal] at hb'
    exact isDigit_of_mem_decimal hb'
  have hsome : scanSomeDigits atEnd (decimal n ++ rest) =
      .ok ((decimal n).map digitValue, rest) := by
    rw [hdecimal, List.cons_append, scanSomeDigits, if_pos (hdigits b List.mem_cons_self),
      ← List.cons_append, scanDigits_append hdigits hrest]
  by_cases hzero : n = 0
  · subst hzero
    cases rest with
    | nil => exact hsome
    | cons c rest =>
        show (if isDigit c then _ else _) = _
        rw [if_neg (hrest c rfl)]
        rfl
  · rw [scanWhole]
    · exact hsome
    · intro c tail heq
      rw [hdecimal, List.cons_append] at heq
      obtain ⟨rfl, -⟩ := List.cons.inj heq
      exact hzero (eq_zero_of_decimal_eq_cons hdecimal)

theorem scanNumeral_of_whole {atEnd : DecodeError} {b : UInt8} {input : List UInt8}
    {values : List Nat} (hdigit : isDigit b) (hrest : Delimited rest)
    (hwhole : scanWhole atEnd (b :: input) = .ok (values, rest)) :
    scanNumeral atEnd (b :: input) = .ok (⟨false, values, none, none⟩, rest) := by
  rw [scanNumeral]
  · simp only [hwhole]
    cases rest with
    | nil => rfl
    | cons c rest =>
        rcases hrest c rfl with rfl | rfl | rfl <;> rfl
  · rintro rest ⟨⟩
    cases hdigit

/-- A number of at most 64 bits is read back. -/
theorem number_decimal (hn : n < UInt64.size) (h : Delimited rest) :
    Reader.number (decimal n ++ rest) = .ok (.natural n, rest) := by
  obtain ⟨b, digits, hdecimal⟩ := List.exists_cons_of_ne_nil (decimal_ne_nil n)
  have hdigit : isDigit b := isDigit_of_mem_decimal (hdecimal ▸ List.mem_cons_self)
  have hwhole := scanWhole_decimal .truncated n h
  rw [hdecimal, List.cons_append] at hwhole ⊢
  have hvalue : (⟨false, (b :: digits).map digitValue, none, none⟩ : Numeral).value? =
      some (.natural n) := by
    rw [← hdecimal, Numeral.value?]
    simp only [digitsValue_decimal]
    rw [if_pos ⟨rfl, rfl, hn⟩]
    rfl
  rw [Reader.number, Reader.bind_ok (scanNumeral_of_whole hdigit h hwhole), hvalue]
  rfl

/-- A number of at most 32 bits is read back. -/
theorem word_decimal (n : UInt32) (h : Delimited rest) :
    Reader.word (decimal n.toNat ++ rest) = .ok (n, rest) := by
  obtain ⟨b, digits, hdecimal⟩ := List.exists_cons_of_ne_nil (decimal_ne_nil n.toNat)
  have hdigit : isDigit b := isDigit_of_mem_decimal (hdecimal ▸ List.mem_cons_self)
  have hnumber := number_decimal (lt_trans n.toNat_lt (by decide)) h
  rw [hdecimal, List.cons_append] at hnumber ⊢
  rw [Reader.word, Reader.bind_ok (Reader.peek_cons (isBlank_of_isDigit hdigit) _)]
  refine (congrFun (if_pos (.inr hdigit)) _).trans ?_
  rw [Reader.bind_ok hnumber]
  refine (congrFun (if_pos n.toNat_lt) _).trans ?_
  rw [UInt32.ofNat_toNat]
  rfl

end Keyspace.Json
