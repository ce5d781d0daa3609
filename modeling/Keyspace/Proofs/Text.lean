/-
# Numerals and the blanks around them

Reading a numeral accepts the decimal numerals and nothing else: an optional plus sign
and then ASCII digits, at least one, whose value does not exceed the bound. The bound is
tested after every digit, which comes to the same as testing the value in the end,
because another digit never makes a value smaller.

Taking the blanks off the ends of a text leaves the part between them. A text that
neither starts nor ends with a blank is found again however many blanks are put around
it.
-/

import Mathlib
import Keyspace.Text.Blank
import Keyspace.Text.Numeral
import Keyspace.Text.Split

namespace Keyspace.Text

variable {bound value result : Nat} {c : Char} {text digits before after : List Char}

/-! ## Numerals -/

/-- The text is a decimal numeral of the value: digits, at least one, with an optional plus sign in
front of them. -/
def Denotes (text : List Char) (value : Nat) : Prop :=
  ∃ sign digits, text = sign ++ digits ∧ (sign = [] ∨ sign = ['+']) ∧ digits ≠ [] ∧
    (∀ c ∈ digits, c.isDigit) ∧ Nat.ofDigitChars 10 digits 0 = value

/-- The digits are the characters that have a value. -/
theorem digit?_of_isDigit (h : c.isDigit) : digit? c = some (c.toNat - '0'.toNat) := by
  have hrange : '0' ≤ c ∧ c ≤ '9' := by simpa [Char.isDigit, Char.le_def] using h
  rw [digit?, if_pos hrange]

theorem digit?_of_not_isDigit (h : ¬ c.isDigit) : digit? c = none := by
  have hrange : ¬ ('0' ≤ c ∧ c ≤ '9') := by simpa [Char.isDigit, Char.le_def] using h
  rw [digit?, if_neg hrange]

/-- More digits do not make a value smaller. -/
theorem le_ofDigitChars (digits : List Char) (value : Nat) :
    value ≤ Nat.ofDigitChars 10 digits value := by
  induction digits generalizing value with
  | nil => exact Nat.le_refl _
  | cons c digits ih =>
      rw [Nat.ofDigitChars_cons]
      have hrest := ih (10 * value + (c.toNat - '0'.toNat))
      omega

/-- Digits are read to their value if it does not exceed the bound, and nothing else is read. -/
theorem readDigits_eq_ok_iff (hvalue : value ≤ bound) :
    readDigits bound value text = .ok result ↔
      (∀ c ∈ text, c.isDigit) ∧ Nat.ofDigitChars 10 text value = result ∧ result ≤ bound := by
  induction text generalizing value with
  | nil =>
      simp only [readDigits, Except.ok.injEq, Nat.ofDigitChars_nil]
      constructor
      · rintro rfl
        exact ⟨nofun, rfl, hvalue⟩
      · exact fun h => h.2.1
  | cons c text ih =>
      rw [readDigits, Nat.ofDigitChars_cons, List.forall_mem_cons]
      by_cases hdigit : c.isDigit
      · rw [digit?_of_isDigit hdigit, Nat.mul_comm value 10]
        by_cases hle : 10 * value + (c.toNat - '0'.toNat) ≤ bound
        · simp only [if_pos hle, ih hle, hdigit, true_and]
        · have hgrow := le_ofDigitChars text (10 * value + (c.toNat - '0'.toNat))
          simp only [if_neg hle, hdigit, true_and]
          constructor
          · nofun
          · rintro ⟨-, rfl, hresult⟩
            exact absurd (Nat.le_trans hgrow hresult) hle
      · simp only [digit?_of_not_isDigit hdigit, hdigit]
        simp

/-- The plus sign is no digit. -/
theorem not_isDigit_plus : ¬ '+'.isDigit := by decide

/-- Digits are read as they stand, and behind a plus sign. -/
theorem readNumeral_signed {sign : List Char} (hsign : sign = [] ∨ sign = ['+'])
    (hne : digits ≠ []) (hdigits : ∀ c ∈ digits, c.isDigit) :
    readNumeral bound (sign ++ digits) = readDigits bound 0 digits := by
  cases digits with
  | nil => exact absurd rfl hne
  | cons c digits =>
      rcases hsign with rfl | rfl
      · have hplus : c ≠ '+' := by
          rintro rfl
          exact not_isDigit_plus (hdigits _ List.mem_cons_self)
        simp [readNumeral, hplus]
      · simp [readNumeral]

/-- Reading a numeral accepts the numerals of values within the bound and nothing else. -/
theorem readNumeral_eq_ok_iff :
    readNumeral bound text = .ok value ↔ Denotes text value ∧ value ≤ bound := by
  have hzero : 0 ≤ bound := Nat.zero_le bound
  constructor
  · intro h
    fun_cases readNumeral bound text with
    | case1 => cases h
    | case2 => cases h
    | case3 digits hne =>
        rw [readNumeral, readDigits_eq_ok_iff hzero] at h
        · exact ⟨⟨['+'], digits, rfl, .inr rfl, hne, h.1, h.2.1⟩, h.2.2⟩
        · exact hne
    | case4 _ hempty hplus hsigned =>
        rw [readNumeral.eq_4 _ _ hempty hplus hsigned, readDigits_eq_ok_iff hzero] at h
        exact ⟨⟨[], text, rfl, .inl rfl, hempty, h.1, h.2.1⟩, h.2.2⟩
  · rintro ⟨⟨sign, digits, rfl, hsign, hne, hdigits, hvalue⟩, hle⟩
    rw [readNumeral_signed hsign hne hdigits, readDigits_eq_ok_iff hzero]
    exact ⟨hdigits, hvalue, hle⟩

/-! ## Blanks -/

/-- No digit is a blank. -/
theorem not_isBlank_of_isDigit (h : c.isDigit) : ¬ isBlank c := by
  have hrange : 48 ≤ c.toNat ∧ c.toNat ≤ 57 := by
    simpa [Char.isDigit, UInt32.le_iff_toNat_le] using h
  simp only [isBlank, Bool.or_eq_true, Bool.and_eq_true, decide_eq_true_eq, beq_iff_eq]
  omega

/-- A numeral has no blank in it. -/
theorem Denotes.not_isBlank (h : Denotes text value) : ∀ c ∈ text, ¬ isBlank c := by
  obtain ⟨sign, digits, rfl, hsign, -, hdigits, -⟩ := h
  intro c hc
  rcases List.mem_append.mp hc with hc | hc
  · rcases hsign with rfl | rfl
    · cases hc
    · rw [List.mem_singleton.mp hc]
      decide
  · exact not_isBlank_of_isDigit (hdigits c hc)

/-- Taking the blanks off the ends of a text takes off nothing else. -/
theorem exists_eq_append_trim (text : List Char) :
    ∃ before after, text = before ++ trim text ++ after ∧ (∀ c ∈ before, isBlank c) ∧
      ∀ c ∈ after, isBlank c := by
  refine ⟨text.takeWhile isBlank, (text.dropWhile isBlank).rtakeWhile isBlank, ?_,
    fun c => List.mem_takeWhile_imp, fun c => List.mem_rtakeWhile_imp⟩
  have htrim : trim text = (text.dropWhile isBlank).rdropWhile isBlank := rfl
  rw [htrim, List.append_assoc, List.rdropWhile_append_rtakeWhile, List.takeWhile_append_dropWhile]

/-- Blanks in front of a text that starts with something else are taken off. -/
theorem dropWhile_isBlank_append (hbefore : ∀ c ∈ before, isBlank c)
    (hfirst : ∀ c ∈ text.head?, ¬ isBlank c) : (before ++ text).dropWhile isBlank = text := by
  rw [List.dropWhile_append_of_pos hbefore]
  cases text with
  | nil => rfl
  | cons c text => exact List.dropWhile_cons_of_neg (hfirst c rfl)

/-- Blanks around a text that neither starts nor ends with one are taken off. -/
theorem trim_append_of_ends (hbefore : ∀ c ∈ before, isBlank c) (hafter : ∀ c ∈ after, isBlank c)
    (hfirst : ∀ c ∈ text.head?, ¬ isBlank c) (hlast : ∀ c ∈ text.getLast?, ¬ isBlank c) :
    trim (before ++ text ++ after) = text := by
  cases hempty : text with
  | nil =>
      have hblank : ∀ c ∈ before ++ [] ++ after, isBlank c := by
        simpa [or_imp, forall_and] using ⟨hbefore, hafter⟩
      rw [trim, List.dropWhile_eq_nil_iff.mpr hblank]
      rfl
  | cons c rest =>
      rw [← hempty]
      have hfront : (before ++ (text ++ after)).dropWhile isBlank = text ++ after := by
        apply dropWhile_isBlank_append hbefore
        rwa [List.head?_append_of_ne_nil _ (hempty ▸ List.cons_ne_nil c rest)]
      have hback : (after.reverse ++ text.reverse).dropWhile isBlank = text.reverse := by
        apply dropWhile_isBlank_append
        · exact fun c hc => hafter c (List.mem_reverse.mp hc)
        · rwa [List.head?_reverse]
      rw [trim, List.append_assoc, hfront, List.reverse_append, hback, List.reverse_reverse]

/-- Blanks around a text without blanks are taken off. -/
theorem trim_append (hbefore : ∀ c ∈ before, isBlank c) (hafter : ∀ c ∈ after, isBlank c)
    (htext : ∀ c ∈ text, ¬ isBlank c) : trim (before ++ text ++ after) = text :=
  trim_append_of_ends hbefore hafter (fun c hc => htext c (List.mem_of_mem_head? hc))
    fun c hc => htext c (List.mem_of_mem_getLast? hc)

/-- What is left once the blanks are taken off does not start with one. -/
theorem not_isBlank_of_mem_head?_trim (h : c ∈ (trim text).head?) : ¬ isBlank c := by
  have hprefix : trim text <+: text.dropWhile isBlank := List.rdropWhile_prefix isBlank _
  obtain ⟨rest, hrest⟩ := hprefix
  have hhead : (text.dropWhile isBlank).head? = some c := by
    rw [← hrest, List.head?_append, h]
    rfl
  have hnot := List.head?_dropWhile_not isBlank text
  rw [hhead] at hnot
  exact Bool.eq_false_iff.mp hnot

/-- What is left once the blanks are taken off does not end with one. -/
theorem not_isBlank_of_mem_getLast?_trim (h : c ∈ (trim text).getLast?) : ¬ isBlank c := by
  have htrim : trim text = (text.dropWhile isBlank).rdropWhile isBlank := rfl
  rw [htrim] at h
  obtain ⟨hne, rfl⟩ := List.mem_getLast?_eq_getLast h
  exact List.rdropWhile_last_not isBlank _ hne

/-- The text consists of the stripped one and blanks around it, and the stripped one neither starts
nor ends with a blank. -/
def Strips (text stripped : List Char) : Prop :=
  ∃ before after, text = before ++ stripped ++ after ∧ (∀ c ∈ before, isBlank c) ∧
    (∀ c ∈ after, isBlank c) ∧ (∀ c ∈ stripped.head?, ¬ isBlank c) ∧
      ∀ c ∈ stripped.getLast?, ¬ isBlank c

/-- Every text can be stripped in exactly one way. -/
theorem trim_eq_iff_strips {stripped : List Char} :
    trim text = stripped ↔ Strips text stripped := by
  constructor
  · rintro rfl
    obtain ⟨before, after, htext, hbefore, hafter⟩ := exists_eq_append_trim text
    exact ⟨before, after, htext, hbefore, hafter, fun _ => not_isBlank_of_mem_head?_trim,
      fun _ => not_isBlank_of_mem_getLast?_trim⟩
  · rintro ⟨before, after, rfl, hbefore, hafter, hfirst, hlast⟩
    exact trim_append_of_ends hbefore hafter hfirst hlast

/-! ## Parts -/

theorem splitAll_eq_splitOn (separator : Char) (text : List Char) :
    splitAll separator text = text.splitOn separator := by
  induction text with
  | nil => rfl
  | cons c rest ih =>
      rw [splitAll, List.splitOn_cons_eq_if_modifyHead, ih]
      by_cases h : c = separator
      · rw [if_pos h, if_pos (beq_iff_eq.mpr h)]
      · rw [if_neg h, if_neg (mt beq_iff_eq.mp h)]
        cases hparts : rest.splitOn separator with
        | nil => exact absurd hparts (List.splitOn_ne_nil _ _)
        | cons part parts => rfl

theorem not_mem_of_mem_splitAll {separator : Char} {part : List Char}
    (h : part ∈ splitAll separator text) : separator ∉ part := by
  induction text generalizing part with
  | nil =>
      rw [List.mem_singleton.mp h]
      exact List.not_mem_nil
  | cons c rest ih =>
      rw [splitAll] at h
      split_ifs at h with hc
      · rcases List.mem_cons.mp h with rfl | hpart
        · exact List.not_mem_nil
        · exact ih hpart
      · cases hparts : splitAll separator rest with
        | nil =>
            rw [hparts] at h
            rw [List.mem_singleton.mp h]
            simpa using Ne.symm hc
        | cons first parts =>
            rw [hparts] at h ih
            rcases List.mem_cons.mp h with rfl | hpart
            · exact List.not_mem_cons_of_ne_of_not_mem (Ne.symm hc) (ih List.mem_cons_self)
            · exact ih (List.mem_cons_of_mem _ hpart)

/-- The parts of a text are what stands between its separators, and there is only one way to cut
it. -/
theorem splitAll_eq_iff {separator : Char} {parts : List (List Char)} :
    splitAll separator text = parts ↔
      parts ≠ [] ∧ text = [separator].intercalate parts ∧ ∀ part ∈ parts, separator ∉ part := by
  constructor
  · rintro rfl
    refine ⟨?_, ?_, fun _ => not_mem_of_mem_splitAll⟩
    · rw [splitAll_eq_splitOn]
      exact List.splitOn_ne_nil _ _
    · rw [splitAll_eq_splitOn, List.intercalate_splitOn]
  · rintro ⟨hne, rfl, hparts⟩
    rw [splitAll_eq_splitOn, List.splitOn_intercalate _ hparts hne]

end Keyspace.Text
