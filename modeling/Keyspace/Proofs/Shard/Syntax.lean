/-
# Which texts are shards

A text is read as a shard exactly if it is one: a bound, a dash, and another bound that
is not smaller. A bound is a decimal numeral of a hash, with any blanks around it. The
text is cut at its first dash, so neither bound can have a minus sign, and a second dash
is part of the second bound, where no numeral has one. Every shard whose bounds are in
order is read back from its own text, and every other one is refused for their order.
-/

import Mathlib
import Keyspace.Proofs.Text
import Keyspace.Shard.Text

namespace Keyspace.Shard

open Keyspace.Text (Denotes isBlank readNumeral trim)

variable {text lower upper : List Char} {hash : UInt32} {s : Shard}

/-- The text is a numeral of the hash, with any blanks around it. -/
def IsBound (text : List Char) (hash : UInt32) : Prop :=
  ∃ before numeral after, text = before ++ numeral ++ after ∧
    (∀ c ∈ before, isBlank c) ∧ (∀ c ∈ after, isBlank c) ∧ Denotes numeral hash.toNat

/-- With the blanks around it taken off, a bound is a numeral of its hash. -/
theorem isBound_iff_denotes_trim : IsBound text hash ↔ Denotes (trim text) hash.toNat := by
  constructor
  · rintro ⟨before, numeral, after, rfl, hbefore, hafter, hnumeral⟩
    rwa [Text.trim_append hbefore hafter hnumeral.not_isBlank]
  · intro h
    obtain ⟨before, after, htext, hbefore, hafter⟩ := Text.exists_eq_append_trim text
    exact ⟨before, trim text, after, htext, hbefore, hafter, h⟩

/-- Every hash is within the bound for numerals. -/
theorem toNat_le_maxHash (hash : UInt32) : hash.toNat ≤ maxHash.toNat :=
  Nat.le_of_lt_succ hash.toNat_lt

/-- What is read as a bound is one, and of no other hash. -/
theorem readBound_eq_ok_iff : readBound text = .ok hash ↔ IsBound text hash := by
  rw [isBound_iff_denotes_trim, readBound]
  constructor
  · intro h
    cases hread : readNumeral maxHash.toNat (trim text) with
    | error cause =>
        rw [hread] at h
        cases h
    | ok value =>
        rw [hread] at h
        obtain rfl : UInt32.ofNat value = hash := Except.ok.inj h
        obtain ⟨hdenotes, hle⟩ := Text.readNumeral_eq_ok_iff.mp hread
        rwa [UInt32.toNat_ofNat_of_lt' (Nat.lt_succ_of_le hle)]
  · intro h
    have hread : readNumeral maxHash.toNat (trim text) = .ok hash.toNat :=
      Text.readNumeral_eq_ok_iff.mpr ⟨h, toNat_le_maxHash hash⟩
    rw [hread]
    exact congrArg Except.ok UInt32.ofNat_toNat

/-- Two bounds with a dash between them are read as a shard if they are in order. -/
theorem ofText_of_bounds {lower upper : String} {l u : UInt32} (hdash : '-' ∉ lower.toList)
    (hlower : IsBound lower.toList l) (hupper : IsBound upper.toList u) :
    ofText (lower ++ "-" ++ upper) =
      if l ≤ u then .ok ⟨l, u⟩ else .error (.outOfOrder (lower ++ "-" ++ upper)) := by
  have hsplit : Text.splitOnce '-' (lower ++ "-" ++ upper).toList =
      some (lower.toList, upper.toList) := by
    rw [Text.splitOnce_eq_some]
    exact ⟨by simp, hdash⟩
  simp only [ofText, hsplit, readBound_eq_ok_iff.mpr hlower, readBound_eq_ok_iff.mpr hupper]

/-- A text that is read as a shard is made of two bounds in order, with a dash between them. -/
theorem exists_bounds_of_ofText {text : String} (h : ofText text = .ok s) :
    ∃ lower upper : String, text = lower ++ "-" ++ upper ∧ '-' ∉ lower.toList ∧
      IsBound lower.toList s.lower ∧ IsBound upper.toList s.upper ∧ s.lower ≤ s.upper := by
  rw [ofText] at h
  cases hsplit : Text.splitOnce '-' text.toList with
  | none =>
      simp only [hsplit] at h
      cases h
  | some parts =>
      obtain ⟨lower, upper⟩ := parts
      simp only [hsplit] at h
      obtain ⟨htext, hdash⟩ := Text.splitOnce_eq_some.mp hsplit
      cases hlower : readBound lower with
      | error cause =>
          simp only [hlower] at h
          cases h
      | ok l =>
          cases hupper : readBound upper with
          | error cause =>
              simp only [hlower, hupper] at h
              cases h
          | ok u =>
              simp only [hlower, hupper] at h
              split_ifs at h with horder
              obtain rfl : (⟨l, u⟩ : Shard) = s := Except.ok.inj h
              refine ⟨String.ofList lower, String.ofList upper, ?_, by simpa using hdash, ?_, ?_,
                horder⟩
              · rw [← String.toList_inj, htext]
                simp
              · simpa using readBound_eq_ok_iff.mp hlower
              · simpa using readBound_eq_ok_iff.mp hupper

/-! ## Texts of shards -/

/-- A hash is written in digits. -/
theorem isDigit_of_mem_toString {c : Char} (h : c ∈ (toString hash.toNat).toList) : c.isDigit := by
  rw [Nat.toString_eq_ofList_toDigits, String.toList_ofList] at h
  exact Nat.isDigit_of_mem_toDigits (by decide) (by decide) h

/-- The text of a hash is a bound. -/
theorem isBound_toString (hash : UInt32) : IsBound (toString hash.toNat).toList hash := by
  have hdigits : ∀ c ∈ (toString hash.toNat).toList, c.isDigit := fun _ => isDigit_of_mem_toString
  rw [Nat.toString_eq_ofList_toDigits, String.toList_ofList] at hdigits ⊢
  exact ⟨[], Nat.toDigits 10 hash.toNat, [], by simp, nofun, nofun, [], _, rfl, .inl rfl,
    Nat.toDigits_ne_nil, hdigits, Nat.ofDigitChars_ten_toDigits⟩

theorem dash_not_mem_toString (hash : UInt32) : '-' ∉ (toString hash.toNat).toList := by
  intro hmem
  exact absurd (isDigit_of_mem_toString hmem) (by decide)

/-- A text is read as a shard exactly if it consists of two bounds in order with a dash between
them, the first of which has no dash in it; and then the shard has these bounds. A shard is read
back from its own text if its bounds are in order, and is refused for their order if they are
not. -/
theorem ofText_reads_shards :
    (∀ (text : String) (s : Shard), ofText text = .ok s ↔
      ∃ lower upper : String, text = lower ++ "-" ++ upper ∧ '-' ∉ lower.toList ∧
        IsBound lower.toList s.lower ∧ IsBound upper.toList s.upper ∧ s.lower ≤ s.upper) ∧
    ∀ s : Shard, ofText s.toText =
      if s.lower ≤ s.upper then .ok s else .error (.outOfOrder s.toText) := by
  constructor
  · intro text s
    constructor
    · exact exists_bounds_of_ofText
    · rintro ⟨lower, upper, rfl, hdash, hlower, hupper, horder⟩
      rw [ofText_of_bounds hdash hlower hupper, if_pos horder]
  · intro s
    exact ofText_of_bounds (dash_not_mem_toString s.lower) (isBound_toString s.lower)
      (isBound_toString s.upper)

/-- Blanks, a plus sign and zeros in front do not matter. -/
example : ofText "\t+007 - 9" = .ok ⟨7, 9⟩ := by rfl

end Keyspace.Shard
