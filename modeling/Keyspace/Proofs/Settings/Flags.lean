/-
# Flags and their values

Arguments made of flags are read in pairs: a known flag, and then its value, whatever
the value looks like. Nothing else is accepted, and the first word that stands in the
place of a flag and is none is what reading fails at.

Of the values given for a setting the last one counts. Without any it is the value of the
environment, and without that one the default. Values that do not count can be anything.
-/

import Mathlib
import Keyspace.Settings

namespace Keyspace

variable {known words given : List String} {unexpected : String → UsageError}
  {flags before after : Flags} {flag other value value' default : String}
  {fallback fallback' : Option String}

namespace Flags

/-- The arguments that give the flags, each with its value behind it. -/
def arguments (flags : Flags) : List String :=
  flags.flatMap fun (flag, value) => [flag, value]

/-- The flags without their values. -/
def names (flags : Flags) : List String := flags.map (·.1)

@[simp]
theorem arguments_cons : arguments ((flag, value) :: flags) = flag :: value :: flags.arguments :=
  rfl

@[simp]
theorem names_cons : names ((flag, value) :: flags) = flag :: flags.names := rfl

end Flags

/-! ## Reading flags -/

/-- Pairs are read up to the first flag that is not known. -/
theorem readFlags_arguments (flags : Flags) : readFlags known unexpected flags.arguments =
    match flags.names.find? (· ∉ known) with
    | some word => .error (unexpected word)
    | none => .ok flags := by
  induction flags with
  | nil => rfl
  | cons entry flags ih =>
      obtain ⟨flag, value⟩ := entry
      rw [Flags.arguments_cons, Flags.names_cons, readFlags, ih]
      by_cases hknown : flag ∈ known
      · rw [if_pos hknown, List.find?_cons_of_neg (by simpa using hknown)]
        cases (Flags.names flags).find? (· ∉ known) <;> rfl
      · rw [if_neg hknown, List.find?_cons_of_pos (by simpa using hknown)]

/-- Arguments are read as flags exactly if they are pairs of a known flag and a value. -/
theorem readFlags_eq_ok_iff : readFlags known unexpected words = .ok flags ↔
    words = flags.arguments ∧ flags.names ⊆ known := by
  constructor
  · intro h
    fun_induction readFlags known unexpected words generalizing flags with
    | case1 =>
        cases h
        exact ⟨rfl, List.nil_subset _⟩
    | case2 word => cases h
    | case3 word value rest hknown ih =>
        cases hrest : readFlags known unexpected rest with
        | error error =>
            rw [hrest] at h
            cases h
        | ok others =>
            rw [hrest] at h
            cases h
            obtain ⟨rfl, hnames⟩ := ih hrest
            exact ⟨rfl, List.cons_subset.mpr ⟨hknown, hnames⟩⟩
    | case4 word value rest hunknown => cases h
  · rintro ⟨rfl, hnames⟩
    have hfind : flags.names.find? (· ∉ known) = none := by
      rw [List.find?_eq_none]
      intro flag hflag
      simpa using hnames hflag
    rw [readFlags_arguments, hfind]

/-! ## The value that counts -/

/-- The value that counts for a setting, of the values given for it in their order, of what the
environment has for it and of its default. -/
inductive Counts (given : List String) (fallback : Option String) (default : String) :
    String → Prop where
  | last {earlier : List String} {value : String} (h : given = earlier ++ [value]) :
    Counts given fallback default value
  | environment {value : String} (hnone : given = []) (h : fallback = some value) :
    Counts given fallback default value
  | otherwise (hnone : given = []) (h : fallback = none) : Counts given fallback default default

/-- Exactly one value counts. -/
theorem counts_iff : Counts given fallback default value ↔
    (given.getLast? <|> fallback).getD default = value := by
  constructor
  · rintro (hgiven | ⟨rfl, rfl⟩ | ⟨rfl, rfl⟩)
    · rw [hgiven, List.getLast?_concat]
      rfl
    · rfl
    · rfl
  · intro h
    cases hlast : given.getLast? with
    | some last =>
        obtain ⟨earlier, hgiven⟩ := List.getLast?_eq_some_iff.mp hlast
        rw [hlast] at h
        obtain rfl : last = value := h
        exact .last hgiven
    | none =>
        rw [List.getLast?_eq_none_iff] at hlast
        subst hlast
        cases fallback with
        | some found => exact .environment rfl (congrArg some h)
        | none => exact h ▸ .otherwise rfl rfl

namespace Flags

theorem values_append (before after : Flags) (flag : String) :
    values (before ++ after) flag = before.values flag ++ after.values flag :=
  List.filterMap_append

theorem values_cons_self : values ((flag, value) :: flags) flag = value :: flags.values flag := by
  simp [values]

theorem values_cons_of_ne (h : flag ≠ other) :
    values ((flag, value) :: flags) other = flags.values other := by
  simp [values, h]

/-- A flag that is there has a last value. -/
theorem exists_getLast?_values (h : flag ∈ flags.names) :
    ∃ value, (flags.values flag).getLast? = some value := by
  obtain ⟨⟨name, value⟩, hmem, rfl⟩ := List.mem_map.mp h
  have hvalue : value ∈ flags.values name := List.mem_filterMap.mpr ⟨_, hmem, if_pos rfl⟩
  exact ⟨_, List.getLast?_eq_getLast_of_ne_nil (List.ne_nil_of_mem hvalue)⟩

/-- A value with another one of the same flag behind it does not count. -/
theorem effective?_overridden (h : flag ∈ after.names) :
    effective? (before ++ (flag, value) :: after) other fallback =
      effective? (before ++ (flag, value') :: after) other fallback := by
  unfold effective?
  rw [values_append, values_append]
  by_cases hflag : flag = other
  · subst hflag
    obtain ⟨last, hlast⟩ := exists_getLast?_values h
    simp [values_cons_self, List.getLast?_append, List.getLast?_cons, hlast]
  · rw [values_cons_of_ne hflag, values_cons_of_ne hflag]

/-- What the environment has does not count if the flag is there. -/
theorem effective?_of_mem (h : flag ∈ flags.names) :
    flags.effective? flag fallback = flags.effective? flag fallback' := by
  obtain ⟨last, hlast⟩ := exists_getLast?_values h
  simp [effective?, hlast]

end Flags

end Keyspace
