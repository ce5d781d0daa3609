/-
# Contents, key by key

A look-up depends on nothing but the value of its key, and fails only if the key is
absent. Writing, appending and erasing change the value of their own key and no other.
-/

import Mathlib
import Keyspace.Proofs.Result
import Keyspace.Store.Basic

namespace Keyspace.Contents

variable {items first second : Contents} {key : String} {keys : List String}

/-- The value of a key that is there. -/
theorem lookup_of_mem (h : key ∈ items) : items.lookup key = .ok (items.getD key "") := by
  obtain ⟨value, hvalue⟩ :=
    Option.isSome_iff_exists.mp (Std.ExtTreeMap.mem_iff_isSome_getElem?.mp h)
  rw [lookup, Std.ExtTreeMap.getD_eq_getD_getElem?, hvalue]
  rfl

theorem lookup_of_not_mem (h : key ∉ items) : items.lookup key = .error (.notFound key) := by
  rw [lookup, Std.ExtTreeMap.getElem?_eq_none h]

theorem lookup_congr (h : first[key]? = second[key]?) : first.lookup key = second.lookup key := by
  rw [lookup, lookup, h]

/-- The only failure of a look-up is that the key is absent. -/
theorem lookup_eq_error_iff {error : KvError} :
    items.lookup key = .error error ↔ key ∉ items ∧ error = .notFound key := by
  by_cases hmem : key ∈ items
  · simp [lookup_of_mem hmem, hmem]
  · simp [lookup_of_not_mem hmem, hmem, eq_comm]

theorem mapM_lookup_of_forall_mem (h : ∀ key ∈ keys, key ∈ items) :
    keys.mapM items.lookup = .ok (keys.map (items.getD · "")) :=
  mapM_eq_ok fun key hkey => lookup_of_mem (h key hkey)

/-- If a key is absent, an absent key is reported. -/
theorem exists_mapM_lookup_eq_error (h : ¬ ∀ key ∈ keys, key ∈ items) :
    ∃ key ∈ keys, key ∉ items ∧ keys.mapM items.lookup = .error (.notFound key) := by
  push Not at h
  obtain ⟨absent, habsent, hnot⟩ := h
  obtain ⟨key, hkey, error, herror, hmapM⟩ :=
    exists_mapM_eq_error (f := items.lookup) ⟨absent, habsent, _, lookup_of_not_mem hnot⟩
  obtain ⟨hnotmem, rfl⟩ := lookup_eq_error_iff.mp herror
  exact ⟨key, hkey, hnotmem, hmapM⟩

/-! ## Changing one key -/

/-- The change is one of the value of `key`: it leaves the other keys as they are, and what it makes
of the value depends on nothing but the value. -/
structure ActsOn (key : String) (change : Contents → Contents) : Prop where
  elsewhere : ∀ (items : Contents) other, other ≠ key → (change items)[other]? = items[other]?
  here : ∀ first second : Contents, first[key]? = second[key]? →
    (change first)[key]? = (change second)[key]?

theorem actsOn_id (key : String) : ActsOn key id := ⟨fun _ _ _ => rfl, fun _ _ h => h⟩

theorem getElem?_insert_of_ne {other value : String} (hne : other ≠ key) :
    (items.insert key value)[other]? = items[other]? := by
  have hcompare : ¬ compare key other = .eq := fun heq =>
    hne (Std.LawfulEqCmp.compare_eq_iff_eq.mp heq).symm
  rw [Std.ExtTreeMap.getElem?_insert, if_neg hcompare]

theorem actsOn_insert (key value : String) : ActsOn key (·.insert key value) where
  elsewhere := fun _ _ => getElem?_insert_of_ne
  here := by
    intro first second _
    rw [Std.ExtTreeMap.getElem?_insert_self, Std.ExtTreeMap.getElem?_insert_self]

theorem actsOn_append (key value : String) : ActsOn key (·.append key value) where
  elsewhere := fun _ _ => getElem?_insert_of_ne
  here := by
    intro first second heq
    rw [append, append, Std.ExtTreeMap.getElem?_insert_self, Std.ExtTreeMap.getElem?_insert_self,
      Std.ExtTreeMap.getD_eq_getD_getElem?, Std.ExtTreeMap.getD_eq_getD_getElem?, heq]

theorem actsOn_erase (key : String) : ActsOn key (·.erase key) where
  elsewhere := by
    intro items other hne
    have hcompare : ¬ compare key other = .eq := fun heq =>
      hne (Std.LawfulEqCmp.compare_eq_iff_eq.mp heq).symm
    rw [Std.ExtTreeMap.getElem?_erase, if_neg hcompare]
  here := by
    intro first second _
    rw [Std.ExtTreeMap.getElem?_erase_self, Std.ExtTreeMap.getElem?_erase_self]

/-- A change of one value brings in no other key. -/
theorem ActsOn.mem_or_mem_singleton {change : Contents → Contents} {other : String}
    (h : ActsOn key change) (hother : other ∈ change items) : other ∈ items ∨ other ∈ [key] := by
  by_cases hkey : other = key
  · exact .inr (List.mem_singleton.mpr hkey)
  · rw [Std.ExtTreeMap.mem_iff_isSome_getElem?, h.elsewhere _ _ hkey,
      ← Std.ExtTreeMap.mem_iff_isSome_getElem?] at hother
    exact .inl hother

/-- Erasing a key that is absent changes nothing. -/
theorem erase_of_not_mem (h : key ∉ items) : items.erase key = items := by
  apply Std.ExtTreeMap.ext_getElem?
  intro other
  rw [Std.ExtTreeMap.getElem?_erase]
  split_ifs with heq
  · rw [← Std.LawfulEqCmp.compare_eq_iff_eq.mp heq, Std.ExtTreeMap.getElem?_eq_none h]
  · rfl

end Keyspace.Contents
