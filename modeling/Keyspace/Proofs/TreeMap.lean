/-
# Maps from texts

What a map holds once a list of pairs is written into it, seen key by key: the last pair
of the key decides, and without one the map stays as it was.
-/

import Mathlib

namespace Keyspace

variable {β : Type} {key : String} {value : β} {pairs : List (String × β)}

/-- Of several pairs with one key the last one is kept. -/
theorem getElem?_insertMany (items : Std.ExtTreeMap String β) :
    (items.insertMany pairs)[key]? = (pairs.reverse.lookup key).or items[key]? := by
  induction pairs generalizing items with
  | nil => simp
  | cons pair pairs ih =>
      obtain ⟨name, value⟩ := pair
      rw [Std.ExtTreeMap.insertMany_cons, ih, List.reverse_cons, List.lookup_append,
        Std.ExtTreeMap.getElem?_insert]
      by_cases h : name = key
      · simp [h, List.lookup]
      · have hne : (key == name) = false := by simpa using fun heq => h heq.symm
        simp [h, hne, List.lookup, Std.LawfulEqCmp.compare_eq_iff_eq]

/-- Pairs with other keys do not matter. -/
theorem lookup_reverse_filter {keep : String × β → Bool}
    (hkeep : ∀ pair ∈ pairs, pair.1 = key → keep pair) :
    (pairs.filter keep).reverse.lookup key = pairs.reverse.lookup key := by
  induction pairs with
  | nil => rfl
  | cons pair pairs ih =>
      rw [List.forall_mem_cons] at hkeep
      rw [List.reverse_cons, List.lookup_append, ← ih hkeep.2]
      by_cases h : keep pair
      · rw [List.filter_cons_of_pos h, List.reverse_cons, List.lookup_append]
      · have hne : (key == pair.1) = false := by
          simpa using fun heq : key = pair.1 => h (hkeep.1 heq.symm)
        rw [List.filter_cons_of_neg h]
        simp [List.lookup, hne]

/-- Without a pair of the key there is nothing to be found. -/
theorem lookup_reverse_of_not_mem (hkey : key ∉ pairs.map Prod.fst) :
    pairs.reverse.lookup key = none := by
  rw [List.lookup_eq_none_iff]
  intro pair hpair
  have hne : key ≠ pair.1 := by
    rintro rfl
    exact hkey (List.mem_map_of_mem (List.mem_reverse.mp hpair))
  simpa using hne

/-- A pair behind which its key does not come again is the last one of the key. -/
theorem lookup_reverse_of_last {position : Nat} (hpair : pairs[position]? = some (key, value))
    (hlast : key ∉ (pairs.map Prod.fst).drop (position + 1)) :
    pairs.reverse.lookup key = some value := by
  obtain ⟨hlt, hget⟩ := List.getElem?_eq_some_iff.mp hpair
  have hsplit : pairs = pairs.take position ++ (key, value) :: pairs.drop (position + 1) := by
    rw [← hget, ← List.drop_eq_getElem_cons hlt, List.take_append_drop]
  rw [← List.map_drop] at hlast
  rw [hsplit, List.reverse_append, List.reverse_cons, List.append_assoc, List.lookup_append,
    lookup_reverse_of_not_mem hlast]
  simp

/-- A map built from pairs with different keys holds exactly these pairs. -/
theorem getElem?_ofList_eq_some_iff (hnodup : (pairs.map Prod.fst).Nodup) :
    (Std.ExtTreeMap.ofList pairs)[key]? = some value ↔ (key, value) ∈ pairs := by
  have hdistinct : pairs.Pairwise fun first second => ¬ compare first.1 second.1 = .eq :=
    (List.pairwise_map.mp hnodup).imp fun hne heq => hne (Std.LawfulEqCmp.compare_eq_iff_eq.mp heq)
  constructor
  · intro h
    have hmem : key ∈ Std.ExtTreeMap.ofList pairs :=
      Std.ExtTreeMap.mem_iff_isSome_getElem?.mpr (by simp [h])
    obtain ⟨⟨name, found⟩, hfound, rfl⟩ : ∃ pair ∈ pairs, pair.1 = key := by
      simpa using hmem
    rw [Std.ExtTreeMap.getElem?_ofList_of_mem Std.ReflCmp.compare_self hdistinct hfound] at h
    exact Option.some.inj h ▸ hfound
  · intro h
    exact Std.ExtTreeMap.getElem?_ofList_of_mem Std.ReflCmp.compare_self hdistinct h

/-- A map is the one built from its pairs. -/
theorem ofList_toList (items : Std.ExtTreeMap String β) :
    Std.ExtTreeMap.ofList items.toList = items := by
  have hnodup : (items.toList.map Prod.fst).Nodup := by
    rw [Std.ExtTreeMap.map_fst_toList_eq_keys]
    exact Std.ExtTreeMap.nodup_keys
  apply Std.ExtTreeMap.ext_getElem?
  intro key
  apply Option.ext
  intro value
  rw [getElem?_ofList_eq_some_iff hnodup, Std.ExtTreeMap.mem_toList_iff_getElem?_eq_some]

end Keyspace
