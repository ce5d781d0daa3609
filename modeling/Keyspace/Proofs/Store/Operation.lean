/-
# What a call makes of a store

On a lawful store every call makes of the contents what its change says, and a call that
is refused changes nothing. No keys are new but those that the call gives values to.
-/

import Mathlib
import Keyspace.Proofs.Store.Lawful

namespace Keyspace

open KvStore (contents)

namespace Operation

variable {operation : Operation} {items : Contents} {key : String}

/-- What a call makes of the contents of a store. -/
def change : Operation → Contents → Contents
  | put key value, items => items.insert key value
  | append key value, items => items.append key value
  | delete key, items => items.erase key
  | multiPut keys values, items =>
    if keys.length = values.length then items.insertMany (keys.zip values) else items
  | get _, items | multiGet _, items | allKeys, items | len, items | isEmpty, items => items

/-- The keys that a call gives values to. -/
def written : Operation → List String
  | put key _ | append key _ => [key]
  | multiPut keys _ => keys
  | get _ | delete _ | multiGet _ | allKeys | len | isEmpty => []

/-- A key that is there after a call was there before, or the call gives it a value. -/
theorem mem_or_mem_written (h : key ∈ operation.change items) :
    key ∈ items ∨ key ∈ operation.written := by
  cases operation with
  | put name value => exact (Contents.actsOn_insert name value).mem_or_mem_singleton h
  | append name value => exact (Contents.actsOn_append name value).mem_or_mem_singleton h
  | delete name => exact .inl (Std.ExtTreeMap.mem_of_mem_erase h)
  | multiPut keys values =>
      rw [change] at h
      split_ifs at h with hlength
      · have hfirsts : (keys.zip values).map Prod.fst = keys := List.map_fst_zip hlength.le
        rwa [Std.ExtTreeMap.mem_insertMany_list, hfirsts, List.contains_iff_mem] at h
      · exact .inl h
  | _ => exact .inl h

end Operation

namespace KvStore

variable {σ α β : Type} [KvStore σ] {Sound : σ → Prop} {s : σ}

/-- What is made of a result does not change how an operation ends. -/
theorem Ends.map_result {action : Action σ α} (result : KvResult α) {items : Contents}
    (h : Ends Sound (action.start s) (result.mapError .refused) items) (f : α → β) :
    Ends Sound ((f <$> action).start s) ((result.map f).mapError .refused) items := by
  have hmap := h.map f
  cases result <;> exact hmap

/-- On a lawful store a call does what its change says, or it is refused and changes nothing. -/
theorem Lawful.ends_perform (h : Lawful Sound) (hs : Sound s) (operation : Operation) :
    ∃ result : KvResult Answer,
      Ends Sound (operation.perform.start s) (result.mapError .refused)
        (operation.change (contents s)) ∧
      ∀ error, result = .error error → operation.change (contents s) = contents s := by
  cases operation with
  | get key => exact ⟨_, (h.get hs key).map_result _ _, fun _ _ => rfl⟩
  | put key value => exact ⟨_, Ends.map_result (.ok ()) (h.put hs key value) _, nofun⟩
  | append key value => exact ⟨_, Ends.map_result (.ok ()) (h.append hs key value) _, nofun⟩
  | delete key =>
      refine ⟨_, (h.delete hs key).map_result _ _, ?_⟩
      intro error herror
      have habsent : key ∉ contents s := by
        intro hmem
        rw [Contents.lookup_of_mem hmem] at herror
        cases herror
      exact Contents.erase_of_not_mem habsent
  | multiGet keys => exact ⟨_, (h.multiGet hs keys).map_result _ _, fun _ _ => rfl⟩
  | multiPut keys values =>
      rw [Operation.change]
      split_ifs with hlength
      · exact ⟨_, Ends.map_result (.ok ()) (h.multiPut hs keys values hlength) _, nofun⟩
      · exact ⟨_, Ends.map_result (.error _) (h.multiPut_of_ne hs keys values hlength) _,
          fun _ _ => rfl⟩
  | allKeys =>
      obtain ⟨keys, -, hends⟩ := h.allKeys hs
      exact ⟨_, Ends.map_result (.ok keys) hends _, nofun⟩
  | len => exact ⟨_, Ends.map_result (.ok _) (h.len hs) _, nofun⟩
  | isEmpty => exact ⟨_, Ends.map_result (.ok _) (h.len hs) _, nofun⟩

end KvStore

end Keyspace
