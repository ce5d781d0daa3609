/-
# Batches

Grouping a list by the owners of its keys loses nothing and repeats nothing: a batch has
the items that its server owns, in their order and with their positions, and every item
is in the batch of one server. Texts that are placed in agreement with a list, every
position of it at least once, give that list when they are scattered.
-/

import Mathlib
import Keyspace.Proofs.Assignment.Ownership
import Keyspace.Proofs.Result
import Keyspace.Router

namespace Keyspace

theorem Assignment.mem_names_of_serverOf? {a : Assignment} {key server : String}
    (h : a.serverOf? key = some server) : server ∈ a.names := by
  obtain ⟨shards, hshards, -⟩ := owns_of_owner? h
  exact mem_names.mpr (hasServer_iff.mpr ⟨shards, hshards⟩)

theorem Assignment.nodup_names (a : Assignment) : a.names.Nodup :=
  Std.ExtTreeMap.nodup_keys

namespace Router

variable {α : Type} {assignment : Assignment} {key : α → String} {items : List α} {item : α}
  {server : String} {position : Nat}

/-- What a server owns of a list. -/
def batchOf (assignment : Assignment) (key : α → String) (items : List α) (server : String) :
    Batch α :=
  ⟨server, items.zipIdx.filter fun (item, _) => assignment.serverOf? (key item) = some server⟩

/-- The batches of all owners, in the ascending order of their names. -/
def batchesOf (assignment : Assignment) (key : α → String) (items : List α) : List (Batch α) :=
  (assignment.names.map (batchOf assignment key items)).filter fun batch => !batch.items.isEmpty

/-- If all keys have owners, there is a batch for each of these owners. -/
theorem batches_eq (howned : ∀ item ∈ items, (assignment.serverOf? (key item)).isSome) :
    batches assignment key items = .ok (batchesOf assignment key items) := by
  let owner (item : α) : String := (assignment.serverOf? (key item)).getD ""
  have howner : ∀ item ∈ items, assignment.serverOf? (key item) = some (owner item) := by
    intro item hitem
    obtain ⟨server, hserver⟩ := Option.isSome_iff_exists.mp (howned item hitem)
    simp [owner, hserver]
  have howners : items.mapM (fun item => ownerOf assignment (key item)) = .ok (items.map owner) :=
    mapM_eq_ok fun item hitem => by rw [ownerOf, howner item hitem]
  have hzip : (items.map owner).zip items.zipIdx =
      items.zipIdx.map fun entry => (owner entry.1, entry) := by
    have hfst : items.map owner = items.zipIdx.map fun entry => owner entry.1 := by
      conv_lhs => rw [← List.zipIdx_map_fst 0 items, List.map_map]
      rfl
    rw [hfst, List.map_prod_right_eq_zip]
  have hbatch : (fun server => (⟨server, (((items.map owner).zip items.zipIdx).filter
      fun entry => entry.1 = server).map (·.2)⟩ : Batch α)) =
        batchOf assignment key items := by
    funext server
    rw [hzip, List.filter_map, List.map_map, batchOf]
    refine congrArg (Batch.mk server) ((List.map_id _).trans (List.filter_congr ?_))
    intro entry hentry
    simp [howner entry.1 (List.fst_mem_of_mem_zipIdx hentry)]
  rw [batches, howners, batchesOf, ← hbatch]
  rfl

/-- The batch of a server has the items that it owns, at their positions. -/
theorem mem_batchOf : (item, position) ∈ (batchOf assignment key items server).items ↔
    items[position]? = some item ∧ assignment.serverOf? (key item) = some server := by
  rw [batchOf, List.mem_filter, List.mem_zipIdx_iff_getElem?, decide_eq_true_iff]

/-- It has them in their order. -/
theorem map_fst_batchOf : (batchOf assignment key items server).items.map (·.1) =
    items.filter fun item => assignment.serverOf? (key item) = some server := by
  conv_rhs => rw [← List.zipIdx_map_fst 0 items, List.filter_map]
  rfl

private theorem countP_take_of_getElem?_filter_zipIdx {p : α → Bool} {start index : Nat}
    (h : ((items.zipIdx start).filter fun entry => p entry.1)[index]? = some (item, position)) :
    start ≤ position ∧ (items.take (position - start)).countP p = index := by
  induction items generalizing start index with
  | nil => simp at h
  | cons first items ih =>
      rw [List.zipIdx_cons, List.filter_cons] at h
      by_cases hfirst : p first
      · rw [if_pos hfirst] at h
        cases index with
        | zero =>
            obtain ⟨rfl, rfl⟩ : first = item ∧ start = position := by simpa using h
            simp
        | succ index =>
            obtain ⟨hle, hcount⟩ := ih (by simpa using h)
            obtain ⟨earlier, rfl⟩ := Nat.exists_eq_add_of_le hle
            refine ⟨by omega, ?_⟩
            rw [show start + 1 + earlier - start = earlier + 1 by omega, List.take_succ_cons,
              List.countP_cons_of_pos hfirst]
            simpa using hcount
      · rw [if_neg hfirst] at h
        obtain ⟨hle, hcount⟩ := ih h
        obtain ⟨earlier, rfl⟩ := Nat.exists_eq_add_of_le hle
        refine ⟨by omega, ?_⟩
        rw [show start + 1 + earlier - start = earlier + 1 by omega, List.take_succ_cons,
          List.countP_cons_of_neg hfirst]
        simpa using hcount

/-- The index of an item in its batch is the number of earlier items of the same owner. -/
theorem countP_take_of_getElem?_batchOf {index : Nat}
    (h : (batchOf assignment key items server).items[index]? = some (item, position)) :
    (items.take position).countP (fun item => assignment.serverOf? (key item) = some server) =
      index := by
  have hcount := (countP_take_of_getElem?_filter_zipIdx
    (p := fun item => assignment.serverOf? (key item) = some server) h).2
  rwa [Nat.sub_zero] at hcount

theorem mem_batchesOf {batch : Batch α} : batch ∈ batchesOf assignment key items ↔
    ∃ server ∈ assignment.names,
      batchOf assignment key items server = batch ∧ batch.items ≠ [] := by
  simp only [batchesOf, List.mem_filter, List.mem_map, Bool.not_eq_true',
    List.isEmpty_eq_false_iff, ← exists_and_right, and_assoc]

/-- No server gets two batches. -/
theorem nodup_servers_batchesOf :
    ((batchesOf assignment key items).map (·.server)).Nodup := by
  have hsublist : ((batchesOf assignment key items).map (·.server)).Sublist
      ((assignment.names.map (batchOf assignment key items)).map (·.server)) :=
    List.filter_sublist.map _
  apply hsublist.nodup
  simpa [Function.comp_def, batchOf] using assignment.nodup_names

/-- An item whose key has an owner is in the batch of that owner. -/
theorem exists_mem_batchesOf (key : α → String) (hitem : items[position]? = some item)
    (howner : assignment.serverOf? (key item) = some server) :
    ∃ batch ∈ batchesOf assignment key items, (item, position) ∈ batch.items := by
  have hmem : (item, position) ∈ (batchOf assignment key items server).items :=
    mem_batchOf.mpr ⟨hitem, howner⟩
  refine ⟨_, mem_batchesOf.mpr ⟨server, Assignment.mem_names_of_serverOf? howner, rfl, ?_⟩, hmem⟩
  exact List.ne_nil_of_mem hmem

/-! ## Scattering -/

/-- Placing texts in agreement with a list turns the places they are put to into what the list has
there. -/
theorem getElem?_foldl_set {placed : List (Nat × String)} {expected out : List String}
    (hagree : ∀ entry ∈ placed, expected[entry.1]? = some entry.2)
    (hlength : out.length = expected.length) :
    (placed.foldl (fun out (position, text) => out.set position text) out)[position]? =
      if position ∈ placed.map (·.1) then expected[position]? else out[position]? := by
  induction placed generalizing out with
  | nil => rfl
  | cons entry placed ih =>
      rw [List.forall_mem_cons] at hagree
      rw [List.foldl_cons, ih hagree.2 (by rw [List.length_set, hlength]), List.map_cons]
      by_cases hlater : position ∈ placed.map (·.1)
      · rw [if_pos hlater, if_pos (List.mem_cons_of_mem _ hlater)]
      · rw [if_neg hlater, List.getElem?_set]
        by_cases hhere : entry.1 = position
        · have hlt : entry.1 < out.length := by
            rw [hlength]
            exact (List.getElem?_eq_some_iff.mp hagree.1).1
          rw [if_pos hhere, if_pos hlt, if_pos (by simp [hhere]), ← hhere, hagree.1]
        · rw [if_neg hhere, if_neg (by simpa [Ne.symm hhere] using hlater)]

/-- Texts that agree with a list and leave out no position of it give the list. -/
theorem scatter_eq {placed : List (Nat × String)} {expected : List String}
    (hagree : ∀ entry ∈ placed, expected[entry.1]? = some entry.2)
    (hcover : ∀ position < expected.length, ∃ text, (position, text) ∈ placed) :
    scatter expected.length placed = expected := by
  apply List.ext_getElem?
  intro position
  rw [scatter, getElem?_foldl_set hagree List.length_replicate]
  split_ifs with hplaced
  · rfl
  · have hge : expected.length ≤ position := by
      by_contra hlt
      obtain ⟨text, htext⟩ := hcover position (Nat.lt_of_not_le hlt)
      exact hplaced (List.mem_map_of_mem htext)
    rw [List.getElem?_eq_none hge, List.getElem?_eq_none (by rwa [List.length_replicate])]

end Router

end Keyspace
