/-
# Gathering values

Values that are read batch by batch end up where their keys stand if every key can be
read. If not, one failure is reported: the batches are read in the ascending order of
the names of their servers, each in the order of its keys, so it is that of the first
failing key of the smallest server that has one, though this need not be the first of
all failing keys.
-/

import Mathlib
import Keyspace.Proofs.Cluster.Routing
import Keyspace.Proofs.Router.Plan

namespace Keyspace.Cluster

open Router (Batch batchOf batchesOf)

variable {assignment : Assignment} {items : Contents} {keys : List String} {key : String}
  {batch : Batch String} {read : String → KvResult String} {value : String → String}

/-- The key whose failure is that of a read of several keys, where some of them fail: the first key
without an owner if there is one, and otherwise, of the server with the smallest name that has a
failing key, the first failing key. -/
inductive Decides (assignment : Assignment) (fails : String → Prop) (keys : List String) :
    String → Prop where
  | unowned {before : List String} {key : String} {after : List String}
      (hkeys : keys = before ++ key :: after)
      (hbefore : ∀ earlier ∈ before, (assignment.serverOf? earlier).isSome)
      (hnone : assignment.serverOf? key = none) : Decides assignment fails keys key
  | failing {before : List String} {key : String} {after : List String} {server : String}
      (howned : ∀ key ∈ keys, (assignment.serverOf? key).isSome)
      (hkeys : keys = before ++ key :: after)
      (howner : assignment.serverOf? key = some server) (hfails : fails key)
      (hbefore : ∀ earlier ∈ before, assignment.serverOf? earlier = some server → ¬ fails earlier)
      (hsmaller : ∀ other ∈ keys, ∀ owner, assignment.serverOf? other = some owner →
        owner < server → ¬ fails other) : Decides assignment fails keys key

/-- If a key fails, or has no owner, there is a key that decides. -/
theorem exists_decides {fails : String → Prop}
    (h : ¬ ∀ key ∈ keys, (assignment.serverOf? key).isSome ∧ ¬ fails key) :
    ∃ key, Decides assignment fails keys key := by
  by_cases howned : ∀ key ∈ keys, (assignment.serverOf? key).isSome
  · -- Of all owners of keys, taken in ascending order, the first that has a failing key.
    have howners : ¬ ∀ server ∈ assignment.owners keys, ∀ key ∈ keys,
        assignment.serverOf? key = some server → ¬ fails key := by
      intro hall
      refine h fun key hkey => ⟨howned key hkey, ?_⟩
      obtain ⟨server, howner⟩ := Option.isSome_iff_exists.mp (howned key hkey)
      exact hall server (Assignment.mem_owners.mpr ⟨key, hkey, howner⟩) key hkey howner
    obtain ⟨smaller, server, greater, hsplit, hsmaller, hserver⟩ := exists_first_not howners
    obtain ⟨before, key, after, hkeys, hbefore, hkey⟩ := exists_first_not hserver
    rw [Classical.not_imp, not_not] at hkey
    refine ⟨key, .failing howned hkeys hkey.1 hkey.2 hbefore ?_⟩
    intro other hother owner howner hless
    refine hsmaller owner ?_ other hother howner
    have hmem : owner ∈ assignment.owners keys := Assignment.mem_owners.mpr ⟨other, hother, howner⟩
    have hascending : (assignment.owners keys).Pairwise (· < ·) := Assignment.pairwise_owners
    rw [hsplit] at hmem hascending
    rcases List.mem_append.mp hmem with hmem | hmem
    · exact hmem
    · rcases List.mem_cons.mp hmem with rfl | hmem
      · exact absurd hless (lt_irrefl _)
      · have hgreater := (List.pairwise_cons.mp (List.pairwise_append.mp hascending).2.1).1
        exact absurd (hgreater owner hmem) (not_lt_of_gt hless)
  · obtain ⟨before, key, after, hkeys, hbefore, hkey⟩ := exists_first_not howned
    exact ⟨key, .unowned hkeys hbefore (Option.not_isSome_iff_eq_none.mp hkey)⟩

/-- Only the keys of the list are read. -/
theorem gather_congr {read' : String → KvResult String}
    (h : ∀ key ∈ keys, read key = read' key) :
    gather assignment read keys = gather assignment read' keys := by
  have hparts : (batchesOf assignment id keys).mapM (readPart read) =
      (batchesOf assignment id keys).mapM (readPart read') := by
    refine mapM_congr fun batch hbatch => congrArg (Except.map _) (mapM_congr fun key hkey => ?_)
    obtain ⟨server, -, rfl, -⟩ := Router.mem_batchesOf.mp hbatch
    rw [Router.map_fst_batchOf] at hkey
    exact h key (List.mem_filter.mp hkey).1
  rw [gather, hparts, gather]

/-- If all keys of a batch can be read, their values are read, each with its position. -/
theorem readPart_eq_ok (h : ∀ key ∈ batch.items.map (·.1), read key = .ok (value key)) :
    readPart read batch = .ok (batch.items.map fun entry => (entry.2, value entry.1)) := by
  rw [readPart, mapM_eq_ok h, List.map_map]
  show Except.ok ((batch.items.map _).zip (batch.items.map _)) = _
  rw [List.zip_map']
  rfl

/-- If all keys can be read, their values end up where the keys stand. -/
theorem gather_eq_ok (howned : ∀ key ∈ keys, (assignment.serverOf? key).isSome)
    (h : ∀ key ∈ keys, read key = .ok (value key)) :
    gather assignment read keys = .ok (keys.map value) := by
  have hposition : ∀ batch ∈ batchesOf assignment id keys, ∀ entry ∈ batch.items,
      keys[entry.2]? = some entry.1 := by
    intro batch hbatch entry hentry
    obtain ⟨server, -, rfl, -⟩ := Router.mem_batchesOf.mp hbatch
    exact (Router.mem_batchOf.mp hentry).1
  have hread : ∀ batch ∈ batchesOf assignment id keys, readPart read batch =
      .ok (batch.items.map fun entry => (entry.2, value entry.1)) := by
    intro batch hbatch
    refine readPart_eq_ok fun key hkey => ?_
    obtain ⟨entry, hentry, rfl⟩ := List.mem_map.mp hkey
    exact h entry.1 (List.mem_of_getElem? (hposition batch hbatch entry hentry))
  have hscatter : Router.scatter (keys.map value).length
      ((batchesOf assignment id keys).map fun batch =>
        batch.items.map fun entry => (entry.2, value entry.1)).flatten = keys.map value := by
    apply Router.scatter_eq
    · intro placed hplaced
      rw [← List.flatMap_def] at hplaced
      obtain ⟨batch, hbatch, hmem⟩ := List.mem_flatMap.mp hplaced
      obtain ⟨entry, hentry, rfl⟩ := List.mem_map.mp hmem
      rw [List.getElem?_map, hposition batch hbatch entry hentry]
      rfl
    · intro position hlt
      rw [List.length_map] at hlt
      obtain ⟨server, howner⟩ :=
        Option.isSome_iff_exists.mp (howned keys[position] (List.getElem_mem hlt))
      obtain ⟨batch, hbatch, hentry⟩ :=
        Router.exists_mem_batchesOf id (List.getElem?_eq_getElem hlt) howner
      rw [← List.flatMap_def]
      exact ⟨_, List.mem_flatMap.mpr ⟨batch, hbatch, List.mem_map_of_mem hentry⟩⟩
  rw [List.length_map] at hscatter
  rw [gather, mapM_eq_ok hread]
  exact congrArg Except.ok hscatter

/-- The batch of a server fails as the first of its keys that fails. -/
theorem readPart_eq_error {before after : List String} {server : String} {error : KvError}
    (hkeys : keys = before ++ key :: after) (howner : assignment.serverOf? key = some server)
    (hbefore : ∀ earlier ∈ before, assignment.serverOf? earlier = some server →
      ∃ value, read earlier = .ok value) (herror : read key = .error error) :
    readPart read (batchOf assignment id keys server) = .error error := by
  have hread : ∀ earlier ∈ before.filter fun key => assignment.serverOf? key = some server,
      ∃ value, read earlier = .ok value := by
    intro earlier hearlier
    obtain ⟨hmem, howner⟩ := List.mem_filter.mp hearlier
    exact hbefore earlier hmem (of_decide_eq_true howner)
  have hsplit : keys.filter (fun key => assignment.serverOf? (id key) = some server) =
      (before.filter fun key => assignment.serverOf? key = some server) ++
        key :: after.filter fun key => assignment.serverOf? key = some server := by
    simp [hkeys, howner]
  rw [readPart, Router.map_fst_batchOf, hsplit, mapM_eq_error_of_first hread herror]
  rfl

/-- The first failing key of the smallest server that has one fails the whole. -/
theorem gather_eq_error {before after : List String} {server : String} {error : KvError}
    (hkeys : keys = before ++ key :: after) (howner : assignment.serverOf? key = some server)
    (hbefore : ∀ earlier ∈ before, assignment.serverOf? earlier = some server →
      ∃ value, read earlier = .ok value)
    (hsmaller : ∀ other ∈ keys, ∀ owner, assignment.serverOf? other = some owner →
      owner < server → ∃ value, read other = .ok value) (herror : read key = .error error) :
    gather assignment read keys = .error error := by
  have hkey : (key, before.length) ∈ (batchOf assignment id keys server).items :=
    Router.mem_batchOf.mpr ⟨by simp [hkeys], howner⟩
  have hbatch : batchOf assignment id keys server ∈ batchesOf assignment id keys :=
    Router.mem_batchesOf.mpr
      ⟨server, Assignment.mem_names_of_serverOf? howner, rfl, List.ne_nil_of_mem hkey⟩
  obtain ⟨smaller, greater, hsplit⟩ := List.append_of_mem hbatch
  have hascending : (batchesOf assignment id keys).Pairwise fun first second =>
      first.server < second.server := Router.pairwise_batchesOf
  rw [hsplit, List.pairwise_append] at hascending
  have hread : ∀ batch ∈ smaller, ∃ part, readPart read batch = .ok part := by
    intro batch hmem
    have hless : batch.server < server := hascending.2.2 batch hmem _ List.mem_cons_self
    obtain ⟨owner, -, rfl, -⟩ :=
      Router.mem_batchesOf.mp (hsplit ▸ List.mem_append_left _ hmem)
    have hkeys : ∀ key ∈ (batchOf assignment id keys owner).items.map (·.1),
        ∃ value, read key = .ok value := by
      intro key hkey
      rw [Router.map_fst_batchOf] at hkey
      obtain ⟨hmem, howner⟩ := List.mem_filter.mp hkey
      exact hsmaller key hmem owner (of_decide_eq_true howner) hless
    choose! value hvalue using hkeys
    exact ⟨_, readPart_eq_ok hvalue⟩
  rw [gather, hsplit, mapM_eq_error_of_first hread (readPart_eq_error hkeys howner hbefore herror)]
  rfl

/-- A read of a key fails. -/
def Fails (read : String → KvResult String) (key : String) : Prop :=
  ∃ error, read key = .error error

theorem exists_ok_of_not_fails (h : ¬ Fails read key) : ∃ value, read key = .ok value := by
  cases hread : read key with
  | ok value => exact ⟨value, rfl⟩
  | error error => exact absurd ⟨error, hread⟩ h

theorem Decides.mem {fails : String → Prop} (h : Decides assignment fails keys key) :
    key ∈ keys := by
  cases h with
  | unowned hkeys => exact hkeys ▸ List.mem_append_right _ List.mem_cons_self
  | failing _ hkeys => exact hkeys ▸ List.mem_append_right _ List.mem_cons_self

/-- The failure of the key that decides is reported. -/
theorem Decides.gather_eq_error (h : Decides assignment (Fails read) keys key)
    (howned : ∀ key ∈ keys, (assignment.serverOf? key).isSome) :
    ∃ error, read key = .error error ∧ gather assignment read keys = .error error := by
  have hsome := howned key h.mem
  cases h with
  | unowned hkeys hbefore hnone =>
      rw [hnone] at hsome
      cases hsome
  | failing _ hkeys howner hfails hbefore hsmaller =>
      obtain ⟨error, herror⟩ := hfails
      exact ⟨error, herror, Cluster.gather_eq_error hkeys howner
        (fun earlier hmem howner => exists_ok_of_not_fails (hbefore earlier hmem howner))
        (fun other hmem owner howner hless =>
          exists_ok_of_not_fails (hsmaller other hmem owner howner hless)) herror⟩

/-- If a key is absent from a map, an absent key is reported. -/
theorem exists_gather_lookup_eq_error (howned : ∀ key ∈ keys, (assignment.serverOf? key).isSome)
    (h : ¬ ∀ key ∈ keys, key ∈ items) :
    ∃ key ∈ keys, key ∉ items ∧
      gather assignment items.lookup keys = .error (.notFound key) := by
  have hfails : ¬ ∀ key ∈ keys, (assignment.serverOf? key).isSome ∧ ¬ Fails items.lookup key := by
    intro hall
    refine h fun key hkey => Classical.not_not.mp fun hnot => (hall key hkey).2 ?_
    exact ⟨_, Contents.lookup_of_not_mem hnot⟩
  obtain ⟨key, hkey⟩ := exists_decides hfails
  obtain ⟨error, herror, hgather⟩ := hkey.gather_eq_error howned
  obtain ⟨hnot, rfl⟩ := Contents.lookup_eq_error_iff.mp herror
  exact ⟨key, hkey.mem, hnot, hgather⟩

end Keyspace.Cluster
