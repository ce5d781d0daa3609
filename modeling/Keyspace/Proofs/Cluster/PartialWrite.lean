/-
# Writes that break off

A write of several pairs goes to the owners of its keys in the ascending order of their
names and breaks off at the first of them that is down. The owners before it have then
applied their whole batches, and nothing is rolled back; every other server is as it
was. Whether the write breaks off or not, no store changes at a key that the write does
not name.
-/

import Mathlib
import Keyspace.Proofs.Cluster.OneStore
import Keyspace.Proofs.Router.Plan

namespace Keyspace

open Router (Batch batchOf batchesOf)

variable {assignment : Assignment} {keys values : List String} {key value server : String}

/-! ## Applying a batch -/

/-- The batch of the owner of a key gives it the value at the last place where the key stands. -/
theorem getElem?_insertMany_batchOf (hlength : keys.length = values.length) {position : Nat}
    (hkey : keys[position]? = some key) (hvalue : values[position]? = some value)
    (hlast : key ∉ keys.drop (position + 1)) (howner : assignment.serverOf? key = some server)
    (items : Contents) :
    (items.insertMany ((batchOf assignment (·.1) (keys.zip values) server).items.map
      (·.1)))[key]? = some value := by
  have hpair : (keys.zip values)[position]? = some (key, value) :=
    List.getElem?_zip_eq_some.mpr ⟨hkey, hvalue⟩
  rw [← List.map_fst_zip hlength.le] at hlast
  have howned : ∀ pair ∈ keys.zip values, pair.1 = key →
      decide (assignment.serverOf? pair.1 = some server) := by
    rintro pair - rfl
    exact decide_eq_true howner
  rw [Router.map_fst_batchOf, getElem?_insertMany, lookup_reverse_filter howned,
    lookup_reverse_of_last hpair hlast]
  rfl

/-- No batch changes a key that is not named, or not owned by the server of the batch. -/
theorem getElem?_insertMany_batchOf_of_not
    (hkey : key ∈ keys → assignment.serverOf? key ≠ some server) (items : Contents) :
    (items.insertMany ((batchOf assignment (·.1) (keys.zip values) server).items.map
      (·.1)))[key]? = items[key]? := by
  have hnot : key ∉ ((keys.zip values).filter fun pair =>
      assignment.serverOf? pair.1 = some server).map Prod.fst := by
    intro hmem
    obtain ⟨pair, hpair, rfl⟩ := List.mem_map.mp hmem
    obtain ⟨hzip, howner⟩ := List.mem_filter.mp hpair
    exact hkey (List.of_mem_zip hzip).1 (of_decide_eq_true howner)
  rw [Router.map_fst_batchOf, getElem?_insertMany, lookup_reverse_of_not_mem hnot]
  rfl

namespace Cluster

variable {cluster after : Cluster}

/-- The servers in `written` have applied their batches of a write: each of their keys has the value
at the last place where the key stands. The other servers are as they were, and so is every key
that is not named, or not owned where it is stored. -/
structure Wrote (assignment : Assignment) (keys values written : List String)
    (cluster after : Cluster) : Prop where
  applied : ∀ server ∈ written, ∀ position key value, keys[position]? = some key →
    values[position]? = some value → key ∉ keys.drop (position + 1) →
      assignment.serverOf? key = some server → (after.held server)[key]? = some value
  others_eq : ∀ server ∉ written, after.stores[server]? = cluster.stores[server]?
  unnamed_eq : ∀ server key, (key ∈ keys → assignment.serverOf? key ≠ some server) →
    (after.held server)[key]? = (cluster.held server)[key]?

/-- Writing some of the batches, to servers that are up, applies these and no others. -/
theorem Ready.start_forM_writeBatch (h : cluster.Ready assignment) (controller : String)
    (hlength : keys.length = values.length) {batches : List (Batch (String × String))}
    (hbatches : batches.Sublist (batchesOf assignment (·.1) (keys.zip values)))
    (hup : ∀ batch ∈ batches, batch.server ∉ cluster.down) :
    ∃ after : Cluster,
      Call.start (batches.forM (router controller).writeBatch) cluster = (.ok (), after) ∧
      Leaves assignment cluster after ∧
      Wrote assignment keys values (batches.map (·.server)) cluster after := by
  have hbatch : ∀ batch ∈ batches, batch.server ∈ assignment.names ∧
      batchOf assignment (·.1) (keys.zip values) batch.server = batch := by
    intro batch hmem
    obtain ⟨server, hserver, rfl, -⟩ := Router.mem_batchesOf.mp (hbatches.subset hmem)
    exact ⟨hserver, rfl⟩
  have hnodup : (batches.map (·.server)).Nodup :=
    (hbatches.map _).nodup Router.nodup_servers_batchesOf
  obtain ⟨after, hstart, hleaves, hwritten, hothers⟩ :=
    h.start_forM_multiPut controller
      (fun batch hmem => ⟨(hbatch batch hmem).1, hup batch hmem⟩) hnodup
  have hheld : ∀ server ∈ batches.map (·.server), after.held server =
      (cluster.held server).insertMany
        ((batchOf assignment (·.1) (keys.zip values) server).items.map (·.1)) := by
    intro server hserver
    obtain ⟨batch, hmem, rfl⟩ := List.mem_map.mp hserver
    rw [hwritten batch hmem, (hbatch batch hmem).2]
  refine ⟨after, hstart, hleaves, ?_, hothers, ?_⟩
  · intro server hserver position key value hkey hvalue hlast howner
    rw [hheld server hserver]
    exact getElem?_insertMany_batchOf hlength hkey hvalue hlast howner _
  · intro server key hkey
    by_cases hserver : server ∈ batches.map (·.server)
    · rw [hheld server hserver]
      exact getElem?_insertMany_batchOf_of_not hkey _
    · rw [held_congr (hothers server hserver)]

/-! ## The call -/

section Call

variable (h : cluster.Ready assignment) (hcontroller : cluster.controller ∉ cluster.down)
  (hlength : keys.length = values.length) (howned : ∀ key ∈ keys, (assignment.serverOf? key).isSome)

include h hcontroller hlength howned

/-- If all owners are up, every batch is applied. -/
theorem Ready.multiPut_of_up (hup : ∀ owner ∈ assignment.owners keys, owner ∉ cluster.down) :
    ∃ after : Cluster,
      ((router cluster.controller).multiPut keys values).start cluster = (.ok (), after) ∧
      Wrote assignment keys values (assignment.owners keys) cluster after := by
  have hservers : (batchesOf assignment (·.1) (keys.zip values)).map (·.server) =
      assignment.owners keys := by
    rw [Router.map_server_batchesOf, List.map_fst_zip hlength.le]
  rw [h.start_multiPut_eq_forM hcontroller hlength howned, ← hservers]
  rw [← hservers, List.forall_mem_map] at hup
  obtain ⟨after, hstart, -, hwrote⟩ :=
    h.start_forM_writeBatch cluster.controller hlength (List.Sublist.refl _) hup
  exact ⟨after, hstart, hwrote⟩

/-- If an owner is down, the batches of the owners before the first such are applied. -/
theorem Ready.multiPut_of_down {before rest : List String} {owner : String}
    (howners : assignment.owners keys = before ++ owner :: rest)
    (hbefore : ∀ earlier ∈ before, earlier ∉ cluster.down) (hdown : owner ∈ cluster.down) :
    ∃ after : Cluster, ((router cluster.controller).multiPut keys values).start cluster =
        (.error (.transport owner "connection refused"), after) ∧
      Wrote assignment keys values before cluster after := by
  rw [← List.map_fst_zip hlength.le, ← Router.map_server_batchesOf, List.map_eq_append_iff]
    at howners
  obtain ⟨earlier, later, hsplit, rfl, hlater⟩ := howners
  obtain ⟨batch, others, rfl, rfl, -⟩ := List.map_eq_cons_iff.mp hlater
  have hsublist : earlier.Sublist (batchesOf assignment (·.1) (keys.zip values)) := by
    rw [hsplit]
    exact List.sublist_append_left _ _
  obtain ⟨after, hstart, hleaves, hwrote⟩ :=
    h.start_forM_writeBatch cluster.controller hlength hsublist fun batch hmem =>
      hbefore _ (List.mem_map_of_mem hmem)
  refine ⟨after, ?_, hwrote⟩
  rw [h.start_multiPut_eq_forM hcontroller hlength howned, hsplit, List.forM_eq_forM,
    List.forM_append, ← List.forM_eq_forM, Call.start_bind_ok hstart]
  have hrefused : ((router cluster.controller).writeBatch batch).start after =
      (.error (.transport batch.server "connection refused"), after) :=
    Call.start_bind_error (start_call_of_down (hleaves.down_eq ▸ hdown) _) _
  exact Call.start_bind_error hrefused _

/-- A write of several pairs with owned keys goes to the owners, which are taken in the ascending
order of their names. It succeeds if they are all up and has then been applied by every one of
them. Otherwise it fails as the request to the first of them that is down, and it has been applied
by those before it. No other server has changed, and no key that the write does not name. -/
theorem Ready.multiPut_breaks_off :
    (assignment.owners keys).Pairwise (· < ·) ∧
    (∀ server, server ∈ assignment.owners keys ↔
      ∃ key ∈ keys, assignment.serverOf? key = some server) ∧
    ∃ outcome after,
      ((router cluster.controller).multiPut keys values).start cluster = (outcome, after) ∧
      ((∀ owner ∈ assignment.owners keys, owner ∉ cluster.down) →
        outcome = .ok () ∧
          Wrote assignment keys values (assignment.owners keys) cluster after) ∧
      ∀ before owner rest, assignment.owners keys = before ++ owner :: rest →
        (∀ earlier ∈ before, earlier ∉ cluster.down) → owner ∈ cluster.down →
          outcome = .error (.transport owner "connection refused") ∧
            Wrote assignment keys values before cluster after := by
  obtain ⟨outcome, after, hstart⟩ : ∃ outcome after,
      ((router cluster.controller).multiPut keys values).start cluster = (outcome, after) :=
    ⟨_, _, rfl⟩
  refine ⟨Assignment.pairwise_owners, fun _ => Assignment.mem_owners, outcome, after, hstart,
    ?_, ?_⟩
  · intro hup
    obtain ⟨_, hend, hwrote⟩ := h.multiPut_of_up hcontroller hlength howned hup
    obtain ⟨rfl, rfl⟩ := Prod.mk.inj (hstart.symm.trans hend)
    exact ⟨rfl, hwrote⟩
  · intro before owner rest howners hbefore hdown
    obtain ⟨_, hend, hwrote⟩ :=
      h.multiPut_of_down hcontroller hlength howned howners hbefore hdown
    obtain ⟨rfl, rfl⟩ := Prod.mk.inj (hstart.symm.trans hend)
    exact ⟨rfl, hwrote⟩

end Call

/-- Three servers, the second of them down. The first has applied its batch, with the later of the
two values of a repeated key, and the third has not changed. -/
theorem Ready.multiPut_breaks_off_three_servers :
    let assignment : Assignment := ⟨.ofList ([("s1", [.ofKey "a", .ofKey "c"]),
      ("s2", [.ofKey "b"]), ("s3", [.ofKey "d"])] : List (String × List Shard))⟩
    let fresh := ofAuthority "controller" (.fixed assignment) (.simple FlatStore.empty)
    let cluster : Cluster := { fresh with down := ["s2"] }
    let keys := ["a", "d", "b", "c", "a"]
    let values := ["1", "4", "2", "3", "5"]
    cluster.Ready assignment ∧ cluster.controller ∉ cluster.down ∧ keys.length = values.length ∧
      (∀ key ∈ keys, (assignment.serverOf? key).isSome) ∧
      ∃ after : Cluster, ((router cluster.controller).multiPut keys values).start cluster =
          (.error (.transport "s2" "connection refused"), after) ∧
        (after.held "s1")["a"]? = some "5" ∧ after.stores["s3"]? = cluster.stores["s3"]? := by
  intro assignment fresh cluster keys values
  have hfresh : fresh.Fresh :=
    fresh_ofAuthority (show "controller" ∉ assignment.names by decide +kernel) .simple
  have hready : cluster.Ready assignment :=
    ⟨⟨rfl, hfresh.apart, rfl⟩, hfresh.reflects.ready.sound⟩
  have hcontroller : cluster.controller ∉ cluster.down := by decide
  have hlength : keys.length = values.length := rfl
  have howned : ∀ key ∈ keys, (assignment.serverOf? key).isSome := by decide +kernel
  have howners : assignment.owners keys = ["s1"] ++ "s2" :: ["s3"] := by decide +kernel
  obtain ⟨-, -, outcome, after, hstart, -, hdown⟩ :=
    hready.multiPut_breaks_off hcontroller hlength howned
  obtain ⟨rfl, hwrote⟩ := hdown _ _ _ howners (by decide) (List.mem_singleton.mpr rfl)
  refine ⟨hready, hcontroller, hlength, howned, after, hstart, ?_, hwrote.others_eq _ (by decide)⟩
  exact hwrote.applied "s1" (List.mem_singleton.mpr rfl) 4 "a" "5" rfl rfl (by decide)
    (by decide +kernel)

end Cluster

end Keyspace
