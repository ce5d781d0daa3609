/-
# Plans

What a router has to send for a call follows from the assignment and the call alone: one
request for every owner of one of the keys, in the ascending order of the owners' names,
about the keys that the owner has. The batches that a router groups its keys into are
such a plan.
-/

import Mathlib
import Keyspace.Proofs.Router.Batch
import Keyspace.Proofs.Router.KeyedCall
import Keyspace.Transport

namespace Keyspace

namespace Assignment

variable {a : Assignment} {keys : List String} {key server : String}

/-- The owners of the keys, in the ascending order of their names. -/
def owners (a : Assignment) (keys : List String) : List String :=
  a.names.filter fun server => keys.any fun key => a.serverOf? key = some server

theorem mem_owners : server ∈ a.owners keys ↔ ∃ key ∈ keys, a.serverOf? key = some server := by
  rw [owners, List.mem_filter, List.any_eq_true]
  simp only [decide_eq_true_eq, and_iff_right_iff_imp]
  rintro ⟨key, -, howner⟩
  exact mem_names_of_serverOf? howner

theorem pairwise_owners : (a.owners keys).Pairwise (· < ·) := by
  have hnames : a.names.Pairwise fun first second => compare first second = .lt :=
    Std.ExtTreeMap.ordered_keys
  exact (hnames.imp fun h => compare_lt_iff_lt.mp h).filter _

theorem owners_singleton (howner : a.serverOf? key = some server) : a.owners [key] = [server] := by
  have hnodup : (a.owners [key]).Nodup := a.nodup_names.filter _
  rw [← List.perm_singleton, List.perm_ext_iff_of_nodup hnodup (List.nodup_singleton server)]
  intro other
  rw [mem_owners]
  simp [howner, eq_comm]

end Assignment

namespace KeyedCall

/-- What a call asks of a server: the keys that the server owns, in their order, each with its
value. -/
def share (owned : String → Bool) : KeyedCall → Request
  | multiGet keys => .multiGet (keys.filter owned)
  | multiPut keys values =>
    let pairs := (keys.zip values).filter fun pair => owned pair.1
    .multiPut (pairs.map (·.1)) (pairs.map (·.2))
  | call => call.request

/-- The values of a write match its keys; other calls have nothing to match. -/
def Matched : KeyedCall → Prop
  | multiPut keys values => keys.length = values.length
  | _ => True

/-- The requests that a call takes: one for each owner of one of its keys. -/
def plan (a : Assignment) (call : KeyedCall) : List Sent :=
  (a.owners call.keys).map fun server =>
    ⟨server, call.share fun key => a.serverOf? key = some server⟩

end KeyedCall

namespace Router

variable {α : Type} {assignment : Assignment} {key : α → String} {items : List α}

/-- There is a batch for every owner of a key. -/
theorem map_server_batchesOf :
    (batchesOf assignment key items).map (·.server) = assignment.owners (items.map key) := by
  rw [batchesOf, List.filter_map, List.map_map, Assignment.owners]
  refine (List.map_id _).trans (List.filter_congr ?_)
  intro server _
  rw [Bool.eq_iff_iff]
  simp only [Function.comp_apply, Bool.not_eq_true', List.isEmpty_eq_false_iff, List.any_eq_true,
    List.mem_map, decide_eq_true_eq]
  constructor
  · intro hne
    obtain ⟨⟨item, position⟩, hitem⟩ := List.exists_mem_of_ne_nil _ hne
    obtain ⟨hposition, howner⟩ := mem_batchOf.mp hitem
    exact ⟨_, ⟨item, List.mem_of_getElem? hposition, rfl⟩, howner⟩
  · rintro ⟨_, ⟨item, hitem, rfl⟩, howner⟩
    obtain ⟨position, hposition⟩ := List.mem_iff_getElem?.mp hitem
    exact List.ne_nil_of_mem (mem_batchOf.mpr ⟨hposition, howner⟩)

/-- The batches are in the ascending order of the names of their servers. -/
theorem pairwise_batchesOf :
    (batchesOf assignment key items).Pairwise fun first second => first.server < second.server := by
  rw [← List.pairwise_map (f := Batch.server), map_server_batchesOf]
  exact Assignment.pairwise_owners

/-- A key without an owner, the first one, fails the grouping. -/
theorem batches_eq_error {before after : List String} {name : String}
    (hkeys : items.map key = before ++ name :: after)
    (hbefore : ∀ name ∈ before, (assignment.serverOf? name).isSome)
    (hname : assignment.serverOf? name = none) :
    batches assignment key items = .error (.unowned name) := by
  have howners : items.mapM (fun item => ownerOf assignment (key item)) =
      .error (.unowned name) := by
    show items.mapM (ownerOf assignment ∘ key) = _
    rw [← List.mapM_map, hkeys]
    apply mapM_eq_error_of_first
    · intro earlier hearlier
      obtain ⟨server, hserver⟩ := Option.isSome_iff_exists.mp (hbefore earlier hearlier)
      exact ⟨server, by rw [ownerOf, hserver]⟩
    · rw [ownerOf, hname]
  rw [batches, howners]
  rfl

end Router

namespace KeyedCall

/-- The batches of a read are what its plan asks for. -/
theorem plan_multiGet (a : Assignment) (keys : List String) :
    (multiGet keys).plan a = (Router.batchesOf a id keys).map fun batch =>
      ⟨batch.server, .multiGet (batch.items.map (·.1))⟩ := by
  have hbatch : ∀ batch ∈ Router.batchesOf a id keys,
      (⟨batch.server, .multiGet (batch.items.map (·.1))⟩ : Sent) =
        ⟨batch.server, (multiGet keys).share fun key => a.serverOf? key = some batch.server⟩ := by
    intro batch hbatch
    obtain ⟨server, -, rfl, -⟩ := Router.mem_batchesOf.mp hbatch
    rw [Router.map_fst_batchOf]
    rfl
  have howners : a.owners keys = (Router.batchesOf a id keys).map (·.server) := by
    rw [Router.map_server_batchesOf, List.map_id]
  show (a.owners keys).map _ = _
  rw [List.map_congr_left hbatch, howners, List.map_map]
  rfl

/-- The batches of a write are what its plan asks for. -/
theorem plan_multiPut (a : Assignment) {keys values : List String}
    (hlength : keys.length = values.length) :
    (multiPut keys values).plan a = (Router.batchesOf a (·.1) (keys.zip values)).map fun batch =>
      ⟨batch.server, .multiPut (batch.items.map (·.1.1)) (batch.items.map (·.1.2))⟩ := by
  have hbatch : ∀ batch ∈ Router.batchesOf a (·.1) (keys.zip values),
      (⟨batch.server, .multiPut (batch.items.map (·.1.1)) (batch.items.map (·.1.2))⟩ : Sent) =
        ⟨batch.server,
          (multiPut keys values).share fun key => a.serverOf? key = some batch.server⟩ := by
    intro batch hbatch
    obtain ⟨server, -, rfl, -⟩ := Router.mem_batchesOf.mp hbatch
    rw [share, show (Router.batchOf a (·.1) (keys.zip values) server).server = server from rfl,
      ← Router.map_fst_batchOf, List.map_map, List.map_map]
    rfl
  have howners : a.owners keys = (Router.batchesOf a (·.1) (keys.zip values)).map (·.server) := by
    rw [Router.map_server_batchesOf, List.map_fst_zip hlength.le]
  show (a.owners keys).map _ = _
  rw [List.map_congr_left hbatch, howners, List.map_map]
  rfl

/-- A call about one key asks its owner for the call itself. -/
theorem plan_single {a : Assignment} {call : KeyedCall} {key server : String}
    (hmatched : call.Matched) (hkeys : call.keys = [key])
    (howner : a.serverOf? key = some server) : call.plan a = [⟨server, call.request⟩] := by
  rw [plan, hkeys, Assignment.owners_singleton howner, List.map_singleton]
  cases call with
  | multiGet keys =>
      cases hkeys
      simp [share, request, howner]
  | multiPut keys values =>
      cases hkeys
      obtain ⟨value, rfl⟩ := List.length_eq_one_iff.mp hmatched.symm
      simp [share, request, howner]
  | _ => rfl

end KeyedCall

end Keyspace
