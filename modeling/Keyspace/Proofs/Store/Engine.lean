/-
# Engines are maps

An engine passes every operation on to the store that it is made of. It is sound if that
store is, and then it behaves as the map of its contents.
-/

import Mathlib
import Keyspace.Proofs.Store.Striped
import Keyspace.Store.Engine

namespace Keyspace.Engine

open KvStore (contents)

/-- The store that the engine is made of is between two operations. -/
def Sound : Engine → Prop
  | striped store => store.Sound
  | simple _ => True

/-- An engine as it is made: without keys, on one map or on any number of buckets. -/
inductive Fresh : Engine → Prop
  | striped {hash : String → UInt64} {count : Nat} {store : BucketStore}
      (h : BucketStore.ofCount hash count = .ok store) : Fresh (.striped store)
  | simple : Fresh (.simple FlatStore.empty)

/-- A fresh engine is sound and empty. -/
theorem Fresh.sound_and_empty {engine : Engine} (h : engine.Fresh) :
    engine.Sound ∧ contents engine = ∅ := by
  cases h with
  | simple => exact ⟨trivial, rfl⟩
  | striped h => exact BucketStore.sound_and_empty_of_ofCount h

/-- An operation that does to the contents of every lawful store what it would do to a map does so
to those of an engine. -/
theorem ends_perform {α : Type} {action : (σ : Type) → [KvStore σ] → Action σ α} {engine : Engine}
    (outcome : Contents → Except Failure α) (change : Contents → Contents)
    (h : ∀ {σ : Type} [KvStore σ] {Sound : σ → Prop}, KvStore.Lawful Sound → ∀ {s}, Sound s →
      KvStore.Ends Sound ((action σ).start s) (outcome (contents s)) (change (contents s)))
    (hsound : engine.Sound) :
    KvStore.Ends Sound ((perform action).start engine) (outcome (contents engine))
      (change (contents engine)) := by
  cases engine with
  | striped store =>
      have hends := h BucketStore.lawful hsound
      exact ⟨hends.outcome_eq, hends.sound, hends.contents_eq⟩
  | simple store =>
      have hends := h FlatStore.lawful (s := store) trivial
      exact ⟨hends.outcome_eq, hends.sound, hends.contents_eq⟩

/-- What reads the contents of every store, and changes none, reads those of an engine and does not
change it. -/
theorem start_perform {α : Type} {action : (σ : Type) → [KvStore σ] → Action σ α}
    {engine : Engine} (outcome : Contents → Except Failure α)
    (hstriped : ∀ store : BucketStore, store.Sound →
      (action BucketStore).start store = (outcome store.contents, store))
    (hsimple : ∀ store : FlatStore, (action FlatStore).start store = (outcome store.items, store))
    (hsound : engine.Sound) :
    (perform action).start engine = (outcome (contents engine), engine) := by
  cases engine with
  | striped store =>
      rw [perform, Action.start_ofStart]
      simp only [hstriped store hsound]
      rfl
  | simple store =>
      rw [perform, Action.start_ofStart]
      simp only [hsimple store]
      rfl

theorem start_get {engine : Engine} (h : engine.Sound) (key : String) :
    (KvStore.get key : Action Engine String).start engine =
      (((contents engine).lookup key).mapError .refused, engine) :=
  start_perform (fun items => (items.lookup key).mapError .refused)
    (fun _ hstore => BucketStore.start_get hstore key)
    (fun store => FlatStore.start_get store key) h

theorem start_multiGet {engine : Engine} (h : engine.Sound) (keys : List String) :
    (KvStore.multiGet keys : Action Engine (List String)).start engine =
      ((keys.mapM (contents engine).lookup).mapError .refused, engine) :=
  start_perform (fun items => (keys.mapM items.lookup).mapError .refused)
    (fun _ hstore => BucketStore.start_multiGet hstore keys)
    (fun store => FlatStore.start_multiGet store keys) h

/-- An engine is a map. -/
theorem lawful : KvStore.Lawful Sound where
  get := fun h key => .of_eq (start_get h key) h rfl
  put := fun h key value =>
    ends_perform (fun _ => .ok ()) (·.insert key value)
      (fun lawful _ hs => lawful.put hs key value) h
  append := fun h key value =>
    ends_perform (fun _ => .ok ()) (·.append key value)
      (fun lawful _ hs => lawful.append hs key value) h
  delete := fun h key =>
    ends_perform (fun items => (items.lookup key).mapError .refused) (·.erase key)
      (fun lawful _ hs => lawful.delete hs key) h
  multiGet := fun h keys => .of_eq (start_multiGet h keys) h rfl
  multiPut := fun h keys values hlength =>
    ends_perform (fun _ => .ok ()) (·.insertMany (keys.zip values))
      (fun lawful _ hs => lawful.multiPut hs keys values hlength) h
  multiPut_of_ne := fun h keys values hlength =>
    ends_perform (fun _ => .error (.refused (.lengthMismatch keys.length values.length))) id
      (fun lawful _ hs => lawful.multiPut_of_ne hs keys values hlength) h
  allKeys := by
    intro engine h
    cases engine with
    | striped store =>
        obtain ⟨keys, hperm, hends⟩ := BucketStore.lawful.allKeys h
        exact ⟨keys, hperm, hends.outcome_eq, hends.sound, hends.contents_eq⟩
    | simple store =>
        obtain ⟨keys, hperm, hends⟩ := FlatStore.lawful.allKeys (s := store) trivial
        exact ⟨keys, hperm, hends.outcome_eq, hends.sound, hends.contents_eq⟩
  len := fun h =>
    ends_perform (fun items => .ok items.size) id (fun lawful _ hs => lawful.len hs) h

end Keyspace.Engine
