/-
# Stores that behave as maps

A store is lawful on the states that satisfy some condition if every operation, started
in such a state, does to the contents what it would do to a plain map, answers what the
map would answer, and leaves such a state behind. Nothing else can be seen of a store:
two lawful stores with the same contents give the same answers to every run of calls,
the order of a list of all keys apart, and have the same contents after every call.

The flat store is lawful on all its states.
-/

import Mathlib
import Keyspace.Proofs.Store.Action
import Keyspace.Proofs.Store.Contents
import Keyspace.Store.Flat

namespace Keyspace

open KvStore (contents)

/-- Answers that mean the same: lists of all keys are equal up to their order. -/
def Answer.Same : Answer → Answer → Prop
  | .keys first, .keys second => first.Perm second
  | first, second => first = second

/-- Outcomes that mean the same. -/
def SameOutcome : Except Failure Answer → Except Failure Answer → Prop
  | .ok first, .ok second => first.Same second
  | first, second => first = second

theorem Answer.Same.refl (answer : Answer) : answer.Same answer := by
  cases answer with
  | keys keys => exact List.Perm.refl keys
  | _ => rfl

theorem SameOutcome.refl (outcome : Except Failure Answer) : SameOutcome outcome outcome := by
  cases outcome with
  | ok answer => exact Answer.Same.refl answer
  | error failure => rfl

/-- What a run of calls shows: the outcome of every call, with what the store holds after it. -/
def Operation.trace {σ : Type} [KvStore σ] :
    List Operation → σ → List (Except Failure Answer × Contents)
  | [], _ => []
  | call :: calls, s =>
    let (outcome, t) := call.perform.start s
    (outcome, contents t) :: trace calls t

namespace KvStore

variable {σ τ α β : Type} [KvStore σ] [KvStore τ] {Sound : σ → Prop} {SoundToo : τ → Prop}

/-- An operation ended with an outcome, in a state that satisfies `Sound` and holds `items`. -/
structure Ends (Sound : σ → Prop) (result : Except Failure α × σ) (outcome : Except Failure α)
    (items : Contents) : Prop where
  outcome_eq : result.1 = outcome
  sound : Sound result.2
  contents_eq : contents result.2 = items

/-- In every state that satisfies `Sound` the store behaves as the map of its contents. -/
structure Lawful (Sound : σ → Prop) : Prop where
  get : ∀ {s}, Sound s → ∀ key,
    Ends Sound ((KvStore.get key).start s) (((contents s).lookup key).mapError .refused)
      (contents s)
  put : ∀ {s}, Sound s → ∀ key value,
    Ends Sound ((KvStore.put key value).start s) (.ok ()) ((contents s).insert key value)
  append : ∀ {s}, Sound s → ∀ key value,
    Ends Sound ((KvStore.append key value).start s) (.ok ()) ((contents s).append key value)
  delete : ∀ {s}, Sound s → ∀ key,
    Ends Sound ((KvStore.delete key).start s) (((contents s).lookup key).mapError .refused)
      ((contents s).erase key)
  multiGet : ∀ {s}, Sound s → ∀ keys,
    Ends Sound ((KvStore.multiGet keys).start s)
      ((keys.mapM (contents s).lookup).mapError .refused) (contents s)
  multiPut : ∀ {s}, Sound s → ∀ keys values, keys.length = values.length →
    Ends Sound ((KvStore.multiPut keys values).start s) (.ok ())
      ((contents s).insertMany (keys.zip values))
  multiPut_of_ne : ∀ {s}, Sound s → ∀ keys values, keys.length ≠ values.length →
    Ends Sound ((KvStore.multiPut keys values).start s)
      (.error (.refused (.lengthMismatch keys.length values.length))) (contents s)
  allKeys : ∀ {s}, Sound s → ∃ keys, keys.Perm (contents s).keys ∧
    Ends Sound (KvStore.allKeys.start s) (.ok keys) (contents s)
  len : ∀ {s}, Sound s → Ends Sound (KvStore.len.start s) (.ok (contents s).size) (contents s)

/-- What two stores show of one call agrees, and both go on from sound states with the same
contents. -/
structure Agree (Sound : σ → Prop) (SoundToo : τ → Prop) (first : Except Failure Answer × σ)
    (second : Except Failure Answer × τ) : Prop where
  outcomes : SameOutcome first.1 second.1
  contents_eq : contents first.2 = contents second.2
  sound : Sound first.2
  sound_too : SoundToo second.2

theorem Ends.of_eq {result : Except Failure α × σ} {outcome : Except Failure α} {t : σ}
    {items : Contents} (h : result = (outcome, t)) (hsound : Sound t)
    (hcontents : contents t = items) : Ends Sound result outcome items := by
  rw [h]
  exact ⟨rfl, hsound, hcontents⟩

/-- The outcome of an operation, with the state that it leaves behind. -/
theorem Ends.start_eq {action : Action σ α} {s : σ} {outcome : Except Failure α} {items : Contents}
    (h : Ends Sound (action.start s) outcome items) :
    action.start s = (outcome, (action.start s).2) :=
  Prod.ext h.outcome_eq rfl

theorem Ends.map {action : Action σ α} {s : σ} {outcome : Except Failure α} {items : Contents}
    (h : Ends Sound (action.start s) outcome items) (f : α → β) :
    Ends Sound ((f <$> action).start s) (outcome.map f) items := by
  rw [Action.start_map]
  exact ⟨by rw [h.outcome_eq], h.sound, h.contents_eq⟩

/-- Operations that end in the same way on both stores agree. -/
theorem Ends.agree {s : σ} {t : τ} {action : Action σ α} {action' : Action τ α}
    {outcome : Except Failure α} {items : Contents}
    (h : Ends Sound (action.start s) outcome items)
    (h' : Ends SoundToo (action'.start t) outcome items) (answer : α → Answer) :
    Agree Sound SoundToo ((answer <$> action).start s) ((answer <$> action').start t) := by
  have hmap := h.map answer
  have hmap' := h'.map answer
  refine ⟨?_, hmap.contents_eq.trans hmap'.contents_eq.symm, hmap.sound, hmap'.sound⟩
  rw [hmap.outcome_eq, hmap'.outcome_eq]
  exact SameOutcome.refl _

/-- Lawful stores with the same contents agree on every call. -/
theorem Lawful.agree {s : σ} {t : τ} (h : Lawful Sound) (h' : Lawful SoundToo) (hs : Sound s)
    (ht : SoundToo t) (heq : contents s = contents t) (call : Operation) :
    Agree Sound SoundToo (call.perform.start s) (call.perform.start t) := by
  cases call with
  | get key => exact (h.get hs key).agree (heq ▸ h'.get ht key) _
  | put key value => exact (h.put hs key value).agree (heq ▸ h'.put ht key value) _
  | append key value => exact (h.append hs key value).agree (heq ▸ h'.append ht key value) _
  | delete key => exact (h.delete hs key).agree (heq ▸ h'.delete ht key) _
  | multiGet keys => exact (h.multiGet hs keys).agree (heq ▸ h'.multiGet ht keys) _
  | multiPut keys values =>
      by_cases hlength : keys.length = values.length
      · exact (h.multiPut hs keys values hlength).agree
          (heq ▸ h'.multiPut ht keys values hlength) _
      · exact (h.multiPut_of_ne hs keys values hlength).agree
          (heq ▸ h'.multiPut_of_ne ht keys values hlength) _
  | allKeys =>
      obtain ⟨keys, hkeys, hends⟩ := h.allKeys hs
      obtain ⟨keys', hkeys', hends'⟩ := h'.allKeys ht
      have hmap := hends.map Answer.keys
      have hmap' := hends'.map Answer.keys
      refine ⟨?_, ?_, hmap.sound, hmap'.sound⟩
      · show SameOutcome ((Answer.keys <$> KvStore.allKeys).start s).1
          ((Answer.keys <$> KvStore.allKeys).start t).1
        rw [hmap.outcome_eq, hmap'.outcome_eq]
        exact hkeys.trans (heq ▸ hkeys'.symm)
      · exact hmap.contents_eq.trans (heq.trans hmap'.contents_eq.symm)
  | len => exact (h.len hs).agree (heq ▸ h'.len ht) _
  | isEmpty => exact (h.len hs).agree (heq ▸ h'.len ht) _

/-- Lawful stores with the same contents cannot be told apart by any run of calls. -/
theorem Lawful.forall₂_trace {s : σ} {t : τ} (h : Lawful Sound) (h' : Lawful SoundToo)
    (hs : Sound s) (ht : SoundToo t) (heq : contents s = contents t) (calls : List Operation) :
    List.Forall₂ (fun first second => SameOutcome first.1 second.1 ∧ first.2 = second.2)
      (Operation.trace calls s) (Operation.trace calls t) := by
  induction calls generalizing s t with
  | nil => exact .nil
  | cons call calls ih =>
      have hagree := h.agree h' hs ht heq call
      exact .cons ⟨hagree.outcomes, hagree.contents_eq⟩
        (ih hagree.sound hagree.sound_too hagree.contents_eq)

end KvStore

/-! ## The flat store -/

namespace FlatStore

theorem start_get (store : FlatStore) (key : String) :
    (get key).start store = ((store.items.lookup key).mapError .refused, store) := by
  rw [get, Action.start_bind_ok Action.start_get, Action.start_ofResult]

theorem start_delete (store : FlatStore) (key : String) :
    (delete key).start store =
      ((store.items.lookup key).mapError .refused, ⟨store.items.erase key⟩) := by
  have hget := start_get store key
  by_cases hmem : key ∈ store.items
  · rw [Contents.lookup_of_mem hmem] at hget ⊢
    rw [delete, Action.start_bind_ok hget]
    rfl
  · rw [Contents.lookup_of_not_mem hmem] at hget ⊢
    rw [delete, Action.start_bind_error hget, Contents.erase_of_not_mem hmem]
    rfl

theorem start_multiGet (store : FlatStore) (keys : List String) :
    (multiGet keys).start store = ((keys.mapM store.items.lookup).mapError .refused, store) := by
  rw [multiGet, Action.start_bind_ok Action.start_get, Action.start_ofResult]

theorem start_multiPut (store : FlatStore) {keys values : List String}
    (hlength : keys.length = values.length) :
    (multiPut keys values).start store =
      (.ok (), ⟨store.items.insertMany (keys.zip values)⟩) := by
  rw [multiPut, if_pos hlength]
  rfl

theorem start_multiPut_of_ne (store : FlatStore) {keys values : List String}
    (hlength : keys.length ≠ values.length) :
    (multiPut keys values).start store =
      (.error (.refused (.lengthMismatch keys.length values.length)), store) := by
  rw [multiPut, if_neg hlength]
  rfl

/-- The flat store is a map. -/
theorem lawful : KvStore.Lawful fun _ : FlatStore => True where
  get := fun _ key => .of_eq (start_get _ key) trivial rfl
  put := fun _ _ _ => ⟨rfl, trivial, rfl⟩
  append := fun _ _ _ => ⟨rfl, trivial, rfl⟩
  delete := fun _ key => .of_eq (start_delete _ key) trivial rfl
  multiGet := fun _ keys => .of_eq (start_multiGet _ keys) trivial rfl
  multiPut := fun _ _ _ hlength => .of_eq (start_multiPut _ hlength) trivial rfl
  multiPut_of_ne := fun _ _ _ hlength => .of_eq (start_multiPut_of_ne _ hlength) trivial rfl
  allKeys := fun _ => ⟨_, List.Perm.refl _, rfl, trivial, rfl⟩
  len := fun _ => ⟨rfl, trivial, rfl⟩

end FlatStore

end Keyspace
