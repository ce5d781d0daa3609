/-
# The flat store

One map for everything. Its operations are what the other stores have to agree with.
-/

import Keyspace.Store.Basic

namespace Keyspace

/-- A store that is a single map. -/
structure FlatStore where
  items : Contents
deriving DecidableEq

namespace FlatStore

/-- A store without keys. -/
def empty : FlatStore := ⟨∅⟩

/-- Looks a key up that must be there. -/
def get (key : String) : Action FlatStore String := do
  Action.ofResult ((← MonadState.get).items.lookup key)

/-- Gives a key a value. -/
def put (key value : String) : Action FlatStore Unit :=
  modify fun store => ⟨store.items.insert key value⟩

/-- Appends to the value of a key. -/
def append (key value : String) : Action FlatStore Unit :=
  modify fun store => ⟨store.items.append key value⟩

/-- Removes a key that must be there and returns the value it had. -/
def delete (key : String) : Action FlatStore String := do
  let value ← get key
  modify fun store => ⟨store.items.erase key⟩
  pure value

/-- Looks several keys up, in their order. The first one that is absent is reported. -/
def multiGet (keys : List String) : Action FlatStore (List String) := do
  let store ← MonadState.get
  Action.ofResult (keys.mapM store.items.lookup)

/-- Gives every key the value at its position. Of a repeated key the last value counts. -/
def multiPut (keys values : List String) : Action FlatStore Unit :=
  if keys.length = values.length then
    modify fun store => ⟨store.items.insertMany (keys.zip values)⟩
  else
    Action.refuse (.lengthMismatch keys.length values.length)

/-- Every key. -/
def allKeys : Action FlatStore (List String) := do
  return (← MonadState.get).items.keys

/-- The number of keys. -/
def len : Action FlatStore Nat := do
  return (← MonadState.get).items.size

end FlatStore

instance : KvStore FlatStore where
  get := FlatStore.get
  put := FlatStore.put
  append := FlatStore.append
  delete := FlatStore.delete
  multiGet := FlatStore.multiGet
  multiPut := FlatStore.multiPut
  allKeys := FlatStore.allKeys
  len := FlatStore.len
  contents store := store.items

end Keyspace
