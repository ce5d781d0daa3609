/-
# Replies that take their time

A peer may take its time to reply. What waits for it is an attempt: whenever it is polled it
has come to its outcome, or there is nothing yet and it has to be polled again. Several attempts
can be under way together. They are polled in rounds, each round in their order, until all have
come to a value or one of them has failed.

How often something is polled is bounded by a patience. Once there is an outcome, more patience
makes no difference.
-/

import Keyspace.Transport

namespace Keyspace

/-- A call that may not have come to its outcome yet. Over a transport that may put off replies,
every call is of this kind: to send a request again is to poll for its reply. -/
abbrev Attempt (m : Type → Type) := Call (OptionT m)

/-- The call as an attempt that needs to be polled only once. -/
def Call.prompt {m : Type → Type} [Monad m] {α : Type} (call : Call m α) : Attempt m α :=
  ExceptT.mk (OptionT.lift (ExceptT.run call))

/-- A transport that never puts off a reply. -/
def Transport.prompt {m : Type → Type} [Monad m] (transport : Transport m) :
    Transport (OptionT m) where
  send address request := (transport.send address request).prompt

namespace Attempt

variable {m : Type → Type} [Monad m] {α : Type}

/-- Polls an attempt that is started in `state`: the outcome if there is one yet, and the state
that is left behind. -/
def start {σ : Type} (attempt : Attempt (StateM σ) α) (state : σ) : Option (KvResult α) × σ :=
  (OptionT.run (ExceptT.run attempt)).run state

/-- There is nothing yet. -/
def pending : Attempt m α := ExceptT.mk (OptionT.mk (pure none))

/-- Polls an attempt for its value. A failure is a failure of the poll. -/
def poll (attempt : Attempt m α) : Call m (Option α) :=
  ExceptT.mk do
    match ← OptionT.run (ExceptT.run attempt) with
    | none => return .ok none
    | some outcome => return outcome.map some

/-- Polls an attempt until there is an outcome. -/
def await : (patience : Nat) → Attempt m α → Attempt m α
  | 0, _ => pending
  | patience + 1, attempt => do
    match ← attempt.poll.prompt with
    | some value => pure value
    | none => await patience attempt

/-- One of several attempts that are under way together, with its value once there is one. -/
structure Slot (m : Type → Type) (α : Type) where
  attempt : Attempt m α
  value? : Option α

/-- Polls for a value that is still missing. -/
def Slot.poll (slot : Slot m α) : Call m (Slot m α) :=
  match slot.value? with
  | some _ => pure slot
  | none => do return { slot with value? := ← slot.attempt.poll }

/-- Polls for the missing values in rounds until all values are there. A failure ends it at once,
and what is still missing is given up. -/
def rounds : (patience : Nat) → List (Slot m α) → Attempt m (List α)
  | 0, _ => pending
  | patience + 1, slots => do
    let slots ← Call.prompt (slots.mapM Slot.poll)
    match slots.mapM (·.value?) with
    | some values => pure values
    | none => rounds patience slots

/-- The values of several attempts, in their order. -/
def joinAll (patience : Nat) (attempts : List (Attempt m α)) : Attempt m (List α) :=
  rounds patience (attempts.map fun attempt => ⟨attempt, none⟩)

end Attempt

end Keyspace
