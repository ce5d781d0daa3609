/-
# Locks

A lock lets any number of holders share what it guards, or a single one have it for
itself. A lock that nobody holds is shared by none.
-/

namespace Keyspace

/-- How a holder may use what a lock guards. -/
inductive Access where
  | shared
  | exclusive
deriving DecidableEq, Repr

/-- Who holds a lock at present. -/
inductive Lock where
  | shared (holders : Nat)
  | exclusive
deriving DecidableEq, Repr

namespace Lock

/-- Held by nobody. -/
def free : Lock := shared 0

/-- The lock with one holder more; none if that has to wait. -/
def acquire? : Access → Lock → Option Lock
  | .shared, shared holders => some (shared (holders + 1))
  | .exclusive, shared 0 => some exclusive
  | _, _ => none

/-- The lock with one holder less. -/
def release : Access → Lock → Lock
  | .shared, shared holders => shared (holders - 1)
  | .exclusive, exclusive => free
  | _, lock => lock

/-- The lock can be had at once. -/
def available (access : Access) (lock : Lock) : Bool := (lock.acquire? access).isSome

/-- Releasing a lock takes back what acquiring it did. -/
theorem release_of_acquire {access : Access} {lock held : Lock}
    (h : lock.acquire? access = some held) : held.release access = lock := by
  cases access <;> rcases lock with (_ | _) | _ <;> cases h <;> rfl

end Lock

end Keyspace
