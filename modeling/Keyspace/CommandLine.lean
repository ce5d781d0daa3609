/-
# The command line

What the program prints and how it exits, up to the point where a server starts to
listen. Bad arguments show how the program is called; a failed operation shows its
reason.
-/

import Keyspace.Http.Transport
import Keyspace.Router
import Keyspace.Settings

namespace Keyspace

/-- Why a server cannot listen at an address. -/
inductive BindError where
  /-- Another program listens there. -/
  | inUse
  /-- The address is not one of this host. -/
  | notOurs
  | forbidden
  | other (reason : String)
deriving DecidableEq, Repr

/-- The reason as the system gives it, with its number. -/
def BindError.message : BindError → String
  | .inUse => "Address already in use (os error 98)"
  | .notOurs => "Cannot assign requested address (os error 99)"
  | .forbidden => "Permission denied (os error 13)"
  | .other reason => reason

/-- Why a program without privileges cannot listen at an address that is free. Ports below 1024 are
reserved, but for zero, which stands for any free port. -/
def BindError.unprivileged? (address : SocketAddress) : Option BindError :=
  if 0 < address.port ∧ address.port < 1024 then some .forbidden else none

/-- What a run of the program leaves behind. -/
structure ExitReport where
  code : UInt8
  stdout : String
  stderr : String
deriving DecidableEq, Repr

namespace ExitReport

/-- Success, with the lines printed. -/
def done (lines : List String) : ExitReport :=
  ⟨0, String.join (lines.map (· ++ "\n")), ""⟩

/-- Failure for a reason. -/
def failed (reason : String) : ExitReport := ⟨1, "", "Error: " ++ reason ++ "\n"⟩

/-- Refused arguments. -/
def refused : ExitReport := ⟨1, "", usage ++ "\n"⟩

/-- An address that cannot be listened at. -/
def unbound (address : SocketAddress) (error : BindError) : ExitReport :=
  failed ("failed to bind " ++ address.toText ++ "\n\nCaused by:\n    " ++ error.message)

end ExitReport

/-- The line that shows a server with its shards. -/
def assignmentLine (server : String) (shards : List Shard) : String :=
  server ++ " " ++ " ".intercalate (shards.map Shard.toText)

/-- Performs an operation. The lines to print are returned. -/
def ClientOp.perform {m : Type → Type} [Monad m] (router : Router m) :
    ClientOp → Call m (List String)
  | query => do
    return (← router.query).toList.map fun (server, shards) => assignmentLine server shards
  | get key => do return [← router.get key]
  | put key value => do router.put key value; return []
  | append key value => do router.append key value; return []
  | delete key => do return [← router.delete key]
  | multiGet keys => do
    return (keys.zip (← router.multiGet keys)).map fun (key, value) => key ++ "=" ++ value
  | multiPut keys values => do router.multiPut keys values; return []
  | move destination shards => do router.move destination shards; return []

/-- Runs a client over a transport. -/
def ClientSettings.run {m : Type → Type} [Monad m] (settings : ClientSettings)
    (transport : Transport m) : m ExitReport := do
  match ← (settings.op.perform ⟨settings.controller, transport⟩).run with
  | .ok lines => return .done lines
  | .error error => return .failed error.message

end Keyspace
