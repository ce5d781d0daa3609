/-
# Settings

What the program is to do, as its arguments and its environment say. The first argument
is the mode. Behind it a server or a controller takes flags, each with its value; a
client takes the words of one operation, with its one flag anywhere between them. A
setting that no flag gives is taken from the environment, and one that is not there
either has a default. Of a repeated flag the last value counts, and a value that does
not count is never looked at.
-/

import Keyspace.Shard.Text
import Keyspace.SocketAddress
import Keyspace.Store.Engine

namespace Keyspace

open Keyspace.Text (NumeralError)

/-! ## Defaults and names -/

/-- Where a server listens if nothing says otherwise. -/
def defaultServerBind : String := "127.0.0.1:7000"
/-- Where a controller listens, and is looked for, if nothing says otherwise. -/
def defaultControllerBind : String := "127.0.0.1:6000"

/-- The settings that can be given in the environment. -/
inductive Variable where
  | bind
  | buckets
  | engine
  | servers
  | controller
deriving DecidableEq, Repr

/-- The name of an environment variable. -/
def Variable.name : Variable → String
  | .bind => "SHARDKV_BIND"
  | .buckets => "SHARDKV_BUCKETS"
  | .engine => "SHARDKV_ENGINE"
  | .servers => "SHARDKV_SERVERS"
  | .controller => "SHARDKV_CONTROLLER"

/-- The values of environment variables. -/
abbrev Environment := Variable → Option String

/-- How the program is called. -/
def usage : String :=
  "Usage:
  shardkv server     --bind <addr:port> [--buckets <n>] [--engine striped|simple]
  shardkv controller --bind <addr:port> --server <addr:port> [--server <addr:port> ...]
  shardkv client     --controller <addr:port> <op> [args...]

Client ops:
  query
  get <key>
  put <key> <value>
  append <key> <value>
  delete <key>
  multiget <key> [<key> ...]
  multiput <key>=<value> [<key>=<value> ...]
  move <dest addr:port> <lower>-<upper> [<lower>-<upper> ...]"

/-! ## What can be wrong with the arguments -/

/-- Why arguments were refused. -/
inductive UsageError where
  | missingCommand
  | unknownCommand (word : String)
  | missingValue (flag : String)
  | unexpectedServerArgument (word : String)
  | unexpectedControllerArgument (word : String)
  | invalidBind
  | invalidBuckets (cause : NumeralError)
  | noBuckets
  | unknownEngine (word : String)
  | noServers
  | missingOperation
  | malformedOperation (word : String)
  | malformedPair (word : String)
  | malformedShard (cause : Shard.TextError)
deriving DecidableEq, Repr

/-- The text of a refusal. -/
def UsageError.message : UsageError → String
  | .missingCommand => "missing command"
  | .unknownCommand word => "unknown command '" ++ word ++ "'"
  | .missingValue flag => flag ++ " requires a value"
  | .unexpectedServerArgument word => "unexpected server argument '" ++ word ++ "'"
  | .unexpectedControllerArgument word => "unexpected controller argument '" ++ word ++ "'"
  | .invalidBind => "invalid --bind address: invalid socket address syntax"
  | .invalidBuckets cause => "invalid --buckets: " ++ cause.message
  | .noBuckets => "--buckets must be positive"
  | .unknownEngine word => "unknown engine '" ++ word ++ "' (expected striped or simple)"
  | .noServers => "controller needs at least one --server"
  | .missingOperation => "missing client operation"
  | .malformedOperation word => "malformed '" ++ word ++ "' operation"
  | .malformedPair word => "expected <key>=<value>, got '" ++ word ++ "'"
  | .malformedShard cause => cause.message

/-! ## Settings of the three modes -/

/-- What a storage server is told. -/
structure ServerSettings where
  bind : SocketAddress
  buckets : Nat
  engine : EngineKind
deriving DecidableEq, Repr

/-- What a controller is told. -/
structure ControllerSettings where
  bind : SocketAddress
  servers : List String
deriving DecidableEq, Repr

/-- One operation of a client. -/
inductive ClientOp where
  | query
  | get (key : String)
  | put (key value : String)
  | append (key value : String)
  | delete (key : String)
  | multiGet (keys : List String)
  | multiPut (keys values : List String)
  | move (destination : String) (shards : List Shard)
deriving DecidableEq, Repr

/-- What a client is told. -/
structure ClientSettings where
  controller : String
  op : ClientOp
deriving DecidableEq, Repr

/-- What the program is to do. -/
inductive Command where
  | server (settings : ServerSettings)
  | controller (settings : ControllerSettings)
  | client (settings : ClientSettings)
deriving DecidableEq, Repr

/-! ## Reading flags -/

/-- Flags with their values, in the order given. -/
abbrev Flags := List (String × String)

/-- Reads arguments that consist of the given flags and their values. Any other argument fails
with what `unexpected` says of it. -/
def readFlags (known : List String) (unexpected : String → UsageError) :
    List String → Except UsageError Flags
  | [] => .ok []
  | [word] => .error (if word ∈ known then .missingValue word else unexpected word)
  | word :: value :: rest =>
    if word ∈ known then (readFlags known unexpected rest).map ((word, value) :: ·)
    else .error (unexpected word)

/-- All values of a flag, in the order given. -/
def Flags.values (flags : Flags) (flag : String) : List String :=
  flags.filterMap fun (word, value) => if word = flag then some value else none

/-- The value that counts: the last of the flag, or else that of the environment. -/
def Flags.effective? (flags : Flags) (flag : String) (fallback : Option String) : Option String :=
  (flags.values flag).getLast? <|> fallback

/-- The greatest number of buckets that can be asked for. -/
def maxBuckets : Nat := UInt64.size - 1

/-- Reads the address to listen at. -/
def readBind (text : String) : Except UsageError SocketAddress :=
  match SocketAddress.ofText? text with
  | some address => .ok address
  | none => .error .invalidBind

/-- Reads a number of buckets, of which there must be one. -/
def readBuckets (text : String) : Except UsageError Nat :=
  match Text.readNumeral maxBuckets text.toList with
  | .error cause => .error (.invalidBuckets cause)
  | .ok 0 => .error .noBuckets
  | .ok count => .ok count

/-- Reads the name of an engine. -/
def readEngine (text : String) : Except UsageError EngineKind :=
  match text with
  | "striped" => .ok .striped
  | "simple" => .ok .simple
  | other => .error (.unknownEngine other)

/-! ## Reading the three modes -/

/-- Reads the arguments of a server. -/
def readServer (arguments : List String) (env : Environment) :
    Except UsageError ServerSettings := do
  let flags ← readFlags ["--bind", "--buckets", "--engine"] .unexpectedServerArgument arguments
  let bind ← readBind ((flags.effective? "--bind" (env .bind)).getD defaultServerBind)
  let buckets ←
    match flags.effective? "--buckets" (env .buckets) with
    | some text => readBuckets text
    | none => pure defaultBucketCount
  let engine ←
    match flags.effective? "--engine" (env .engine) with
    | some text => readEngine text
    | none => pure .striped
  pure ⟨bind, buckets, engine⟩

/-- The names in a list of servers: the parts between commas, without blanks around them and
without empty ones. -/
def readServerList (text : String) : List String :=
  (((Text.splitAll ',' text.toList).map Text.trim).filter (!·.isEmpty)).map String.ofList

/-- Reads the arguments of a controller. -/
def readController (arguments : List String) (env : Environment) :
    Except UsageError ControllerSettings := do
  let flags ← readFlags ["--bind", "--server"] .unexpectedControllerArgument arguments
  let servers :=
    match flags.values "--server" with
    | [] => ((env .servers).map readServerList).getD []
    | servers => servers
  if servers.isEmpty then throw .noServers
  let bind ← readBind ((flags.effective? "--bind" (env .bind)).getD defaultControllerBind)
  pure ⟨bind, servers⟩

/-- The words of a client call, and the values of its flag. -/
def readWords : List String → Except UsageError (List String × List String)
  | [] => .ok ([], [])
  | [word] => if word = "--controller" then .error (.missingValue word) else .ok ([word], [])
  | word :: next :: rest =>
    if word = "--controller" then
      (readWords rest).map fun (words, values) => (words, next :: values)
    else (readWords (next :: rest)).map fun (words, values) => (word :: words, values)

/-- Reads a key and a value with an equals sign between them. The first one counts. -/
def readPair (word : String) : Except UsageError (String × String) :=
  match Text.splitOnce '=' word.toList with
  | some (key, value) => .ok (String.ofList key, String.ofList value)
  | none => .error (.malformedPair word)

/-- Reads a shard to be moved. -/
def readShard (word : String) : Except UsageError Shard :=
  (Shard.ofText word).mapError .malformedShard

/-- Reads the words of an operation. -/
def readOp : List String → Except UsageError ClientOp
  | ["query"] => .ok .query
  | ["get", key] => .ok (.get key)
  | ["put", key, value] => .ok (.put key value)
  | ["append", key, value] => .ok (.append key value)
  | ["delete", key] => .ok (.delete key)
  | "multiget" :: key :: keys => .ok (.multiGet (key :: keys))
  | "multiput" :: pair :: pairs => do
    let pairs ← (pair :: pairs).mapM readPair
    pure (.multiPut (pairs.map (·.1)) (pairs.map (·.2)))
  | "move" :: destination :: shard :: shards => do
    pure (.move destination (← (shard :: shards).mapM readShard))
  | [] => .error .missingOperation
  | word :: _ => .error (.malformedOperation word)

/-- Reads the arguments of a client. -/
def readClient (arguments : List String) (env : Environment) :
    Except UsageError ClientSettings := do
  let (words, controllers) ← readWords arguments
  let controller := (controllers.getLast? <|> env .controller).getD defaultControllerBind
  pure ⟨controller, ← readOp words⟩

/-- Reads the arguments of the program. -/
def Command.ofArguments (arguments : List String) (env : Environment) :
    Except UsageError Command :=
  match arguments with
  | [] => .error .missingCommand
  | "server" :: rest => .server <$> readServer rest env
  | "controller" :: rest => .controller <$> readController rest env
  | "client" :: rest => .client <$> readClient rest env
  | word :: _ => .error (.unknownCommand word)

end Keyspace
