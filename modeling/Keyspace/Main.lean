/-
# The program

Reads the command line and does what it says. A server or a controller listens at its
address and answers one request on each connection until it is stopped; a client makes
its calls, prints what came of them, and ends. All that is decided is decided elsewhere:
here bytes are only moved between sockets and the library.
-/

import Keyspace.CommandLine
import Keyspace.Http.Wire
import Std.Async.DNS
import Std.Async.TCP

namespace Keyspace.Program

open Std.Async (Async)

/-- One end of a connection. -/
abbrev Connection := Std.Async.TCP.Socket.Client

/-- A socket that connections are made to. -/
abbrev Listener := Std.Async.TCP.Socket.Server

/-- Receives from a connection until `arrive` has a message. It is told whether the peer has closed
its side. -/
partial def receive {α : Type} (connection : Connection)
    (arrive : Bool → List UInt8 → Http.Arrival α) (received : List UInt8) : Async (Option α) := do
  match arrive false received with
  | .complete message => return some message
  | .broken => return none
  | .incomplete =>
    match ← connection.recv? 65536 with
    | some bytes => receive connection arrive (received ++ bytes.toList)
    | none =>
      match arrive true received with
      | .complete message => return some message
      | _ => return none

/-- An address of a host together with a port. -/
def endpointAt (port : UInt16) : Std.Net.IPAddr → Std.Net.SocketAddress
  | .v4 address => .v4 ⟨address, port⟩
  | .v6 address => .v6 ⟨address, port⟩

/-- The address in the form that sockets take it. -/
def endpointOf : SocketAddress → Std.Net.SocketAddress
  | .v4 octets port => .v4 ⟨⟨octets⟩, port⟩
  | .v6 groups _ port => .v6 ⟨⟨groups⟩, port⟩

/-! ## Clients -/

/-- The addresses that a host may be reached at. -/
def endpoints (host : Host) (port : UInt16) : Async (List Std.Net.SocketAddress) := do
  match host with
  | .v4 octets => return [endpointOf (.v4 octets port)]
  | .v6 groups => return [endpointOf (.v6 groups 0 port)]
  | .name ascii => return (← Std.Async.DNS.getAddrInfo ascii "").toList.map (endpointAt port)

/-- Connects to the first of the addresses that accepts. -/
def connect : List Std.Net.SocketAddress → Async Connection
  | [] => throw (IO.userError "nobody accepts a connection")
  | endpoint :: rest => do
    try
      let connection ← Std.Async.TCP.Socket.Client.mk
      connection.connect endpoint
      return connection
    catch _ => connect rest

/-- One exchange with the server of a URL. -/
def exchange (url : Url) (body : List UInt8) : Async (Option Http.Reply) := do
  let request : Http.HttpRequest := ⟨"POST", url.target, some "application/json", body⟩
  let connection ← connect (← endpoints url.host url.port)
  connection.send ⟨(request.write url.server).toArray⟩
  receive connection Http.Reply.arrive []

/-- The network that this host is connected to. Encrypted connections are not supported. Every reply
is waited for, so that to a client it is there at once. -/
def hostNetwork : Http.Network IO where
  post text body := do
    let silence := .error (Http.unreachable text)
    match (Url.ofText? text).filter fun url => !url.secure && url.redacted.isRequestable with
    | none => return silence
    | some url =>
      try
        match ← (exchange url body).block with
        | some reply => return .ok reply
        | none => return silence
      catch _ => return silence

/-! ## Servers -/

/-- Answers the request on a connection and closes it. -/
def answer {σ : Type} [Service σ] (state : IO.Ref σ) (connection : Connection) : Async Unit := do
  let request ← receive connection (fun _ => Http.HttpRequest.arrive) []
  let reply ←
    match request with
    | none => pure (some ⟨400, []⟩)
    | some request =>
      let outcome ← state.modifyGet fun service => (Http.handle request).start service
      pure outcome.toOption
  if let some reply := reply then
    connection.send ⟨(Http.Reply.write reply).toArray⟩
  connection.shutdown

/-- Answers connections for as long as the program runs. -/
partial def serve {σ : Type} [Service σ] (state : IO.Ref σ) (listener : Listener) : Async Unit := do
  let connection ← listener.accept
  Std.Async.background (answer state connection : Async Unit)
  serve state listener

/-- Why listening failed. -/
def bindError : IO.Error → BindError
  | .resourceBusy _ _ => .inUse
  | .unsupportedOperation _ _ => .notOurs
  | .permissionDenied _ _ _ => .forbidden
  | error => .other (toString error)

/-- Lets a service listen at an address. Only a failure to do so ends it. -/
def listen {σ : Type} [Service σ] (service : σ) (address : SocketAddress) : IO ExitReport := do
  let state ← IO.mkRef service
  let listener ← Std.Async.TCP.Socket.Server.mk
  try
    listener.bind (endpointOf address)
    listener.listen 1024
  catch error => return .unbound address (bindError error)
  (serve state listener).block
  return .done []

/-! ## The command line -/

/-- The environment of this process. -/
def processEnvironment : IO Environment := do
  let read (v : Variable) := IO.getEnv v.name
  let (bind, buckets, engine) := (← read .bind, ← read .buckets, ← read .engine)
  let (servers, controller) := (← read .servers, ← read .controller)
  return fun
    | .bind => bind
    | .buckets => buckets
    | .engine => engine
    | .servers => servers
    | .controller => controller

/-- Does what the arguments say. -/
def run (arguments : List String) : IO ExitReport := do
  match Command.ofArguments arguments (← processEnvironment) with
  | .error _ => return .refused
  | .ok (.server settings) =>
    match Engine.ofKind settings.engine settings.buckets with
    | .ok engine => listen engine settings.bind
    | .error fault => return .failed fault.message
  | .ok (.controller settings) => listen (Controller.ofServers settings.servers) settings.bind
  | .ok (.client settings) => settings.run hostNetwork.transport

end Keyspace.Program

/-- Prints what came of the arguments and exits. -/
def main (arguments : List String) : IO UInt32 := do
  let report ← Keyspace.Program.run arguments
  IO.print report.stdout
  IO.eprint report.stderr
  return report.code.toUInt32
