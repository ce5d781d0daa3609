/-
# HTTP messages as bytes

A message is a head and a body. The head is one line that says what the message is
about, then a line for each header, and it ends at the first empty line. The body is as
long as its header says; without one a request has no body, and the body of a reply goes
on until its sender closes the connection. Every connection carries one exchange.

Messages come in piece by piece. `arrive` looks at all that was received so far and says
whether the message is complete, and a message that was written is complete only with its
last byte.
-/

import Keyspace.Http.App
import Keyspace.Text.Blank
import Keyspace.Text.Split

namespace Keyspace.Http

open Keyspace.Json (utf8)

/-- How much of a message was received. -/
inductive Arrival (α : Type) where
  | incomplete
  /-- No more bytes can make this a message. -/
  | broken
  | complete (message : α)
deriving DecidableEq, Repr

/-- The greatest size of a head, in bytes. -/
def headLimit : Nat := 65536

/-- The bytes in front of the first empty line, and those behind it. -/
def splitHead : List UInt8 → Option (List UInt8 × List UInt8)
  | 0x0d :: 0x0a :: 0x0d :: 0x0a :: body => some ([], body)
  | b :: rest => (splitHead rest).map fun (head, body) => (b :: head, body)
  | [] => none

/-- The first line of a message, by its words, and its headers. Their names are in lower case. -/
structure Head where
  words : List String
  headers : List (String × String)
deriving DecidableEq, Repr

namespace Head

/-- The lines of a head, each byte one character. -/
def lines (bytes : List UInt8) : List (List Char) :=
  (Text.splitAll '\n' (bytes.map fun b => Char.ofNat b.toNat)).map fun line =>
    line.filter (· ≠ '\r')

/-- Reads a header. -/
def readHeader (line : List Char) : Option (String × String) :=
  (Text.splitOnce ':' line).map fun (name, value) =>
    (String.ofList (name.map Char.toLower), String.ofList (Text.trim value))

/-- Reads a head. -/
def ofBytes? (bytes : List UInt8) : Option Head :=
  match lines bytes with
  | [] => none
  | first :: rest => do
    let headers ← rest.mapM readHeader
    return ⟨(Text.splitAll ' ' first).map String.ofList, headers⟩

/-- The value of a header. -/
def find? (head : Head) (name : String) : Option String := head.headers.lookup name

/-- The length of the body, if the head tells it. Bodies sent in chunks are not understood. -/
def bodyLength (head : Head) : Except Unit (Option Nat) :=
  if (head.find? "transfer-encoding").isSome then .error ()
  else
    match head.find? "content-length" with
    | none => .ok none
    | some text =>
      match Text.readNumeral UInt64.size text.toList with
      | .ok length => .ok (some length)
      | .error _ => .error ()

end Head

/-- Looks for a head, and leaves the rest of the message to `body`. -/
def arriveHead {α : Type} (received : List UInt8) (body : Head → List UInt8 → Arrival α) :
    Arrival α :=
  match splitHead received with
  | none => if headLimit < received.length then .broken else .incomplete
  | some (head, rest) =>
    match Head.ofBytes? head with
    | none => .broken
    | some head => body head rest

namespace HttpRequest

/-- The request in the bytes received so far. Of a body that is too large only so much is waited
for as shows that it is. -/
def arrive (received : List UInt8) : Arrival HttpRequest :=
  arriveHead received fun head rest =>
    match head.words, head.bodyLength with
    | [method, target, _], .ok length =>
      let size := min (length.getD 0) (bodyLimit + 1)
      if size ≤ rest.length then
        .complete ⟨method, target, head.find? "content-type", rest.take size⟩
      else .incomplete
    | _, _ => .broken

/-- The bytes of a request to a server. -/
def write (server : String) (request : HttpRequest) : List UInt8 :=
  let contentType :=
    match request.contentType with
    | none => ""
    | some value => "content-type: " ++ value ++ "\r\n"
  utf8 (request.method ++ " " ++ request.target ++ " HTTP/1.1\r\nhost: " ++ server ++ "\r\n" ++
    contentType ++ "content-length: " ++ toString request.body.length ++
    "\r\nconnection: close\r\n\r\n") ++ request.body

end HttpRequest

namespace Reply

/-- The reply in the bytes received so far. `closed` says that no more will come. -/
def arrive (closed : Bool) (received : List UInt8) : Arrival Reply :=
  arriveHead received fun head rest =>
    match head.words, head.bodyLength with
    | _ :: code :: _, .ok length =>
      match Text.readNumeral 999 code.toList, length with
      | .error _, _ => .broken
      | .ok status, some size =>
        if size ≤ rest.length then .complete ⟨status, rest.take size⟩ else .incomplete
      | .ok status, none => if closed then .complete ⟨status, rest⟩ else .incomplete
    | _, _ => .broken

/-- The bytes of a reply. -/
def write (reply : Reply) : List UInt8 :=
  let contentType := if reply.body.isEmpty then "" else "content-type: application/json\r\n"
  utf8 ("HTTP/1.1 " ++ reply.status.toText ++ "\r\n" ++ contentType ++ "content-length: " ++
    toString reply.body.length ++ "\r\nconnection: close\r\n\r\n") ++ reply.body

end Reply

end Keyspace.Http
