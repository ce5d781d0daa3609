/-
# Services over HTTP

A service is reached by posting the JSON body of a request to the endpoint of its verb.
A request is checked in a fixed order: the path, the method, the content type, the size
of the body, and then the body itself. The first check that fails decides the status,
and the service never hears of a request that fails one.
-/

import Keyspace.Http.MediaType
import Keyspace.Http.Status
import Keyspace.Message.Form
import Keyspace.Service

namespace Keyspace.Http

/-- A request as it arrives. The target is a path with an optional query behind it, and may have a
scheme and a server in front. -/
structure HttpRequest where
  method : String
  target : String
  contentType : Option String
  body : List UInt8

/-- A reply as it is sent. -/
structure Reply where
  status : Status
  body : List UInt8
deriving DecidableEq, Repr

/-- The greatest size of a body, in bytes. -/
def bodyLimit : Nat := 2097152

/-- The characters that the name of a scheme is made of. -/
def isSchemeCharacter (c : Char) : Bool := c.isAlphanum || c = '+' || c = '-' || c = '.'

/-- The character does not begin a query or a fragment. -/
def isBeforeQuery (c : Char) : Bool := c ≠ '?' && c ≠ '#'

/-- What stands behind the server in a target that begins with a scheme. -/
def behindServer? (target : List Char) : Option (List Char) :=
  match target.dropWhile isSchemeCharacter with
  | ':' :: '/' :: '/' :: rest => some (rest.dropWhile fun c => c ≠ '/' && isBeforeQuery c)
  | _ => none

/-- The path of a target. A target with a server and nothing behind it asks for the root. -/
def HttpRequest.path (request : HttpRequest) : String :=
  let target := request.target.toList
  let path := ((behindServer? target).getD target).takeWhile isBeforeQuery
  if path.isEmpty then "/" else String.ofList path

/-- Posts the body of a request as JSON. -/
def HttpRequest.ofRequest (request : Request) : HttpRequest :=
  ⟨"POST", request.endpoint, some "application/json", request.body⟩

/-- The request that a service of `role` is asked, or the status with which it is turned away. -/
def HttpRequest.decode (role : Verb.Role) (request : HttpRequest) : Except Status Request := do
  let some verb := Verb.ofPath? role request.path | throw 404
  if request.method ≠ "POST" then throw 405
  if !request.contentType.any isJson then throw 415
  if bodyLimit < request.body.length then throw 413
  match (Request.read verb).decodeFront request.body with
  | .ok decoded => pure decoded
  | .error (.unsuitable _) => throw 422
  | .error _ => throw 400

/-- The reply that carries a response. -/
def Reply.ofResponse (response : Response) : Reply :=
  match response with
  | .error report => ⟨Status.ofKind report.kind, response.body⟩
  | _ => ⟨200, response.body⟩

/-- Answers a request through the service. -/
def handle {σ : Type} [Service σ] (request : HttpRequest) : Action σ Reply :=
  match request.decode (Service.role σ) with
  | .error status => pure ⟨status, []⟩
  | .ok decoded =>
    match Service.serve? decoded with
    | none => pure ⟨404, []⟩
    | some action => Reply.ofResponse <$> action.reported

end Keyspace.Http
