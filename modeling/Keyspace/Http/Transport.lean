/-
# Requests over HTTP

Over HTTP every request is one POST of its body to its endpoint. An address may be a
bare host or already spelled as a URL; slashes at the end of such a URL do not matter.

What a request comes to depends on the reply alone. A success is read for the verb of
the request, and a body that cannot be read is the fault of the server. Any other reply
is a report of a failure, or else the exchange as a whole has failed.
-/

import Keyspace.Http.App
import Keyspace.Transport
import Keyspace.Url

namespace Keyspace.Http

/-- The address without the slashes at its end. -/
def trimSlashes (address : String) : String :=
  String.ofList (address.toList.reverse.dropWhile (· = '/')).reverse

/-- The address is spelled as a URL. -/
def isUrl (address : String) : Bool :=
  "http://".toList.isPrefixOf address.toList || "https://".toList.isPrefixOf address.toList

/-- The URL of an endpoint at an address. -/
def url (address endpoint : String) : String :=
  if isUrl address then trimSlashes address ++ endpoint
  else "http://" ++ address ++ endpoint

/-- What a request to an address comes to: a reply, or the reason why there is none. -/
def outcome (address : String) (verb : Verb) : Except String Reply → KvResult Response
  | .error reason => .error (.transport address reason)
  | .ok reply =>
    if reply.status.isSuccess then
      match Response.decode verb reply.body with
      | .ok response => .ok response
      | .error error => .error (.remote address ("malformed response: " ++ error.message))
    else
      match ErrorReport.form.read.decode reply.body with
      | .ok report => .ok (.error report)
      | .error _ => .error (.transport address ("unexpected status " ++ reply.status.toText))

/-- A network that posts JSON to a URL. Without a reply it gives the reason. -/
structure Network (m : Type → Type) where
  post : (url : String) → (body : List UInt8) → m (Except String Reply)

/-- The transport over a network. -/
def Network.transport {m : Type → Type} [Monad m] (network : Network m) : Transport m where
  send address request := ExceptT.mk do
    return outcome address request.verb (← network.post (url address request.endpoint) request.body)

/-- The reason that a network gives where nobody answers at a URL, or where nothing can be asked
for at it. -/
def unreachable (url : String) : String :=
  match Url.ofText? url with
  | none => "builder error"
  | some url =>
    let shown := url.redacted
    let reason := if shown.isRequestable then "error sending request" else "builder error"
    reason ++ " for url (" ++ shown.toText ++ ")"

/-- A network where nobody answers. -/
def Network.silent {m : Type → Type} [Monad m] : Network m where
  post url _ := pure (.error (unreachable url))

end Keyspace.Http
