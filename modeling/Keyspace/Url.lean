/-
# URLs

A URL names the server that a request goes to and what is asked of it. Reading a URL
brings it into one form: the host in the characters that it is looked up by, or as the
canonical text of its address, the port only where it differs from that of the scheme, a
path without steps, and escapes for what cannot stand as it is.

Tabs and line breaks do not count. Slashes of either kind in front of the server are
passed over, however many there are.
-/

import Keyspace.Url.Host
import Keyspace.Url.Path

namespace Keyspace

/-- The escaped name and password in front of a host. Either is empty where there is none. -/
structure Credentials where
  name : String
  password : String
deriving DecidableEq, Repr

/-- Where a request goes and what it asks for. -/
structure Url where
  /-- The connection has to be encrypted. -/
  secure : Bool
  credentials : Credentials
  host : Host
  port : UInt16
  path : String
  query : Option String
  fragment : Option String
deriving DecidableEq, Repr

namespace Credentials

/-- What is escaped in credentials besides controls and characters outside of ASCII. -/
def special : String := " \"#<>?`\x7b\x7d/:;=@[\\]^|"

/-- Reads what stands in front of the host. The first colon is the one behind the name. -/
def read (text : List Char) : Credentials :=
  let (name, password) := (Text.splitOnce ':' text).getD (text, [])
  let written (part : List Char) := String.ofList (Url.escape special part)
  ⟨written name, written password⟩

/-- The text of credentials, with the sign that separates them from the host. -/
def toText (credentials : Credentials) : String :=
  let password := if credentials.password.isEmpty then "" else ":" ++ credentials.password
  let text := credentials.name ++ password
  if text.isEmpty then "" else text ++ "@"

/-- The escapes stand for text: those of the name, and those of the password if there is no name. -/
def isText (credentials : Credentials) : Bool :=
  let isText (part : String) := (Url.unescapeText? part.toList).isSome
  isText credentials.name && (!credentials.name.isEmpty || isText credentials.password)

end Credentials

namespace Url

/-! ## Reading -/

/-- The port of a scheme. -/
def defaultPort (secure : Bool) : UInt16 := if secure then 443 else 80

/-- What is escaped in a query besides controls and characters outside of ASCII. -/
def querySpecial : String := " \"#<>'"

/-- What is escaped in a fragment besides controls and characters outside of ASCII. -/
def fragmentSpecial : String := " \"<>`"

/-- The scheme of a URL, and what stands behind its colon. -/
def readScheme? (url : List Char) : Option (Bool × List Char) :=
  if "https:".toList.isPrefixOf url then some (true, url.drop 6)
  else if "http:".toList.isPrefixOf url then some (false, url.drop 5)
  else none

/-- The characters up to the first colon outside of brackets, and those behind it. -/
def splitPort (inside : Bool) : List Char → List Char × List Char
  | [] => ([], [])
  | c :: rest =>
    if c = ':' ∧ !inside then ([], rest)
    else
      let (host, port) := splitPort (c = '[' || (inside && c ≠ ']')) rest
      (c :: host, port)

/-- Reads the text of a port. An empty one stands for the port of the scheme. -/
def readPort? (secure : Bool) : List Char → Option UInt16
  | [] => some (defaultPort secure)
  | text =>
    match Text.readDigits 0xffff 0 text with
    | .ok port => some port.toUInt16
    | .error _ => none

/-- A text up to the character `mark`, and what stands behind it if it is there. -/
def cutAt (mark : Char) (text : List Char) : List Char × Option (List Char) :=
  match Text.splitOnce mark text with
  | some (before, after) => (before, some after)
  | none => (text, none)

/-- Reads a URL. The last `@` of the server is the one in front of the host. -/
def ofText? (text : String) : Option Url := do
  let text := text.toList.filter fun c => c ≠ '\t' ∧ c ≠ '\n' ∧ c ≠ '\r'
  let (secure, rest) ← readScheme? text
  let rest := rest.dropWhile isSlash
  let server := rest.takeWhile fun c => !isSlash c && c ≠ '?' && c ≠ '#'
  let hostText := (server.reverse.takeWhile (· ≠ '@')).reverse
  let credentials := server.take (server.length - hostText.length - 1)
  let (hostText, portText) := splitPort false hostText
  let host ← Host.read? hostText
  let port ← readPort? secure portText
  let (rest, fragment) := cutAt '#' (rest.drop server.length)
  let (path, query) := cutAt '?' rest
  let written (special : String) (part : List Char) := String.ofList (escape special part)
  return {
    secure, host, port
    credentials := .read credentials
    path := String.ofList (readPath path)
    query := query.map (written querySpecial)
    fragment := fragment.map (written fragmentSpecial) }

/-! ## Writing -/

/-- The host with its port, where the scheme does not tell it. -/
def server (url : Url) : String :=
  if url.port = defaultPort url.secure then url.host.toText
  else url.host.toText ++ ":" ++ toString url.port.toNat

/-- What the server is asked for. The fragment is not for the server. -/
def target (url : Url) : String :=
  match url.query with
  | none => url.path
  | some query => url.path ++ "?" ++ query

/-- The text of a URL. -/
def toText (url : Url) : String :=
  let fragment := match url.fragment with
    | none => ""
    | some fragment => "#" ++ fragment
  (if url.secure then "https://" else "http://") ++ url.credentials.toText ++ url.server ++
    url.target ++ fragment

/-- The URL without credentials that are text, which nobody but the server should see. -/
def redacted (url : Url) : Url :=
  if url.credentials.isText then { url with credentials := ⟨"", ""⟩ } else url

/-- The greatest length of a URL that can be requested. -/
def lengthLimit : Nat := 65534

/-- The URL can be requested: its host can stand in a request, and it is not too long. -/
def isRequestable (url : Url) : Bool :=
  !url.host.toText.any ("\"`\x7b\x7d".toList.contains ·) && url.toText.length ≤ lengthLimit

end Url

end Keyspace
