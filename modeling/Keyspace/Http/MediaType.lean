/-
# Media types

The content type of a request names a type and a subtype, for instance
`application/json`, and may go on with parameters. What stands behind the last plus sign
of a subtype is its suffix. A body counts as JSON if its type is `application` and its
subtype or its suffix is `json`, whatever the case of the letters and whatever the
parameters; but the parameters have to be well-formed.
-/

namespace Keyspace.Http

/-- The characters that names and unquoted values are made of. -/
def isToken (c : Char) : Bool :=
  c.isAlphanum || "!#$%&'*+-.^_`|~".toList.contains c

/-- The characters that a quoted value may hold. -/
def isQuotable (c : Char) : Bool :=
  0x20 ≤ c.toNat && c.toNat ≠ 0x7f

/-- Where a scanner of parameters stands. -/
inductive ParameterCursor where
  /-- Before a name, where spaces may stand. -/
  | start
  /-- Inside a name. -/
  | name
  /-- Behind the equals sign. -/
  | valueStart
  /-- Inside an unquoted value that is not empty. -/
  | value
  /-- Behind the quote that opens a value. -/
  | quotedStart
  /-- Inside a quoted value that is not empty. -/
  | quoted
  /-- Behind the quote that closes a value. -/
  | closed

/-- The characters are well-formed parameters, up to their end. -/
def areParameters : ParameterCursor → List Char → Bool
  | .start, [] | .valueStart, [] | .value, [] | .closed, [] => true
  | .name, [] | .quotedStart, [] | .quoted, [] => false
  | .start, c :: rest =>
    if c = ' ' then areParameters .start rest
    else isToken c && areParameters .name rest
  | .name, c :: rest =>
    if c = '=' then areParameters .valueStart rest
    else isToken c && areParameters .name rest
  | .valueStart, c :: rest =>
    if c = '"' then areParameters .quotedStart rest
    else isToken c && areParameters .value rest
  | .value, c :: rest =>
    if c = ';' then areParameters .start rest
    else isToken c && areParameters .value rest
  | .quotedStart, c :: rest => isQuotable c && areParameters .quoted rest
  | .quoted, c :: rest =>
    if c = '"' then areParameters .closed rest
    else isQuotable c && areParameters .quoted rest
  | .closed, c :: rest =>
    if c = ';' then areParameters .start rest
    else c = ' ' && areParameters .closed rest

/-- The text in lower case is `json`. -/
def isJsonName (text : List Char) : Bool :=
  String.ofList (text.map Char.toLower) = "json"

/-- The subtype before its last plus sign, if it has one behind its first character, and what
stands behind that sign. -/
def splitSuffix (subtype : List Char) : List Char × Option (List Char) :=
  let suffix := (subtype.reverse.takeWhile (· ≠ '+')).reverse
  let stem := subtype.take (subtype.length - suffix.length - 1)
  if stem.isEmpty ∨ suffix.length = subtype.length then (subtype, none) else (stem, some suffix)

/-- The content type says that a body is JSON. -/
def isJson (contentType : String) : Bool :=
  let (type, rest) := contentType.toList.span (· ≠ '/')
  let (subtype, parameters) := (rest.drop 1).span (· ≠ ';')
  let (stem, suffix) := splitSuffix subtype
  contentType.toList.all (·.toNat < 0x7f) && !rest.isEmpty && type.all isToken &&
    String.ofList (type.map Char.toLower) = "application" &&
    !subtype.isEmpty && subtype.all isToken && areParameters .start (parameters.drop 1) &&
    (isJsonName stem || suffix.any isJsonName)

end Keyspace.Http
