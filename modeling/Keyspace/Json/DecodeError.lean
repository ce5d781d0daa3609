/-
# Why a JSON text was refused

A JSON text is read from left to right for a given type of value, and the first
problem met decides. Either the text ended too early, or it is not JSON, or it is
JSON so far but not what the type asks for.
-/

import Keyspace.Text.Inspect

namespace Keyspace.Json

/-- What stands in the text where a value of another type was expected. Numbers are kept as
they are quoted in a message. -/
inductive Found where
  | null
  | boolean (value : Bool)
  | integer (numeral : String)
  | floatingPoint (numeral : String)
  | text (value : String)
  | sequence
  | map
deriving DecidableEq, Repr

/-- How a message names what was found. -/
def Found.describe : Found → String
  | .null => "null"
  | .boolean true => "boolean `true`"
  | .boolean false => "boolean `false`"
  | .integer numeral => "integer `" ++ numeral ++ "`"
  | .floatingPoint numeral => "floating point `" ++ numeral ++ "`"
  | .text value => "string " ++ Text.inspect value
  | .sequence => "sequence"
  | .map => "map"

/-- How well-formed JSON fails to be of the type read. -/
inductive Mismatch where
  | wrongType (found : Found) (expected : String)
  | outOfRange (found : Found) (expected : String)
  | tooShort (length : Nat) (expected : String)
  | missingField (field : String)
  | duplicateField (field : String)
  | unknownVariant (variant : String) (known : List String)
deriving DecidableEq, Repr

/-- The text of a mismatch. -/
def Mismatch.message : Mismatch → String
  | .wrongType found expected => "invalid type: " ++ found.describe ++ ", expected " ++ expected
  | .outOfRange found expected => "invalid value: " ++ found.describe ++ ", expected " ++ expected
  | .tooShort length expected => "invalid length " ++ toString length ++ ", expected " ++ expected
  | .missingField field => "missing field `" ++ field ++ "`"
  | .duplicateField field => "duplicate field `" ++ field ++ "`"
  | .unknownVariant variant known =>
    "unknown variant `" ++ variant ++ "`, expected one of " ++
      ", ".intercalate (known.map fun name => "`" ++ name ++ "`")

/-- Why a JSON text was refused. -/
inductive DecodeError where
  /-- The text ended in the middle of a value. -/
  | truncated
  /-- The text is not JSON. -/
  | malformed
  /-- The text is JSON up to here, but not of the type read. -/
  | unsuitable (reason : Mismatch)
deriving DecidableEq, Repr

/-- The text of a refusal. -/
def DecodeError.message : DecodeError → String
  | .truncated => "unexpected end of text"
  | .malformed => "not JSON"
  | .unsuitable reason => reason.message

end Keyspace.Json
