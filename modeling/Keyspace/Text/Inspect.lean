/-
# Inspected values

Inspection shows a value with its structure, for messages that quote what was
received. A text stands in double quotes with its special characters escaped, a
record shows its name and its fields, and a variant wraps what it carries.
-/

import Keyspace.Text.Unprintable

namespace Keyspace.Text

/-- A character inside an inspected text. A single quote stands as it is. -/
def inspectChar (c : Char) : String :=
  match c with
  | '\x00' => "\\0"
  | '\t' => "\\t"
  | '\n' => "\\n"
  | '\r' => "\\r"
  | '"' => "\\\""
  | '\\' => "\\\\"
  | c =>
    if c ∈ unprintable then
      "\\u\x7b" ++ String.ofList (Nat.toDigits 16 c.toNat) ++ "\x7d"
    else c.toString

/-- A text in double quotes, escaped. -/
def inspect (text : String) : String :=
  "\"" ++ String.join (text.toList.map inspectChar) ++ "\""

/-- A list of inspected items. -/
def inspectList (items : List String) : String :=
  "[" ++ ", ".intercalate items ++ "]"

/-- Inspected keys with their inspected values. -/
def inspectMap (entries : List (String × String)) : String :=
  "\x7b" ++ ", ".intercalate (entries.map fun (key, value) => key ++ ": " ++ value) ++ "\x7d"

/-- A record with its fields in order; one without fields is only its name. -/
def inspectRecord (name : String) (fields : List (String × String)) : String :=
  if fields.isEmpty then name
  else
    let items := fields.map fun (field, value) => field ++ ": " ++ value
    name ++ " \x7b " ++ ", ".intercalate items ++ " \x7d"

/-- A variant around the one inspected value that it carries. -/
def inspectVariant (name value : String) : String :=
  name ++ "(" ++ value ++ ")"

/-- An optional value. -/
def inspectOption : Option String → String
  | none => "None"
  | some value => inspectVariant "Some" value

end Keyspace.Text
