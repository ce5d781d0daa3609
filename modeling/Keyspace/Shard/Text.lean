/-
# Shards as text

A shard is written as its two bounds in decimal with a dash between them. It is read
back from the same form, with white space around either bound allowed. A shard whose
bounds are out of order can be written but not read.
-/

import Keyspace.Shard
import Keyspace.Text.Blank
import Keyspace.Text.Numeral
import Keyspace.Text.Split

namespace Keyspace.Shard

open Keyspace.Text (NumeralError)

/-- The bounds in decimal with a dash between them. -/
def toText (s : Shard) : String :=
  toString s.lower.toNat ++ "-" ++ toString s.upper.toNat

instance : ToString Shard := ⟨toText⟩

/-- Why a text is not a shard. Every cause quotes the text as it was given. -/
inductive TextError where
  | noDash (text : String)
  | lowerBound (text : String) (cause : NumeralError)
  | upperBound (text : String) (cause : NumeralError)
  | outOfOrder (text : String)
deriving DecidableEq, Repr

/-- The text of a refusal. -/
def TextError.message : TextError → String
  | .noDash text => "expected <lower>-<upper>, got '" ++ text ++ "'"
  | .lowerBound text cause => "bad lower bound '" ++ text ++ "': " ++ cause.message
  | .upperBound text cause => "bad upper bound '" ++ text ++ "': " ++ cause.message
  | .outOfOrder text => "lower bound exceeds upper bound in '" ++ text ++ "'"

/-- A bound of a shard, with white space around it allowed. -/
def readBound (text : List Char) : Except NumeralError UInt32 :=
  (Text.readNumeral maxHash.toNat (Text.trim text)).map UInt32.ofNat

/-- Reads a shard. The text is cut at its first dash, so a bound never has a minus sign. -/
def ofText (text : String) : Except TextError Shard :=
  match Text.splitOnce '-' text.toList with
  | none => .error (.noDash text)
  | some (lower, upper) =>
    match readBound lower with
    | .error cause => .error (.lowerBound (String.ofList lower) cause)
    | .ok l =>
      match readBound upper with
      | .error cause => .error (.upperBound (String.ofList upper) cause)
      | .ok u => if l ≤ u then .ok ⟨l, u⟩ else .error (.outOfOrder text)

end Keyspace.Shard
