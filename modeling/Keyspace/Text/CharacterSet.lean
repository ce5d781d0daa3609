/-
# Sets of characters

A property of characters is the set of those that have it. Such sets are mostly runs of
neighbours, so a set is a list of ranges of code points. It is written down as text:
`300-36f 483` holds the characters from U+0300 to U+036F and the one at U+0483.
-/

import Keyspace.Text.Numeral
import Keyspace.Text.Split

namespace Keyspace.Text

/-- A set of characters. The ranges of code points ascend and include both of their bounds. -/
structure CharacterSet where
  ranges : List (Nat × Nat)
deriving DecidableEq, Repr

namespace CharacterSet

/-- A code point is in one of ascending ranges. Those behind it need no look. -/
def inRanges (code : Nat) : List (Nat × Nat) → Bool
  | [] => false
  | (first, last) :: ranges => first ≤ code && (code ≤ last || inRanges code ranges)

/-- A set holds the characters of its ranges. -/
instance : Membership Char CharacterSet where
  mem set c := inRanges c.toNat set.ranges = true

instance (c : Char) (set : CharacterSet) : Decidable (c ∈ set) :=
  inferInstanceAs (Decidable (inRanges c.toNat set.ranges = true))

/-- Reads a range: its bounds in hexadecimal with a dash between them, or a single code point. -/
def readRange? (word : List Char) : Option (Nat × Nat) :=
  match splitOnce '-' word with
  | some (first, last) => do return (← readBase? 16 first, ← readBase? 16 last)
  | none => (readBase? 16 word).map fun code => (code, code)

/-- The set of the ranges in a text. -/
def ofText (text : String) : CharacterSet := ⟨(words text.toList).filterMap readRange?⟩

end CharacterSet

end Keyspace.Text
