/-
# Maps from characters to texts

A map from characters to texts is a list of runs. A run takes evenly spaced characters
to characters that are spaced likewise, or a single character to any text. It is written
down as text too: `41-5a>61` takes each capital letter to its small one, `100-12e/2>101`
takes every other character from U+0100 on to the one behind it, and `132>69.6a` takes a
ligature to two letters.
-/

import Keyspace.Text.Numeral
import Keyspace.Text.Split

namespace Keyspace.Text

/-- Every `step`-th character from `first` to `last` with its target, which is `target` for the
first and moves on with the character for the others. -/
structure CharacterRun where
  first : Nat
  last : Nat
  step : Nat
  target : List Nat
deriving DecidableEq, Repr

namespace CharacterRun

/-- The target of a character of the run. -/
def find? (run : CharacterRun) (c : Char) : Option (List Char) :=
  let offset := c.toNat - run.first
  if run.first ≤ c.toNat ∧ c.toNat ≤ run.last ∧ offset % run.step = 0 then
    some (run.target.map fun code => Char.ofNat (code + offset))
  else none

/-- Reads a run: its characters in hexadecimal, an arrow head, and the first target, whose
characters have points between them. -/
def read? (word : List Char) : Option CharacterRun := do
  let (source, target) ← splitOnce '>' word
  let (source, step) := (splitOnce '/' source).getD (source, ['1'])
  let (first, last) := (splitOnce '-' source).getD (source, source)
  let target := if target.isEmpty then [] else splitAll '.' target
  return ⟨← readBase? 16 first, ← readBase? 16 last, ← readBase? 16 step,
    ← target.mapM (readBase? 16)⟩

end CharacterRun

/-- A map from characters to texts. Its runs ascend by their first characters. -/
structure CharacterMap where
  runs : List CharacterRun
deriving DecidableEq, Repr

namespace CharacterMap

/-- What a character is taken to, by the first run that has it. Runs that start behind the
character need no look. -/
def find? (map : CharacterMap) (c : Char) : Option (List Char) :=
  go map.runs
where
  /-- Looks at the runs from here on. -/
  go : List CharacterRun → Option (List Char)
    | [] => none
    | run :: runs => if c.toNat < run.first then none else run.find? c <|> go runs

/-- The first character of a run with exactly this target, for maps whose runs are single
characters. -/
def source? (map : CharacterMap) (target : List Char) : Option Char :=
  let codes := target.map Char.toNat
  (map.runs.find? (·.target = codes)).map fun run => Char.ofNat run.first

/-- The map of the runs in a text. -/
def ofText (text : String) : CharacterMap := ⟨(words text.toList).filterMap CharacterRun.read?⟩

end CharacterMap

end Keyspace.Text
