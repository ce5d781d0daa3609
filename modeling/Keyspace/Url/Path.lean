/-
# Paths

A path is a list of segments, each behind a slash. Two segments are not names but steps:
a point stays where it is, and two points go back by one segment. Points may be escaped.
Steps are taken while a path is read, so none is left in it. A backslash counts as a
slash.

A segment that names a drive, by a letter and a colon or a bar, is never left again.
-/

import Keyspace.Text.Split
import Keyspace.Url.Escape

namespace Keyspace.Url

/-- Both slashes separate segments. -/
def isSlash (c : Char) : Bool := c = '/' || c = '\\'

/-- What is escaped in a path besides controls and characters outside of ASCII. -/
def pathSpecial : String := " \"#<>?`\x7b\x7d"

/-- The steps that a path may take. -/
inductive Step where
  | stay
  | back
  | down (segment : List Char)
deriving DecidableEq, Repr

/-- The points of a segment that consists of points alone, escaped or not. -/
def points? : List Char → Option Nat
  | [] => some 0
  | '.' :: rest => (points? rest).map (· + 1)
  | '%' :: '2' :: e :: rest => if e = 'e' ∨ e = 'E' then (points? rest).map (· + 1) else none
  | _ => none

/-- What an escaped segment means. -/
def Step.ofSegment (segment : List Char) : Step :=
  match points? segment with
  | some 1 => .stay
  | some 2 => .back
  | _ => .down segment

/-- The segment names a drive. -/
def isDrive : List Char → Bool
  | [letter, mark] => letter.isAlpha && (mark = ':' || mark = '|')
  | _ => false

/-- Leaves the nearest of the segments behind, unless it names a drive. -/
def leave : List (List Char) → List (List Char)
  | [] => []
  | segment :: segments => if isDrive segment then segment :: segments else segments

/-- Takes a step from where `segments` lead, the nearest first. -/
def Step.take (segments : List (List Char)) : Step → List (List Char)
  | .stay => segments
  | .back => leave segments
  | .down segment => segment :: segments

/-- The segments that a path leads to with all its steps taken. A step at its end leads to a segment
without a name. -/
def resolve (segments : List (List Char)) : List (List Char) :=
  let steps := segments.map Step.ofSegment
  let reached := steps.foldl Step.take []
  match steps.getLast? with
  | some (.down _) => reached.reverse
  | _ => ([] :: reached).reverse

/-- Reads a path, with or without its first slash. -/
def readPath (text : List Char) : List Char :=
  let text := text.map fun c => if isSlash c then '/' else c
  let text := if text.head? = some '/' then text.drop 1 else text
  let segments := (Text.splitAll '/' text).map (escape pathSpecial)
  (resolve segments).flatMap ('/' :: ·)

end Keyspace.Url
