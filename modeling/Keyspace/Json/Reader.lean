/-
# Reading JSON from bytes

A reader takes a value from the front of a list of bytes and leaves the rest. It
never looks back, so the first problem met decides how a text is refused. Blanks may
stand in front of every token; `peek` skips them and shows the byte that comes next
without reading it.
-/

import Keyspace.Json.DecodeError

namespace Keyspace.Json

/-- The bytes of a text in UTF-8. -/
def utf8 (text : String) : List UInt8 := text.toUTF8.data.toList

/-- The byte of an ASCII character. -/
abbrev ascii (c : Char) : UInt8 := c.toUInt8

/-- JSON knows four blanks. -/
def isBlank (b : UInt8) : Bool :=
  b == 0x20 || b == 0x0a || b == 0x09 || b == 0x0d

/-- The byte is an ASCII digit. -/
def isDigit (b : UInt8) : Bool := 0x30 ≤ b && b ≤ 0x39

/-- Takes a value from the front of a text and leaves the rest. -/
abbrev Reader := StateT (List UInt8) (Except DecodeError)

namespace Reader

variable {α : Type}

/-- Skips blanks. The byte after them, if there is one, stays unread. -/
def peek : Reader (Option UInt8) := fun input =>
  let rest := input.dropWhile isBlank
  .ok (rest.head?, rest)

/-- Reads one byte, whatever it is. -/
def skip : Reader Unit := fun input => .ok ((), input.tail)

/-- Reads exactly the given bytes. -/
def exactly : List UInt8 → Reader Unit
  | [], input => .ok ((), input)
  | _ :: _, [] => .error .truncated
  | w :: word, b :: rest => if b = w then exactly word rest else .error .malformed

/-- Reads the byte `b` behind blanks. -/
def token (b : UInt8) : Reader Unit := do
  match ← peek with
  | none => throw .truncated
  | some found => if found = b then skip else throw .malformed

/-- Refuses a text that is JSON but not of the type read. -/
def unsuitable (reason : Mismatch) : Reader α := throw (.unsuitable reason)

/-- Whether a list goes on after its opening bracket or after an element. The bracket that
closes it stays unread. -/
def nextElement (first : Bool) : Reader Bool := do
  match ← peek with
  | none => throw .truncated
  | some b =>
    if b = ascii ']' then pure false
    else if first then pure true
    else if b = ascii ',' then
      skip
      match ← peek with
      | none => throw .truncated
      | some b => if b = ascii ']' then throw .malformed else pure true
    else throw .malformed

/-- Whether a map goes on after its opening brace or after a member. The brace that closes it
stays unread; if it goes on, so does the quote that opens the next key. -/
def nextMember (first : Bool) : Reader Bool := do
  match ← peek with
  | none => throw .truncated
  | some b =>
    if b = ascii '\x7d' then pure false
    else if first then
      if b = ascii '"' then pure true else throw .malformed
    else if b = ascii ',' then
      skip
      match ← peek with
      | none => throw .truncated
      | some b => if b = ascii '"' then pure true else throw .malformed
    else throw .malformed

end Reader

end Keyspace.Json
