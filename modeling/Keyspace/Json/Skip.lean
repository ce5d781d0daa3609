/-
# Values that nobody wants

A field that the reader does not know is passed over. Only its form as JSON is
checked: texts need not be UTF-8, numbers may be too great for any type, and values
may be nested to any depth, because what stays open is kept in a list.
-/

import Keyspace.Json.Number
import Keyspace.Json.Quoted

namespace Keyspace.Json

/-- A bracket that is still open. -/
inductive Frame where
  | list
  | map
deriving DecidableEq, Repr

/-- The byte that closes what is open. -/
def Frame.close : Frame → UInt8
  | .list => ascii ']'
  | .map => ascii '\x7d'

namespace Reader

/-- Passes over a key and the colon after it. -/
def skipKey : Reader Unit := do
  token (ascii '"')
  skipQuoted .plain
  token (ascii ':')

/-- Passes over a value without parts, or over the bracket that opens one with parts. -/
def skipAtom : Reader (Option Frame) := do
  match ← peek with
  | none => throw .truncated
  | some b =>
    if b = ascii '[' then skip; pure (some .list)
    else if b = ascii '\x7b' then skip; pure (some .map)
    else if b = ascii '"' then skip; skipQuoted .plain; pure none
    else if b = ascii 'n' then exactly (utf8 "null"); pure none
    else if b = ascii 't' then exactly (utf8 "true"); pure none
    else if b = ascii 'f' then exactly (utf8 "false"); pure none
    else if b = ascii '-' ∨ isDigit b then
      let _ ← scanNumeral .malformed
      pure none
    else throw .malformed

/-- Passes over what follows a complete value inside `frames` up to the next value. The frames
that are then open are returned; without any, the outermost value is complete. -/
def skipClosings (bound : List UInt8) (frames : List Frame) : Reader (List Frame) := do
  match bound, frames with
  | _, [] => pure []
  | [], _ => throw .truncated
  | _ :: bound, frame :: outer =>
    match ← peek with
    | none => throw .truncated
    | some b =>
      if b = ascii ',' then
        skip
        if frame = .map then skipKey
        pure frames
      else if b = frame.close then
        skip
        skipClosings bound outer
      else throw .malformed

/-- Passes over values until none of `frames` is open. Every step reads at least one byte, and so
`bound` ends the recursion but never cuts it short. -/
def skipValues (bound : List UInt8) (frames : List Frame) : Reader Unit := do
  match bound with
  | [] => throw .truncated
  | _ :: rest =>
    let frames ←
      match ← skipAtom with
      | none => skipClosings bound frames
      | some frame => do
        match ← peek with
        | none => throw .truncated
        | some b =>
          if b = frame.close then
            skip
            skipClosings bound frames
          else
            if frame = .map then skipKey
            pure (frame :: frames)
    if frames.isEmpty then pure () else skipValues rest frames

/-- Passes over one value of any kind. -/
def skipValue : Reader Unit := fun input => skipValues input [] input

end Reader

end Keyspace.Json
