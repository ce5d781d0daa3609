/-
# Socket addresses

A socket address is an IP address with a port. Version 4 addresses are four decimal
octets; version 6 addresses stand in brackets and are eight groups of hexadecimal
digits, of which one run of zeros may be left out and the last two may be written as a
version 4 address, with an optional decimal scope behind a percent sign.

An address is shown in one canonical form: without leading zeros, and with the longest
run of at least two zero groups left out, the first of several as long.
-/

import Keyspace.Text.Numeral

namespace Keyspace

/-- An IP address with a port. -/
inductive SocketAddress where
  | v4 (octets : Vector UInt8 4) (port : UInt16)
  | v6 (groups : Vector UInt16 8) (scope : UInt32) (port : UInt16)
deriving DecidableEq, Repr

namespace SocketAddress

/-- The port. -/
def port : SocketAddress → UInt16
  | v4 _ port => port
  | v6 _ _ port => port

/-! ## Reading -/

/-- Takes a value from the front of a text and leaves the rest; fails without a reason. -/
abbrev Scan := StateT (List Char) Option

namespace Scan

/-- Reads one given character. -/
def char (c : Char) : Scan Unit := fun
  | d :: rest => if d = c then some ((), rest) else none
  | [] => none

/-- Reads a number with at least one digit and at most as many as `most` says. It must not exceed
`bound`, and where `zeros` does not hold it must have no needless zero in front. -/
def number (base bound : Nat) (most : Option Nat) (zeros : Bool) : Scan Nat := fun input =>
  let digits := input.takeWhile fun c => (Text.digitOf? base c).isSome
  let values := digits.filterMap (Text.digitOf? base)
  let value := Text.ofDigits base values
  let tooMany := match most with
    | some most => most < digits.length
    | none => false
  let needlessZero := !zeros && values.head? = some 0 && 1 < digits.length
  if digits.isEmpty || tooMany || needlessZero || bound < value then none
  else some (value, input.drop digits.length)

/-- The value of the scan, or none without having read anything. -/
def attempt {α : Type} (scan : Scan α) : Scan (Option α) := fun input =>
  match scan input with
  | some (value, rest) => some (some value, rest)
  | none => some (none, input)

/-- Reads four octets. -/
def octets : Scan (Vector UInt8 4) := do
  let octet := Nat.toUInt8 <$> number 10 0xff (some 3) false
  let a ← octet; char '.'
  let b ← octet; char '.'
  let c ← octet; char '.'
  let d ← octet
  pure #v[a, b, c, d]

/-- The group of two octets. -/
def groupOf (high low : UInt8) : UInt16 := high.toUInt16 * 256 + low.toUInt16

/-- The two groups that a version 4 address stands for. -/
def groupsOf (octets : Vector UInt8 4) : List UInt16 :=
  [groupOf octets[0] octets[1], groupOf octets[2] octets[3]]

/-- Reads groups with colons between them, up to `limit`. A version 4 address counts as two groups
and is the last; whether there was one is returned with the groups. -/
def groups (limit : Nat) (first : Bool) : Scan (List UInt16 × Bool) := do
  match limit with
  | 0 => pure ([], false)
  | limit + 1 =>
    let colon : Scan Unit := if first then pure () else char ':'
    let embedded ← if 0 < limit then attempt (do colon; octets) else pure none
    match embedded with
    | some octets => pure (groupsOf octets, true)
    | none =>
      match ← attempt (do colon; number 16 0xffff (some 4) true) with
      | none => pure ([], false)
      | some group =>
        let (rest, embedded) ← groups limit false
        pure (group.toUInt16 :: rest, embedded)

/-- Reads the groups of a version 6 address. -/
def address6 : Scan (Vector UInt16 8) := do
  let (head, embedded) ← groups 8 true
  if head.length = 8 then whole head
  else if embedded then failure
  else
    char ':'
    char ':'
    let (tail, _) ← groups (8 - (head.length + 1)) true
    whole (head ++ List.replicate (8 - head.length - tail.length) 0 ++ tail)
where
  whole (groups : List UInt16) : Scan (Vector UInt16 8) :=
    if h : groups.toArray.size = 8 then pure ⟨groups.toArray, h⟩ else failure

/-- Reads a colon and a port. -/
def port : Scan UInt16 := do
  char ':'
  Nat.toUInt16 <$> number 10 0xffff none true

/-- Reads a version 4 address with a port. -/
def socket4 : Scan SocketAddress := do
  let octets ← octets
  pure (.v4 octets (← port))

/-- Reads a version 6 address with a port. -/
def socket6 : Scan SocketAddress := do
  char '['
  let groups ← address6
  let scope ← attempt do
    char '%'
    number 10 0xffffffff none true
  char ']'
  pure (.v6 groups (scope.getD 0).toUInt32 (← port))

end Scan

/-- Reads a socket address that makes up the whole text. -/
def ofText? (text : String) : Option SocketAddress :=
  let whole (scan : Scan SocketAddress) : Option SocketAddress :=
    match scan text.toList with
    | some (address, []) => some address
    | _ => none
  whole Scan.socket4 <|> whole Scan.socket6

/-! ## Writing -/

/-- Octets with points between them. -/
def octetsText (octets : List UInt8) : String :=
  ".".intercalate (octets.map fun octet => toString octet.toNat)

/-- Groups with colons between them. -/
def groupsText (groups : List UInt16) : String :=
  ":".intercalate (groups.map fun group => String.ofList (Nat.toDigits 16 group.toNat))

/-- The length of the run of zeros at the front. -/
def zeroRun (groups : List UInt16) : Nat := (groups.takeWhile (· = 0)).length

/-- Where the first of the longest runs of zeros starts, and its length. -/
def longestZeroRun (groups : List UInt16) : Nat × Nat :=
  (List.range groups.length).foldl (fun (start, length) i =>
    let run := zeroRun (groups.drop i)
    if length < run then (i, run) else (start, length)) (0, 0)

/-- The text of groups, in which two colons stand for the longest run of zeros. -/
def compressedText (groups : List UInt16) : String :=
  let (start, length) := longestZeroRun groups
  if 1 < length then
    groupsText (groups.take start) ++ "::" ++ groupsText (groups.drop (start + length))
  else groupsText groups

/-- The canonical text of the groups of a version 6 address. -/
def addressText (groups : List UInt16) : String :=
  match groups with
  | [0, 0, 0, 0, 0, 0xffff, ab, cd] =>
    "::ffff:" ++ octetsText [(ab >>> 8).toUInt8, ab.toUInt8, (cd >>> 8).toUInt8, cd.toUInt8]
  | _ => compressedText groups

/-- The canonical text of a socket address. A scope of zero is left out. -/
def toText : SocketAddress → String
  | v4 octets port => octetsText octets.toList ++ ":" ++ toString port.toNat
  | v6 groups scope port =>
    let scopeText := if scope = 0 then "" else "%" ++ toString scope.toNat
    "[" ++ addressText groups.toList ++ scopeText ++ "]:" ++ toString port.toNat

instance : ToString SocketAddress := ⟨toText⟩

end SocketAddress

end Keyspace
