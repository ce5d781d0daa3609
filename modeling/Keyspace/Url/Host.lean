/-
# Hosts

The host of a URL is a name or an address. Whatever ends in a number is an address: it
has up to four numbers with points between them, each in decimal, octal or hexadecimal,
and the last one fills all the bytes that the others leave. An address of version 6
stands in brackets. A name is a domain name, which may be escaped.
-/

import Keyspace.DomainName
import Keyspace.SocketAddress
import Keyspace.Url.Escape

namespace Keyspace

/-- Who is to be reached. -/
inductive Host where
  | name (ascii : String)
  | v4 (octets : Vector UInt8 4)
  | v6 (groups : Vector UInt16 8)
deriving DecidableEq, Repr

namespace Host

/-- The value of a part of an address. A zero in front tells octal, `0x` hexadecimal, and `0x` alone
is zero. -/
def readNumber? : List Char → Option Nat
  | ['0', 'x'] => some 0
  | '0' :: 'x' :: digits => Text.readBase? 16 digits
  | ['0'] => some 0
  | '0' :: digits => Text.readBase? 8 digits
  | digits => Text.readBase? 10 digits

/-- The parts of a name. A point at the very end does not begin another one. -/
def parts (name : List Char) : List (List Char) :=
  match (Text.splitAll '.' name).reverse with
  | [] :: front => front.reverse
  | parts => parts.reverse

/-- The last part of a name is a number, or would be one if its digits were good. -/
def endsInNumber (name : List Char) : Bool :=
  (parts name).getLast?.any fun part =>
    (!part.isEmpty && part.all Char.isDigit) || (readNumber? part).isSome

/-- A number in as many bytes as `count` says, the greatest first. -/
def bytes? : (count : Nat) → Nat → Option (List UInt8)
  | 0, value => if value = 0 then some [] else none
  | count + 1, value => (bytes? count (value / 256)).map (· ++ [(value % 256).toUInt8])

/-- Reads an address of version 4. -/
def readOctets? (name : List Char) : Option (Vector UInt8 4) := do
  let numbers ← (parts name).mapM readNumber?
  let last ← numbers.getLast?
  let front ← numbers.dropLast.mapM (bytes? 1)
  let octets := (front.flatten ++ (← bytes? (4 - front.length) last)).toArray
  if h : octets.size = 4 ∧ front.length < 4 then some ⟨octets, h.1⟩ else none

/-- Reads an address of version 6 in brackets. -/
def readGroups? (text : List Char) : Option (Vector UInt16 8) :=
  let scan : SocketAddress.Scan (Vector UInt16 8) := do
    SocketAddress.Scan.char '['
    let groups ← SocketAddress.Scan.address6
    SocketAddress.Scan.char ']'
    pure groups
  match scan text with
  | some (groups, []) => some groups
  | _ => none

/-- Reads the host of a URL. -/
def read? (text : List Char) : Option Host :=
  if text.head? = some '[' then v6 <$> readGroups? text
  else do
    let ascii ← DomainName.toAscii? (← Url.unescapeText? text)
    if ascii.isEmpty then none
    else if endsInNumber ascii then v4 <$> readOctets? ascii
    else return name (String.ofList ascii)

/-- The text of a host. -/
def toText : Host → String
  | name ascii => ascii
  | v4 octets => SocketAddress.octetsText octets.toList
  | v6 groups => "[" ++ SocketAddress.compressedText groups.toList ++ "]"

end Host

end Keyspace
