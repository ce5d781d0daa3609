/-
# Numbers

A JSON number is first scanned as a numeral: a sign, digits, a fraction and an
exponent. Its value is a whole number where the numeral has neither fraction nor
exponent and fits 64 bits, and a double otherwise.

The double is not the nearest one to the numeral. Digits are gathered for as long as
they fit a 64-bit word, and the word is then multiplied or divided by a power of ten,
in steps of at most 308, with one rounding each. A number too great for a double is
not a number at all.
-/

import Keyspace.Decimal.Shortest
import Keyspace.Json.Reader

namespace Keyspace.Json

/-- A number as it is written. The digits are given by their values. -/
structure Numeral where
  negative : Bool
  whole : List Nat
  fraction : Option (List Nat)
  exponent : Option (Bool × List Nat)
deriving DecidableEq, Repr

/-- Digits at the front of a text, by their values, and the rest. -/
def scanDigits (input : List UInt8) : List Nat × List UInt8 :=
  ((input.takeWhile isDigit).map fun b => b.toNat - 0x30, input.dropWhile isDigit)

/-- Digits of which there must be one. `atEnd` is how a text that ends instead is refused. -/
def scanSomeDigits (atEnd : DecodeError) (input : List UInt8) :
    Except DecodeError (List Nat × List UInt8) :=
  match input with
  | [] => .error atEnd
  | b :: _ => if isDigit b then .ok (scanDigits input) else .error .malformed

/-- Digits of which there must be one, and more only if the first is not zero. -/
def scanWhole (atEnd : DecodeError) (input : List UInt8) :
    Except DecodeError (List Nat × List UInt8) :=
  match input with
  | 0x30 :: b :: rest => if isDigit b then .error .malformed else .ok ([0], b :: rest)
  | _ => scanSomeDigits atEnd input

/-- Scans a number. `atEnd` is how a text that ends where a digit must stand is refused. -/
def scanNumeral (atEnd : DecodeError) : Reader Numeral := fun input => do
  let (negative, input) :=
    match input with
    | 0x2d :: rest => (true, rest)
    | _ => (false, input)
  let (whole, input) ← scanWhole atEnd input
  let (fraction, input) ←
    match input with
    | 0x2e :: rest => do
      let (digits, rest) ← scanSomeDigits atEnd rest
      pure (some digits, rest)
    | _ => pure (none, input)
  let (exponent, input) ←
    match input with
    | b :: rest =>
      if b = ascii 'e' ∨ b = ascii 'E' then do
        let (down, rest) :=
          match rest with
          | 0x2b :: rest => (false, rest)
          | 0x2d :: rest => (true, rest)
          | _ => (false, rest)
        let (digits, rest) ← scanSomeDigits atEnd rest
        pure (some (down, digits), rest)
      else pure (none, input)
    | [] => pure (none, input)
  pure (⟨negative, whole, fraction, exponent⟩, input)

/-- Leading digits of a number that fit 64 bits, and the power of ten that they are to be
multiplied with. Once a digit did not fit, no later one of the same run is taken. -/
structure Significand where
  value : Nat
  exponent : Int
  full : Bool

namespace Significand

/-- Takes a digit in front of the decimal point. -/
def addWhole (s : Significand) (digit : Nat) : Significand :=
  if s.full ∨ UInt64.size ≤ s.value * 10 + digit then ⟨s.value, s.exponent + 1, true⟩
  else ⟨s.value * 10 + digit, s.exponent, false⟩

/-- Takes a digit behind the decimal point. -/
def addFraction (s : Significand) (digit : Nat) : Significand :=
  if s.full ∨ UInt64.size ≤ s.value * 10 + digit then ⟨s.value, s.exponent, true⟩
  else ⟨s.value * 10 + digit, s.exponent - 1, false⟩

end Significand

/-- The value of decimal digits, the highest first. -/
def digitsValue (digits : List Nat) : Nat := digits.foldl (fun n d => n * 10 + d) 0

/-- The double `x * 10 ^ exponent`, in steps of at most 308 powers; none if it is too great. -/
def scaleDouble (x : Float) (exponent : Int) : Option Float :=
  if exponent.natAbs ≤ 308 then
    let power := Float.ofScientific 1 false exponent.natAbs
    if 0 ≤ exponent then
      if (x * power).isInf then none else some (x * power)
    else some (x / power)
  else if x == 0 then some x
  else if 0 ≤ exponent then none
  else scaleDouble (x / Float.ofScientific 1 false 308) (exponent + 308)
termination_by exponent.natAbs

/-- The value of a JSON number. -/
inductive Number where
  | natural (n : Nat)
  /-- The number `-n`, where `n` is positive. -/
  | negative (n : Nat)
  | real (x : Float)

/-- The value of a numeral; none if it is too great. -/
def Numeral.value? (numeral : Numeral) : Option Number :=
  let n := digitsValue numeral.whole
  if numeral.fraction.isNone ∧ numeral.exponent.isNone ∧ n < UInt64.size then
    if !numeral.negative then some (.natural n)
    else if 0 < n ∧ n ≤ UInt64.size / 2 then some (.negative n)
    else some (.real (-n.toUInt64.toFloat))
  else
    let whole := numeral.whole.foldl Significand.addWhole ⟨0, 0, false⟩
    let all := (numeral.fraction.getD []).foldl Significand.addFraction { whole with full := false }
    let shift : Int :=
      match numeral.exponent with
      | none => 0
      | some (true, digits) => -digitsValue digits
      | some (false, digits) => digitsValue digits
    (scaleDouble all.value.toUInt64.toFloat (all.exponent + shift)).map fun x =>
      .real (if numeral.negative then -x else x)

/-- The text of a double: the fewest digits that read back. It is positional from `1e-5` up to
below `1e+16` and always has a digit behind the point; beyond it is scientific, with a point only
between digits and with the sign of the exponent. -/
def writeDouble (x : Float) : String :=
  let bits := x.toBits
  let sign := if bits.toNat < UInt64.size / 2 then "" else "-"
  let shortest := (Decimal.Binary.ofBits bits).shortest.strip 20
  let digits := Nat.toDigits 10 shortest.digits
  let zeros (n : Int) := List.replicate n.toNat '0'
  let point : Int := digits.length + shortest.exponent
  let body :=
    if shortest.digits = 0 then ['0', '.', '0']
    else if 0 ≤ shortest.exponent ∧ point ≤ 16 then digits ++ zeros shortest.exponent ++ ['.', '0']
    else if 0 < point ∧ point ≤ 16 then
      digits.take point.toNat ++ '.' :: digits.drop point.toNat
    else if -5 < point ∧ point ≤ 0 then ['0', '.'] ++ zeros (-point) ++ digits
    else
      let tail := if digits.length = 1 then [] else '.' :: digits.drop 1
      let power := (if 0 < point then "+" else "-") ++ toString (point - 1).natAbs
      digits.take 1 ++ tail ++ 'e' :: power.toList
  sign ++ String.ofList body

/-- How a message names the number. -/
def Number.found : Number → Found
  | .natural n => .integer (toString n)
  | .negative n => .integer ("-" ++ toString n)
  | .real x => .floatingPoint (writeDouble x)

/-- Reads a number whose first byte is the next one. -/
def Reader.number : Reader Number := do
  match (← scanNumeral .truncated).value? with
  | some number => pure number
  | none => throw .malformed

end Keyspace.Json
