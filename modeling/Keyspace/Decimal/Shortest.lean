/-
# The fewest digits that read back

A binary floating-point number stands for every real that rounds to it. Among the
decimals in that interval, its shortest text is one with the fewest significant
digits, and of those the nearest to the number itself. The search runs in exact
arithmetic: for one digit, two digits and so on it looks at the two neighbours of the
number on the decimal grid with that many digits, and the first grid with a neighbour
in the interval wins.
-/

namespace Keyspace.Decimal

/-- The decimal `digits * 10 ^ exponent`. -/
structure Scientific where
  digits : Nat
  exponent : Int
deriving DecidableEq, Repr

/-- The number `mantissa * 2 ^ exponent` with the reals that round to it. The gap to the number
below is half as wide as the gap above where `narrowBelow` holds. -/
structure Binary where
  mantissa : Nat
  exponent : Int
  narrowBelow : Bool
deriving DecidableEq, Repr

/-- The magnitude that the 64 bits of a double stand for. The sign bit is left out. -/
def Binary.ofBits (bits : UInt64) : Binary :=
  let fraction := (bits &&& 0xfffffffffffff).toNat
  let biased := (bits >>> 52 &&& 0x7ff).toNat
  if biased = 0 then ⟨fraction, -1074, false⟩
  else ⟨fraction + 0x10000000000000, (biased : Int) - 1075, fraction = 0 && biased > 1⟩

/-- A ratio of naturals, the denominator positive. -/
structure Ratio where
  num : Nat
  den : Nat

/-- The ratio `n * b ^ e`. -/
def Ratio.scaled (n b : Nat) (e : Int) : Ratio :=
  if 0 ≤ e then ⟨n * b.pow e.toNat, 1⟩ else ⟨n, b.pow (-e).toNat⟩

/-- Ratios are compared by cross multiplication. -/
def Ratio.le (x y : Ratio) : Bool := x.num * y.den ≤ y.num * x.den

/-- The strict order of ratios. -/
def Ratio.lt (x y : Ratio) : Bool := x.num * y.den < y.num * x.den

/-- The number of digits in front of the decimal point of a positive ratio below `10 ^ 309`;
it is zero or negative where the ratio is less than one. `fuel` bounds the zeros looked
through. -/
def Ratio.magnitude (x : Ratio) (fuel : Nat) : Int :=
  if x.den ≤ x.num then (Nat.toDigits 10 (x.num / x.den)).length
  else
    match fuel with
    | 0 => 0
    | fuel + 1 => Ratio.magnitude ⟨x.num * 10, x.den⟩ fuel - 1

namespace Binary

/-- The number in quarters of its last binary place, moved by `quarters`. -/
def near (b : Binary) (quarters : Int) : Ratio :=
  Ratio.scaled (4 * b.mantissa + quarters).toNat 2 (b.exponent - 2)

/-- The decimal rounds to the number. An end of the interval belongs to it where the mantissa
is even. -/
def admits (b : Binary) (d : Scientific) : Bool :=
  let x := Ratio.scaled d.digits 10 d.exponent
  let lower := b.near (if b.narrowBelow then -1 else -2)
  let upper := b.near 2
  if b.mantissa % 2 = 0 then lower.le x && x.le upper else lower.lt x && x.lt upper

/-- The neighbour of the number with `count` significant digits that rounds to it, if any. Of two
the nearer is taken, and of two as near the even one. -/
def onGrid? (b : Binary) (magnitude : Int) (count : Nat) : Option Scientific :=
  let exponent := magnitude - count
  let x := b.near 0
  let unit := Ratio.scaled 1 10 exponent
  let num := x.num * unit.den
  let den := x.den * unit.num
  let below : Scientific := ⟨num / den, exponent⟩
  let above : Scientific := ⟨num / den + 1, exponent⟩
  match b.admits below, b.admits above with
  | true, false => some below
  | false, true => some above
  | false, false => none
  | true, true =>
    let rest := 2 * (num % den)
    if rest < den ∨ (rest = den ∧ below.digits % 2 = 0) then some below else some above

/-- The shortest decimal that rounds to the number. Seventeen digits always suffice for a
double. -/
def shortest (b : Binary) : Scientific :=
  if b.mantissa = 0 then ⟨0, 0⟩
  else
    let magnitude := (b.near 0).magnitude 330
    ((List.range 17).findSome? fun i => b.onGrid? magnitude (i + 1)).getD ⟨0, 0⟩

end Binary

/-- Removes the zeros at the end of the digits. -/
def Scientific.strip (d : Scientific) (fuel : Nat) : Scientific :=
  match fuel with
  | 0 => d
  | fuel + 1 =>
    if d.digits ≠ 0 ∧ d.digits % 10 = 0 then Scientific.strip ⟨d.digits / 10, d.exponent + 1⟩ fuel
    else d

end Keyspace.Decimal
