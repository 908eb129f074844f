import WireTypes.Number.Double
import WireTypes.Text.Basic

/-! The shortest decimals that read back as a number, and how they are written. -/

namespace WireTypes

namespace Double

/-- The fractions that read as the number with this mantissa and exponent: the ends of the interval,
and whether they belong to it. -/
structure Interval where
  low : Rat
  high : Rat
  closed : Bool

/-- Membership in an interval. -/
def Interval.contains (i : Interval) (x : Rat) : Bool :=
  if i.closed then i.low ≤ x && x ≤ i.high else i.low < x && x < i.high

/-- The fractions nearest to a positive number. Below the least mantissa of an exponent the
neighbour is only half as far away. -/
def interval (mantissa : Nat) (exponent : Int) : Interval :=
  let unit := (2 : Rat) ^ exponent
  let below : Rat := if mantissa = minMantissa ∧ minExponent < exponent then 1 / 4 else 1 / 2
  ⟨((mantissa : Rat) - below) * unit, ((mantissa : Rat) + 1 / 2) * unit, mantissa % 2 == 0⟩

/-- The number of digits before the point of a positive fraction above ten to the -400; zero or
negative if it starts with zeros behind the point. -/
def pointPlace (x : Rat) : Int :=
  (Nat.toDigits 10 (x * (10 : Rat) ^ (400 : Nat)).floor.toNat).length - 400

/-- The multiple of a power of ten nearest to `x` among its two neighbours in the interval; of two
the even one. -/
def onGrid? (i : Interval) (x : Rat) (exponent : Int) : Option Nat :=
  let unit := (10 : Rat) ^ exponent
  let below := (x / unit).floor.toNat
  match i.contains ((below : Rat) * unit), i.contains (((below + 1 : Nat) : Rat) * unit) with
  | true, true => some (roundHalfEven (x / unit))
  | true, false => some below
  | false, true => some (below + 1)
  | false, false => none

/-- The shortest decimal of a positive number with mantissa and exponent: digits and a power of ten.
Seventeen digits are always enough. -/
def shortest (mantissa : Nat) (exponent : Int) : Nat × Int :=
  let x := (mantissa : Rat) * (2 : Rat) ^ exponent
  let i := interval mantissa exponent
  let place := pointPlace x
  ((List.range 17).findSome? fun k =>
    let power := place - (k + 1 : Nat)
    (onGrid? i x power).map fun digits => (digits, power)).getD (0, 0)

/-- Digits with a point at `place`: without an exponent if the place is above -4 and at most 16. -/
def writeDigits (digits : Text) (place : Int) : Text :=
  if -4 < place ∧ place ≤ 16 then
    if place ≤ 0 then "0.".toList ++ List.replicate (-place).toNat '0' ++ digits
    else if digits.length ≤ place.toNat then
      digits ++ List.replicate (place.toNat - digits.length) '0' ++ ".0".toList
    else digits.take place.toNat ++ ['.'] ++ digits.drop place.toNat
  else
    let exponent := place - 1
    let size := Nat.toDigits 10 exponent.natAbs
    digits.take 1 ++ (if digits.length = 1 then [] else '.' :: digits.drop 1) ++
      ['e', if exponent < 0 then '-' else '+'] ++ (if size.length = 1 then '0' :: size else size)

/-- A finite number in decimal. -/
def writeFinite (negative : Bool) (mantissa : Nat) (exponent : Int) : Text :=
  let sign := if negative then ['-'] else []
  if mantissa = 0 then sign ++ "0.0".toList
  else
    let (value, power) := shortest mantissa exponent
    let digits := Nat.toDigits 10 value
    let significant := (digits.reverse.dropWhile (· == '0')).reverse
    sign ++ writeDigits significant (digits.length + power)

end Double

end WireTypes
