/-! Floating-point numbers of 64 bits, with exact arithmetic on fractions behind them. -/

namespace WireTypes

/-- A number of 53 significant bits, an infinity, or none of both. A finite value is the mantissa
times two to the exponent. -/
inductive Double where
  | finite (negative : Bool) (mantissa : Nat) (exponent : Int)
  | infinite (negative : Bool)
  | nan
deriving DecidableEq, Repr

namespace Double

/-- The least exponent. -/
def minExponent : Int := -1074

/-- The greatest exponent. -/
def maxExponent : Int := 971

/-- The least mantissa above the least exponent. -/
def minMantissa : Nat := Nat.pow 2 52

/-- Zero with a sign. -/
def zero (negative : Bool) : Double := finite negative 0 minExponent

/-- The natural number nearest to a fraction that is not negative; of two the even one. -/
def roundHalfEven (x : Rat) : Nat :=
  let below := x.floor.toNat
  let part := x - (below : Rat)
  if part < 1 / 2 then below
  else if 1 / 2 < part then below + 1
  else if below % 2 = 0 then below
  else below + 1

/-- The exponent at which a positive fraction has 53 bits before the point, or the least one. -/
def exponentFor (x : Rat) : Int :=
  let e : Int := (Nat.log2 x.num.natAbs : Int) - (Nat.log2 x.den : Int)
  max minExponent (if (2 : Rat) ^ e ≤ x then e - 52 else e - 53)

/-- The number nearest to a positive fraction; of two the one with the even mantissa. -/
def ofPositive (negative : Bool) (x : Rat) : Double :=
  let exponent := exponentFor x
  let mantissa := roundHalfEven (x / (2 : Rat) ^ exponent)
  let (mantissa, exponent) :=
    if mantissa = 2 * minMantissa then (minMantissa, exponent + 1) else (mantissa, exponent)
  if maxExponent < exponent then infinite negative else finite negative mantissa exponent

/-- The number nearest to `digits` times ten to `exponent`. Beyond 400 places the answer is zero or
infinite in any case. -/
def ofDecimal (negative : Bool) (digits : Nat) (exponent : Int) : Double :=
  let places : Int := (Nat.toDigits 10 digits).length + exponent
  if digits = 0 then zero negative
  else if 400 < places then infinite negative
  else if places < -400 then zero negative
  else ofPositive negative ((digits : Rat) * (10 : Rat) ^ exponent)

/-- The value of a finite number. -/
def toRat? : Double → Option Rat
  | finite negative mantissa exponent =>
    let value := (mantissa : Rat) * (2 : Rat) ^ exponent
    some (if negative then -value else value)
  | _ => none

/-- Equality of numbers: zeros of both signs are equal, and `nan` is equal to itself. -/
def same (x y : Double) : Bool :=
  match x.toRat?, y.toRat? with
  | some a, some b => a == b
  | none, none => x == y
  | _, _ => false

end Double

end WireTypes
