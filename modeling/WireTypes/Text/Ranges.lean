import WireTypes.Text.Basic

/-! Sets and mappings of code points as short tables. Every table lists its entries in increasing
order, so a search stops at the first entry that starts past the code point. -/

namespace WireTypes.Text

/-- A set of code points as closed ranges in increasing order. -/
abbrev Ranges := List (Nat × Nat)

/-- Membership of a code point in the ranges. -/
def Ranges.contains : Ranges → Nat → Bool
  | [], _ => false
  | (first, last) :: rest, n => first ≤ n && (n ≤ last || Ranges.contains rest n)

/-- The code points from `first` to `last`, each `step` after the one before. -/
structure Stride where
  first : Nat
  last : Nat
  step : Nat

/-- A set of code points as strides in increasing order of their first members. -/
abbrev Strides := List Stride

/-- Membership of a code point in the strides. -/
def Strides.contains : Strides → Nat → Bool
  | [], _ => false
  | s :: rest, n =>
    s.first ≤ n && ((n ≤ s.last && (n - s.first) % s.step == 0) || Strides.contains rest n)

/-- A stride of code points moved by one distance, its first member to `target`. -/
structure Shift where
  first : Nat
  last : Nat
  step : Nat
  target : Nat

/-- A mapping of code points as shifts in increasing order of their first members. -/
abbrev Shifts := List Shift

/-- The image of a code point, or `none` if no shift moves it. -/
def Shifts.image? : Shifts → Nat → Option Nat
  | [], _ => none
  | s :: rest, n =>
    if n < s.first then none
    else if n ≤ s.last ∧ (n - s.first) % s.step = 0 then some (s.target + (n - s.first))
    else Shifts.image? rest n

end WireTypes.Text
