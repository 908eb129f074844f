import WireTypes.Number.Double
import WireTypes.Table

/-! JSON values. Whole numbers are kept apart from those written with a point or an exponent, and
objects remember the order of their keys. -/

namespace WireTypes

/-- A JSON value. -/
inductive Json where
  | null
  | bool (value : Bool)
  | whole (value : Int)
  | float (value : Double)
  | string (value : Text)
  | list (items : List Json)
  | object (members : List (Text × Json))
deriving Repr

namespace Json

/-- A number as a fraction; booleans count as zero and one. -/
def toRat? : Json → Option Rat
  | bool b => some (if b then 1 else 0)
  | whole n => some (n : Rat)
  | float x => x.toRat?
  | _ => none

/-- Equality of scalars: numbers by value, whatever their spelling. -/
def sameScalar (a b : Json) : Bool :=
  match a.toRat?, b.toRat? with
  | some x, some y => x == y
  | none, none =>
    match a, b with
    | null, null => true
    | string s, string t => s == t
    | float x, float y => x == y
    | _, _ => false
  | _, _ => false

mutual

/-- Equality of values: lists item by item, objects whatever the order of their keys. -/
def same : Json → Json → Bool
  | list xs, list ys => sameItems xs ys
  | object ms, object ns => ms.length == ns.length && sameMembers ms ns
  | list _, _ => false
  | object _, _ => false
  | a, b => sameScalar a b

/-- Equality of lists. -/
def sameItems : List Json → List Json → Bool
  | [], [] => true
  | x :: xs, y :: ys => same x y && sameItems xs ys
  | _, _ => false

/-- Whether every member has an equal one in the second object. -/
def sameMembers : List (Text × Json) → List (Text × Json) → Bool
  | [], _ => true
  | (k, x) :: rest, ns =>
    (match Table.get? ns k with
      | some y => same x y
      | none => false) && sameMembers rest ns

end

/-- The greatest count of digits of a whole number that is read or shown in decimal. -/
def maxWholeDigits : Nat := 4300

/-- Whether a value counts as set: neither null, false, zero nor empty. -/
def isSet : Json → Bool
  | null => false
  | bool b => b
  | whole n => n != 0
  | float x => x.toRat? != some 0
  | string t => !t.isEmpty
  | list items => !items.isEmpty
  | object members => !members.isEmpty

end Json

end WireTypes
