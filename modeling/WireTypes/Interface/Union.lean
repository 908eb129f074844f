import WireTypes.TypeExpr
import WireTypes.Event

/-! Unions of an interface: a type, perhaps with `null` or `undefined` beside it. -/

namespace WireTypes

open Text

namespace Union

/-- Whether a member of a union stands for the absence of a value. -/
def isNull (member : Text) : Bool := member == "null".toList || member == "undefined".toList

/-- The members of a union between bars, trimmed, without blank ones. -/
def members (t : Text) : List Text := ((splitOn '|' t).map trim).filter (!·.isEmpty)

/-- The members that stand for values. -/
def values (t : Text) : List Text := (members t).filter (!isNull ·)

/-- Whether the union has a member that stands for the absence of a value. -/
def hasNull (t : Text) : Bool := (members t).any isNull

/-- The type of the values of a union. Without exactly one member it is unknown. -/
def valueType (v : Vocabulary) (t : Text) : TypeExpr :=
  match values t with
  | [member] => TypeExpr.ofInterface v member
  | _ => TypeExpr.ofInterface v "unknown".toList

/-- The type of a union. On an optional property `null` only repeats that it may be left out. -/
def toType (v : Vocabulary) (optional : Bool) (t : Text) : TypeExpr :=
  if hasNull t && !optional then .nullable (valueType v t) else valueType v t

/-- What is worth reporting about a union. -/
def events (t : Text) : List Event :=
  match values t with
  | [] | [_] => []
  | _ => [.foldedUnion t]

end Union

end WireTypes
