import WireTypes.Text.Blank
import WireTypes.Json.Printer

/-! Type expressions and their two spellings.

A struct writes pointers and slices in front of a type, an interface writes array brackets behind
it. Base names go through a table per direction; a name without an entry passes through. -/

namespace WireTypes

open Text

/-- The type of a field. -/
inductive TypeExpr where
  /-- A base name that has an entry in the table of its notation. -/
  | known (name : Text)
  /-- A base name without an entry. -/
  | named (name : Text)
  /-- A type that starts with `map[`, kept as written. -/
  | mapping (source : Text)
  /-- A slice, or an array of any length. -/
  | array (element : TypeExpr)
  /-- A pointer in a struct, a union with `null` in an interface. -/
  | nullable (target : TypeExpr)
deriving DecidableEq, Repr

/-- What the base names of each notation become in the other. Names are texts; settings that nobody
has checked may give other values, which are written out. -/
structure Vocabulary where
  /-- The interface name of each base name of a struct. -/
  toInterface : Table Json
  /-- The struct name of each base name of an interface. -/
  toStruct : Table Json

namespace Vocabulary

/-- A table of names. -/
def names (pairs : List (String × String)) : Table Json :=
  pairs.map fun (a, b) => (a.toList, .string b.toList)

/-- The interface names of the base types of a struct. -/
def defaultToInterface : Table Json := names
  [("string", "string"), ("int", "number"), ("int8", "number"), ("int16", "number"),
   ("int32", "number"), ("int64", "number"), ("uint", "number"), ("uint8", "number"),
   ("uint16", "number"), ("uint32", "number"), ("uint64", "number"), ("float32", "number"),
   ("float64", "number"), ("bool", "boolean"), ("time.Time", "string"),
   ("interface\x7b\x7d", "any"), ("any", "any")]

/-- The struct names of the base types of an interface. Every number narrows to `int`. -/
def defaultToStruct : Table Json := names
  [("string", "string"), ("number", "int"), ("boolean", "bool"), ("any", "any"), ("unknown", "any")]

/-- The vocabulary of the two default tables. -/
def default : Vocabulary := ⟨defaultToInterface, defaultToStruct⟩

/-- The vocabulary with further entries, which win over those it has. -/
def extend (v : Vocabulary) (toInterface toStruct : Table Json) : Vocabulary :=
  ⟨v.toInterface.merge toInterface, v.toStruct.merge toStruct⟩

end Vocabulary

namespace TypeExpr

/-- Whether `nullable` occurs anywhere in the type. -/
def isNullable : TypeExpr → Bool
  | nullable _ => true
  | array element => element.isNullable
  | _ => false

/-- The base type of a struct with this trimmed spelling. -/
def structBase (v : Vocabulary) (t : Text) : TypeExpr :=
  if "map[".toList.isPrefixOf t then mapping t
  else if v.toInterface.contains t then known t
  else named t

/-- Reads a type as a struct writes it: each `*` makes a pointer, each `[]` a slice, and blanks
around them do not count. -/
def ofStruct (v : Vocabulary) : Text → TypeExpr
  | [] => structBase v []
  | '*' :: rest => nullable (ofStruct v rest)
  | '[' :: ']' :: rest => array (ofStruct v rest)
  | c :: rest => if isBlank c then ofStruct v rest else structBase v (trimEnd (c :: rest))

/-- The base type of an interface with this trimmed spelling. -/
def interfaceBase (v : Vocabulary) (t : Text) : TypeExpr :=
  if v.toStruct.contains t then known t else named t

/-- Reads a type of an interface from its end backwards: each `[]` makes an array. -/
def ofInterfaceReversed (v : Vocabulary) : Text → TypeExpr
  | [] => interfaceBase v []
  | ']' :: '[' :: rest => array (ofInterfaceReversed v rest)
  | c :: rest =>
    if isBlank c then ofInterfaceReversed v rest
    else interfaceBase v (trimStart (c :: rest).reverse)

/-- Reads a type as an interface writes it, without unions. -/
def ofInterface (v : Vocabulary) (t : Text) : TypeExpr := ofInterfaceReversed v t.reverse

/-- What an interface writes for the type: a name, or whatever the vocabulary has for it. Whether it
is nullable is left to the caller, who writes `| null` behind all brackets. -/
def interfaceValue (v : Vocabulary) : TypeExpr → Json
  | known name => v.toInterface.getD name (.string name)
  | named name => .string name
  | mapping source => .string source
  | array element => .string ((element.interfaceValue v).plain ++ "[]".toList)
  | nullable target => target.interfaceValue v

/-- The type as an interface writes it. -/
def toInterface (v : Vocabulary) (t : TypeExpr) : Text := (t.interfaceValue v).plain

/-- What a struct writes for the type: a name, or whatever the vocabulary has for it. -/
def structValue (v : Vocabulary) : TypeExpr → Json
  | known name => v.toStruct.getD name (.string name)
  | named name => .string name
  | mapping source => .string source
  | array element => .string ("[]".toList ++ (element.structValue v).plain)
  | nullable target => .string ('*' :: (target.structValue v).plain)

/-- The type as a struct writes it. -/
def toStruct (v : Vocabulary) (t : TypeExpr) : Text := (t.structValue v).plain

end TypeExpr

end WireTypes
