import WireTypes.Proofs.Text.Comment
import WireTypes.Declaration.Basic
import WireTypes.Interface.Union
import WireTypes.Name

/-!
# Canonical — Records and their two spellings

A canonical record is a name and some members, each with a key, a base
type under brackets, a presence and perhaps a comment. It has one spelling
as a struct and one as an interface, and these are the canonical texts of
the two notations. The well-formedness of its parts stands in the
structures, so that every record has both spellings.
-/

namespace WireTypes.Canonical

open Text

/-! ## Base types -/

/-- A character of the name of a base type. -/
def isBaseChar (c : Char) : Bool := isWord c || c == '.'

/-- A base type that neither notation has a name of its own for, and that
is not one of the words for the absence of a value. -/
structure ForeignName where
  text : Text
  ne_nil : text ≠ []
  chars : ∀ c ∈ text, isBaseChar c = true
  notInStructs : Vocabulary.defaultToInterface.contains text = false
  notInInterfaces : Vocabulary.defaultToStruct.contains text = false
  notNull : Union.isNull text = false

/-- The base types that both notations can tell apart. -/
inductive Base where
  | string
  | number
  | boolean
  | any
  | foreign (name : ForeignName)

namespace Base

/-- The name of the base type in a struct. -/
def inStruct : Base → Text
  | string => "string".toList
  | number => "int".toList
  | boolean => "bool".toList
  | any => "any".toList
  | foreign name => name.text

/-- The name of the base type in an interface. -/
def inInterface : Base → Text
  | string => "string".toList
  | number => "number".toList
  | boolean => "boolean".toList
  | any => "any".toList
  | foreign name => name.text

end Base

/-! ## Members -/

/-- Whether a member can be null or left out. In both notations a member
that can be left out is not also null in another way. -/
inductive Presence where
  | required
  | nullable
  | omittable
deriving DecidableEq, Repr

/-- A member: a key that gives an exported name, a base type under some
brackets, a presence, and perhaps a comment. -/
structure Member where
  key : Text
  key_word : ∀ c ∈ key, isWord c = true
  pascal_word : ∀ c ∈ Name.pascal key, isWord c = true
  pascal_exported : Name.isExported (Name.pascal key) = true
  base : Base
  depth : Nat
  presence : Presence
  comment : Option Text
  comment_line : ∀ c ∈ comment, IsLineComment c

/-- As many pairs of brackets. -/
def brackets (depth : Nat) : Text := (List.replicate depth "[]".toList).flatten

namespace Member

/-- A space and the comment, if there is one. -/
def suffix (m : Member) : Text :=
  match m.comment with
  | none => []
  | some comment => ' ' :: comment

/-- The type as a struct writes it. -/
def structType (m : Member) : Text :=
  (if m.presence = .nullable then "*".toList else []) ++ (brackets m.depth ++ m.base.inStruct)

/-- The type as an interface writes it. -/
def interfaceType (m : Member) : Text :=
  m.base.inInterface ++ (brackets m.depth ++
    (if m.presence = .required then [] else " | null".toList))

/-- The value under the key `json` in the tag. -/
def tagValue (m : Member) : Text :=
  m.key ++ (if m.presence = .omittable then ",omitempty".toList else [])

/-- The line of the member in a struct. -/
def structLine (m : Member) : Text :=
  "\t".toList ++ (Name.pascal m.key ++ (" ".toList ++ (m.structType ++
    (" `json:\"".toList ++ (m.tagValue ++ ("\"`".toList ++ m.suffix))))))

/-- The line of the member in an interface. -/
def interfaceLine (m : Member) : Text :=
  "  ".toList ++ (m.key ++ ((if m.presence = .omittable then "?".toList else []) ++
    (": ".toList ++ (m.interfaceType ++ (";".toList ++ m.suffix)))))

end Member

/-! ## Records -/

/-- A name and the members in their order. -/
structure Record where
  name : Text
  name_ne_nil : name ≠ []
  name_word : ∀ c ∈ name, isWord c = true
  members : List Member

namespace Record

/-- The header line of the record. -/
def header (r : Record) : Notation → Text
  | .struct => "type ".toList ++ (r.name ++ " struct \x7b".toList)
  | .interface => "interface ".toList ++ (r.name ++ " \x7b".toList)

/-- The line of a member. -/
def line : Notation → Member → Text
  | .struct => Member.structLine
  | .interface => Member.interfaceLine

/-- The canonical text of the record in a notation. -/
def text (r : Record) (n : Notation) : Text :=
  unlines (r.header n :: (r.members.map (line n) ++ ["\x7d".toList]))

end Record

/-- The canonical texts of a notation are the spellings of the records. -/
def IsCanonical (n : Notation) (t : Text) : Prop := ∃ r : Record, r.text n = t

end WireTypes.Canonical
