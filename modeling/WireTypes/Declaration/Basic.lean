import WireTypes.TypeExpr

/-! Declarations: the ordered fields of a struct or an interface. -/

namespace WireTypes

/-- The two notations of a declaration. -/
inductive Notation where
  /-- A struct whose fields carry tags. -/
  | struct
  /-- An interface of properties. -/
  | interface
deriving DecidableEq, Repr

namespace Notation

/-- The notation that a declaration of this one is converted to. -/
def target : Notation → Notation
  | struct => interface
  | interface => struct

/-- The name by which the notation is registered. -/
def name : Notation → Text
  | struct => "go".toList
  | interface => "typescript".toList

/-- The extension of files in the notation. -/
def extension : Notation → Text
  | struct => ".go".toList
  | interface => ".ts".toList

@[simp] theorem target_target (n : Notation) : n.target.target = n := by cases n <;> rfl

end Notation

/-- One member of a declaration. -/
structure Field where
  /-- The name in the notation it was read from. -/
  name : Text
  /-- The type. -/
  type : TypeExpr
  /-- The name in the serialised form. -/
  jsonName : Text
  /-- Whether the member may be left out of the serialised form. -/
  omittable : Bool := false
  /-- Whether the member is part of the serialised form. -/
  exported : Bool := true
  /-- The comment behind the member. -/
  comment : Option Text := none
deriving DecidableEq, Repr

namespace Field

/-- Whether the type of the field admits null. -/
def isNullable (f : Field) : Bool := f.type.isNullable

/-- The field under its own name if it has no serialised one. -/
def withDefaultJsonName (f : Field) : Field :=
  if f.jsonName.isEmpty then { f with jsonName := f.name } else f

end Field

/-- A struct or an interface. -/
structure Declaration where
  name : Text
  kind : Notation
  fields : List Field
  /-- Whether the closing brace was found. -/
  complete : Bool := true
deriving DecidableEq, Repr

namespace Declaration

/-- The names of the fields, in order. -/
def fieldNames (d : Declaration) : List Text := d.fields.map (·.name)

/-- What a reader of the converted declaration should know. -/
def warnings (d : Declaration) : List Text :=
  (if d.fields.isEmpty then ["Declaration '".toList ++ d.name ++ "' has no fields".toList]
    else []) ++
  (if d.complete then []
    else ["Declaration '".toList ++ d.name ++ "' is missing its closing brace".toList])

end Declaration

end WireTypes
