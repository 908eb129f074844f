import WireTypes.Conversion.Options
import WireTypes.Declaration.Basic
import WireTypes.Name
import WireTypes.Struct.Tag
import WireTypes.Template.Library

/-! Emission: writing a declaration in a notation through its template. -/

namespace WireTypes

open Text

namespace Emission

/-- The name of the template of a notation. -/
def templateName : Notation → Text
  | .struct => "struct.go.j2".toList
  | .interface => "interface.ts.j2".toList

/-- A comment behind a member, with a blank before it. -/
def commentSuffix : Option Text → Text
  | none => []
  | some comment => if comment.isEmpty then [] else ' ' :: trim comment

/-- What the template of a struct knows of a field. -/
def structMember (v : Vocabulary) (f : Field) : Json :=
  .object [
    ("name".toList, .string (Name.pascal f.jsonName)),
    ("type".toList, f.type.structValue v),
    ("tag".toList, .string (JsonEntry.mk f.jsonName f.omittable).quotedTag),
    ("comment".toList, .string (commentSuffix f.comment))]

/-- What an interface writes for the type of a field, with `null` behind all brackets. -/
def interfaceType (v : Vocabulary) (f : Field) : Json :=
  if f.omittable || f.isNullable then .string (f.type.toInterface v ++ " | null".toList)
  else f.type.interfaceValue v

/-- What the template of an interface knows of a field. -/
def interfaceMember (v : Vocabulary) (f : Field) : Json :=
  .object [
    ("name".toList, .string f.jsonName),
    ("marker".toList, .string (if f.omittable then ['?'] else [])),
    ("type".toList, interfaceType v f),
    ("comment".toList, .string (commentSuffix f.comment))]

/-- What the template of a notation knows of a declaration. -/
def context (o : Options) (d : Declaration) : Notation → Table Json
  | .struct =>
    [("struct_name".toList, .string d.name),
     ("fields".toList, .list (d.fields.map (structMember o.vocabulary)))]
  | .interface =>
    [("prefix".toList, .string (if o.exported then "export ".toList else [])),
     ("interface_name".toList, .string d.name),
     ("fields".toList, .list (d.fields.map (interfaceMember o.vocabulary)))]

/-- The text with no blanks at the ends of its lines. -/
def tidy (t : Text) : Text := unlines ((lines t).map trimEnd)

end Emission

/-- A declaration in a notation. -/
def Declaration.emit (fs : Files) (o : Options) (n : Notation) (d : Declaration) :
    Except Template.Fault Text := do
  let library ← Template.Library.ofFolder fs o.templateFolder
  return Emission.tidy (← library.render fs (Emission.templateName n) (Emission.context o d n))

end WireTypes
