import WireTypes.Declaration.Block
import WireTypes.Struct.FieldLine
import WireTypes.Interface.Property

/-! Reading the first declaration of a text. -/

namespace WireTypes

open Text

namespace Notation

/-- The field on a body line. -/
def field? (v : Vocabulary) : Notation → Text → Option Field
  | struct => structField? v
  | interface => interfaceField? v

/-- What is worth reporting about a body line as a field. -/
def fieldEvents : Notation → Text → List Event
  | struct, _ => []
  | interface, line => interfaceFieldEvents line

end Notation

/-- Whether a body line is passed over in silence: it is blank or a comment. -/
def isFiller (line : Text) : Bool :=
  (trim line).isEmpty || "//".toList.isPrefixOf (trim line)

namespace Declaration

/-- The fields on some body lines. -/
def fieldsOf (v : Vocabulary) (n : Notation) (body : List Text) : List Field :=
  (body.filter (!isFiller ·)).filterMap (n.field? v)

/-- The first declaration of a text. -/
def read (v : Vocabulary) (n : Notation) (t : Text) : Except Rejection Declaration :=
  match Block.name? n t with
  | none => .error .unrecognized
  | some name => .ok ⟨name, n, fieldsOf v n (Block.body n t), Block.isComplete n t⟩

/-- What is worth reporting about a body line. -/
def lineEvents (v : Vocabulary) (n : Notation) (line : Text) : List Event :=
  if isFiller line then []
  else if (n.field? v line).isSome then n.fieldEvents line
  else [.skippedLine line]

/-- What is worth reporting when the first declaration of a text is read. -/
def readEvents (v : Vocabulary) (n : Notation) (t : Text) : List Event :=
  match Block.name? n t with
  | none => []
  | some name =>
    (Block.body n t).flatMap (lineEvents v n) ++
      if Block.isComplete n t then []
      else [.unclosed name (fieldsOf v n (Block.body n t)).length]

end Declaration

end WireTypes
