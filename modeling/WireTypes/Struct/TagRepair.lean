import WireTypes.Declaration.Block
import WireTypes.Struct.FieldLine
import WireTypes.Event

/-! Tag repair: exported fields of a struct without a tag get one that names them in snake case. -/

namespace WireTypes

open Text

namespace TagRepair

/-- The parts of a line that needs a tag: an untagged exported field. A line that mentions a JSON
tag anywhere is left alone. -/
def untagged? (line : Text) : Option FieldLine :=
  if hasPart "json:".toList line then none
  else
    match FieldLine.ofLine? line with
    | some ⟨indent, name, type, .untagged comment⟩ =>
      if Name.isExported name then some ⟨indent, name, type, .untagged comment⟩ else none
    | _ => none

/-- A field line with a tag between its type and its comment. The comment keeps the blanks before
it, and a line that ended in a carriage return still does. -/
def withTag (line : Text) (l : FieldLine) : Text :=
  l.indent ++ l.name ++ [' '] ++ l.type ++ [' '] ++
    (JsonEntry.mk (Name.snake l.name) false).quotedTag
    ++ (match l.comment? with
        | some comment => ' ' :: comment
        | none => [])
    ++ (if line.getLast? = some '\r' then ['\r'] else [])

/-- A body line with the tag it needs. -/
def repairLine (line : Text) : Text :=
  match untagged? line with
  | some l => withTag line l
  | none => line

/-- The line of a mark, repaired if it stands in the body. -/
def repairMark (m : Block.Mark) : Text :=
  if m.role = .body then repairLine m.line else m.line

/-- The text with tags on all fields that need one. -/
def repair (t : Text) : Text := unlines ((Block.marks .struct t).map repairMark)

/-- The names of the fields that need a tag, in order. -/
def missing (t : Text) : List Text := (Block.body .struct t).filterMap fun line =>
  (untagged? line).map (·.name)

/-- What is worth reporting when a text is repaired. -/
def events (t : Text) : List Event :=
  if (missing t).isEmpty then [] else [.tagged (missing t)]

end TagRepair

end WireTypes
