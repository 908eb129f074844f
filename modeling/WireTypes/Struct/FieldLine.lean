import WireTypes.Declaration.Basic
import WireTypes.Name
import WireTypes.Struct.Tag

/-! Field lines of a struct: a name and a type, then a tag or a comment or neither. -/

namespace WireTypes

open Text

/-- A character of a type in a struct. -/
def isStructTypeChar (c : Char) : Bool :=
  isWord c || c == '[' || c == ']' || c == '*' || c == '.' || c == '\x7b' || c == '\x7d'

/-- What follows the name and the type on a field line. -/
inductive FieldTail where
  /-- A tag and perhaps a comment; anything else behind the tag is passed over. -/
  | tagged (tag : Text) (comment : Option Text)
  /-- No tag; the comment, if any, comes with the blanks before it. -/
  | untagged (comment : Option Text)
deriving DecidableEq, Repr

/-- The parts of a field line. -/
structure FieldLine where
  /-- The blanks before the name. -/
  indent : Text
  name : Text
  type : Text
  tail : FieldTail
deriving DecidableEq, Repr

namespace FieldTail

/-- A comment behind a tag runs to the end of the line. Text that does not start as a comment is
none. -/
def commentAfterTag (t : Text) : Option Text :=
  if "//".toList.isPrefixOf t || "/*".toList.isPrefixOf t then some (dropFinalNewline t) else none

/-- A tail with a tag: blanks, then text between backquotes. -/
def tagged? (t : Text) : Option FieldTail := do
  let opened ← "`".toList.isPrefixOf? (← skipBlanks? t)
  let tag := opened.takeWhile (· != '`')
  let rest ← "`".toList.isPrefixOf? (opened.dropWhile (· != '`'))
  if fitsLine (trimStart rest) then some (tagged tag (commentAfterTag (trimStart rest))) else none

/-- A tail without a tag: blanks, then perhaps a comment on one line. -/
def untagged? (t : Text) : Option FieldTail :=
  let comment := trimEnd (trimStart t)
  if comment.isEmpty then some (untagged none)
  else if "//".toList.isPrefixOf comment && !comment.contains '\n' then
    some (untagged (some (t.takeWhile isBlank ++ comment)))
  else none

/-- The tail of a field line. -/
def ofText? (t : Text) : Option FieldTail :=
  match tagged? t with
  | some tail => some tail
  | none => untagged? t

end FieldTail

namespace FieldLine

/-- The parts of a line, if it is a field line. -/
def ofLine? (line : Text) : Option FieldLine := do
  let (name, afterName) ← takeWord? (trimStart line)
  let (type, afterType) ← takeRun? isStructTypeChar (← skipBlanks? afterName)
  let tail ← FieldTail.ofText? afterType
  return ⟨line.takeWhile isBlank, name, type, tail⟩

/-- The entry of the line's tag, if it has a tag with one. -/
def entry? (l : FieldLine) : Option JsonEntry :=
  match l.tail with
  | .tagged tag _ => JsonEntry.ofTag? tag
  | .untagged _ => none

/-- The comment behind the field. -/
def comment? (l : FieldLine) : Option Text :=
  match l.tail with
  | .tagged _ comment => comment
  | .untagged comment => comment

/-- The serialised name and whether it may be left out. Without an entry the name is spelled in
camel case; an entry without a name leaves the field's own. -/
def serialised (l : FieldLine) : JsonEntry :=
  match l.entry? with
  | some ⟨[], omittable⟩ => ⟨l.name, omittable⟩
  | some entry => entry
  | none => ⟨Name.camel l.name, false⟩

/-- The field of the line. A field that is not exported, or whose serialised name is a dash, is
not part of the serialised form. -/
def toField? (v : Vocabulary) (l : FieldLine) : Option Field :=
  if Name.isExported l.name && l.serialised.name != ['-'] then
    some { name := l.name
           type := TypeExpr.ofStruct v l.type
           jsonName := l.serialised.name
           omittable := l.serialised.omittable
           comment := l.comment?.map trim }
  else none

end FieldLine

/-- The field on a line of a struct. -/
def structField? (v : Vocabulary) (line : Text) : Option Field := do
  (← FieldLine.ofLine? line).toField? v

end WireTypes
