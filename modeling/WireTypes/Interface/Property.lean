import WireTypes.Declaration.Basic
import WireTypes.Interface.Union

/-! Property lines of an interface: a name, a colon and a type, then perhaps a terminator and a
comment. -/

namespace WireTypes

open Text

/-- The parts of a property line. -/
structure Property where
  name : Text
  /-- Whether the name is followed by a question mark. -/
  optional : Bool
  /-- The text of the type. -/
  type : Text
  comment : Option Text
deriving DecidableEq, Repr

namespace Property

/-- What may follow a terminator: nothing, or a comment on the rest of the line. -/
inductive Tail where
  | nothing
  | comment (text : Text)
deriving DecidableEq, Repr

/-- The tail of a property line. -/
def Tail.ofText? : Text → Option Tail
  | [] => some .nothing
  | t =>
    if "//".toList.isPrefixOf t && fitsLine t then some (.comment (dropFinalNewline t)) else none

/-- The comment of a tail. -/
def Tail.comment? : Tail → Option Text
  | .nothing => none
  | .comment text => some text

/-- A character of a type. A semicolon ends a type and a slash starts a comment. -/
def isTypeChar (c : Char) : Bool := c != ';' && c != '/'

/-- The type without a comma that ends the property. A comma alone is a type. -/
def dropComma (t : Text) : Text :=
  match t.reverse with
  | ',' :: c :: rest => trimEnd (c :: rest).reverse
  | _ => t

/-- The type and the tail of what follows the colon and its blanks. -/
def typeAndTail? (t : Text) : Option (Text × Tail) :=
  let type := trimEnd (t.takeWhile isTypeChar)
  match t.dropWhile isTypeChar with
  | ';' :: rest => do return (type, ← Tail.ofText? (trimStart rest))
  | rest => do return (dropComma type, ← Tail.ofText? rest)

/-- The name at the start of a property, and what follows it. A word `readonly` before the name is
passed over. -/
def name? (t : Text) : Option (Text × Text) :=
  match "readonly".toList.isPrefixOf? t with
  | none => takeWord? t
  | some rest =>
    match (skipBlanks? rest).bind takeWord? with
    | some found => some found
    | none => takeWord? t

/-- The parts of a line, if it is a property line. A blank after the colon is a type of its own if
no other type is there. -/
def ofLine? (line : Text) : Option Property := do
  let (name, afterName) ← name? (trimStart line)
  let (optional, afterMark) := match afterName with
    | '?' :: rest => (true, rest)
    | _ => (false, afterName)
  let afterColon ← ":".toList.isPrefixOf? (trimStart afterMark)
  let rest := trimStart afterColon
  let (type, tail) ← typeAndTail? rest
  if (rest.takeWhile isTypeChar).isEmpty then
    if rest.length < afterColon.length then some ⟨name, optional, [' '], tail.comment?⟩ else none
  else some ⟨name, optional, type, tail.comment?⟩

/-- The field of the property. -/
def toField (v : Vocabulary) (p : Property) : Field :=
  { name := p.name
    type := Union.toType v p.optional p.type
    jsonName := p.name
    omittable := p.optional
    comment := p.comment.map trim }

end Property

/-- The field on a line of an interface. -/
def interfaceField? (v : Vocabulary) (line : Text) : Option Field :=
  (Property.ofLine? line).map (·.toField v)

/-- What is worth reporting about a line of an interface. -/
def interfaceFieldEvents (line : Text) : List Event :=
  match Property.ofLine? line with
  | some p => Union.events p.type
  | none => []

end WireTypes
