import WireTypes.Declaration.Basic
import WireTypes.Text.Word

/-! Header lines, and the notation of a text by its first line. -/

namespace WireTypes

open Text

/-- The name in a line that opens a struct: `type`, a name and `struct`, between blanks. -/
def structHeader? (line : Text) : Option Text := do
  let afterKeyword ← "type".toList.isPrefixOf? (trimStart line)
  let (name, afterName) ← takeWord? (← skipBlanks? afterKeyword)
  let rest ← "struct".toList.isPrefixOf? (← skipBlanks? afterName)
  if rest.head?.any isWord then none else some name

/-- The name in a line that starts with `interface`. -/
def interfaceName? (line : Text) : Option Text := do
  let afterKeyword ← "interface".toList.isPrefixOf? line
  let (name, _) ← takeWord? (← skipBlanks? afterKeyword)
  return name

/-- The name in a line that opens an interface: `interface` and a name, perhaps after `export`. -/
def interfaceHeader? (line : Text) : Option Text :=
  match "export".toList.isPrefixOf? (trimStart line) with
  | some rest => do interfaceName? (← skipBlanks? rest)
  | none => interfaceName? (trimStart line)

/-- The name in a line that opens a declaration in the notation. -/
def Notation.header? : Notation → Text → Option Text
  | .struct => structHeader?
  | .interface => interfaceHeader?

/-- Why a text is not converted. -/
inductive Rejection where
  /-- Nothing but blanks. -/
  | empty
  /-- The first line opens no declaration. -/
  | unrecognized
deriving DecidableEq, Repr

namespace Rejection

/-- The name of the kind of rejection. -/
def kind : Rejection → Text
  | empty => "EmptyInput".toList
  | unrecognized => "UnrecognizedInput".toList

/-- The message to the user. -/
def message : Rejection → Text
  | empty => "Select a Go struct or TS interface.".toList
  | unrecognized => "Not a Go struct or TS interface.".toList

end Rejection

/-- The notation of a text, from the first line that is not blank. -/
def classify (t : Text) : Except Rejection Notation :=
  let source := trim t
  let first := source.takeWhile (· != '\n')
  if source.isEmpty then .error .empty
  else if (structHeader? first).isSome then .ok .struct
  else if (interfaceHeader? first).isSome then .ok .interface
  else .error .unrecognized

end WireTypes
