import WireTypes.Template.Value
import WireTypes.Files.Basic
import WireTypes.Name

/-! Rendering a template with the values of a scope. -/

namespace WireTypes

open Text

namespace Template

/-- A naming filter. -/
inductive Filter where
  | snake
  | camel
  | pascal
deriving DecidableEq, Repr

namespace Filter

/-- The filter of a name. -/
def ofName? (name : Text) : Option Filter :=
  if name = "snake_case".toList then some snake
  else if name = "camel_case".toList then some camel
  else if name = "pascal_case".toList then some pascal
  else none

/-- What the filter makes of a name. -/
def apply : Filter → Text → Text
  | snake => Name.snake
  | camel => Name.camel
  | pascal => Name.pascal

end Filter

/-- Why a template gives no text. -/
inductive Fault where
  /-- There is no template of this name. -/
  | notFound (name : Text)
  /-- The template is not well formed. -/
  | malformed
  /-- A filter has no known name. -/
  | unknownFilter (name : Text)
  /-- A loop gives its items the name of the loop itself. -/
  | reservedItem
  /-- Loops stand too deep in one another. -/
  | tooDeep
  /-- A value is given the name of the template itself. -/
  | reservedName
  /-- A value is used that is not there. -/
  | undefined
  /-- A filter meets a value that is no text. -/
  | filterOnNonText (f : Filter)
  /-- A loop meets a value that has no items. -/
  | noItems
  /-- The file of the template is no text. -/
  | undecodable
  /-- The folder of templates is no text. -/
  | folderKind
  /-- The folder of templates cannot be looked up. -/
  | folder (cause : FileFault)
deriving DecidableEq, Repr

/-- The wording of a template that was not found. -/
def Fault.message? : Fault → Option Text
  | notFound name => some ("Template not found: ".toList ++ name)
  | _ => none

/-! ### Names that a template may use -/

/-- The name of the loop inside a loop. -/
def loopName : Text := "loop".toList

/-- The filters of an expression whose names are all known. -/
def Expr.knownFilters (e : Expr) : Except Fault (List Filter) :=
  e.filters.mapM fun name =>
    match Filter.ofName? name with
    | some f => .ok f
    | none => .error (.unknownFilter name)

mutual

/-- Whether every filter in a node has a known name and no item that of the loop. -/
def Node.check : Node → Except Fault Unit
  | .text _ => .ok ()
  | .place e => do
    let _ ← e.knownFilters
  | .loop item items body =>
    if item = loopName then .error .reservedItem
    else do
      let _ ← items.knownFilters
      checkAll body

/-- Whether every filter in some nodes has a known name and no item that of the loop. -/
def checkAll : List Node → Except Fault Unit
  | [] => .ok ()
  | node :: rest => do
    node.check
    checkAll rest

end

mutual

/-- How many loops stand in one another in a node. -/
def Node.depth : Node → Nat
  | .loop _ _ body => depthOfAll body + 1
  | _ => 0

/-- How many loops stand in one another in some nodes. -/
def depthOfAll : List Node → Nat
  | [] => 0
  | node :: rest => max node.depth (depthOfAll rest)

end

/-- How many loops may stand in one another. -/
def maxDepth : Nat := 20

/-- The tree of a template that can be rendered. -/
def compile (t : Text) : Except Fault (List Node) :=
  match ofText? t with
  | none => .error .malformed
  | some nodes => do
    checkAll nodes
    if maxDepth < depthOfAll nodes then throw .tooDeep else return nodes

/-! ### Expressions -/

/-- A part of a value. -/
def Attribute.of (a : Attribute) (value : Value) : Except Fault Value :=
  let found := match a with
    | .name n => value.part? n
    | .place n => value.item? n
  found.elim (.error .undefined) .ok

/-- A value behind a filter. -/
def Filter.applyTo (f : Filter) (value : Value) : Except Fault Value :=
  match value, f with
  | .data (.string t), f => .ok (.text (f.apply t))
  | .missing, snake => .error .undefined
  | _, f => .error (.filterOnNonText f)

/-- The value of a source. -/
def Source.value (scope : Scope) : Source → Value
  | name n => valueOf scope n
  | literal t => .text t
  | number n => .data (.whole n)
  | truth b => .data (.bool b)
  | nothing => .data .null

/-- The value of an expression. -/
def Expr.value (scope : Scope) (e : Expr) : Except Fault Value := do
  let value ← e.attributes.foldlM (fun value a => a.of value) (e.source.value scope)
  (← e.knownFilters).foldlM (fun value f => f.applyTo value) value

/-! ### Texts -/

/-- A character in markup. -/
def escapeChar (c : Char) : Text :=
  if c = '&' then "&amp;".toList
  else if c = '<' then "&lt;".toList
  else if c = '>' then "&gt;".toList
  else if c = '"' then "&#34;".toList
  else if c = '\'' then "&#39;".toList
  else [c]

/-- A text in markup. -/
def escape (t : Text) : Text := t.flatMap escapeChar

/-- The scope for an item of a loop. -/
def itemScope (scope : Scope) (item : Text) (items : List Json) (value : Json) (place : Nat) :
    Scope :=
  Table.insert (Table.insert scope loopName (.loop ⟨items, place⟩)) item (.data value)

mutual

/-- The text of a node. Values are escaped for markup if `markup` is set. -/
def Node.render (markup : Bool) (scope : Scope) : Node → Except Fault Text
  | .text t => .ok t
  | .place e => do
    let t := (← e.value scope).toText
    return if markup then escape t else t
  | .loop item items body => do
    match (← items.value scope).items? with
    | none => throw .noItems
    | some values =>
      let parts ← values.zipIdx.mapM fun (value, place) =>
        renderAll markup (itemScope scope item values value place) body
      return parts.flatten

/-- The text of some nodes. -/
def renderAll (markup : Bool) (scope : Scope) : List Node → Except Fault Text
  | [] => .ok []
  | node :: rest => do
    let first ← node.render markup scope
    let others ← renderAll markup scope rest
    return first ++ others

end

/-- The scope of a template with some values. No value may have the name of the template itself. -/
def scopeOf (name : Option Text) (values : Table Json) : Except Fault Scope :=
  if Table.contains values selfName then .error .reservedName
  else .ok ((selfName, selfValue name) :: values.map fun (key, value) => (key, .data value))

/-- Whether values are escaped in a template: its name ends as that of a markup file. -/
def isMarkup (name : Option Text) : Bool :=
  [".html".toList, ".xml".toList].any fun ending => name.any (ending.isSuffixOf <| lower ·)

/-- The text that a template gives for some values. Only a template of a library has a name. -/
def renderText (name : Option Text) (t : Text) (values : Table Json) : Except Fault Text := do
  let nodes ← compile t
  renderAll (isMarkup name) (← scopeOf name values) nodes

end Template

end WireTypes
