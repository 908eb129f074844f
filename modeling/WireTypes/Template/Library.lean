import WireTypes.Template.Render

/-! Templates by name: those of a folder first, then those in memory. -/

namespace WireTypes

open Text

namespace Template

/-- The built-in template of a struct. -/
def structSource : Text :=
  "type \x7b\x7b struct_name \x7d\x7d struct \x7b\n".toList ++
  "\x7b% for field in fields %\x7d\n".toList ++
  "\t\x7b\x7b field.name \x7d\x7d \x7b\x7b field.type \x7d\x7d ".toList ++
  "\x7b\x7b field.tag \x7d\x7d\x7b\x7b field.comment \x7d\x7d\n".toList ++
  "\x7b% endfor %\x7d\n\x7d".toList

/-- The built-in template of an interface. -/
def interfaceSource : Text :=
  "\x7b\x7b prefix \x7d\x7dinterface \x7b\x7b interface_name \x7d\x7d \x7b\n".toList ++
  "\x7b% for field in fields %\x7d\n".toList ++
  "  \x7b\x7b field.name \x7d\x7d\x7b\x7b field.marker \x7d\x7d: \x7b\x7b field.type \x7d\x7d;".toList ++
  "\x7b\x7b field.comment \x7d\x7d\n\x7b% endfor %\x7d\n\x7d".toList

/-- The templates that can be used by name. -/
structure Library where
  /-- The folder whose files come first. -/
  folder : Option Path
  /-- The templates in memory. -/
  memory : Table Text
deriving DecidableEq, Repr

namespace Library

/-- The built-in templates. -/
def builtIn : Table Text :=
  [("struct.go.j2".toList, structSource), ("interface.ts.j2".toList, interfaceSource)]

/-- The built-in templates behind those of a folder. A folder that is not there is ignored. -/
def ofFolder (fs : Files) : Json → Except Fault Library
  | .null => .ok ⟨none, builtIn⟩
  | .string t =>
    let folder := Path.ofText t
    match fs.present folder with
    | .ok isThere => .ok ⟨if isThere then some folder else none, builtIn⟩
    | .error cause => .error (.folder cause)
  | _ => .error .folderKind

/-- The library with a further template in memory. -/
def add (l : Library) (name source : Text) : Library :=
  { l with memory := l.memory.insert name source }

/-- The text of the file of a template. A name that steps to a parent has none. -/
def fileSource? (l : Library) (fs : Files) (name : Text) : Except Fault (Option Text) :=
  match l.folder with
  | none => .ok none
  | some folder =>
    let names := Path.namesOf name
    if names.contains Path.parentName then .ok none
    else
      match fs.file? (folder.append names) with
      | none => .ok none
      | some (.text t) => .ok (some (unifyNewlines t))
      | some .binary => .error .undecodable

/-- The text of a template. -/
def source (l : Library) (fs : Files) (name : Text) : Except Fault Text := do
  match ← l.fileSource? fs name with
  | some t => return t
  | none =>
    match l.memory.get? name with
    | some t => return t
    | none => throw (.notFound name)

/-- Whether there is a template of this name. One that cannot be read or compiled is a fault. -/
def present (l : Library) (fs : Files) (name : Text) : Except Fault Bool :=
  match l.source fs name with
  | .error (.notFound _) => .ok false
  | .error e => .error e
  | .ok t => do
    let _ ← compile t
    return true

/-- The text that a template gives for some values. -/
def render (l : Library) (fs : Files) (name : Text) (values : Table Json) : Except Fault Text := do
  renderText (some name) (← l.source fs name) values

end Library

end Template

end WireTypes
