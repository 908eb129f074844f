import WireTypes.Declaration.Basic
import WireTypes.Text.Case
import WireTypes.Event

/-! The registry: which component reads and which writes a notation, by name and by alias. -/

namespace WireTypes

open Text

/-- What a notation can be registered with. -/
inductive Component where
  /-- Reads declarations in a notation. -/
  | reader (n : Notation)
  /-- Writes declarations in a notation. -/
  | writer (n : Notation)
  /-- The common part of all readers, which reads nothing by itself. -/
  | anyReader
  /-- The common part of all writers, which writes nothing by itself. -/
  | anyWriter
  /-- Something that neither reads nor writes. -/
  | stranger (name : Text)
deriving DecidableEq, Repr

namespace Component

/-- The name of a component. -/
def name : Component → Text
  | reader .struct => "GoStructParser".toList
  | reader .interface => "TsInterfaceParser".toList
  | writer .struct => "GoStructEmitter".toList
  | writer .interface => "TsInterfaceEmitter".toList
  | anyReader => "DeclarationParser".toList
  | anyWriter => "Emitter".toList
  | stranger name => name

/-- Whether a component may stand as a reader. -/
def isReader : Component → Bool
  | reader _ | anyReader => true
  | _ => false

/-- Whether a component may stand as a writer. -/
def isWriter : Component → Bool
  | writer _ | anyWriter => true
  | _ => false

/-- The notation that a component serves; none if it serves none by itself. -/
def served? : Component → Option Notation
  | reader n | writer n => some n
  | _ => none

/-- The components of the library. -/
def all : List Component :=
  [reader .struct, reader .interface, anyReader, writer .struct, writer .interface, anyWriter]

/-- The component of a name. -/
def ofName (name : Text) : Component := (all.find? (·.name = name)).getD (stranger name)

end Component

/-- The notations that can be used by name. -/
structure Registry where
  /-- The reader and the writer of each name. -/
  entries : Table (Component × Component) := []
  /-- The name that each alias stands for. -/
  aliases : Table Text := []
deriving DecidableEq, Repr

namespace Registry

/-- Why the registry refuses. -/
inductive Fault where
  | notReader
  | notWriter
  /-- An alias is the name of a notation. -/
  | aliasIsName (a : Text)
  /-- An alias stands for another name. -/
  | aliasTaken (a name : Text)
  /-- There is no notation of this name among those available. -/
  | unknown (name : Text) (available : List Text)
  /-- The component does nothing by itself. -/
  | incomplete
deriving DecidableEq, Repr

/-- The wording of a fault; none if the component itself is at fault. -/
def Fault.message? : Fault → Option Text
  | notReader => some "Parser class must inherit from DeclarationParser".toList
  | notWriter => some "Emitter class must inherit from Emitter".toList
  | aliasIsName a =>
    some ("Alias '".toList ++ a ++ "' conflicts with existing primary notation".toList)
  | aliasTaken a name =>
    some ("Alias '".toList ++ a ++ "' already points to '".toList ++ name ++ "'".toList)
  | unknown name available =>
    some ("No notation registered for: ".toList ++ name ++ ". Available: ".toList ++
      commaSeparated available)
  | incomplete => none

/-- The names in the order of their code points. -/
def names (r : Registry) : List Text := r.entries.sorted.keys

/-- Why an alias cannot stand for a name without replacing anything. -/
def aliasFault? (r : Registry) (name a : Text) : Option Fault :=
  if r.entries.contains (lower a) then some (.aliasIsName a)
  else
    match r.aliases.get? (lower a) with
    | some other => if other = name then none else some (.aliasTaken a other)
    | none => none

/-- Adds aliases of a name up to the first one that is refused. An alias equal to the name is passed
over. -/
def addAliases (replacing : Bool) (name : Text) (r : Registry) : List Text → Registry × Option Fault
  | [] => (r, none)
  | a :: rest =>
    if lower a = name then addAliases replacing name r rest
    else
      match if replacing then none else r.aliasFault? name a with
      | some fault => (r, some fault)
      | none => addAliases replacing name { r with aliases := r.aliases.insert (lower a) name } rest

/-- Registers a notation, and says what was refused. A name that is there stays as it is unless it
is replaced. When an alias is refused, what came before it remains. -/
def register (r : Registry) (name : Text) (reader writer : Component) (aliases : List Text)
    (replacing : Bool) : Registry × Option Fault :=
  if !reader.isReader then (r, some .notReader)
  else if !writer.isWriter then (r, some .notWriter)
  else if r.entries.contains (lower name) && !replacing then (r, none)
  else
    addAliases replacing (lower name)
      { r with entries := r.entries.insert (lower name) (reader, writer) } aliases

/-- The name that a name or an alias stands for. -/
def resolve (r : Registry) (name : Text) : Except Fault Text :=
  if r.entries.contains (lower name) then .ok (lower name)
  else
    match r.aliases.get? (lower name) with
    | some target => .ok target
    | none => .error (.unknown name r.names)

/-- Whether a name or an alias is there. -/
def supports (r : Registry) (name : Text) : Bool :=
  r.entries.contains (lower name) || r.aliases.contains (lower name)

/-- The reader and the writer of a name or an alias. -/
def entry (r : Registry) (name : Text) : Except Fault (Component × Component) := do
  let target ← r.resolve name
  match r.entries.get? target with
  | some e => return e
  | none => throw (.unknown target r.names)

/-- A component that works. -/
def usable (c : Component) : Except Fault Component :=
  if c.served?.isSome then .ok c else .error .incomplete

/-- The reader of a name or an alias. -/
def reader (r : Registry) (name : Text) : Except Fault Component := do
  usable (← r.entry name).1

/-- The writer of a name or an alias. -/
def writer (r : Registry) (name : Text) : Except Fault Component := do
  usable (← r.entry name).2

/-- The aliases of a name in the order of their code points. -/
def aliasesOf (r : Registry) (name : Text) : Except Fault (List Text) := do
  let target ← r.resolve name
  return (Table.sorted (r.aliases.filter fun (_, t) => t = target)).keys

/-- What is known of a notation. -/
structure Info where
  /-- The notation that the writer serves. -/
  served : Notation
  reader : Component
  writer : Component
  aliases : List Text
deriving DecidableEq, Repr

/-- What is known of the notation of a name or an alias. -/
def info (r : Registry) (name : Text) : Except Fault Info := do
  let (reader, writer) ← r.entry name
  match writer.served? with
  | none => throw .incomplete
  | some served => return ⟨served, reader, writer, ← r.aliasesOf name⟩

/-- The registry of both notations. -/
def builtIn : Registry :=
  let r := (register {} Notation.struct.name (.reader .struct) (.writer .struct)
    ["golang".toList] false).1
  (r.register Notation.interface.name (.reader .interface) (.writer .interface)
    ["ts".toList] false).1

end Registry

end WireTypes
