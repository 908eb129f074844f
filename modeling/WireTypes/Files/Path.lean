import WireTypes.Text.Case

/-! Paths: names below the working folder or below the root. -/

namespace WireTypes

open Text

/-- A path without empty names and single dots. -/
structure Path where
  /-- The slashes that a path below the root starts with; none for a path below
  the working folder. -/
  root : Text
  names : List Text
deriving DecidableEq, Repr

namespace Path

/-- The slashes at the start of a path: two stay two, any other number counts as one. -/
def rootOf (t : Text) : Text :=
  match (t.takeWhile (· == '/')).length with
  | 0 => []
  | 2 => "//".toList
  | _ => "/".toList

/-- The names between slashes, without empty ones and single dots. -/
def namesOf (t : Text) : List Text :=
  (splitOn '/' t).filter fun name => !name.isEmpty && name != ['.']

/-- The path that a text spells. -/
def ofText (t : Text) : Path := ⟨rootOf t, namesOf t⟩

/-- The text of a path; a dot for the working folder. -/
def toText (p : Path) : Text :=
  let t := p.root ++ List.intercalate ['/'] p.names
  if t.isEmpty then ['.'] else t

/-- The path with further names behind it. -/
def append (p : Path) (names : List Text) : Path := ⟨p.root, p.names ++ names⟩

/-- The ending of the last name from its last dot on. A dot at either end of the
name starts none. -/
def extension (p : Path) : Text :=
  let reversed := (p.names.getLast?.getD []).reverse
  let ending := reversed.takeWhile (· != '.')
  match reversed.drop ending.length with
  | '.' :: _ :: _ => if ending.isEmpty then [] else '.' :: ending.reverse
  | _ => []

/-- The name that stands for the folder above. -/
def parentName : Text := "..".toList

/-- How many bytes a text takes. -/
def size (t : Text) : Nat := t.foldl (fun n c => n + c.utf8Size) 0

/-- The greatest size of a name. -/
def maxNameSize : Nat := 255

/-- The greatest size of a path. -/
def maxSize : Nat := 4095

/-- Whether a name holds the character that ends a name. -/
def hasBadName (p : Path) : Bool := p.names.any (·.contains '\x00')

end Path

end WireTypes
