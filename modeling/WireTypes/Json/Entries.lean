import WireTypes.Json.Printer

/-! Values as entries: the members of an object, or a list of pairs whose keys may
be any scalars. -/

namespace WireTypes

open Text

/-- Pairs of a scalar key and a value, in the order in which the keys first came in. -/
abbrev Entries := List (Json × Json)

namespace Entries

/-- Sets the value at a key: in place if an equal key is there, else at the end. -/
def insert : Entries → Json → Json → Entries
  | [], key, value => [(key, value)]
  | (k, v) :: rest, key, value =>
    if k.sameScalar key then (k, value) :: rest else (k, v) :: insert rest key value

/-- Inserts every pair of the second list, in its order. -/
def merge (es others : Entries) : Entries := others.foldl (fun acc (k, v) => acc.insert k v) es

/-- The entries of a table. -/
def ofTable (t : Table Json) : Entries := t.map fun (key, value) => (.string key, value)

/-- The entries whose keys are text. -/
def texts (es : Entries) : Table Json :=
  es.filterMap fun (key, value) =>
    match key with
    | .string t => some (t, value)
    | _ => none

/-- Whether all keys are text. -/
def allTexts (es : Entries) : Bool := es.texts.length = es.length

/-- The text of a key: a string for itself, and any other scalar as JSON spells it. -/
def keyText : Json → Text
  | .string t => t
  | scalar => scalar.compact

/-- The entries as an object. Keys that are spelled alike stay apart. -/
def toJson (es : Entries) : Json := .object (es.map fun (key, value) => (keyText key, value))

/-- The value at a key. -/
def get? : Entries → Json → Option Json
  | [], _ => none
  | (k, v) :: rest, key => if k.sameScalar key then some v else get? rest key

/-- Equality of entries, whatever their order. -/
def same (es others : Entries) : Bool :=
  es.length = others.length && es.all fun (key, value) => (others.get? key).any value.same

end Entries

namespace Json

/-- Why a value has no entries. -/
inductive EntryFault where
  /-- It, or an entry of it, is of a kind that holds no entries. -/
  | kind
  /-- An entry has not two parts. -/
  | shape
deriving DecidableEq, Repr

/-- Whether a value may be a key. -/
def isScalar : Json → Bool
  | list _ | object _ => false
  | _ => true

/-- An entry of two parts. -/
def entry : Json → Except EntryFault (Json × Json)
  | list [key, value] => if key.isScalar then .ok (key, value) else .error .kind
  | string [key, value] => .ok (string [key], string [value])
  | object [(key, _), (value, _)] => .ok (string key, string value)
  | list _ | string _ | object _ => .error .shape
  | _ => .error .kind

/-- The entries of a value: the members of an object, or the two-part items of a list. An empty text
has none. -/
def entries : Json → Except EntryFault Entries
  | object members => .ok (Entries.ofTable members)
  | list items => do return Entries.merge [] (← items.mapM entry)
  | string [] => .ok []
  | string _ => .error .shape
  | _ => .error .kind

/-- The entries of a value that may be missing: one that is not set has none. -/
def entriesIfSet (value : Json) : Except EntryFault Entries :=
  if value.isSet then value.entries else .ok []

end Json

end WireTypes
