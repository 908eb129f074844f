import WireTypes.Text.Word

/-! Struct tags: the entry under the key `json`. -/

namespace WireTypes

open Text

/-- What a struct tag says about the serialised form of a field. -/
structure JsonEntry where
  /-- The name, which may be empty. -/
  name : Text
  /-- Whether the field may be left out. -/
  omittable : Bool
deriving DecidableEq, Repr

namespace JsonEntry

/-- The value at the start of a text that starts with the key `json` and a closed literal. -/
def valueAtStart? (t : Text) : Option Text := do
  let rest ← "json:\"".toList.isPrefixOf? t
  let value := rest.takeWhile (· != '"')
  if value.length < rest.length then some value else none

/-- The first value of the key `json` that no word character runs into. The character before the
text is given. -/
def valueAfter? (before : Option Char) : Text → Option Text
  | [] => none
  | c :: rest =>
    match if before.any isWord then none else valueAtStart? (c :: rest) with
    | some value => some value
    | none => valueAfter? (some c) rest

/-- Whether an option lets a field be left out. -/
def allowsOmission (option : Text) : Bool :=
  option == "omitempty".toList || option == "omitzero".toList

/-- The entry of a value: the name, then options between commas. -/
def ofValue (value : Text) : JsonEntry :=
  match splitOn ',' value with
  | [] => ⟨[], false⟩
  | name :: options => ⟨trim name, options.any fun option => allowsOmission (trim option)⟩

/-- The entry of a tag, if it has one. -/
def ofTag? (tag : Text) : Option JsonEntry := (valueAfter? none tag).map ofValue

/-- The text of the tag that holds the entry alone. -/
def toTag (e : JsonEntry) : Text :=
  "json:\"".toList ++ e.name ++ (if e.omittable then ",omitempty".toList else []) ++ ['"']

/-- The tag between the backquotes that a struct puts around it. -/
def quotedTag (e : JsonEntry) : Text := '`' :: e.toTag ++ ['`']

end JsonEntry

end WireTypes
