import WireTypes.Json.Value
import WireTypes.Number.Shortest
import WireTypes.Text.Quoted

/-! Writing JSON, on one line or indented, and showing values in messages. -/

namespace WireTypes

open Text

namespace Json

/-- The escape of a 16-bit unit. -/
def unitEscape (n : Nat) : Text := '\\' :: 'u' :: hex 4 n

/-- The escape of a character by its 16-bit units. -/
def unicodeEscape (c : Char) : Text :=
  if c.toNat < 0x10000 then unitEscape c.toNat
  else
    unitEscape (0xD800 + (c.toNat - 0x10000) / 0x400) ++
      unitEscape (0xDC00 + (c.toNat - 0x10000) % 0x400)

/-- A character inside a string. Control characters are always escaped; the delete character and
those outside ASCII only if `ascii` is set. -/
def stringChar (ascii : Bool) (c : Char) : Text :=
  if c = '"' ∨ c = '\\' then ['\\', c]
  else if c = '\n' then ['\\', 'n']
  else if c = '\r' then ['\\', 'r']
  else if c = '\t' then ['\\', 't']
  else if c = '\x0c' then ['\\', 'f']
  else if c = '\x08' then ['\\', 'b']
  else if c.toNat < 0x20 ∨ (ascii = true ∧ 0x7E < c.toNat) then unicodeEscape c
  else [c]

/-- A string between quotes. -/
def writeString (ascii : Bool) (t : Text) : Text := '"' :: t.flatMap (stringChar ascii) ++ ['"']

/-- A whole number in decimal. -/
def writeWhole (n : Int) : Text :=
  if n < 0 then '-' :: Text.ofNat n.natAbs else Text.ofNat n.natAbs

/-- A number, where `infinity` and `nan` are the words for those that are none. -/
def writeDouble (infinity nan : Text) : Double → Text
  | .finite negative mantissa exponent => Double.writeFinite negative mantissa exponent
  | .infinite negative => if negative then '-' :: infinity else infinity
  | .nan => nan

/-- A number as JSON. -/
def writeFloat (x : Double) : Text := writeDouble "Infinity".toList "NaN".toList x

/-! ### On one line -/

mutual

/-- The value on one line, in ASCII. -/
def compact : Json → Text
  | null => "null".toList
  | bool b => if b then "true".toList else "false".toList
  | whole n => writeWhole n
  | float x => writeFloat x
  | string t => writeString true t
  | list items => '[' :: commaSeparated (compactItems items) ++ [']']
  | object members => '\x7b' :: commaSeparated (compactMembers members) ++ ['\x7d']

/-- The items of a list, each on one line. -/
def compactItems : List Json → List Text
  | [] => []
  | item :: rest => compact item :: compactItems rest

/-- The members of an object, each on one line. -/
def compactMembers : List (Text × Json) → List Text
  | [] => []
  | (name, value) :: rest =>
    (writeString true name ++ ": ".toList ++ compact value) :: compactMembers rest

end

/-! ### Indented -/

/-- A line feed and an indent of two spaces a level. -/
def newline (level : Nat) : Text := '\n' :: List.replicate (2 * level) ' '

/-- Entries between brackets, each on a line of its own one level deeper; the brackets alone without
entries. -/
def enclose (left right : Char) (level : Nat) (entries : List Text) : Text :=
  if entries.isEmpty then [left, right]
  else
    left :: newline (level + 1) ++ List.intercalate (',' :: newline (level + 1)) entries ++
      newline level ++ [right]

mutual

/-- The value at a level of indentation; only control characters are escaped. -/
def indented (level : Nat) : Json → Text
  | null => "null".toList
  | bool b => if b then "true".toList else "false".toList
  | whole n => writeWhole n
  | float x => writeFloat x
  | string t => writeString false t
  | list items => enclose '[' ']' level (indentedItems (level + 1) items)
  | object members => enclose '\x7b' '\x7d' level (indentedMembers (level + 1) members)

/-- The items of a list at a level of indentation. -/
def indentedItems (level : Nat) : List Json → List Text
  | [] => []
  | item :: rest => indented level item :: indentedItems level rest

/-- The members of an object at a level of indentation. -/
def indentedMembers (level : Nat) : List (Text × Json) → List Text
  | [] => []
  | (name, value) :: rest =>
    (writeString false name ++ ": ".toList ++ indented level value) :: indentedMembers level rest

end

/-! ### In messages -/

mutual

/-- The value as messages show it, if they can (`isShowable`). -/
def shown : Json → Text
  | null => "None".toList
  | bool b => if b then "True".toList else "False".toList
  | whole n => writeWhole n
  | float x => writeDouble "inf".toList "nan".toList x
  | string t => quoted t
  | list items => '[' :: commaSeparated (shownItems items) ++ [']']
  | object members => '\x7b' :: commaSeparated (shownMembers members) ++ ['\x7d']

/-- The items of a list as messages show them. -/
def shownItems : List Json → List Text
  | [] => []
  | item :: rest => shown item :: shownItems rest

/-- The members of an object as messages show them. -/
def shownMembers : List (Text × Json) → List Text
  | [] => []
  | (name, value) :: rest => (quoted name ++ ": ".toList ++ shown value) :: shownMembers rest

end

mutual

/-- Whether messages can show a value: no whole number in it has too many digits. -/
def isShowable : Json → Bool
  | null | bool _ | float _ | string _ => true
  | whole n => (Text.ofNat n.natAbs).length ≤ maxWholeDigits
  | list items => areShowable items
  | object members => membersShowable members

/-- Whether messages can show all items of a list. -/
def areShowable : List Json → Bool
  | [] => true
  | item :: rest => isShowable item && areShowable rest

/-- Whether messages can show all members of an object. -/
def membersShowable : List (Text × Json) → Bool
  | [] => true
  | (_, value) :: rest => isShowable value && membersShowable rest

end

/-- The text that a value stands for: a string for itself, and any other value for what messages
show of it. -/
def plain : Json → Text
  | string t => t
  | value => value.shown

end Json

end WireTypes
