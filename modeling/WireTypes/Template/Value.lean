import WireTypes.Json.Printer
import WireTypes.Template.Syntax

/-! Values in a template, and their parts.

Data has operations beside its members. An operation hides a member of its name; templates can name
operations but not apply them. -/

namespace WireTypes

open Text

namespace Template

/-- A kind of values. -/
structure Kind where
  name : Text
deriving DecidableEq, Repr

namespace Kind

/-- The kind of a name. -/
def named (name : String) : Kind := ⟨name.toList⟩

/-- The kind of a value. -/
def ofJson : Json → Kind
  | .null => named "NoneType"
  | .bool _ => named "bool"
  | .whole _ => named "int"
  | .float _ => named "float"
  | .string _ => named "str"
  | .list _ => named "list"
  | .object _ => named "dict"

/-- The kind of operations. -/
def operation : Kind := named "builtin_function_or_method"

/-- The kind of kinds. -/
def kind : Kind := named "type"

/-- The text of a kind. -/
def toText (k : Kind) : Text := "<class ".toList ++ quoted k.name ++ ['>']

/-- The operations of all values. -/
def commonOperations : String :=
  "__delattr__ __dir__ __doc__ __eq__ __format__ __ge__ __getattribute__ __getstate__ __gt__ " ++
  "__hash__ __init__ __init_subclass__ __le__ __lt__ __ne__ __new__ __reduce__ __reduce_ex__ " ++
  "__repr__ __setattr__ __sizeof__ __str__ __subclasshook__"

/-- The operations of whole numbers. -/
def wholeOperations : String :=
  "__abs__ __add__ __and__ __bool__ __ceil__ __divmod__ __float__ __floor__ __floordiv__ " ++
  "__getnewargs__ __index__ __int__ __invert__ __lshift__ __mod__ __mul__ __neg__ __or__ __pos__ " ++
  "__pow__ __radd__ __rand__ __rdivmod__ __rfloordiv__ __rlshift__ __rmod__ __rmul__ __ror__ " ++
  "__round__ __rpow__ __rrshift__ __rshift__ __rsub__ __rtruediv__ __rxor__ __sub__ __truediv__ " ++
  "__trunc__ __xor__ as_integer_ratio bit_count bit_length conjugate from_bytes to_bytes"

/-- The operations of the kinds of data, by the names of the kinds. -/
def ownOperations : List (String × String) := [
  ("str",
    "__add__ __contains__ __getitem__ __getnewargs__ __iter__ __len__ __mod__ __mul__ __rmod__ " ++
    "__rmul__ capitalize casefold center count encode endswith expandtabs find format format_map " ++
    "index isalnum isalpha isascii isdecimal isdigit isidentifier islower isnumeric isprintable " ++
    "isspace istitle isupper join ljust lower lstrip maketrans partition removeprefix " ++
    "removesuffix replace rfind rindex rjust rpartition rsplit rstrip split splitlines " ++
    "startswith strip swapcase title translate upper zfill"),
  ("list",
    "__add__ __class_getitem__ __contains__ __delitem__ __getitem__ __iadd__ __imul__ __iter__ " ++
    "__len__ __mul__ __reversed__ __rmul__ __setitem__ append clear copy count extend index " ++
    "insert pop remove reverse sort"),
  ("dict",
    "__class_getitem__ __contains__ __delitem__ __getitem__ __ior__ __iter__ __len__ __or__ " ++
    "__reversed__ __ror__ __setitem__ clear copy fromkeys get items keys pop popitem setdefault " ++
    "update values"),
  ("int", wholeOperations),
  ("bool", wholeOperations),
  ("float",
    "__abs__ __add__ __bool__ __ceil__ __divmod__ __float__ __floor__ __floordiv__ __getformat__ " ++
    "__getnewargs__ __int__ __mod__ __mul__ __neg__ __pos__ __pow__ __radd__ __rdivmod__ " ++
    "__rfloordiv__ __rmod__ __rmul__ __round__ __rpow__ __rsub__ __rtruediv__ __sub__ " ++
    "__truediv__ __trunc__ as_integer_ratio conjugate fromhex hex is_integer"),
  ("NoneType", "__bool__")]

/-- The operations of a kind beside the common ones. -/
def own (k : Kind) : List Text :=
  ((ownOperations.lookup (String.ofList k.name)).map fun names => words names.toList).getD []

/-- Whether a kind has an operation. -/
def hasOperation (k : Kind) (name : Text) : Bool :=
  (words commonOperations.toList).contains name || k.own.contains name

/-- The kind that all kinds belong to. -/
def top : Kind := named "object"

/-- The kind that a kind directly belongs to. -/
def base? (k : Kind) : Option Kind :=
  if k = top then none else if k = named "bool" then some (named "int") else some top

/-- A kind and those it belongs to, the narrowest first. -/
def lineage (k : Kind) : List Kind :=
  match k.base? with
  | none => [k]
  | some base => if base = top then [k, top] else [k, base, top]

/-- Whether a kind can be narrowed to kinds of contents. -/
def isContainer (k : Kind) : Bool := k.name = "list".toList || k.name = "dict".toList

end Kind

/-- Where a loop stands. -/
structure LoopState where
  items : List Json
  /-- The place of the present item. -/
  place : Nat

/-- A value in a template. -/
inductive Value where
  | data (j : Json)
  /-- A value that is not there. -/
  | missing
  /-- An operation of some data. -/
  | operation (owner : Json) (name : Text)
  | kind (k : Kind)
  | loop (s : LoopState)
  /-- Something that can only be printed. -/
  | sealed (text : Text)

/-- A text as a value. -/
def Value.text (t : Text) : Value := .data (.string t)

/-- A value that may not be there. -/
def Value.ofOption (j : Option Json) : Value := (j.map .data).getD .missing

/-! ### Parts -/

/-- The number of a value that counts as whole. -/
def wholeOf? : Json → Option Int
  | .bool b => some (if b then 1 else 0)
  | .whole n => some n
  | _ => none

/-- The parts of numbers. -/
def numberPart? (j : Json) (name : Text) : Option Json :=
  match wholeOf? j, j with
  | some n, _ =>
    if name = "real".toList ∨ name = "numerator".toList then some (.whole n)
    else if name = "imag".toList then some (.whole 0)
    else if name = "denominator".toList then some (.whole 1)
    else none
  | none, .float x =>
    if name = "real".toList then some (.float x)
    else if name = "imag".toList then some (.float (.zero false))
    else none
  | none, _ => none

/-- The part that tells the kind of a value. -/
def kindName : Text := "__class__".toList

/-- A part of some data by name: its kind, an operation, or a member. -/
def dataPart (j : Json) (name : Text) : Value :=
  let k := Kind.ofJson j
  match numberPart? j name, j with
  | some part, _ => .data part
  | none, j =>
    if name = kindName then .kind k
    else if k.isContainer && name = "__hash__".toList then .data .null
    else if k.hasOperation name then .operation j name
    else
      match j with
      | .object members => .ofOption (Table.get? members name)
      | _ => .missing

/-- A part of an operation by name. -/
def operationPart (owner : Json) (operation name : Text) : Value :=
  if name = "__name__".toList then .text operation
  else if name = "__qualname__".toList then .text ((Kind.ofJson owner).name ++ '.' :: operation)
  else if name = "__self__".toList then .data owner
  else if name = kindName then .kind Kind.operation
  else .missing

/-- A kind of contents. -/
def narrowed (k : Kind) (content : Text) : Value :=
  if k.isContainer then .sealed (k.name ++ '[' :: content ++ [']']) else .missing

/-- Some kinds as one value. -/
def kindTuple (ks : List Kind) : Value :=
  let items := commaSeparated (ks.map (·.toText))
  .sealed ('(' :: items ++ if ks.length = 1 then ",)".toList else [')'])

/-- A part of a kind by name. -/
def kindPart (k : Kind) (name : Text) : Value :=
  if name = "__name__".toList ∨ name = "__qualname__".toList then .text k.name
  else if name = "__base__".toList then (k.base?.map .kind).getD (.data .null)
  else if name = "__bases__".toList then kindTuple k.base?.toList
  else if name = "__mro__".toList then kindTuple k.lineage
  else if name = "__module__".toList then .text "builtins".toList
  else if name = kindName then .kind Kind.kind
  else if k.own.contains name then
    .sealed ("<method ".toList ++ quoted name ++ " of ".toList ++ quoted k.name ++
      " objects>".toList)
  else narrowed k (quoted name)

namespace LoopState

/-- The text of a loop. -/
def toText (s : LoopState) : Text :=
  "<LoopContext ".toList ++ ofNat (s.place + 1) ++ '/' :: ofNat s.items.length ++ ['>']

/-- The parts of a loop. -/
def parts (s : LoopState) : List (String × Value) :=
  let count (n : Nat) : Value := .data (.whole n)
  let bound (name : String) : Value :=
    .sealed ("<bound method LoopContext.".toList ++ name.toList ++ " of ".toList ++
      s.toText ++ ['>'])
  [("index", count (s.place + 1)), ("index0", count s.place),
   ("revindex", count (s.items.length - s.place)),
   ("revindex0", count (s.items.length - s.place - 1)),
   ("first", .data (.bool (s.place = 0))), ("last", .data (.bool (s.place + 1 = s.items.length))),
   ("length", count s.items.length), ("depth", count 1), ("depth0", count 0),
   ("previtem", if s.place = 0 then .missing else .ofOption s.items[s.place - 1]?),
   ("nextitem", .ofOption s.items[s.place + 1]?),
   ("cycle", bound "cycle"), ("changed", bound "changed")]

/-- A part of a loop by name. -/
def part (s : LoopState) (name : Text) : Value :=
  (s.parts.lookup (String.ofList name)).getD .missing

end LoopState

/-- A part of a value by name; none if the value is not there. -/
def Value.part? (v : Value) (name : Text) : Option Value :=
  match v with
  | .data j => some (dataPart j name)
  | .missing => none
  | .operation owner op => some (operationPart owner op name)
  | .kind k => some (kindPart k name)
  | .loop s => some (s.part name)
  | .sealed _ => some .missing

/-- A part of a value by its place; none if the value is not there. -/
def Value.item? (v : Value) (place : Nat) : Option Value :=
  match v with
  | .data (.list items) => some (.ofOption items[place]?)
  | .data (.string t) => some (.ofOption (t[place]?.map fun c => .string [c]))
  | .missing => none
  | .kind k => some (narrowed k (ofNat place))
  | _ => some .missing

/-! ### Texts and items -/

/-- The text of a value. -/
def Value.toText : Value → Text
  | .data j => j.plain
  | .missing => []
  | .operation owner name =>
    "<built-in method ".toList ++ name ++ " of ".toList ++ (Kind.ofJson owner).name ++
      " object>".toList
  | .kind k => k.toText
  | .loop s => s.toText
  | .sealed t => t

/-- The values that a loop goes through: the items of a list, the characters of a text, the names in
an object, and nothing for a value that is not there. Other values have no items. -/
def Value.items? : Value → Option (List Json)
  | .missing => some []
  | .data (.list items) => some items
  | .data (.string t) => some (t.map fun c => .string [c])
  | .data (.object members) => some (members.map fun (name, _) => .string name)
  | _ => none

/-! ### Names -/

/-- The values by name. -/
abbrev Scope := Table Value

/-- The values that every template can name: two kinds, and makers of text and of values. -/
def sharedValues : Scope :=
  ["range", "dict"].map (fun name => (name.toList, .kind (.named name))) ++
    ["lipsum", "cycler", "joiner", "namespace"].map fun name =>
      (name.toList, .sealed ('<' :: name.toList ++ ['>']))

/-- The value of a name. -/
def valueOf (scope : Scope) (name : Text) : Value :=
  ((Table.get? scope name).or (Table.get? sharedValues name)).getD .missing

/-- The name of the template itself. -/
def selfName : Text := "self".toList

/-- The template itself as a value. Only those in a library have a name. -/
def selfValue (name : Option Text) : Value :=
  .sealed ("<TemplateReference ".toList ++ (name.elim "None".toList quoted) ++ ['>'])

end Template

end WireTypes
