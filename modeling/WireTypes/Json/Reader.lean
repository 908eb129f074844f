import WireTypes.Json.Value
import WireTypes.Text.Digit
import WireTypes.Text.Word

/-! Reading JSON. Beside the standard, `NaN` and the infinities are numbers, and a later member of
an object replaces an earlier one of its name. A text that is no JSON gives the first problem and
what is left of the text where it shows. -/

namespace WireTypes

open Text

namespace Json

/-- What is wrong with a text that is no JSON. -/
inductive Problem where
  | valueExpected
  | nameExpected
  | colonExpected
  | commaExpected
  | extraData
  | openString
  | controlCharacter
  | badEscape
  | badUnicodeEscape
  | byteOrderMark
  /-- A whole number of more digits than the reader takes. -/
  | longNumber
deriving DecidableEq, Repr

/-- The wording of a problem. -/
def Problem.message : Problem → Text
  | valueExpected => "Expecting value".toList
  | nameExpected => "Expecting property name enclosed in double quotes".toList
  | colonExpected => "Expecting ':' delimiter".toList
  | commaExpected => "Expecting ',' delimiter".toList
  | extraData => "Extra data".toList
  | openString => "Unterminated string starting at".toList
  | controlCharacter => "Invalid control character at".toList
  | badEscape => "Invalid \\escape".toList
  | badUnicodeEscape => "Invalid \\uXXXX escape".toList
  | byteOrderMark => "Unexpected UTF-8 BOM (decode using utf-8-sig)".toList
  | longNumber => "Exceeds the limit for integer string conversion".toList

/-- A problem and the text from the place where it shows. -/
structure Fault where
  problem : Problem
  rest : Text
deriving DecidableEq, Repr

/-- The blanks of JSON. -/
def isSpace (c : Char) : Bool := c == ' ' || c == '\t' || c == '\n' || c == '\r'

/-- The text without its leading blanks. -/
def skipSpace (t : Text) : Text := t.dropWhile isSpace

/-! ### Strings -/

/-- The number of four hexadecimal digits. -/
def hexUnit? (a b c d : Char) : Option Nat := do
  return ((← hexValue? a) * 16 + (← hexValue? b)) * 256 + (← hexValue? c) * 16 + (← hexValue? d)

/-- The character that a letter stands for behind a backslash. -/
def simpleEscape? : Char → Option Char
  | '"' => some '"'
  | '\\' => some '\\'
  | '/' => some '/'
  | 'b' => some '\x08'
  | 'f' => some '\x0c'
  | 'n' => some '\n'
  | 'r' => some '\r'
  | 't' => some '\t'
  | _ => none

/-- The code units of a string up to its closing quote: code points as they stand, and the 16 bits
of each numeric escape. Such an escape is never the last thing in a text. The text from the opening
quote is given for a string that is not closed. -/
def stringUnits (opening : Text) : Text → Except Fault (List Nat × Text)
  | [] => .error ⟨.openString, opening⟩
  | '"' :: rest => .ok ([], rest)
  | ['\\'] => .error ⟨.openString, opening⟩
  | '\\' :: 'u' :: a :: b :: c :: d :: next :: rest =>
    match hexUnit? a b c d with
    | none => .error ⟨.badUnicodeEscape, 'u' :: a :: b :: c :: d :: next :: rest⟩
    | some unit => do
      let (units, rest) ← stringUnits opening (next :: rest)
      return (unit :: units, rest)
  | '\\' :: 'u' :: rest => .error ⟨.badUnicodeEscape, 'u' :: rest⟩
  | '\\' :: c :: rest =>
    match simpleEscape? c with
    | none => .error ⟨.badEscape, '\\' :: c :: rest⟩
    | some d => do
      let (units, rest) ← stringUnits opening rest
      return (d.toNat :: units, rest)
  | c :: rest =>
    if c.toNat < 0x20 then .error ⟨.controlCharacter, c :: rest⟩
    else do
      let (units, rest) ← stringUnits opening rest
      return (c.toNat :: units, rest)

/-- Whether a unit is the first of a surrogate pair. -/
def isHighSurrogate (n : Nat) : Bool := 0xD800 ≤ n && n < 0xDC00

/-- Whether a unit is the second of a surrogate pair. -/
def isLowSurrogate (n : Nat) : Bool := 0xDC00 ≤ n && n < 0xE000

/-- The character of a code unit. A lone surrogate has none and is left out of the model: the
replacement character stands in its place, so strings that differ in lone surrogates only are read
as one, also where they are keys. -/
def unitChar (n : Nat) : Char :=
  if isHighSurrogate n || isLowSurrogate n then '\ufffd' else Char.ofNat n

/-- The text of code units, in which surrogate pairs are one character. -/
def joinUnits : List Nat → Text
  | high :: low :: rest =>
    if isHighSurrogate high && isLowSurrogate low then
      Char.ofNat (0x10000 + (high - 0xD800) * 0x400 + (low - 0xDC00)) :: joinUnits rest
    else unitChar high :: joinUnits (low :: rest)
  | [unit] => [unitChar unit]
  | [] => []

/-- The string behind an opening quote. -/
def readString (opening rest : Text) : Except Fault (Text × Text) := do
  let (units, rest) ← stringUnits opening rest
  return (joinUnits units, rest)

/-! ### Numbers -/

/-- The number of decimal digits. -/
def natOfDigits (digits : Text) : Nat := digits.foldl (fun n c => 10 * n + (c.toNat - 48)) 0

/-- The digits before the point: a lone zero, or a run that does not start with one. -/
def wholeDigits? : Text → Option (Text × Text)
  | '0' :: rest => some (['0'], rest)
  | t => takeRun? isAsciiDigit t

/-- The digits behind a point. -/
def fractionDigits? : Text → Option (Text × Text)
  | '.' :: rest => takeRun? isAsciiDigit rest
  | _ => none

/-- The number behind a mark of an exponent. -/
def exponent? : Text → Option (Int × Text)
  | [] => none
  | e :: rest =>
    if e = 'e' ∨ e = 'E' then
      match rest with
      | '-' :: rest =>
        (takeRun? isAsciiDigit rest).map fun (ds, rest) => (-(natOfDigits ds : Int), rest)
      | '+' :: rest =>
        (takeRun? isAsciiDigit rest).map fun (ds, rest) => ((natOfDigits ds : Int), rest)
      | _ => (takeRun? isAsciiDigit rest).map fun (ds, rest) => ((natOfDigits ds : Int), rest)
    else none

/-- A number without its sign. The text of the whole number is given for what is wrong with it. -/
def readUnsigned (negative : Bool) (start t : Text) : Except Fault (Json × Text) :=
  match wholeDigits? t with
  | none => .error ⟨.valueExpected, start⟩
  | some (digits, afterWhole) =>
    let (fraction, afterFraction) := (fractionDigits? afterWhole).getD ([], afterWhole)
    match exponent? afterFraction with
    | some (exponent, rest) =>
      .ok (.float (Double.ofDecimal negative (natOfDigits (digits ++ fraction))
        (exponent - fraction.length)), rest)
    | none =>
      if fraction.isEmpty then
        if maxWholeDigits < digits.length then .error ⟨.longNumber, start⟩
        else
          let n : Int := natOfDigits digits
          .ok (.whole (if negative then -n else n), afterWhole)
      else
        let value := natOfDigits (digits ++ fraction)
        .ok (.float (Double.ofDecimal negative value (-fraction.length)), afterFraction)

/-- A number. -/
def readNumber (t : Text) : Except Fault (Json × Text) :=
  match t with
  | '-' :: rest => readUnsigned true t rest
  | _ => readUnsigned false t t

/-! ### Values -/

/-- The values that are words. -/
def words : List (Text × Json) := [
  ("null".toList, null), ("true".toList, bool true), ("false".toList, bool false),
  ("NaN".toList, float .nan), ("Infinity".toList, float (.infinite false)),
  ("-Infinity".toList, float (.infinite true))]

/-- A value that is a word. -/
def readWord? (t : Text) : Option (Json × Text) :=
  words.findSome? fun (word, value) => (word.isPrefixOf? t).map fun rest => (value, rest)

mutual

/-- A value at the start of a text. The fuel bounds the depth of the calls. -/
def readValue : Nat → Text → Except Fault (Json × Text)
  | 0, t => .error ⟨.valueExpected, t⟩
  | _ + 1, '"' :: rest => do
    let (s, rest) ← readString ('"' :: rest) rest
    return (.string s, rest)
  | fuel + 1, '[' :: rest =>
    match skipSpace rest with
    | ']' :: rest => .ok (.list [], rest)
    | rest => do
      let (items, rest) ← readItems fuel rest
      return (.list items, rest)
  | fuel + 1, '\x7b' :: rest =>
    match skipSpace rest with
    | '\x7d' :: rest => .ok (.object [], rest)
    | rest => do
      let (members, rest) ← readMembers fuel rest
      return (.object (Table.ofPairs members), rest)
  | _ + 1, t =>
    match readWord? t with
    | some found => .ok found
    | none => readNumber t

/-- The items of a list up to its bracket. -/
def readItems : Nat → Text → Except Fault (List Json × Text)
  | 0, t => .error ⟨.valueExpected, t⟩
  | fuel + 1, t => do
    let (item, rest) ← readValue fuel t
    match skipSpace rest with
    | ']' :: rest => return ([item], rest)
    | ',' :: rest =>
      let (items, rest) ← readItems fuel (skipSpace rest)
      return (item :: items, rest)
    | rest => .error ⟨.commaExpected, rest⟩

/-- The members of an object up to its brace. -/
def readMembers : Nat → Text → Except Fault (List (Text × Json) × Text)
  | 0, t => .error ⟨.valueExpected, t⟩
  | fuel + 1, '"' :: rest => do
    let (name, rest) ← readString ('"' :: rest) rest
    match skipSpace rest with
    | ':' :: rest =>
      let (value, rest) ← readValue fuel (skipSpace rest)
      match skipSpace rest with
      | '\x7d' :: rest => return ([(name, value)], rest)
      | ',' :: rest =>
        let (members, rest) ← readMembers fuel (skipSpace rest)
        return ((name, value) :: members, rest)
      | rest => .error ⟨.commaExpected, rest⟩
    | rest => .error ⟨.colonExpected, rest⟩
  | _ + 1, t => .error ⟨.nameExpected, t⟩

end

/-- The value of a text. Each character makes at most two calls, so the fuel suffices. -/
def ofText (t : Text) : Except Fault Json :=
  if t.head? = some '\ufeff' then .error ⟨.byteOrderMark, t⟩
  else do
    let (value, rest) ← readValue (2 * t.length + 2) (skipSpace t)
    if (skipSpace rest).isEmpty then return value else throw ⟨.extraData, skipSpace rest⟩

/-- A place in a text by line, column and offset, the first two counted from one. -/
structure Place where
  line : Nat
  column : Nat
  offset : Nat
deriving DecidableEq, Repr

/-- The place of a fault in the whole text. -/
def Fault.place (f : Fault) (whole : Text) : Place :=
  let before := whole.take (whole.length - f.rest.length)
  { line := before.count '\n' + 1
    column := (before.reverse.takeWhile (· != '\n')).length + 1
    offset := before.length }

end Json

end WireTypes
