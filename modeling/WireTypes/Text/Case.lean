import WireTypes.Text.CaseTables

/-! Letter case with the full mappings: one letter may become several, and a capital sigma at the
end of a word becomes the final small sigma. -/

namespace WireTypes.Text

/-- A character with the property Lowercase. -/
def isLower (c : Char) : Bool := lowercase.contains c.toNat

/-- A character with the property Uppercase. -/
def isUpper (c : Char) : Bool := uppercase.contains c.toNat

/-- A lowercase letter of ASCII. -/
def isAsciiLower (c : Char) : Bool := 'a' ≤ c && c ≤ 'z'

/-- An uppercase letter of ASCII. -/
def isAsciiUpper (c : Char) : Bool := 'A' ≤ c && c ≤ 'Z'

/-- A decimal digit of ASCII. -/
def isAsciiDigit (c : Char) : Bool := '0' ≤ c && c ≤ '9'

/-- The uppercase mapping of one character. -/
def upperChar (c : Char) : Text :=
  match upperExpansions.lookup c.toNat with
  | some cs => cs.map Char.ofNat
  | none =>
    match upperShifts.image? c.toNat with
    | some n => [Char.ofNat n]
    | none => [c]

/-- The lowercase mapping of one character away from any context. The capital I with a dot above
keeps its dot as a combining mark. -/
def lowerChar (c : Char) : Text :=
  if c = 'İ' then ['i', '\u0307']
  else
    match lowerShifts.image? c.toNat with
    | some n => [Char.ofNat n]
    | none => [c]

/-- Whether the first character that is not passed over is cased. -/
def meetsCased (t : Text) : Bool :=
  match t.dropWhile fun c => caseIgnorable.contains c.toNat with
  | [] => false
  | c :: _ => cased.contains c.toNat

/-- The lowercase form of the text after `before`, which is given from its end backwards. A capital
sigma is final when a cased letter comes before it and none after it. -/
def lowerAfter (before : Text) : Text → Text
  | [] => []
  | c :: rest =>
    (if c = 'Σ' then if meetsCased before && !meetsCased rest then ['ς'] else ['σ'] else lowerChar c)
      ++ lowerAfter (c :: before) rest

/-- The lowercase form of a text. -/
def lower (t : Text) : Text := lowerAfter [] t

/-- The uppercase form of a text. -/
def upper (t : Text) : Text := t.flatMap upperChar

end WireTypes.Text
