import WireTypes.Text.Printable

/-! Quoted literals: any text on one line in printable characters. -/

namespace WireTypes.Text

/-- The digit of a number below sixteen. -/
def hexDigit (n : Nat) : Char := if n < 10 then Char.ofNat (48 + n) else Char.ofNat (87 + n)

/-- The last `width` hexadecimal digits of a number. -/
def hex : Nat → Nat → Text
  | 0, _ => []
  | width + 1, n => hex width (n / 16) ++ [hexDigit (n % 16)]

/-- The escape of a character by its number, in two, four or eight digits. -/
def numericEscape (c : Char) : Text :=
  if c.toNat < 0x100 then '\\' :: 'x' :: hex 2 c.toNat
  else if c.toNat < 0x10000 then '\\' :: 'u' :: hex 4 c.toNat
  else '\\' :: 'U' :: hex 8 c.toNat

/-- A character inside a literal between `quote`s. -/
def quotedChar (quote c : Char) : Text :=
  if c = quote ∨ c = '\\' then ['\\', c]
  else if c = '\n' then ['\\', 'n']
  else if c = '\r' then ['\\', 'r']
  else if c = '\t' then ['\\', 't']
  else if isPrintable c then [c]
  else numericEscape c

/-- The quotes of a literal: single ones, unless they occur in the text and double ones do not. -/
def quoteFor (t : Text) : Char := if t.contains '\'' && !t.contains '"' then '"' else '\''

/-- The literal of a text. -/
def quoted (t : Text) : Text :=
  quoteFor t :: t.flatMap (quotedChar (quoteFor t)) ++ [quoteFor t]

end WireTypes.Text
