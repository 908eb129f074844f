import WireTypes.Text.CharacterName
import WireTypes.Text.Quoted

/-! Escapes in literals: a backslash and what follows it stand for other characters. -/

namespace WireTypes.Text

/-- The character of a code point; the replacement character for half of a surrogate pair. -/
def charOf (code : Nat) : Char :=
  if 0xD800 ≤ code && code < 0xE000 then '\ufffd' else Char.ofNat code

/-- The character that one letter stands for behind a backslash. -/
def letterEscape? : Char → Option Char
  | '\\' => some '\\'
  | '\'' => some '\''
  | '"' => some '"'
  | 'a' => some '\x07'
  | 'b' => some '\x08'
  | 'f' => some '\x0c'
  | 'n' => some '\n'
  | 'r' => some '\r'
  | 't' => some '\t'
  | 'v' => some '\x0b'
  | _ => none

/-- How many hexadecimal digits follow a letter. -/
def escapeDigits? : Char → Option Nat
  | 'x' => some 2
  | 'u' => some 4
  | 'U' => some 8
  | _ => none

/-- The character of a code with a fixed number of digits, and what follows it. -/
def takeCode? (digits : Nat) (t : Text) : Option (Char × Text) := do
  let code ← hexNumber? (t.take digits)
  if digits ≤ t.length && code < 0x110000 then return (charOf code, t.drop digits) else none

/-- The character of a name between braces, and what follows it. -/
def takeNamed? : Text → Option (Char × Text)
  | '\x7b' :: rest => do
    let name := rest.takeWhile (· != '\x7d')
    let rest ← behind? "\x7d" (rest.drop name.length)
    return (← named? name, rest)
  | _ => none

/-- Whether a character is an octal digit. -/
def isOctal (c : Char) : Bool := '0' ≤ c && c ≤ '7'

/-- The number that octal digits make. -/
def octalNumber (t : Text) : Nat := t.foldl (fun n c => n * 8 + (c.toNat - 48)) 0

/-- What the text behind a backslash starts with stands for, and what follows it. A line feed stands
for nothing, at most three octal digits or a fixed number of hexadecimal ones for the character of
their number, and a character that starts no escape for itself and the backslash. -/
def escaped? : Text → Option (Text × Text)
  | [] => none
  | '\n' :: rest => some ([], rest)
  | 'N' :: rest => (takeNamed? rest).map fun (c, rest) => ([c], rest)
  | c :: rest =>
    match letterEscape? c, escapeDigits? c with
    | some d, _ => some ([d], rest)
    | none, some digits => (takeCode? digits rest).map fun (d, rest) => ([d], rest)
    | none, none =>
      if isOctal c then
        let digits := ((c :: rest).take 3).takeWhile isOctal
        some ([charOf (octalNumber digits)], (c :: rest).drop digits.length)
      else some (['\\', c], rest)

/-- A text with its escapes resolved. The fuel bounds its length. -/
def unescapeFrom? : Nat → Text → Option Text
  | _, [] => some []
  | 0, _ => none
  | fuel + 1, '\\' :: rest => do
    let (chars, rest) ← escaped? rest
    return chars ++ (← unescapeFrom? fuel rest)
  | fuel + 1, c :: rest => (unescapeFrom? fuel rest).map (c :: ·)

/-- A text with its escapes resolved; none if one is not well formed. -/
def unescape? (t : Text) : Option Text := unescapeFrom? t.length t

/-- A text in ASCII, in which the other characters are written as escapes. -/
def inAscii (t : Text) : Text := t.flatMap fun c => if c.toNat < 0x80 then [c] else numericEscape c

end WireTypes.Text
