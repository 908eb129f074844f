import WireTypes.Text.Escape
import WireTypes.Text.Identifier

/-! Literals: what may stand as the argument of an action. They are numbers, strings, a few words,
and tuples, lists, sets and dictionaries of literals. Only what decides whether a text is a literal
is kept of one. -/

namespace WireTypes

open Text

namespace Display.Literal

/-- A kind of brackets. -/
inductive Bracket where
  | round
  | square
  | curly
deriving DecidableEq, Repr

/-- A piece of a literal. -/
inductive Token where
  | real
  | imaginary
  | text
  | bytes
  /-- A word or sign that stands for a value. -/
  | constant
  /-- The word that an empty set is written with. -/
  | setWord
  | sign
  | comma
  | colon
  | opening (b : Bracket)
  | closing (b : Bracket)
deriving DecidableEq, Repr

/-! ### Numbers -/

/-- The digits at the start of a text, where an underscore may stand before each,
and what follows. -/
def moreDigits (p : Char → Bool) : Text → Text × Text
  | '_' :: c :: rest =>
    if p c then
      let (digits, rest) := moreDigits p rest
      (c :: digits, rest)
    else ([], '_' :: c :: rest)
  | c :: rest =>
    if p c then
      let (digits, rest) := moreDigits p rest
      (c :: digits, rest)
    else ([], c :: rest)
  | [] => ([], [])

/-- The digits at the start of a text, which no underscore starts, and what follows. -/
def digits (p : Char → Bool) (t : Text) : Text × Text :=
  if t.head?.any p then moreDigits p t else ([], t)

/-- The digits that a letter behind a zero announces. -/
def radixDigit? (letter : Char) : Option (Char → Bool) :=
  if letter = 'x' ∨ letter = 'X' then some fun c => (hexValue? c).isSome
  else if letter = 'o' ∨ letter = 'O' then some isOctal
  else if letter = 'b' ∨ letter = 'B' then some fun c => c = '0' ∨ c = '1'
  else none

/-- What follows an exponent; the text itself if it starts with none. -/
def skipExponent (t : Text) : Text :=
  match t with
  | [] => t
  | e :: rest =>
    if e = 'e' ∨ e = 'E' then
      let unsigned := match rest with
        | '+' :: rest | '-' :: rest => rest
        | _ => rest
      let (exponent, rest) := digits isAsciiDigit unsigned
      if exponent.isEmpty then t else rest
    else t

/-- The greatest count of digits of a whole number. -/
def maxDigits : Nat := 4300

/-- Whether decimal digits make a whole number: it has not too many, and a zero comes first only
before zeros. -/
def isWhole (ds : Text) : Bool :=
  !ds.isEmpty && ds.length ≤ maxDigits && (ds.head? != some '0' || ds.all (· == '0'))

/-- The number in decimal digits at the start of a text. -/
def decimalNumber? (t : Text) : Option (Token × Text) :=
  let (whole, afterWhole) := digits isAsciiDigit t
  let (fraction, afterFraction) := match afterWhole with
    | '.' :: rest => digits isAsciiDigit rest
    | _ => ([], afterWhole)
  if whole.isEmpty && fraction.isEmpty then none
  else
    let rest := skipExponent afterFraction
    match rest with
    | 'j' :: rest | 'J' :: rest => some (.imaginary, rest)
    | _ => if rest.length = afterWhole.length && !isWhole whole then none else some (.real, rest)

/-- The number at the start of a text, whatever follows it. -/
def numberStart? (t : Text) : Option (Token × Text) :=
  match t with
  | '0' :: letter :: rest =>
    match radixDigit? letter with
    | some p =>
      let (ds, rest) := moreDigits p rest
      if ds.isEmpty then none else some (.real, rest)
    | none => decimalNumber? t
  | _ => decimalNumber? t

/-- Whether a character may belong to a word. -/
def isWordChar (c : Char) : Bool := 0x80 ≤ c.toNat || isWord c

/-- The number at the start of a text. No word may follow it directly. -/
def number? (t : Text) : Option (Token × Text) := do
  let (token, rest) ← numberStart? t
  if rest.head?.any isWordChar then none else return (token, rest)

/-! ### Strings -/

/-- A string up to its quotes, and what follows them. -/
def untilQuotes? (quotes : Text) : Text → Option (Text × Text)
  | [] => none
  | '\\' :: c :: rest => (untilQuotes? quotes rest).map fun (t, rest) => ('\\' :: c :: t, rest)
  | c :: rest =>
    if quotes.isPrefixOf (c :: rest) then some ([], (c :: rest).drop quotes.length)
    else if c = '\n' ∧ quotes.length = 1 then none
    else (untilQuotes? quotes rest).map fun (t, rest) => (c :: t, rest)

/-- Whether every escape of bytes that needs two digits has them. -/
def hasByteEscapes : Text → Bool
  | '\\' :: 'x' :: a :: b :: rest =>
    (hexValue? a).isSome && (hexValue? b).isSome && hasByteEscapes rest
  | '\\' :: 'x' :: _ => false
  | '\\' :: _ :: rest => hasByteEscapes rest
  | _ :: rest => hasByteEscapes rest
  | [] => true

/-- Whether a string may hold a text. Its letters tell whether it is made of bytes and whether
backslashes stand for themselves. -/
def mayHold (letters t : Text) : Bool :=
  if letters.contains 'b' then
    t.all (·.toNat < 0x80) && (letters.contains 'r' || hasByteEscapes t)
  else letters.contains 'r' || (unescape? t).isSome

/-- The letters that may stand before a string. -/
def stringLetters : List Text := ["", "r", "u", "b", "br", "rb"].map String.toList

/-- The string at the start of a text, behind its letters. -/
def string? (letters t : Text) : Option (Token × Text) := do
  let quote ← t.head?
  let triple := List.replicate 3 quote
  let quotes := if triple.isPrefixOf t then triple else [quote]
  let (inside, rest) ← untilQuotes? quotes (t.drop quotes.length)
  if mayHold letters inside then return (if letters.contains 'b' then .bytes else .text, rest)
  else none

/-! ### Tokens -/

/-- The token of a word. -/
def wordToken? (word : Text) : Option Token :=
  if word = "True".toList ∨ word = "False".toList ∨ word = "None".toList then some .constant
  else if word = "set".toList then some .setWord
  else none

/-- The token of a sign. -/
def signToken? : Char → Option Token
  | '+' | '-' => some .sign
  | ',' => some .comma
  | ':' => some .colon
  | '(' => some (.opening .round)
  | ')' => some (.closing .round)
  | '[' => some (.opening .square)
  | ']' => some (.closing .square)
  | '\x7b' => some (.opening .curly)
  | '\x7d' => some (.closing .curly)
  | _ => none

/-- Whether a character starts and ends a string. -/
def isQuote (c : Char) : Bool := c == '\'' || c == '"'

/-- The token at the start of a text, and what follows it. -/
def token? (t : Text) : Option (Token × Text) :=
  match behind? "..." t, t with
  | some rest, _ => some (.constant, rest)
  | none, [] => none
  | none, c :: rest =>
    if isAsciiDigit c || c = '.' then number? t
    else
      let word := t.takeWhile isWordChar
      let rest' := t.drop word.length
      if rest'.head?.any isQuote then
        let letters := lower word
        if stringLetters.contains letters then string? letters rest' else none
      else if word.isEmpty then (signToken? c).map (·, rest)
      else (wordToken? word).map (·, rest')

/-- Whether a line is empty but for a comment. -/
def isIdle (line : Text) : Bool :=
  match line.dropWhile fun c => c = ' ' || c = '\t' || c = '\x0c' with
  | [] => true
  | c :: _ => c = '#'

/-- How deep brackets may stand in one another. -/
def maxDepth : Nat := 200

/-- How many brackets are open behind a token. -/
def depthBehind (depth : Nat) : Token → Nat
  | .opening _ => depth + 1
  | .closing _ => depth - 1
  | _ => depth

/-- The tokens of a text inside some open brackets. Outside of brackets a line feed ends the
literal. The fuel bounds the length of the text. -/
def tokens? : Nat → Nat → Text → Option (List Token)
  | _, _, [] => some []
  | 0, _, _ => none
  | fuel + 1, depth, c :: rest =>
    if c = ' ' ∨ c = '\t' ∨ c = '\x0c' then tokens? fuel depth rest
    else if c = '#' then tokens? fuel depth (rest.dropWhile (· != '\n'))
    else if c = '\n' then
      if depth = 0 then if (lines rest).all isIdle then some [] else none
      else tokens? fuel depth rest
    else
      match behind? "\\\n" (c :: rest) with
      | some rest => tokens? fuel depth rest
      | none => do
        let (token, rest) ← token? (c :: rest)
        let depth := depthBehind depth token
        if maxDepth < depth then none else return token :: (← tokens? fuel depth rest)

/-! ### Values -/

/-- What matters of a value for the literal around it. -/
inductive Kind where
  /-- A real number without a sign. -/
  | real
  /-- A real number with a sign. -/
  | signedReal
  /-- An imaginary number without a sign. -/
  | imaginary
  /-- Another value that may be a key. -/
  | key
  /-- A value that may be no key. -/
  | keyless
deriving DecidableEq, Repr

/-- What follows a closing bracket, or the end of the tokens where no bracket is open. -/
def closed? : Option Bracket → List Token → Option (List Token)
  | some b, .closing c :: rest => if b = c then some rest else none
  | none, [] => some []
  | _, _ => none

/-- What follows strings that stand side by side; bytes may not follow text, nor text bytes. -/
def skipStrings? (kind : Token) (ts : List Token) : Option (List Token) :=
  let rest := ts.dropWhile (· = kind)
  if rest.head? = some .text ∨ rest.head? = some .bytes then none else some rest

/-- The kind of a tuple. -/
def tupleKind (kinds : List Kind) : Kind := if kinds.contains .keyless then .keyless else .key

mutual

/-- A value at the start of some tokens, and what follows it. The fuel bounds the depth of the
calls. -/
def value? : Nat → List Token → Option (Kind × List Token)
  | 0, _ => none
  | fuel + 1, ts => do
    let (left, rest) ← signed? fuel ts
    match rest with
    | .sign :: rest =>
      let (right, rest) ← unsigned? fuel rest
      if (left = .real ∨ left = .signedReal) ∧ right = .imaginary then return (.key, rest) else none
    | rest => return (left, rest)

/-- A value that may have a sign. -/
def signed? : Nat → List Token → Option (Kind × List Token)
  | 0, _ => none
  | fuel + 1, .sign :: rest => do
    match ← unsigned? fuel rest with
    | (.real, rest) => return (.signedReal, rest)
    | (.imaginary, rest) => return (.key, rest)
    | _ => none
  | fuel + 1, ts => unsigned? fuel ts

/-- A value without a sign. -/
def unsigned? : Nat → List Token → Option (Kind × List Token)
  | _, .real :: rest => some (.real, rest)
  | _, .imaginary :: rest => some (.imaginary, rest)
  | _, .constant :: rest => some (.key, rest)
  | _, .text :: rest => (skipStrings? .text rest).map (.key, ·)
  | _, .bytes :: rest => (skipStrings? .bytes rest).map (.key, ·)
  | _, .setWord :: .opening .round :: .closing .round :: rest => some (.keyless, rest)
  | fuel + 1, .opening .square :: rest =>
    match closed? (some .square) rest with
    | some rest => some (.keyless, rest)
    | none => (items? fuel (some .square) rest).map fun (_, _, rest) => (.keyless, rest)
  | fuel + 1, .opening .round :: rest =>
    match closed? (some .round) rest with
    | some rest => some (.key, rest)
    | none =>
      match items? fuel (some .round) rest with
      | some ([kind], false, rest) => some (kind, rest)
      | some (kinds, _, rest) => some (tupleKind kinds, rest)
      | none => none
  | fuel + 1, .opening .curly :: rest =>
    match closed? (some .curly) rest with
    | some rest => some (.keyless, rest)
    | none => do
      let (first, rest) ← value? fuel rest
      if first = .keyless then none
      else
        match rest with
        | .colon :: rest => do
          let (_, rest) ← value? fuel rest
          (moreEntries? fuel rest).map (.keyless, ·)
        | rest => do
          let (kinds, _, rest) ← moreItems? fuel (some .curly) rest
          if kinds.contains .keyless then none else return (.keyless, rest)
  | _, _ => none

/-- The values up to a closing bracket, at least one; and whether a comma stands among or behind
them. -/
def items? : Nat → Option Bracket → List Token → Option (List Kind × Bool × List Token)
  | 0, _, _ => none
  | fuel + 1, b, ts => do
    let (first, rest) ← value? fuel ts
    let (others, comma, rest) ← moreItems? fuel b rest
    return (first :: others, comma, rest)

/-- The values behind a value up to a closing bracket. -/
def moreItems? : Nat → Option Bracket → List Token → Option (List Kind × Bool × List Token)
  | 0, _, _ => none
  | fuel + 1, b, ts =>
    match closed? b ts, ts with
    | some rest, _ => some ([], false, rest)
    | none, .comma :: rest =>
      match closed? b rest with
      | some rest => some ([], true, rest)
      | none => (items? fuel b rest).map fun (kinds, _, rest) => (kinds, true, rest)
    | none, _ => none

/-- The entries of a dictionary behind an entry, up to the closing bracket; gives what follows. -/
def moreEntries? : Nat → List Token → Option (List Token)
  | 0, _ => none
  | fuel + 1, ts =>
    match closed? (some .curly) ts, ts with
    | some rest, _ => some rest
    | none, .comma :: rest =>
      match closed? (some .curly) rest with
      | some rest => some rest
      | none => do
        let (name, rest) ← value? fuel rest
        match name, rest with
        | .keyless, _ => none
        | _, .colon :: rest => do
          let (_, rest) ← value? fuel rest
          moreEntries? fuel rest
        | _, _ => none
    | none, _ => none

end

/-- Whether a text is a literal, or literals with commas between them. -/
def isLiteral (t : Text) : Bool :=
  let t := unifyNewlines t
  if t.contains '\x00' then false
  else
    match tokens? t.length 0 t with
    | none => false
    | some ts => (items? (4 * ts.length + 4) none ts).isSome

end Display.Literal

end WireTypes
