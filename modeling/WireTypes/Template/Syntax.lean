import WireTypes.Text.Escape
import WireTypes.Text.Identifier

/-! Templates: text with places for values, loops and comments.

A place is an expression between double braces, a loop stands between two tags, and comments leave
no trace. A tag or a comment takes the line feed right after it and the blanks between it and the
start of its line. -/

namespace WireTypes

open Text

namespace Template

/-- Where the value of an expression comes from. -/
inductive Source where
  | name (n : Text)
  | literal (t : Text)
  | number (n : Nat)
  | truth (b : Bool)
  | nothing
deriving DecidableEq, Repr

/-- A step from a value to a part of it. -/
inductive Attribute where
  | name (n : Text)
  /-- A place, counted from zero. -/
  | place (n : Nat)
deriving DecidableEq, Repr

/-- A value, an attribute path into it, and the filters it then passes through. -/
structure Expr where
  source : Source
  attributes : List Attribute
  filters : List Text
deriving DecidableEq, Repr

/-- A piece of a template. -/
inductive Node where
  | text (t : Text)
  | place (e : Expr)
  | loop (item : Text) (items : Expr) (body : List Node)
deriving Repr

/-! ### Tags -/

/-- What stands inside a place or a tag. -/
inductive Lexeme where
  | name (n : Text)
  | literal (t : Text)
  | number (n : Nat)
  | dot
  | bar
deriving DecidableEq, Repr

/-- A literal up to its closing quote, and what follows it. -/
def untilQuote? (quote : Char) : Text → Option (Text × Text)
  | [] => none
  | '\\' :: c :: rest => (untilQuote? quote rest).map fun (t, rest) => ('\\' :: c :: t, rest)
  | c :: rest =>
    if c = quote then some ([], rest)
    else (untilQuote? quote rest).map fun (t, rest) => (c :: t, rest)

/-- The number at the start of a text, and what follows it. A zero comes first only before zeros. -/
def number? (t : Text) : Option (Nat × Text) := do
  let digits := t.takeWhile fun c => if t.head? = some '0' then c == '0' else isAsciiDigit c
  return (← decimal? digits, t.drop digits.length)

/-- The name at the start of a text, and what follows it. -/
def name? (t : Text) : Option (Text × Text) := do
  let (n, rest) ← takeRun? isNameChar t
  if isIdentifier n then return (n, rest) else none

/-- The lexeme at the start of a text, and what follows it. -/
def lexeme? : Text → Option (Lexeme × Text)
  | [] => none
  | '.' :: rest => some (.dot, rest)
  | '|' :: rest => some (.bar, rest)
  | c :: rest =>
    if c = '\'' ∨ c = '"' then do
      let (t, rest) ← untilQuote? c rest
      return (.literal (← unescape? (inAscii t)), rest)
    else if isAsciiDigit c then (number? (c :: rest)).map fun (n, rest) => (.number n, rest)
    else (name? (c :: rest)).map fun (n, rest) => (.name n, rest)

/-- The lexemes up to the closing mark, and what follows the mark. The fuel bounds their number. -/
def lexemes? (mark : Text) : Nat → Text → Option (List Lexeme × Text)
  | 0, _ => none
  | fuel + 1, t =>
    match mark.isPrefixOf? (trimStart t) with
    | some rest => some ([], rest)
    | none => do
      let (first, rest) ← lexeme? (trimStart t)
      let (more, rest) ← lexemes? mark fuel rest
      return (first :: more, rest)

/-! ### Pieces -/

/-- A template cut at its marks. -/
inductive Token where
  | text (t : Text)
  | place (inner : List Lexeme)
  | tag (inner : List Lexeme)
deriving DecidableEq, Repr

/-- The kinds of marks that open something other than text. -/
inductive Mark where
  | place
  | tag
  | comment
deriving DecidableEq, Repr

/-- The mark that the character after a brace makes. -/
def Mark.ofChar? : Char → Option Mark
  | '\x7b' => some .place
  | '%' => some .tag
  | '#' => some .comment
  | _ => none

/-- The text before the first mark, and the mark with what follows it. -/
def untilMark : Text → Text × Option (Mark × Text)
  | [] => ([], none)
  | '\x7b' :: c :: rest =>
    match Mark.ofChar? c with
    | some mark => ([], some (mark, rest))
    | none =>
      let (before, found) := untilMark (c :: rest)
      ('\x7b' :: before, found)
  | c :: rest =>
    let (before, found) := untilMark rest
    (c :: before, found)

/-- What follows the first occurrence of a mark. -/
def after? (mark : Text) : Text → Option Text
  | [] => none
  | c :: rest => (mark.isPrefixOf? (c :: rest)).or (after? mark rest)

/-- The text in front of a tag without the blanks that start the tag's line. The text itself starts
a line if `atLineStart` is set. -/
def dropIndent (atLineStart : Bool) (t : Text) : Text :=
  let line := (t.reverse.takeWhile (· != '\n')).reverse
  if allBlank line && (atLineStart || t.contains '\n') then t.take (t.length - line.length) else t

/-- The text without a line feed at its start, and whether there was one. -/
def dropNewline : Text → Bool × Text
  | '\n' :: rest => (true, rest)
  | t => (false, t)

/-- A token for a text, none if it is empty. -/
def textToken (t : Text) : List Token := if t.isEmpty then [] else [.text t]

/-- The tokens of a template. The fuel bounds the number of marks. -/
def tokens? : Nat → Bool → Text → Option (List Token)
  | 0, _, _ => none
  | fuel + 1, atLineStart, t =>
    match untilMark t with
    | (before, none) => some (textToken before)
    | (before, some (.place, rest)) => do
      let (inner, rest) ← lexemes? "\x7d\x7d".toList (rest.length + 1) rest
      return textToken before ++ .place inner :: (← tokens? fuel false rest)
    | (before, some (.tag, rest)) => do
      let (inner, rest) ← lexemes? "%\x7d".toList (rest.length + 1) rest
      let (newline, rest) := dropNewline rest
      return textToken (dropIndent atLineStart before) ++ .tag inner :: (← tokens? fuel newline rest)
    | (before, some (.comment, rest)) => do
      let (newline, rest) := dropNewline (← after? "#\x7d".toList rest)
      return textToken (dropIndent atLineStart before) ++ (← tokens? fuel newline rest)

/-! ### Trees -/

/-- The constant of a word. -/
def constant? (word : Text) : Option Source :=
  [("true", .truth true), ("True", .truth true), ("false", .truth false), ("False", .truth false),
   ("none", .nothing), ("None", .nothing)].findSome? fun (name, source) =>
    if word = String.toList name then some source else none

/-- Literals that stand side by side as one, and the lexemes behind them. -/
def joinLiterals : List Lexeme → Text × List Lexeme
  | .literal t :: rest =>
    let (more, rest) := joinLiterals rest
    (t ++ more, rest)
  | rest => ([], rest)

/-- The source of some lexemes, and those behind it. -/
def source? : List Lexeme → Option (Source × List Lexeme)
  | .name n :: rest =>
    if n = "not".toList then none else some ((constant? n).getD (.name n), rest)
  | .number n :: rest => some (.number n, rest)
  | .literal t :: rest =>
    let (more, rest) := joinLiterals rest
    some (.literal (t ++ more), rest)
  | _ => none

/-- The attributes that follow a value, and the lexemes behind them. -/
def attributes : List Lexeme → List Attribute × List Lexeme
  | .dot :: .name n :: rest =>
    let (more, rest) := attributes rest
    (.name n :: more, rest)
  | .dot :: .number n :: rest =>
    let (more, rest) := attributes rest
    (.place n :: more, rest)
  | rest => ([], rest)

/-- The filters that end an expression, behind the name of one. Their names may have parts. -/
def filtersFrom? (filter : Text) : List Lexeme → Option (List Text)
  | [] => some [filter]
  | .dot :: .name n :: rest => filtersFrom? (filter ++ '.' :: n) rest
  | .bar :: .name n :: rest => (filtersFrom? n rest).map (filter :: ·)
  | _ => none

/-- The filters that end an expression. -/
def filters? : List Lexeme → Option (List Text)
  | [] => some []
  | .bar :: .name n :: rest => filtersFrom? n rest
  | _ => none

/-- The expression of some lexemes. -/
def expr? (ls : List Lexeme) : Option Expr := do
  let (source, rest) ← source? ls
  let (path, rest) := attributes rest
  return ⟨source, path, ← filters? rest⟩

/-- What a tag does. -/
inductive Tag where
  | loop (item : Text) (items : Expr)
  | endLoop
deriving DecidableEq, Repr

/-- Whether a word may name the item of a loop. -/
def mayNameItem (word : Text) : Bool := word != "in".toList && (constant? word).isNone

/-- The tag of some lexemes. -/
def tag? : List Lexeme → Option Tag
  | [.name word] => if word = "endfor".toList then some .endLoop else none
  | .name word :: .name item :: .name link :: rest =>
    if word = "for".toList ∧ mayNameItem item ∧ link = "in".toList ∧
        rest.head? ≠ some (.name "recursive".toList) then
      (expr? rest).map (.loop item)
    else none
  | _ => none

/-- The nodes of some tokens up to the end of the loop they stand in, and the tokens behind it. At
depth zero there is no loop to end. -/
def nodes? : Nat → Nat → List Token → Option (List Node × List Token)
  | 0, _, _ => none
  | _ + 1, depth, [] => if depth = 0 then some ([], []) else none
  | fuel + 1, depth, .text t :: rest => do
    let (nodes, rest) ← nodes? fuel depth rest
    return (.text t :: nodes, rest)
  | fuel + 1, depth, .place inner :: rest => do
    let e ← expr? inner
    let (nodes, rest) ← nodes? fuel depth rest
    return (.place e :: nodes, rest)
  | fuel + 1, depth, .tag inner :: rest => do
    match ← tag? inner with
    | .endLoop => if depth = 0 then none else return ([], rest)
    | .loop item items =>
      let (body, rest) ← nodes? fuel (depth + 1) rest
      let (nodes, rest) ← nodes? fuel depth rest
      return (.loop item items body :: nodes, rest)

/-- The tree of a template, if it is well formed. Line endings are unified, and one line feed at the
end does not count. -/
def ofText? (t : Text) : Option (List Node) := do
  let t := dropFinalNewline (unifyNewlines t)
  let tokens ← tokens? (t.length + 1) true t
  let (nodes, _) ← nodes? (tokens.length + 1) 0 tokens
  return nodes

end Template

end WireTypes
