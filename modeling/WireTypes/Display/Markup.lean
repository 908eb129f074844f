import WireTypes.Display.Emoji
import WireTypes.Display.Literal
import WireTypes.Display.Style
import WireTypes.Display.Wrap

/-! Messages with style tags in brackets and emoji codes between colons, shown without style: tags
leave no trace, and codes become emoji. -/

namespace WireTypes

open Text

namespace Display

/-! ### Pieces -/

/-- Whether a character may start a style tag. -/
def startsTag (c : Char) : Bool := isAsciiLower c || c == '#' || c == '/' || c == '@'

/-- The inside of a style tag behind its bracket, and what follows the tag. -/
def tagInside? : Text → Option (Text × Text)
  | [] => none
  | c :: rest =>
    if !startsTag c then none
    else
      let inside := rest.takeWhile fun d => d != ']' && d != '['
      match rest.drop inside.length with
      | ']' :: rest => some (c :: inside, rest)
      | _ => none

/-- A style tag and the backslashes before it. -/
structure TagMatch where
  slashes : Nat
  inside : Text
  /-- What follows the tag. -/
  rest : Text

/-- The style tag that a text starts with, if only backslashes stand before it. -/
def tagAtStart? (t : Text) : Option TagMatch :=
  let slashes := (t.takeWhile (· == '\\')).length
  match t.drop slashes with
  | '[' :: rest => (tagInside? rest).map fun (inside, rest) => ⟨slashes, inside, rest⟩
  | _ => none

/-- The text before the first style tag, and the tag. -/
def untilTag : Text → Text × Option TagMatch
  | [] => ([], none)
  | c :: rest =>
    match tagAtStart? (c :: rest) with
    | some found => ([], some found)
    | none =>
      let (before, found) := untilTag rest
      (c :: before, found)

/-- A piece of a message. -/
inductive Piece where
  | text (t : Text)
  /-- A style tag. What follows an equals sign in it are its parameters. -/
  | tag (name : Text) (parameters : Option Text)
deriving DecidableEq, Repr

/-- The tag with some inside. -/
def Piece.ofInside (inside : Text) : Piece :=
  let name := inside.takeWhile (· != '=')
  .tag name (behind? "=" (inside.drop name.length))

/-- The pieces of a message. Backslashes before a tag stand for half as many; an odd one makes the
tag text. The fuel bounds the number of tags. -/
def pieces : Nat → Text → List Piece
  | 0, _ => []
  | fuel + 1, t =>
    match untilTag t with
    | (before, none) => [.text before]
    | (before, some found) =>
      let last := if found.slashes % 2 = 1 then .text ('[' :: found.inside ++ [']'])
        else Piece.ofInside found.inside
      [.text before, .text (List.replicate (found.slashes / 2) '\\'), last] ++
        pieces fuel found.rest

/-- A text with a backslash taken from before each opening bracket. -/
def bareBrackets : Text → Text
  | '\\' :: '[' :: rest => '[' :: bareBrackets rest
  | c :: rest => c :: bareBrackets rest
  | [] => []

/-- A piece of text as it is shown. -/
def shownText (t : Text) : Text := (withEmoji (bareBrackets t)).filter (!isDropped ·)

/-! ### Tags -/

/-- Why a message cannot be shown. -/
inductive MarkupFault where
  /-- A closing tag closes nothing. -/
  | unmatched
  /-- The argument of an action is no literal. -/
  | badAction
  /-- A part of a colour is no number. -/
  | badNumber
deriving DecidableEq, Repr

/-- A tag that is open. -/
structure OpenTag where
  name : Text
  parameters : Option Text
deriving DecidableEq, Repr

/-- The argument of an action with some parameters: what stands in round brackets behind its name,
or all of them if they have another form. -/
def actionArgument (parameters : Text) : Text :=
  let t := trim parameters
  match t.dropWhile fun c => isWord c || c = '.' with
  | [] => "()".toList
  | '(' :: rest => if rest.getLast? = some ')' ∧ '\n' ∉ rest then '(' :: rest else t
  | _ => t

namespace OpenTag

/-- Whether the tag is an action and no style. -/
def isAction (tag : OpenTag) : Bool := tag.name.head? = some '@'

/-- The style of a tag as it is spelled. -/
def spelling (tag : OpenTag) : Text :=
  match tag.parameters with
  | none => tag.name
  | some parameters => tag.name ++ ' ' :: parameters

/-- The styles that closing the tag leaves behind: that of the tag, but none for an action. -/
def close (tag : OpenTag) : Except MarkupFault (List Text) :=
  if tag.isAction then
    match tag.parameters with
    | none | some [] => .ok []
    | some parameters =>
      if Literal.isLiteral (actionArgument parameters) then .ok [] else .error .badAction
  else .ok [tag.spelling]

end OpenTag

/-- The common spelling of the name of a tag. -/
def tagName (t : Text) : Except MarkupFault Text :=
  match Style.normalise t with
  | .ok name => .ok name
  | .error _ => .error .badNumber

/-- The tag that a closing tag closes: the last one of its name, or the last one if it
has no name. -/
def closed (name : Text) (opened : List OpenTag) : Except MarkupFault OpenTag := do
  if name.isEmpty then opened.head?.elim (throw .unmatched) pure
  else
    let name ← tagName name
    (opened.find? (·.name = name)).elim (throw .unmatched) pure

/-- What some pieces show, and the styles of their tags. The tags that are open are given, the last
one first. -/
def readPieces (opened : List OpenTag) : List Piece → Except MarkupFault (Text × List Text)
  | [] => .ok ([], opened.map (·.spelling))
  | .text t :: rest => do
    let (shown, styles) ← readPieces opened rest
    return (shownText t ++ shown, styles)
  | .tag ('/' :: name) _ :: rest => do
    let tag ← closed (trim name) opened
    let style ← tag.close
    let (shown, styles) ← readPieces (opened.eraseP (·.name = tag.name)) rest
    return (shown, style ++ styles)
  | .tag name parameters :: rest => do
    readPieces (⟨← tagName name, parameters⟩ :: opened) rest

/-- The text of a message. Styles that mean nothing are passed over, unless a number is missing. -/
def plain (t : Text) : Except MarkupFault Text := do
  let (shown, styles) ← readPieces [] (pieces (t.length + 1) t)
  if styles.any fun style => Style.ofText style matches .error .badNumber then throw .badNumber
  else return shown

end Display

end WireTypes
