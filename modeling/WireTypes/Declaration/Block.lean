import WireTypes.Declaration.Header

/-! The block of a declaration among the lines of a text.

Lines are outside until one matches the header, then in the body until one closes the block, then
outside again: a second declaration is not entered. -/

namespace WireTypes

open Text

/-- Whether a line ends in an empty pair of braces, perhaps with a semicolon behind it. -/
def closesItself (line : Text) : Bool :=
  let tail := trimStart line.reverse
  let tail := match tail with
    | ';' :: rest => trimStart rest
    | _ => tail
  match tail with
  | '}' :: rest => (trimStart rest).head? == some '\x7b'
  | _ => false

/-- The text before its final comment: the first `//` after which the line goes on to its end. -/
def beforeComment : Text → Text
  | [] => []
  | c :: rest =>
    if "//".toList.isPrefixOf (c :: rest) && fitsLine (c :: rest) then []
    else c :: beforeComment rest

/-- Whether a line is a closing brace, perhaps with a semicolon and a comment behind it. -/
def isClosing (line : Text) : Bool :=
  let rest := trim (beforeComment line)
  rest == "\x7d".toList || rest == "\x7d;".toList

namespace Block

/-- Where a line stands with respect to the block. -/
inductive Role where
  | outside
  | header
  | body
  | close
deriving DecidableEq, Repr

/-- How far the block has been read. -/
inductive Progress where
  /-- No header yet. -/
  | searching
  /-- Behind the header. -/
  | inside
  /-- Behind the closing brace. -/
  | done
deriving DecidableEq, Repr

/-- A line, its role, and the progress after it. -/
structure Mark where
  role : Role
  line : Text
  progress : Progress
deriving DecidableEq, Repr

/-- The mark of the next line. -/
def mark (n : Notation) : Progress → Text → Mark
  | .searching, line =>
    if (n.header? line).isSome then ⟨.header, line, if closesItself line then .done else .inside⟩
    else ⟨.outside, line, .searching⟩
  | .inside, line => if isClosing line then ⟨.close, line, .done⟩ else ⟨.body, line, .inside⟩
  | .done, line => ⟨.outside, line, .done⟩

/-- The marks of some lines, read on from a progress. -/
def marksFrom (n : Notation) : Progress → List Text → List Mark
  | _, [] => []
  | p, line :: rest => mark n p line :: marksFrom n (mark n p line).progress rest

/-- The marks of the lines of a text. -/
def marks (n : Notation) (t : Text) : List Mark := marksFrom n .searching (lines t)

/-- The name in the header line. -/
def name? (n : Notation) (t : Text) : Option Text := (lines t).findSome? n.header?

/-- The lines between the header and the closing brace. -/
def body (n : Notation) (t : Text) : List Text :=
  ((marks n t).filter (·.role = .body)).map (·.line)

/-- Whether the block is closed. -/
def isComplete (n : Notation) (t : Text) : Bool := (marks n t).any (·.progress = .done)

end Block

end WireTypes
