import WireTypes.Text.Width
import WireTypes.Text.Blank

/-! Fitting text into lines of a given width. -/

namespace WireTypes

open Text

namespace Display

/-- The width of everything that is shown. -/
def screenWidth : Nat := 300

/-- What becomes of a word that is wider than a line. -/
inductive Overflow where
  /-- It goes on in the next line. -/
  | fold
  /-- It is cut off, and an ellipsis shows that. -/
  | ellipsis
deriving DecidableEq, Repr

/-- Whether a character is dropped from what is shown: the bell, the backspace, the vertical tab,
the form feed and the carriage return. -/
def isDropped (c : Char) : Bool :=
  c == '\x07' || c == '\x08' || c == '\x0b' || c == '\x0c' || c == '\r'

/-- The parts of a line between its tabs, each tab as blanks up to the next multiple of `size`. The
column where the first part starts is given. -/
def joinTabs (size : Nat) : Nat → List Text → Text
  | _, [] => []
  | _, [part] => part
  | column, part :: rest =>
    let column := column + width (part ++ [' '])
    let more := (size - column % size) % size
    part ++ List.replicate (more + 1) ' ' ++ joinTabs size (column + more) rest

/-- A line with tabs as blanks up to the next multiple of `size`. -/
def expandTabs (size : Nat) (line : Text) : Text := joinTabs size 0 (splitOn '\t' line)

/-- Cuts a text behind each run of blanks that follows a word. Blanks at its start belong to the
first word, and a text of blanks has no words. The fuel bounds the number of words. -/
def wordsOf : Nat → Text → List Text
  | 0, _ => []
  | fuel + 1, t =>
    let lead := t.takeWhile isBlank
    let body := (t.drop lead.length).takeWhile (!isBlank ·)
    let tail := (t.drop (lead.length + body.length)).takeWhile isBlank
    if body.isEmpty then []
    else
      (lead ++ body ++ tail) :: wordsOf fuel (t.drop (lead.length + body.length + tail.length))

/-- The clusters of a text in pieces of at most the given width. The piece so far is given, and its
width. -/
def chop (limit : Nat) (piece : Text) (used : Nat) : List Cluster → List Text
  | [] => [piece]
  | g :: rest =>
    if limit < used + g.columns then piece :: chop limit g.chars g.columns rest
    else chop limit (piece ++ g.chars) (used + g.columns) rest

/-- The lines so far, backwards, and the line that is being filled. -/
structure Filling where
  /-- The finished lines, the last one first. -/
  done : List Text := []
  /-- The line that is being filled. -/
  line : Text := []
  /-- Its width. -/
  used : Nat := 0
  /-- Whether no word has come yet. -/
  fresh : Bool := true

/-- Ends the line before a word, unless it is the first one. -/
def Filling.endLine (f : Filling) : Filling :=
  if f.fresh then f else { f with done := f.line :: f.done, line := [], used := 0 }

/-- Adds a word behind the line that is being filled. -/
def Filling.add (f : Filling) (word : Text) : Filling :=
  { f with line := f.line ++ word, used := f.used + width word, fresh := false }

/-- The filling after a word. -/
def Filling.word (limit : Nat) (overflow : Overflow) (f : Filling) (word : Text) : Filling :=
  let size := width (trimEnd word)
  if f.used + size ≤ limit then f.add word
  else if limit < size then
    match overflow with
    | .fold => (chop limit [] 0 (clusters word)).foldl (fun f piece => f.endLine.add piece) f
    | .ellipsis => f.endLine.add word
  else if f.used = 0 then { f with line := f.line ++ word, fresh := false }
  else f.endLine.add word

/-- A text without the blanks at its end that lie beyond a length. -/
def dropOverhang (limit : Nat) (t : Text) : Text :=
  let blanks := t.length - (trimEnd t).length
  t.take (t.length - min blanks (t.length - limit))

/-- The longest start of some clusters that fits a width; half of a wide one becomes a blank. -/
def fit : Nat → List Cluster → Text
  | _, [] => []
  | limit, g :: rest =>
    if g.columns ≤ limit then g.chars ++ fit (limit - g.columns) rest
    else if limit = 0 then [] else [' ']

/-- A line cut to a width. -/
def truncate (limit : Nat) (overflow : Overflow) (t : Text) : Text :=
  if width t ≤ limit then t
  else
    match overflow with
    | .fold => fit limit (clusters t)
    | .ellipsis => fit (limit - 1) (clusters t) ++ ['…']

/-- A line without line feeds as lines of a width. -/
def wrapLine (limit : Nat) (overflow : Overflow) (t : Text) : List Text :=
  let words := wordsOf (t.length + 1) t
  let f := words.foldl (Filling.word limit overflow) {}
  let last := if words.isEmpty then t else f.line
  (last :: f.done).reverse.map fun line => truncate limit overflow (dropOverhang limit line)

/-- A text as lines of a width, with tabs as blanks. -/
def wrap (limit : Nat) (overflow : Overflow) (t : Text) : List Text :=
  (lines t).flatMap fun line => wrapLine limit overflow (expandTabs 8 line)

/-- A line filled up with blanks to a width. -/
def pad (limit : Nat) (t : Text) : Text := t ++ List.replicate (limit - width t) ' '

/-- A line in the middle of a width. -/
def centre (limit : Nat) (t : Text) : Text :=
  pad limit (List.replicate ((limit - width t) / 2) ' ' ++ t)

/-- A message as it is shown: wrapped, with a line feed at its end. -/
def message (t : Text) : Text := unlines (wrap screenWidth .fold t) ++ ['\n']

end Display

end WireTypes
