import WireTypes.Display.Wrap

/-! Tables with a title, a head and columns as wide as their longest cells. -/

namespace WireTypes

open Text

namespace Display

/-- A line of a frame: its ends, what fills it, and what divides the columns. -/
structure Rule where
  left : Char
  fill : Char
  divider : Char
  right : Char
deriving DecidableEq, Repr

/-- What surrounds the cells of a table. -/
structure Frame where
  top : Rule
  /-- The line below the head. -/
  middle : Rule
  bottom : Rule
  /-- What stands left, between and right of the cells of a row. -/
  row : Rule
deriving DecidableEq, Repr

/-- A frame of lines with round corners. -/
def Frame.rounded : Frame where
  top := ⟨'╭', '─', '┬', '╮'⟩
  middle := ⟨'├', '─', '┼', '┤'⟩
  bottom := ⟨'╰', '─', '┴', '╯'⟩
  row := ⟨'│', ' ', '│', '│'⟩

/-- A frame of one line below the head. -/
def Frame.plain : Frame where
  top := ⟨' ', ' ', ' ', ' '⟩
  middle := ⟨' ', '─', '─', ' '⟩
  bottom := ⟨' ', ' ', ' ', ' '⟩
  row := ⟨' ', ' ', ' ', ' '⟩

/-- A table. -/
structure Grid where
  title : Text
  frame : Frame
  head : List Text
  rows : List (List Text)
deriving DecidableEq, Repr

namespace Grid

/-- A line of a frame over columns of some widths. -/
def ruleLine (r : Rule) (widths : List Nat) : Text :=
  r.left :: List.intercalate [r.divider] (widths.map fun w => List.replicate w r.fill) ++ [r.right]

/-- The width of a cell: its longest line and a blank on each side. -/
def cellWidth (cell : Text) : Nat := ((lines cell).map width).foldl max 0 + 2

/-- The widths that the columns ask for. -/
def wantedWidths (g : Grid) : List Nat :=
  g.rows.foldl (fun widths row => List.zipWith max widths (row.map cellWidth))
    (g.head.map cellWidth)

/-- The width of some columns side by side. -/
def sumWidths (widths : List Nat) : Nat := widths.foldl (fun sum w => sum + w) 0

/-- The widths of the columns: when they do not fit, the widest one gives way. -/
def widths (g : Grid) : List Nat :=
  let available := screenWidth - (g.head.length + 1)
  let wanted := g.wantedWidths.map (min available)
  let excess := sumWidths wanted - available
  let widest := wanted.foldl max 0
  wanted.map fun w => if w = widest then w - excess else w

/-- The lines of a cell in a column. -/
def cellLines (w : Nat) (cell : Text) : List Text :=
  (wrap (w - 2) .ellipsis cell).map fun line => ' ' :: pad (w - 2) line ++ [' ']

/-- The lines of a row. Cells with fewer lines than others are filled up. -/
def rowLines (f : Frame) (widths : List Nat) (row : List Text) : List Text :=
  let cells := List.zipWith cellLines widths row
  let height := (cells.map (·.length)).foldl max 1
  (List.range height).map fun n =>
    let parts := List.zipWith (fun w cell => (cell[n]?).getD (List.replicate w ' ')) widths cells
    f.row.left :: List.intercalate [f.row.divider] parts ++ [f.row.right]

/-- The table as it is shown. -/
def toText (g : Grid) : Text :=
  let widths := g.widths
  let total := sumWidths widths + widths.length + 1
  let body := g.rows.flatMap (rowLines g.frame widths)
  ([centre total g.title, ruleLine g.frame.top widths] ++ rowLines g.frame widths g.head ++
    [ruleLine g.frame.middle widths] ++ body ++
    [ruleLine g.frame.bottom widths]).flatMap (· ++ ['\n'])

end Grid

end Display

end WireTypes
