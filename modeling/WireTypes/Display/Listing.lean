import WireTypes.Display.Wrap

/-! Listings: code as it is shown. -/

namespace WireTypes

open Text

namespace Display

/-- The text with tabs as blanks up to the next multiple of `size`, where each character counts as
one column. -/
def spellTabs (size : Nat) : Nat → Text → Text
  | _, [] => []
  | column, c :: rest =>
    if c = '\t' then
      let more := size - column % size
      List.replicate more ' ' ++ spellTabs size (column + more) rest
    else if c = '\n' ∨ c = '\r' then c :: spellTabs size 0 rest
    else c :: spellTabs size (column + 1) rest

/-- The text without a byte order mark at its start. -/
def dropOrderMark : Text → Text
  | '\ufeff' :: rest => rest
  | t => t

/-- The characters of code that are shown. Tabs are spelled out before anything is dropped, and
every line ending becomes a line feed. -/
def codeText (t : Text) : Text :=
  if t.getLast? = some '\n' then plain t else dropFinalNewline (plain (t ++ ['\n']))
where
  /-- The characters of code that ends a line. -/
  plain (t : Text) : Text :=
    (unifyNewlines (dropOrderMark (spellTabs 4 0 t))).filter (!isDropped ·)

/-- Code as it is shown: lines cut to the screen, without blanks at their ends. -/
def code (t : Text) : Text :=
  (lines (codeText t)).flatMap fun line =>
    ((truncate screenWidth .fold line).reverse.dropWhile (· == ' ')).reverse ++ ['\n']

end Display

end WireTypes
