import WireTypes.Text.Ranges

/-! Blanks, and texts without the blanks at their ends. -/

namespace WireTypes.Text

/-- The white space of Unicode 14.0 together with the four information separators. -/
def blankRanges : Ranges := [
  (0x9, 0xD), (0x1C, 0x20), (0x85, 0x85), (0xA0, 0xA0), (0x1680, 0x1680), (0x2000, 0x200A),
  (0x2028, 0x2029), (0x202F, 0x202F), (0x205F, 0x205F), (0x3000, 0x3000)]

/-- White space or an information separator. -/
def isBlank (c : Char) : Bool := blankRanges.contains c.toNat

/-- The text without its leading blanks. -/
def trimStart (t : Text) : Text := t.dropWhile isBlank

/-- The text without its trailing blanks. -/
def trimEnd (t : Text) : Text := (t.reverse.dropWhile isBlank).reverse

/-- The text without the blanks at both ends. -/
def trim (t : Text) : Text := trimEnd (trimStart t)

/-- Whether the text is empty or consists of blanks only. -/
def allBlank (t : Text) : Bool := t.all isBlank

/-- The pieces between blanks, behind the start of a piece. -/
def wordsFrom (word : Text) : Text → List Text
  | [] => if word.isEmpty then [] else [word]
  | c :: rest =>
    if isBlank c then (if word.isEmpty then [] else [word]) ++ wordsFrom [] rest
    else wordsFrom (word ++ [c]) rest

/-- The nonempty pieces between the blanks of a text. -/
def words (t : Text) : List Text := wordsFrom [] t

/-- Whether the text stays on one line: the only line feed it may hold is its last character. -/
def fitsLine : Text → Bool
  | [] => true
  | ['\n'] => true
  | c :: rest => c != '\n' && fitsLine rest

/-- The text without a final line feed. -/
def dropFinalNewline (t : Text) : Text :=
  match t.reverse with
  | '\n' :: rest => rest.reverse
  | _ => t

end WireTypes.Text
