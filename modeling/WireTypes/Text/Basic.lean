/-! Text as a list of code points, cut at separators and put together again. -/

namespace WireTypes

/-- A text is the list of its code points. These are Unicode scalar values, so there are no texts
with a lone surrogate. -/
abbrev Text := List Char

namespace Text

/-- The pieces between the occurrences of a separator; a text without any is one piece. -/
def splitOn (sep : Char) : Text → List Text
  | [] => [[]]
  | c :: rest =>
    if c = sep then [] :: splitOn sep rest
    else
      match splitOn sep rest with
      | [] => [[c]]
      | piece :: pieces => (c :: piece) :: pieces

/-- The lines of a text. Only a line feed ends a line, and a text that ends in one has an empty last
line. -/
def lines (t : Text) : List Text := splitOn '\n' t

/-- Lines with a line feed between each two. -/
def unlines (ls : List Text) : Text := List.intercalate ['\n'] ls

/-- Whether `part` occurs somewhere in the text. -/
def hasPart (part : Text) : Text → Bool
  | [] => part.isEmpty
  | c :: rest => part.isPrefixOf (c :: rest) || hasPart part rest

/-- Every line ending, `CR LF` or a lone `CR`, written as a line feed. -/
def unifyNewlines : Text → Text
  | '\r' :: '\n' :: rest => '\n' :: unifyNewlines rest
  | '\r' :: rest => '\n' :: unifyNewlines rest
  | c :: rest => c :: unifyNewlines rest
  | [] => []

/-- A count in decimal digits. -/
def ofNat (n : Nat) : Text := Nat.toDigits 10 n

/-- The items with a comma and a space between each two. -/
def commaSeparated (items : List Text) : Text := List.intercalate ", ".toList items

/-- Texts in the order of their code points. -/
def precedes : Text → Text → Bool
  | [], _ => true
  | _ :: _, [] => false
  | a :: s, b :: t => a < b || (a == b && precedes s t)

/-- The code points of a literal, which need not be read back from its bytes. -/
theorem toList_of_eq {s : String} {t : Text} (h : s = String.ofList t) : s.toList = t := by
  rw [h, String.toList_ofList]

theorem toList_append_of_eq {s s' : String} {t t' : Text} (h : s.toList = t)
    (h' : s'.toList = t') : (s ++ s').toList = t ++ t' := by
  rw [String.toList_append, h, h']

theorem splitOn_ne_nil (sep : Char) (t : Text) : splitOn sep t ≠ [] := by
  induction t with
  | nil => simp [splitOn]
  | cons c rest ih =>
    simp only [splitOn]
    split
    · simp
    · split <;> simp

/-- Putting the separators back gives the text. -/
theorem intercalate_splitOn (sep : Char) (t : Text) :
    List.intercalate [sep] (splitOn sep t) = t := by
  induction t with
  | nil => simp [splitOn, List.intercalate]
  | cons c rest ih =>
    simp only [splitOn]
    split
    · next h =>
      subst h
      cases hs : splitOn c rest with
      | nil => exact absurd hs (splitOn_ne_nil c rest)
      | cons piece pieces =>
        rw [hs] at ih
        rw [← ih]
        simp [List.intercalate, List.intersperse]
    · cases hs : splitOn sep rest with
      | nil => exact absurd hs (splitOn_ne_nil sep rest)
      | cons piece pieces =>
        rw [hs] at ih
        rw [← ih]
        cases pieces <;> simp [List.intercalate, List.intersperse]

/-- The lines of a text, joined, are the text. -/
theorem unlines_lines (t : Text) : unlines (lines t) = t := intercalate_splitOn '\n' t

end Text

end WireTypes
