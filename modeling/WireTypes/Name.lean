import WireTypes.Text.Case

/-! Field names in snake, Pascal and camel case.

Folding and word boundaries know ASCII letters only; the first letter of a Pascal or camel name and
the whole of a snake name follow the full case mappings. -/

namespace WireTypes.Name

open Text

/-- Whether a new word starts between `a` and `b`: at a capital after a small letter or a digit, and
at the last capital of a run that a small letter follows. -/
def startsWord (a b : Char) (next : Option Char) : Bool :=
  isAsciiUpper b && (isAsciiLower a || isAsciiDigit a || (isAsciiUpper a && next.any isAsciiLower))

/-- The name with an underscore at each start of a word. -/
def markWords : Text → Text
  | a :: b :: rest =>
    if startsWord a b rest.head? then a :: '_' :: markWords (b :: rest)
    else a :: markWords (b :: rest)
  | t => t

/-- Each run of underscores reduced to one. -/
def squeeze : Text → Text
  | '_' :: '_' :: rest => squeeze ('_' :: rest)
  | c :: rest => c :: squeeze rest
  | [] => []

/-- The text without the underscores at both ends. -/
def stripUnderscores (t : Text) : Text :=
  ((t.dropWhile (· == '_')).reverse.dropWhile (· == '_')).reverse

/-- The name in small letters, its words joined by single underscores. Hyphens
count as underscores. -/
def snake (name : Text) : Text :=
  stripUnderscores (squeeze (lower (markWords (name.map fun c => if c = '-' then '_' else c))))

/-- Each underscore before a small ASCII letter dropped and the letter made a capital. -/
def foldWords : Text → Text
  | '_' :: c :: rest =>
    if isAsciiLower c then c.toUpper :: foldWords rest else '_' :: foldWords (c :: rest)
  | c :: rest => c :: foldWords rest
  | [] => []

/-- The name with folded words and a capital at its start. -/
def pascal (name : Text) : Text :=
  match foldWords name with
  | [] => []
  | c :: rest => if isLower c then upperChar c ++ rest else c :: rest

/-- The name with folded words and a small letter at its start. -/
def camel (name : Text) : Text :=
  match foldWords name with
  | [] => []
  | c :: rest => if isUpper c then lowerChar c ++ rest else c :: rest

/-- An exported name starts with an uppercase letter. -/
def isExported : Text → Bool
  | [] => false
  | c :: _ => isUpper c

end WireTypes.Name
