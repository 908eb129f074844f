import WireTypes.Text.Digit
import WireTypes.Text.NameTable

/-! Characters by name. The letters of a name may be small, except in names that are made by rule:
those of unified ideographs, which end in a code, and those of syllables, which end in letters. -/

namespace WireTypes.Text

/-- A capital letter of ASCII for a small one. -/
def capital (c : Char) : Char := if isAsciiLower c then Char.ofNat (c.toNat - 32) else c

/-- The text behind a start, if the text has it. -/
def behind? (start : String) (t : Text) : Option Text := start.toList.isPrefixOf? t

/-! ### Names in the table -/

/-- What has been read of a block of names. -/
structure NameScan where
  /-- The code of the name that is being read. -/
  code : Nat := 0
  /-- Whether the code itself is being read. -/
  inCode : Bool := false
  /-- The words of the name, the last one first and backwards. -/
  words : List Text := []
  /-- The code of the name that was looked for. -/
  found : Option Nat := none

namespace NameScan

/-- Compares the name that ends here with the one that is looked for, given like `words`. -/
def finish (wanted : List Text) (s : NameScan) : NameScan :=
  if s.found.isNone && s.words = wanted then { s with found := some s.code } else s

/-- The words that a name shares with the name before it, and an empty one behind them. -/
def keep (letter : Char) (words : List Text) : List Text :=
  [] :: words.drop (words.length - (letter.toNat - 97))

/-- Reads one character of a block. -/
def step (wanted : List Text) (s : NameScan) (c : Char) : NameScan :=
  if c = ':' then { s.finish wanted with inCode := true, code := 0 }
  else if isAsciiLower c then
    if s.inCode then { s with inCode := false, words := keep c s.words }
    else
      let s := s.finish wanted
      { s with code := s.code + 1, words := keep c s.words }
  else if s.inCode then { s with code := s.code * 16 + (hexValue? c).getD 0 }
  else if c = ' ' then { s with words := [] :: s.words }
  else
    match s.words with
    | [] => { s with words := [[c]] }
    | word :: rest => { s with words := (c :: word) :: rest }

end NameScan

/-- The code of a name in a block. -/
def codeInBlock? (wanted : List Text) (block : List String) : Option Nat :=
  let scan := block.foldl (fun scan line => line.toList.foldl (NameScan.step wanted) scan) {}
  (scan.finish wanted).found

/-- The code of a name in the table. -/
def codeInTable? (name : Text) : Option Nat :=
  nameBlocks.findSome? (codeInBlock? ((splitOn ' ' name).map List.reverse).reverse)

/-! ### Names that end in a code -/

/-- Titles that a code of one of some ranges follows. -/
def codedNames : List (String × Ranges) := [
  ("CJK COMPATIBILITY IDEOGRAPH-", [(0xF900, 0xFA6D), (0xFA70, 0xFAD9), (0x2F800, 0x2FA1D)]),
  ("KHITAN SMALL SCRIPT CHARACTER-", [(0x18B00, 0x18CD5)]),
  ("NUSHU CHARACTER-", [(0x1B170, 0x1B2FB)])]

/-- The code at the end of a name: as many digits as it needs, and at least four. -/
def codedName? (name : Text) : Option Nat :=
  codedNames.findSome? fun (title, codes) => do
    let digits ← behind? title name
    let code ← hexNumber? digits
    if codes.contains code && digits.length = (if code < 0x10000 then 4 else 5) then return code
    else none

/-- The selectors of variants, whose names end in a number: where they start and how
many there are. -/
def selectors : List (Nat × Nat × Nat) := [(1, 16, 0xFE00), (17, 256, 0xE0100)]

/-- The code of a selector of variants by its long or its short name. -/
def selector? (name : Text) : Option Nat := do
  let digits ← (behind? "VARIATION SELECTOR-" name).or (behind? "VS" name)
  if digits.head? = some '0' || !digits.all isAsciiDigit then none
  else
    let n ← decimal? digits
    selectors.findSome? fun (first, last, code) =>
      if first ≤ n && n ≤ last then some (code + (n - first)) else none

/-- The unified ideographs. -/
def ideographRanges : Ranges := [
  (0x3400, 0x4DBF), (0x4E00, 0x9FFF), (0x20000, 0x2A6DF), (0x2A700, 0x2B738), (0x2B740, 0x2B81D),
  (0x2B820, 0x2CEA1), (0x2CEB0, 0x2EBE0), (0x30000, 0x3134A)]

/-- The code behind the title of a unified ideograph: four or five digits with capital letters. -/
def ideograph? (digits : Text) : Option Nat := do
  let code ← hexNumber? digits
  if (digits.length = 4 || digits.length = 5) && !digits.any isAsciiLower &&
      ideographRanges.contains code then
    return code
  else none

/-! ### Names of syllables -/

/-- The letters that syllables start with. -/
def leadLetters : List Text :=
  ["G", "GG", "N", "D", "DD", "R", "M", "B", "BB", "S", "SS", "", "J", "JJ", "C", "K", "T", "P",
   "H"].map String.toList

/-- The vowels in the middle of syllables. -/
def vowelLetters : List Text :=
  ["A", "AE", "YA", "YAE", "EO", "E", "YEO", "YE", "O", "WA", "WAE", "OE", "YO", "U", "WEO", "WE",
   "WI", "YU", "EU", "YI", "I"].map String.toList

/-- The letters that syllables end in. -/
def tailLetters : List Text :=
  ["", "G", "GG", "GS", "N", "NJ", "NH", "D", "L", "LG", "LM", "LB", "LS", "LT", "LP", "LH", "M",
   "B", "BS", "S", "SS", "NG", "J", "C", "K", "T", "P", "H"].map String.toList

/-- The place of the longest of some letters that a text starts with, and what follows them. -/
def takeLetters? (letters : List Text) (t : Text) : Option (Nat × Text) :=
  (letters.zipIdx.foldl (fun best (item : Text × Nat) =>
    match best with
    | some (_, length) =>
      if length < item.1.length && item.1.isPrefixOf t then some (item.2, item.1.length) else best
    | none => if item.1.isPrefixOf t then some (item.2, item.1.length) else none) none).map
      fun (place, length) => (place, t.drop length)

/-- The code of the syllable that some letters spell. -/
def syllable? (t : Text) : Option Nat := do
  let (lead, t) ← takeLetters? leadLetters t
  let (vowel, t) ← takeLetters? vowelLetters t
  let (tail, t) ← takeLetters? tailLetters t
  if t.isEmpty then return 0xAC00 + (lead * vowelLetters.length + vowel) * tailLetters.length + tail
  else none

/-! ### All names -/

/-- The character of a name. -/
def named? (name : Text) : Option Char :=
  Char.ofNat <$>
    match behind? "CJK UNIFIED IDEOGRAPH-" name, behind? "HANGUL SYLLABLE " name with
    | some digits, _ => ideograph? digits
    | none, some letters => syllable? letters
    | none, none =>
      let name := name.map capital
      (codedName? name).or ((selector? name).or (codeInTable? name))

end WireTypes.Text
