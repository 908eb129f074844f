import WireTypes.Table
import WireTypes.Text.Blank
import WireTypes.Text.Case
import WireTypes.Text.Digit

/-! Styles of a message, as a tag spells them, and the one spelling that all spellings of a style
have in common. -/

namespace WireTypes

open Text

namespace Display

/-! ### Colours -/

/-- Lines of the names of colours. -/
def colourLines : List String := [
  "black red green yellow blue magenta cyan white bright_black bright_red bright_green",
  "bright_yellow bright_blue bright_magenta bright_cyan bright_white grey0 gray0 navy_blue",
  "dark_blue blue3 blue1 dark_green deep_sky_blue4 dodger_blue3 dodger_blue2 green4",
  "spring_green4 turquoise4 deep_sky_blue3 dodger_blue1 green3 spring_green3 dark_cyan",
  "light_sea_green deep_sky_blue2 deep_sky_blue1 spring_green2 cyan3 dark_turquoise",
  "turquoise2 green1 spring_green1 medium_spring_green cyan2 cyan1 dark_red deep_pink4",
  "purple4 purple3 blue_violet orange4 grey37 gray37 medium_purple4 slate_blue3 royal_blue1",
  "chartreuse4 dark_sea_green4 pale_turquoise4 steel_blue steel_blue3 cornflower_blue",
  "chartreuse3 cadet_blue sky_blue3 steel_blue1 pale_green3 sea_green3 aquamarine3",
  "medium_turquoise chartreuse2 sea_green2 sea_green1 aquamarine1 dark_slate_gray2",
  "dark_magenta dark_violet purple light_pink4 plum4 medium_purple3 slate_blue1 yellow4",
  "wheat4 grey53 gray53 light_slate_grey light_slate_gray medium_purple light_slate_blue",
  "dark_olive_green3 dark_sea_green light_sky_blue3 sky_blue2 dark_sea_green3",
  "dark_slate_gray3 sky_blue1 chartreuse1 light_green pale_green1 dark_slate_gray1 red3",
  "medium_violet_red magenta3 dark_orange3 indian_red hot_pink3 medium_orchid3 medium_orchid",
  "medium_purple2 dark_goldenrod light_salmon3 rosy_brown grey63 gray63 medium_purple1 gold3",
  "dark_khaki navajo_white3 grey69 gray69 light_steel_blue3 light_steel_blue yellow3",
  "dark_sea_green2 light_cyan3 light_sky_blue1 green_yellow dark_olive_green2 dark_sea_green1",
  "pale_turquoise1 deep_pink3 magenta2 hot_pink2 orchid medium_orchid1 orange3 light_pink3",
  "pink3 plum3 violet light_goldenrod3 tan misty_rose3 thistle3 plum2 khaki3 light_goldenrod2",
  "light_yellow3 grey84 gray84 light_steel_blue1 yellow2 dark_olive_green1 honeydew2",
  "light_cyan1 red1 deep_pink2 deep_pink1 magenta1 orange_red1 indian_red1 hot_pink",
  "dark_orange salmon1 light_coral pale_violet_red1 orchid2 orchid1 orange1 sandy_brown",
  "light_salmon1 light_pink1 pink1 plum1 gold1 navajo_white1 misty_rose1 thistle1 yellow1",
  "light_goldenrod1 khaki1 wheat1 cornsilk1 grey100 gray100 grey3 gray3 grey7 gray7 grey11",
  "gray11 grey15 gray15 grey19 gray19 grey23 gray23 grey27 gray27 grey30 gray30 grey35 gray35",
  "grey39 gray39 grey42 gray42 grey46 gray46 grey50 gray50 grey54 gray54 grey58 gray58 grey62",
  "gray62 grey66 gray66 grey70 gray70 grey74 gray74 grey78 gray78 grey82 gray82 grey85 gray85",
  "grey89 gray89 grey93 gray93"]

/-- The names of colours. -/
def colourNames : List Text := colourLines.flatMap fun line => words line.toList

/-- Why a text spells no style. -/
inductive StyleFault where
  /-- It has a word that means nothing. -/
  | malformed
  /-- A part of a colour is no number. -/
  | badNumber
deriving DecidableEq, Repr

/-- The text between an opening and a round bracket at the end. -/
def between? (opening : String) (t : Text) : Option Text := do
  let inside ← opening.toList.isPrefixOf? t
  match inside.reverse with
  | ')' :: rest => some rest.reverse
  | _ => none

/-- Whether a text is six hexadecimal digits in small letters. -/
def isHexTriple (t : Text) : Bool :=
  t.length = 6 && t.all fun c => isAsciiDigit c || ('a' ≤ c && c ≤ 'f')

/-- Whether a text is a number of at most three digits that is no greater than 255. -/
def isPaletteNumber (t : Text) : Bool :=
  1 ≤ t.length && t.length ≤ 3 && t.all isAsciiDigit && (decimal? t).any (· ≤ 255)

/-- Checks the parts of a colour between commas. -/
def checkComponents (t : Text) : Except StyleFault Unit := do
  let parts := splitOn ',' t
  if t.isEmpty || !(t.all fun c => c = ',' || isDigit c) || parts.length ≠ 3 then throw .malformed
  let numbers ← parts.mapM fun part =>
    match decimal? part with
    | some n => .ok n
    | none => .error .badNumber
  if numbers.all (· ≤ 255) then return () else throw .malformed

/-- The spelling of a colour. -/
def colour (word : Text) : Except StyleFault Text := do
  let name := lower word
  if name = "default".toList ∨ colourNames.contains name then return name
  match name with
  | '#' :: digits => if isHexTriple digits then return name else throw .malformed
  | _ =>
    match between? "color(" name, between? "rgb(" name with
    | some inside, _ => if isPaletteNumber inside then return name else throw .malformed
    | none, some inside => do
      checkComponents inside
      return name
    | none, none => throw .malformed

/-! ### Styles -/

/-- The attributes of a style, in the order in which they are spelled. -/
def attributeNames : List Text :=
  ["bold", "dim", "italic", "underline", "blink", "blink2", "reverse", "conceal", "strike",
   "underline2", "frame", "encircle", "overline"].map String.toList

/-- The short names of attributes. -/
def attributeShorts : Table Text :=
  [("d", "dim"), ("b", "bold"), ("i", "italic"), ("u", "underline"), ("r", "reverse"),
   ("c", "conceal"), ("s", "strike"), ("uu", "underline2"), ("o", "overline")].map
    fun (short, name) => (short.toList, name.toList)

/-- The attribute that a word names. -/
def attribute? (word : Text) : Option Text :=
  if attributeNames.contains word then some word else attributeShorts.get? word

/-- A style: which attributes are on or off, the colours, and where the text leads. -/
structure Style where
  attributes : Table Bool := []
  colour : Option Text := none
  background : Option Text := none
  link : Option Text := none
deriving DecidableEq, Repr

namespace Style

/-- The style of some words, added to a style. -/
def ofWords (s : Style) : List Text → Except StyleFault Style
  | [] => .ok s
  | word :: rest =>
    if lower word = "on".toList then
      match rest with
      | [] => .error .malformed
      | ground :: rest => do ofWords { s with background := some (← Display.colour ground) } rest
    else if lower word = "not".toList then
      match rest with
      | [] => .error .malformed
      | off :: rest =>
        match attribute? off with
        | none => .error .malformed
        | some name => ofWords { s with attributes := s.attributes.insert name false } rest
    else if lower word = "link".toList then
      match rest with
      | [] => .error .malformed
      | target :: rest => ofWords { s with link := some target } rest
    else
      match attribute? (lower word) with
      | some name => ofWords { s with attributes := s.attributes.insert name true } rest
      | none => do ofWords { s with colour := some (← Display.colour (lower word)) } rest

/-- The style that a text spells. -/
def ofText (t : Text) : Except StyleFault Style :=
  if trim t = "none".toList then .ok {} else ofWords {} (words t)

/-- The words that spell a style. -/
def toWords (s : Style) : List Text :=
  (attributeNames.flatMap fun name =>
    match s.attributes.get? name with
    | none => []
    | some true => [name]
    | some false => ["not".toList, name]) ++
  s.colour.toList ++
  (match s.background with
    | some ground => ["on".toList, ground]
    | none => []) ++
  match s.link with
  | some target => ["link".toList, target]
  | none => []

/-- The spelling of a style. -/
def toText (s : Style) : Text :=
  if s.toWords.isEmpty then "none".toList else List.intercalate [' '] s.toWords

/-- The common spelling of the style that a text spells; small letters for a text
that spells none. -/
def normalise (t : Text) : Except StyleFault Text :=
  match ofText t with
  | .ok s => .ok s.toText
  | .error .malformed => .ok (lower (trim t))
  | .error .badNumber => .error .badNumber

end Style

end Display

end WireTypes
