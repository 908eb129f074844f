import WireTypes.Display.EmojiNames
import WireTypes.Text.Case

/-! Emoji codes: a name between two colons stands for an emoji. -/

namespace WireTypes

open Text

namespace Display

/-- The endings of a code that ask for the look of text or of an emoji, and the signs for it. -/
def emojiVariants : List (Text × Char) := [("-text".toList, '\ufe0e'), ("-emoji".toList, '\ufe0f')]

/-- The emoji of the text between two colons. -/
def emojiOfCode? (code : Text) : Option Text :=
  match emojiVariants.find? fun (ending, _) => ending.isSuffixOf code with
  | some (ending, sign) =>
    (emojiOf? (lower (code.take (code.length - ending.length)))).map (· ++ [sign])
  | none => emojiOf? (lower code)

/-- The text with its emoji codes replaced. A code that names no emoji stays, and its last colon
opens no other one. The fuel bounds the number of codes. -/
def replaceEmoji : Nat → Text → Text
  | 0, t => t
  | _ + 1, [] => []
  | fuel + 1, c :: rest =>
    if c = ':' then
      let code := rest.takeWhile fun d => d != ':' && !isBlank d
      match rest.drop code.length with
      | ':' :: behind =>
        (emojiOfCode? code).getD (':' :: code ++ [':']) ++ replaceEmoji fuel behind
      | _ => c :: replaceEmoji fuel rest
    else c :: replaceEmoji fuel rest

/-- The text with its emoji codes replaced. -/
def withEmoji (t : Text) : Text := replaceEmoji (t.length + 1) t

end Display

end WireTypes
