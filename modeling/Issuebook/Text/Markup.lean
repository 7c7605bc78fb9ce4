import Issuebook.Entries
import Issuebook.Text.Basic
import Issuebook.Text.Case
import Issuebook.Text.Table
import Issuebook.Text.Word

/-!
# Marked-up text

Text with tags in square brackets that open a style, and tags with a slash that close the one
they name or, without a name, the last one. Styles may stay open, but what is closed has to be
open: otherwise the text cannot be shown. Backslashes in pairs before a tag stand for half as
many; one more takes away its meaning.
-/

/-!
## Styles

How a style of text is written: words for effects, for what is not wanted, for a colour, for a
colour behind the text and for the target of a link. Every style has one usual form, so that
two ways to write it can be told to be the same.
-/

namespace Issuebook

/-- A style of text. -/
structure Style where
  /-- The effects that are wanted or not wanted. -/
  effects : Entries Bool := []
  /-- The colour of the text. -/
  colour : Option Text := none
  /-- The colour behind the text. -/
  ground : Option Text := none
  /-- The target of a link. -/
  link : Option Text := none
  deriving Repr, DecidableEq, Inhabited

namespace Style

/-- The effects that a style can have or not have in their usual order, with their short
names. -/
def effectNames : Entries Text :=
  [("bold", "b"), ("dim", "d"), ("italic", "i"), ("underline", "u"), ("blink", []),
   ("blink2", []), ("reverse", "r"), ("conceal", "c"), ("strike", "s"), ("underline2", "uu"),
   ("frame", []), ("encircle", []), ("overline", "o")]

/-- The effect of a long or short name. -/
def effect? (word : Text) : Option Text :=
  if word.isEmpty then none
  else (effectNames.find? fun (long, short) => long = word || short = word).map Prod.fst

/-- The names of colours. -/
def colourRows : List String :=
  ["aquamarine1 aquamarine3 black blue blue1 blue3 blue_violet bright_black bright_blue",
   "bright_cyan bright_green bright_magenta bright_red bright_white bright_yellow cadet_blue",
   "chartreuse1 chartreuse2 chartreuse3 chartreuse4 cornflower_blue cornsilk1 cyan cyan1",
   "cyan2 cyan3 dark_blue dark_cyan dark_goldenrod dark_green dark_khaki dark_magenta",
   "dark_olive_green1 dark_olive_green2 dark_olive_green3 dark_orange dark_orange3 dark_red",
   "dark_sea_green dark_sea_green1 dark_sea_green2 dark_sea_green3 dark_sea_green4",
   "dark_slate_gray1 dark_slate_gray2 dark_slate_gray3 dark_turquoise dark_violet deep_pink1",
   "deep_pink2 deep_pink3 deep_pink4 deep_sky_blue1 deep_sky_blue2 deep_sky_blue3",
   "deep_sky_blue4 dodger_blue1 dodger_blue2 dodger_blue3 gold1 gold3 gray0 gray100 gray11",
   "gray15 gray19 gray23 gray27 gray3 gray30 gray35 gray37 gray39 gray42 gray46 gray50",
   "gray53 gray54 gray58 gray62 gray63 gray66 gray69 gray7 gray70 gray74 gray78 gray82",
   "gray84 gray85 gray89 gray93 green green1 green3 green4 green_yellow grey0 grey100 grey11",
   "grey15 grey19 grey23 grey27 grey3 grey30 grey35 grey37 grey39 grey42 grey46 grey50",
   "grey53 grey54 grey58 grey62 grey63 grey66 grey69 grey7 grey70 grey74 grey78 grey82",
   "grey84 grey85 grey89 grey93 honeydew2 hot_pink hot_pink2 hot_pink3 indian_red",
   "indian_red1 khaki1 khaki3 light_coral light_cyan1 light_cyan3 light_goldenrod1",
   "light_goldenrod2 light_goldenrod3 light_green light_pink1 light_pink3 light_pink4",
   "light_salmon1 light_salmon3 light_sea_green light_sky_blue1 light_sky_blue3",
   "light_slate_blue light_slate_gray light_slate_grey light_steel_blue light_steel_blue1",
   "light_steel_blue3 light_yellow3 magenta magenta1 magenta2 magenta3 medium_orchid",
   "medium_orchid1 medium_orchid3 medium_purple medium_purple1 medium_purple2 medium_purple3",
   "medium_purple4 medium_spring_green medium_turquoise medium_violet_red misty_rose1",
   "misty_rose3 navajo_white1 navajo_white3 navy_blue orange1 orange3 orange4 orange_red1",
   "orchid orchid1 orchid2 pale_green1 pale_green3 pale_turquoise1 pale_turquoise4",
   "pale_violet_red1 pink1 pink3 plum1 plum2 plum3 plum4 purple purple3 purple4 red red1",
   "red3 rosy_brown royal_blue1 salmon1 sandy_brown sea_green1 sea_green2 sea_green3",
   "sky_blue1 sky_blue2 sky_blue3 slate_blue1 slate_blue3 spring_green1 spring_green2",
   "spring_green3 spring_green4 steel_blue steel_blue1 steel_blue3 tan thistle1 thistle3",
   "turquoise2 turquoise4 violet wheat1 wheat4 white yellow yellow1 yellow2 yellow3 yellow4"]

/-- The names of colours, one by one. -/
def colourNames : List Text :=
  "default".toList :: colourRows.flatMap fun row => Text.words row.toList

/-- Whether a text in small letters writes a colour by its six hexadecimal digits. -/
def isHexColour (word : Text) : Bool :=
  match word with
  | '#' :: digits =>
    digits.length = 6 && digits.all fun digit => digit.isDigit || ('a' ≤ digit && digit ≤ 'f')
  | _ => false

/-- What stands between brackets behind the name of a function. -/
def argument? (name word : Text) : Option Text :=
  (Text.dropHead? (name ++ ['(']) word).bind fun rest =>
    if rest.getLast? = some ')' then some rest.dropLast else none

/-- The largest share of red, green or blue, and the largest number of a colour. -/
def greatestShare : Nat := 255

/-- Whether a text writes a number that is not too large. -/
def isShare (digits : Text) : Bool :=
  !digits.isEmpty && (Text.decimalNumber? digits).any fun number => number ≤ greatestShare

/-- Whether a text in small letters writes a colour by its number. -/
def isNumberedColour (word : Text) : Bool :=
  (argument? "color" word).any fun digits =>
    digits.length ≤ 3 && digits.all Char.isDigit && isShare digits

/-- Whether a text in small letters writes a colour by its shares of red, green and blue. -/
def isMixedColour (word : Text) : Bool :=
  (argument? "rgb" word).any fun shares =>
    let parts := Text.splitOn ',' shares
    parts.length = 3 && parts.all isShare

/-- The usual form of a colour. -/
def colour? (word : Text) : Option Text :=
  let small := Text.lower word
  if colourNames.contains small || isHexColour small || isNumberedColour small ||
    isMixedColour small then some small else none

/-- The style of words added to a style; the last word of a kind counts. -/
def readFrom (style : Style) : List Text → Option Style
  | [] => some style
  | word :: rest =>
    let key := Text.lower word
    if key = ("on" : Text) then
      match rest with
      | [] => none
      | ground :: rest =>
        (colour? ground).bind fun found => readFrom { style with ground := some found } rest
    else if key = ("not" : Text) then
      match rest with
      | [] => none
      | unwanted :: rest =>
        (effect? unwanted).bind fun effect =>
          readFrom { style with effects := style.effects.put effect false } rest
    else if key = ("link" : Text) then
      match rest with
      | [] => none
      | target :: rest => readFrom { style with link := some target } rest
    else
      match effect? key with
      | some effect => readFrom { style with effects := style.effects.put effect true } rest
      | none =>
        (colour? key).bind fun found => readFrom { style with colour := some found } rest

/-- The style that a text writes. -/
def read? (written : Text) : Option Style :=
  readFrom {} (Text.words written)

/-- The words of a style in their usual order. -/
def usualWords (style : Style) : List Text :=
  (effectNames.keys.filterMap fun effect =>
    (style.effects.get? effect).map fun isWanted =>
      if isWanted then effect else ("not " : Text) ++ effect) ++
  style.colour.toList ++
  (style.ground.map fun ground => ("on " : Text) ++ ground).toList ++
  (style.link.map fun target => ("link " : Text) ++ target).toList

/-- The usual form of a style; what is no style is only brought to small letters. -/
def usual (written : Text) : Text :=
  match read? written with
  | none => Text.lower (Text.trim written)
  | some style =>
    if style.usualWords.isEmpty then "none" else Text.join [' '] style.usualWords

end Style

end Issuebook

/-! ## Tags -/

namespace Issuebook.Markup

/-- A style that is open. -/
structure Tag where
  /-- The name of the style. -/
  name : Text
  /-- What stands behind the equals sign, if there is one. -/
  argument : Option Text
  deriving Repr, DecidableEq, Inhabited

/-- Whether a character can begin a tag. -/
def opensTag (char : Char) : Bool :=
  char.isLower || char == '#' || char == '/' || char == '@'

/-- What is inside the tag at the front of a text, whose bracket is already read. -/
def inside? (text : Text) : Option Text :=
  let inside := text.takeWhile fun char => char != '[' && char != ']'
  if inside.head?.any opensTag && (text.drop inside.length).head? = some ']' then some inside
  else none

/-- What is inside the tags of a text behind `skip` characters that are already read;
`isEscaped` tells whether an odd number of backslashes comes before it. -/
def tagsFrom (isEscaped : Bool) : (skip : Nat) → Text → List Text
  | _, [] => []
  | skip + 1, _ :: rest => tagsFrom false skip rest
  | 0, '\\' :: rest => tagsFrom (!isEscaped) 0 rest
  | 0, '[' :: rest =>
    match inside? rest with
    | none => tagsFrom false 0 rest
    | some inside =>
      let behind := tagsFrom false (inside.length + 1) rest
      if isEscaped then behind else inside :: behind
  | 0, _ :: rest => tagsFrom false 0 rest

/-- What is inside the tags of a text. -/
def tags (text : Text) : List Text :=
  tagsFrom false 0 text

/-- The tag that a text inside brackets writes. -/
def Tag.ofText (inside : Text) : Tag :=
  match Text.cutAtChar? '=' inside with
  | some (name, argument) => ⟨name, some argument⟩
  | none => ⟨inside, none⟩

/-- Whether a text is the name of an action, with or without arguments in round brackets. -/
def isAction (written : Text) : Bool :=
  let name := written.takeWhile fun char => char == '.' || Text.isWordChar char
  let arguments := written.drop name.length
  arguments.isEmpty ||
    arguments.head? = some '(' && arguments.getLast? = some ')' && !arguments.contains '\n'

/-- Whether an open style can be closed: an at sign has to name an action. -/
def Tag.isClosable (tag : Tag) : Bool :=
  tag.name.head? != some '@' || isAction (Text.trim (tag.argument.getD []))

/-- The last opened style of a name, and the others. -/
def takeNamed? (name : Text) : List Tag → Option (Tag × List Tag)
  | [] => none
  | tag :: rest =>
    if tag.name = name then some (tag, rest)
    else (takeNamed? name rest).map fun (found, others) => (found, tag :: others)

/-- The open styles after one is closed: the one of a name, or without a name the last. -/
def close? (name : Text) (opened : List Tag) : Option (List Tag) :=
  let found := if name.isEmpty then opened.head?.map fun tag => (tag, opened.tail)
    else takeNamed? (Style.usual name) opened
  found.bind fun (tag, rest) => if tag.isClosable then some rest else none

/-- The open styles after a tag; the last opened one comes first. -/
def after? (opened : List Tag) (inside : Text) : Option (List Tag) :=
  let tag := Tag.ofText inside
  match tag.name with
  | '/' :: name => close? (Text.trim name) opened
  | name => some (⟨Style.usual name, tag.argument⟩ :: opened)

/-- Whether every tag that closes a style finds an open one. -/
def isSound (text : Text) : Bool :=
  ((tags text).foldlM after? []).isSome

end Issuebook.Markup
