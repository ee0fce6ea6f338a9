import PageGraft.Console.Picture
import PageGraft.Text.Trim

/-!
# Styles

A style is written in words: attributes such as `bold`, colours, and a link. Two texts for one style
have the same normal text.
-/

namespace PageGraft.Console

open PageGraft.Text

/-- How a text looks. Attributes that are not named are left as they are. -/
structure Style where
  attributes : List (String × Bool) := []
  color : Option String := none
  background : Option String := none
  link : Option String := none
deriving Repr, DecidableEq

/-- Why a text is no style. -/
inductive StyleFault where
  | unknown
  | badNumber
deriving Repr, DecidableEq

/-- The attributes, in the order in which they are written. -/
def attributeNames : List String :=
  ["bold", "dim", "italic", "underline", "blink", "blink2", "reverse", "conceal", "strike",
    "underline2", "frame", "encircle", "overline"]

/-- The attribute that a word stands for. -/
def attributeOf (word : String) : Option String :=
  match word with
  | "b" => some "bold"
  | "d" => some "dim"
  | "i" => some "italic"
  | "u" => some "underline"
  | "r" => some "reverse"
  | "c" => some "conceal"
  | "s" => some "strike"
  | "uu" => some "underline2"
  | "o" => some "overline"
  | word => if attributeNames.contains word then some word else none

/-- The colours that have a name. -/
def colorNames : String :=
  "default
black red green yellow blue magenta cyan white bright_black bright_red bright_green
bright_yellow bright_blue bright_magenta bright_cyan bright_white grey0 gray0 navy_blue
dark_blue blue3 blue1 dark_green deep_sky_blue4 dodger_blue3 dodger_blue2 green4 spring_green4
turquoise4 deep_sky_blue3 dodger_blue1 green3 spring_green3 dark_cyan light_sea_green
deep_sky_blue2 deep_sky_blue1 spring_green2 cyan3 dark_turquoise turquoise2 green1 spring_green1
medium_spring_green cyan2 cyan1 dark_red deep_pink4 purple4 purple3 blue_violet orange4 grey37
gray37 medium_purple4 slate_blue3 royal_blue1 chartreuse4 dark_sea_green4 pale_turquoise4
steel_blue steel_blue3 cornflower_blue chartreuse3 cadet_blue sky_blue3 steel_blue1 pale_green3
sea_green3 aquamarine3 medium_turquoise chartreuse2 sea_green2 sea_green1 aquamarine1
dark_slate_gray2 dark_magenta dark_violet purple light_pink4 plum4 medium_purple3 slate_blue1
yellow4 wheat4 grey53 gray53 light_slate_grey light_slate_gray medium_purple light_slate_blue
dark_olive_green3 dark_sea_green light_sky_blue3 sky_blue2 dark_sea_green3 dark_slate_gray3
sky_blue1 chartreuse1 light_green pale_green1 dark_slate_gray1 red3 medium_violet_red magenta3
dark_orange3 indian_red hot_pink3 medium_orchid3 medium_orchid medium_purple2 dark_goldenrod
light_salmon3 rosy_brown grey63 gray63 medium_purple1 gold3 dark_khaki navajo_white3 grey69
gray69 light_steel_blue3 light_steel_blue yellow3 dark_sea_green2 light_cyan3 light_sky_blue1
green_yellow dark_olive_green2 dark_sea_green1 pale_turquoise1 deep_pink3 magenta2 hot_pink2
orchid medium_orchid1 orange3 light_pink3 pink3 plum3 violet light_goldenrod3 tan misty_rose3
thistle3 plum2 khaki3 light_goldenrod2 light_yellow3 grey84 gray84 light_steel_blue1 yellow2
dark_olive_green1 honeydew2 light_cyan1 red1 deep_pink2 deep_pink1 magenta1 orange_red1
indian_red1 hot_pink dark_orange salmon1 light_coral pale_violet_red1 orchid2 orchid1 orange1
sandy_brown light_salmon1 light_pink1 pink1 plum1 gold1 navajo_white1 misty_rose1 thistle1
yellow1 light_goldenrod1 khaki1 wheat1 cornsilk1 grey100 gray100 grey3 gray3 grey7 gray7 grey11
gray11 grey15 gray15 grey19 gray19 grey23 gray23 grey27 gray27 grey30 gray30 grey35 gray35
grey39 gray39 grey42 gray42 grey46 gray46 grey50 gray50 grey54 gray54 grey58 gray58 grey62
gray62 grey66 gray66 grey70 gray70 grey74 gray74 grey78 gray78 grey82 gray82 grey85 gray85
grey89 gray89 grey93 gray93"

/-- A number of at most 255, written in digits. -/
def isOctet (digits : List Char) : Bool :=
  digits.foldl (fun number digit => number * 10 + (digit.toNat - '0'.toNat)) 0 ≤ 255

/-- What stands between an opening and a closing bracket after a word. -/
def argument? (word : String) (text : List Char) : Option (List Char) :=
  match text.splitAt word.length with
  | (first, '(' :: rest) =>
    if first = word.toList then beforeEnding? [')'] rest else none
  | _ => none

/-- Checks a colour: a name, six digits after a hash, a number, or three numbers. -/
def checkColor (text : List Char) : Except StyleFault Unit :=
  let isHexDigit (digit : Char) : Bool := digit.isDigit || ('a' ≤ digit && digit ≤ 'f')
  let accept (isColor : Bool) : Except StyleFault Unit :=
    if isColor then pure () else throw .unknown
  if (spacedWords colorNames.toList).contains text then pure ()
  else
    match text, argument? "color" text, argument? "rgb" text with
    | '#' :: digits, _, _ => accept (digits.length = 6 && digits.all isHexDigit)
    | _, some digits, _ =>
      accept (1 ≤ digits.length && digits.length ≤ 3 && digits.all Char.isDigit && isOctet digits)
    | _, _, some numbers =>
      let parts := numbers.splitOn ','
      if numbers.isEmpty || !(numbers.all fun digit => digit.isDigit || digit = ',') ||
        parts.length ≠ 3 then throw .unknown
      else if parts.any List.isEmpty then throw .badNumber
      else accept (parts.all isOctet)
    | _, _, _ => throw .unknown

namespace Style

/-- Sets an attribute. -/
def set (style : Style) (name : String) (isOn : Bool) : Style :=
  { style with attributes := (name, isOn) :: style.attributes }

/-- Reads the words of a style. -/
def ofWords (style : Style) : List (List Char) → Except StyleFault Style
  | [] => pure style
  | [word] =>
    let small := lower word
    match attributeOf (String.ofList small) with
    | some name => pure (style.set name true)
    | none =>
      if ["on", "not", "link"].contains (String.ofList small) then throw .unknown
      else do
        checkColor small
        return { style with color := some (String.ofList small) }
  | word :: next :: rest => do
    let small := lower word
    match String.ofList small with
    | "on" =>
      checkColor (lower next)
      let style := { style with background := some (String.ofList (lower next)) }
      style.ofWords rest
    | "not" =>
      match attributeOf (String.ofList next) with
      | some name => (style.set name false).ofWords rest
      | none => throw .unknown
    | "link" =>
      let style := { style with link := some (String.ofList next) }
      style.ofWords rest
    | name =>
      match attributeOf name with
      | some name => (style.set name true).ofWords (next :: rest)
      | none =>
        checkColor small
        let style := { style with color := some name }
        style.ofWords (next :: rest)

/-- The words of a style in their order. -/
def text (style : Style) : String :=
  let attributes := attributeNames.filterMap fun name =>
    (style.attributes.lookup name).map fun isOn => if isOn then name else "not " ++ name
  let background := style.background.toList.flatMap fun color => ["on", color]
  let link := style.link.toList.flatMap fun target => ["link", target]
  let all := attributes ++ style.color.toList ++ background ++ link
  if all.isEmpty then "none" else " ".intercalate all

/-- The normal text of a style. What is no style is only trimmed and written in small letters. -/
def normalize (style : List Char) : Except StyleFault String :=
  if trim style = "none".toList then pure "none"
  else
    match ({} : Style).ofWords (spacedWords style) with
    | .ok read => pure read.text
    | .error .unknown => pure (String.ofList (lower (trim style)))
    | .error .badNumber => throw .badNumber

end Style

end PageGraft.Console
