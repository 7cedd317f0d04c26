import LiveLint.Text.Basic
import LiveLint.Text.Lower

/-!
# Colors and styles

A color is known by its name, by its number among the colors of a terminal, or by the amounts of
red, green and blue.
-/

namespace LiveLint.Terminal.Color

def names : List String :=
  [
    "default black red green yellow blue magenta cyan white bright_black bright_red bright_green",
    "bright_yellow bright_blue bright_magenta bright_cyan bright_white grey0 gray0 navy_blue",
    "dark_blue blue3 blue1 dark_green deep_sky_blue4 dodger_blue3 dodger_blue2 green4",
    "spring_green4 turquoise4 deep_sky_blue3 dodger_blue1 green3 spring_green3 dark_cyan",
    "light_sea_green deep_sky_blue2 deep_sky_blue1 spring_green2 cyan3 dark_turquoise",
    "turquoise2 green1 spring_green1 medium_spring_green cyan2 cyan1 dark_red deep_pink4",
    "purple4 purple3 blue_violet orange4 grey37 gray37 medium_purple4 slate_blue3 royal_blue1",
    "chartreuse4 dark_sea_green4 pale_turquoise4 steel_blue steel_blue3 cornflower_blue",
    "chartreuse3 cadet_blue sky_blue3 steel_blue1 pale_green3 sea_green3 aquamarine3",
    "medium_turquoise chartreuse2 sea_green2 sea_green1 aquamarine1 dark_slate_gray2",
    "dark_magenta dark_violet purple light_pink4 plum4 medium_purple3 slate_blue1 yellow4",
    "wheat4 grey53 gray53 light_slate_grey light_slate_gray medium_purple light_slate_blue",
    "dark_olive_green3 dark_sea_green light_sky_blue3 sky_blue2 dark_sea_green3",
    "dark_slate_gray3 sky_blue1 chartreuse1 light_green pale_green1 dark_slate_gray1 red3",
    "medium_violet_red magenta3 dark_orange3 indian_red hot_pink3 medium_orchid3 medium_orchid",
    "medium_purple2 dark_goldenrod light_salmon3 rosy_brown grey63 gray63 medium_purple1 gold3",
    "dark_khaki navajo_white3 grey69 gray69 light_steel_blue3 light_steel_blue yellow3",
    "dark_sea_green2 light_cyan3 light_sky_blue1 green_yellow dark_olive_green2",
    "dark_sea_green1 pale_turquoise1 deep_pink3 magenta2 hot_pink2 orchid medium_orchid1",
    "orange3 light_pink3 pink3 plum3 violet light_goldenrod3 tan misty_rose3 thistle3 plum2",
    "khaki3 light_goldenrod2 light_yellow3 grey84 gray84 light_steel_blue1 yellow2",
    "dark_olive_green1 honeydew2 light_cyan1 red1 deep_pink2 deep_pink1 magenta1 orange_red1",
    "indian_red1 hot_pink dark_orange salmon1 light_coral pale_violet_red1 orchid2 orchid1",
    "orange1 sandy_brown light_salmon1 light_pink1 pink1 plum1 gold1 navajo_white1 misty_rose1",
    "thistle1 yellow1 light_goldenrod1 khaki1 wheat1 cornsilk1 grey100 gray100 grey3 gray3",
    "grey7 gray7 grey11 gray11 grey15 gray15 grey19 gray19 grey23 gray23 grey27 gray27 grey30",
    "gray30 grey35 gray35 grey39 gray39 grey42 gray42 grey46 gray46 grey50 gray50 grey54",
    "gray54 grey58 gray58 grey62 gray62 grey66 gray66 grey70 gray70 grey74 gray74 grey78",
    "gray78 grey82 gray82 grey85 gray85 grey89 gray89 grey93 gray93"].flatMap (·.splitOn " ")

/-- What stands in the brackets behind a word. -/
def bracketed? (word text : String) : Option String :=
  if text.startsWith (word ++ "(") && text.endsWith ")" then
    some (String.ofList ((text.toList.drop (word.length + 1)).dropLast))
  else none

def isByte (text : String) : Bool :=
  !text.isEmpty && text.toList.all Char.isDigit && Text.Hex.ofDigits 10 text.toList ≤ 255

/-- Whether a text is a color by its amounts in hexadecimal. -/
def isMixed (text : String) : Bool :=
  match text.toList with
  | '#' :: digits => digits.length == 6 && digits.all Text.Hex.isDigit
  | _ => false

def isColor (word : String) : Bool :=
  names.contains word || isMixed word ||
    (bracketed? "color" word).any (fun n => n.length ≤ 3 && isByte n) ||
    (bracketed? "rgb" word).any fun amounts =>
      (amounts.splitOn ",").length == 3 && (amounts.splitOn ",").all isByte

end LiveLint.Terminal.Color

/-!
## Styles

A style says how text looks: which attributes it has or lacks, its color, the color behind it, and
where it links to. Two texts name the same style if their plain forms are equal.
-/

namespace LiveLint.Terminal

/-- How text may look, apart from its colors. -/
inductive Attribute where
  | bold | dim | italic | underline | blink | blink2 | reverse | conceal | strike | underline2
  | frame | encircle | overline
  deriving DecidableEq, Repr

namespace Attribute

def all : List Attribute :=
  [bold, dim, italic, underline, blink, blink2, reverse, conceal, strike, underline2, frame,
    encircle, overline]

def label : Attribute → String
  | bold => "bold"
  | dim => "dim"
  | italic => "italic"
  | underline => "underline"
  | blink => "blink"
  | blink2 => "blink2"
  | reverse => "reverse"
  | conceal => "conceal"
  | strike => "strike"
  | underline2 => "underline2"
  | frame => "frame"
  | encircle => "encircle"
  | overline => "overline"

/-- The short name of an attribute, if it has one. -/
def short? : Attribute → Option String
  | bold => some "b"
  | dim => some "d"
  | italic => some "i"
  | underline => some "u"
  | reverse => some "r"
  | conceal => some "c"
  | strike => some "s"
  | underline2 => some "uu"
  | overline => some "o"
  | _ => none

/-- An attribute by one of its names. -/
def ofName? (name : String) : Option Attribute :=
  all.find? fun a => a.label == name || a.short? == some name

theorem ofName?_label (a : Attribute) : ofName? a.label = some a := by cases a <;> decide

end Attribute

structure Style where
  attributes : List (Attribute × Bool) := []
  color : Option String := none
  background : Option String := none
  link : Option String := none
  deriving Repr

namespace Style

def set (s : Style) (a : Attribute) (value : Bool) : Style :=
  { s with attributes := (a, value) :: s.attributes }

def ofWords (s : Style) : List String → Option Style
  | [] => some s
  | [word] =>
    let name := Text.lower word
    match Attribute.ofName? name with
    | some a => some (s.set a true)
    | none => if Color.isColor name then some { s with color := some name } else none
  | word :: next :: rest =>
    match Text.lower word with
    | "on" =>
      let name := Text.lower next
      if Color.isColor name then ofWords { s with background := some name } rest else none
    | "not" => (Attribute.ofName? next).bind fun a => ofWords (s.set a false) rest
    | "link" => ofWords { s with link := some next } rest
    | name =>
      match Attribute.ofName? name with
      | some a => ofWords (s.set a true) (next :: rest)
      | none =>
        if Color.isColor name then ofWords { s with color := some name } (next :: rest) else none

/-- The words of a style in a fixed order. -/
def words (s : Style) : List String :=
  (Attribute.all.filterMap fun a =>
      (s.attributes.lookup a).map fun value => if value then a.label else "not " ++ a.label) ++
    s.color.toList ++ (s.background.map ("on " ++ ·)).toList ++ (s.link.map ("link " ++ ·)).toList

/-- The plain form of what a text names. What is no style is only trimmed and in lower case. -/
def plain (text : String) : String :=
  let trimmed := Text.trim text.toList
  if trimmed == "none".toList then "none"
  else
    match ofWords {} ((Text.words trimmed).map String.ofList) with
    | some s => if s.words.isEmpty then "none" else " ".intercalate s.words
    | none => Text.lower (String.ofList trimmed)

end Style

end LiveLint.Terminal
