import AttrBinder.Text.Blank
import AttrBinder.Text.Decimal
import AttrBinder.Text.LetterCase

/-!
Styles as tags write them: attributes, a colour, a background and a link, in any order. A style has
one normal form, by which a closing tag finds the tag that it closes; what is no style is compared
by its letters.
-/

namespace AttrBinder.Console

inductive StyleAttribute where
  | bold
  | dim
  | italic
  | underline
  | blink
  | blink2
  | reverse
  | conceal
  | strike
  | underline2
  | frame
  | encircle
  | overline
deriving DecidableEq, Repr, Inhabited

namespace StyleAttribute

def all : List StyleAttribute :=
  [bold, dim, italic, underline, blink, blink2, reverse, conceal, strike, underline2, frame,
   encircle, overline]

def name : StyleAttribute → String
  | bold => "bold"
  | dim => "dim"
  | italic => "italic"
  | underline => "underline"
  | blink => "blink"
  | blink2 => "blink2"
  | reverse => "reverse"
  | conceal => "conceal"
  | strike => "strike"
  | underline2 => "underline2"
  | frame => "frame"
  | encircle => "encircle"
  | overline => "overline"

def short? : StyleAttribute → Option String
  | bold => some "b"
  | dim => some "d"
  | italic => some "i"
  | underline => some "u"
  | underline2 => some "uu"
  | reverse => some "r"
  | strike => some "s"
  | conceal => some "c"
  | overline => some "o"
  | _ => none

def ofName? (word : String) : Option StyleAttribute :=
  all.find? fun a => a.name == word || a.short? == some word

end StyleAttribute

def colourNames : List String :=
  ["aquamarine1", "aquamarine3", "black", "blue", "blue1", "blue3", "blue_violet", "bright_black",
   "bright_blue", "bright_cyan", "bright_green", "bright_magenta", "bright_red", "bright_white",
   "bright_yellow", "cadet_blue", "chartreuse1", "chartreuse2", "chartreuse3", "chartreuse4",
   "cornflower_blue", "cornsilk1", "cyan", "cyan1", "cyan2", "cyan3", "dark_blue", "dark_cyan",
   "dark_goldenrod", "dark_green", "dark_khaki", "dark_magenta", "dark_olive_green1",
   "dark_olive_green2", "dark_olive_green3", "dark_orange", "dark_orange3", "dark_red",
   "dark_sea_green", "dark_sea_green1", "dark_sea_green2", "dark_sea_green3", "dark_sea_green4",
   "dark_slate_gray1", "dark_slate_gray2", "dark_slate_gray3", "dark_turquoise", "dark_violet",
   "deep_pink1", "deep_pink2", "deep_pink3", "deep_pink4", "deep_sky_blue1", "deep_sky_blue2",
   "deep_sky_blue3", "deep_sky_blue4", "dodger_blue1", "dodger_blue2", "dodger_blue3", "gold1",
   "gold3", "gray0", "gray100", "gray11", "gray15", "gray19", "gray23", "gray27", "gray3",
   "gray30", "gray35", "gray37", "gray39", "gray42", "gray46", "gray50", "gray53", "gray54",
   "gray58", "gray62", "gray63", "gray66", "gray69", "gray7", "gray70", "gray74", "gray78",
   "gray82", "gray84", "gray85", "gray89", "gray93", "green", "green1", "green3", "green4",
   "green_yellow", "grey0", "grey100", "grey11", "grey15", "grey19", "grey23", "grey27", "grey3",
   "grey30", "grey35", "grey37", "grey39", "grey42", "grey46", "grey50", "grey53", "grey54",
   "grey58", "grey62", "grey63", "grey66", "grey69", "grey7", "grey70", "grey74", "grey78",
   "grey82", "grey84", "grey85", "grey89", "grey93", "honeydew2", "hot_pink", "hot_pink2",
   "hot_pink3", "indian_red", "indian_red1", "khaki1", "khaki3", "light_coral", "light_cyan1",
   "light_cyan3", "light_goldenrod1", "light_goldenrod2", "light_goldenrod3", "light_green",
   "light_pink1", "light_pink3", "light_pink4", "light_salmon1", "light_salmon3",
   "light_sea_green", "light_sky_blue1", "light_sky_blue3", "light_slate_blue",
   "light_slate_gray", "light_slate_grey", "light_steel_blue", "light_steel_blue1",
   "light_steel_blue3", "light_yellow3", "magenta", "magenta1", "magenta2", "magenta3",
   "medium_orchid", "medium_orchid1", "medium_orchid3", "medium_purple", "medium_purple1",
   "medium_purple2", "medium_purple3", "medium_purple4", "medium_spring_green",
   "medium_turquoise", "medium_violet_red", "misty_rose1", "misty_rose3", "navajo_white1",
   "navajo_white3", "navy_blue", "orange1", "orange3", "orange4", "orange_red1", "orchid",
   "orchid1", "orchid2", "pale_green1", "pale_green3", "pale_turquoise1", "pale_turquoise4",
   "pale_violet_red1", "pink1", "pink3", "plum1", "plum2", "plum3", "plum4", "purple", "purple3",
   "purple4", "red", "red1", "red3", "rosy_brown", "royal_blue1", "salmon1", "sandy_brown",
   "sea_green1", "sea_green2", "sea_green3", "sky_blue1", "sky_blue2", "sky_blue3",
   "slate_blue1", "slate_blue3", "spring_green1", "spring_green2", "spring_green3",
   "spring_green4", "steel_blue", "steel_blue1", "steel_blue3", "tan", "thistle1", "thistle3",
   "turquoise2", "turquoise4", "violet", "wheat1", "wheat4", "white", "yellow", "yellow1",
   "yellow2", "yellow3", "yellow4"]

inductive ColourWord where
  | colour
  | other
  | malformed
deriving DecidableEq, Repr, Inhabited

namespace ColourWord

def argument? (word : String) (cs : List Char) : Option (List Char) :=
  let inner := cs.drop word.length
  if word.toList.isPrefixOf cs && inner.getLast? == some ')' then some inner.dropLast else none

def number (ds : List Char) : Nat :=
  ds.foldl (fun n d => 10 * n + (Text.digitValue? d).getD 0) 0

def ofParts (cs : List Char) : ColourWord :=
  let parts := (String.ofList cs).splitOn ","
  if cs.isEmpty || !cs.all (fun c => c == ',' || (Text.digitValue? c).isSome) then other
  else if parts.length != 3 then other
  else if parts.any String.isEmpty then malformed
  else if parts.all fun p => number p.toList ≤ 255 then colour
  else other

def isHexColour (cs : List Char) : Bool :=
  match cs with
  | '#' :: ds => ds.length == 6 && ds.all fun c => c.isDigit || ('a' ≤ c && c ≤ 'f')
  | _ => false

def ofWord (word : String) : ColourWord :=
  let cs := word.toList
  if word == "default" || colourNames.contains word || isHexColour cs then colour
  else
    match argument? "color(" cs, argument? "rgb(" cs with
    | some ds, _ =>
      if 0 < ds.length && ds.length ≤ 3 && ds.all Char.isDigit && number ds ≤ 255 then colour
      else other
    | none, some ps => ofParts ps
    | none, none => other

end ColourWord

/-- A style, with the attributes that it sets on or off. -/
structure Style where
  attributes : List (StyleAttribute × Bool) := []
  colour : Option String := none
  background : Option String := none
  link : Option String := none
deriving DecidableEq, Repr, Inhabited

inductive StyleFault where
  | notStyle
  | malformed
deriving DecidableEq, Repr, Inhabited

namespace Style

def lowered (word : String) : String :=
  (Text.lower word).replaced

def colourOf (word : String) : Except StyleFault String :=
  match ColourWord.ofWord (lowered word) with
  | .colour => .ok (lowered word)
  | .other => .error .notStyle
  | .malformed => .error .malformed

def setAttribute (s : Style) (a : StyleAttribute) (on : Bool) : Style :=
  { s with attributes := (a, on) :: s.attributes.filter fun (b, _) => b != a }

def ofWords (s : Style) : List String → Except StyleFault Style
  | [] => .ok s
  | word :: rest =>
    match lowered word, rest with
    | "on", c :: more => do
      let colour ← colourOf c
      ofWords { s with background := some colour } more
    | "on", [] => .error .notStyle
    | "not", w :: more =>
      match StyleAttribute.ofName? w with
      | some a => ofWords (s.setAttribute a false) more
      | none => .error .notStyle
    | "not", [] => .error .notStyle
    | "link", target :: more => ofWords { s with link := some target } more
    | "link", [] => .error .notStyle
    | w, rest =>
      match StyleAttribute.ofName? w with
      | some a => ofWords (s.setAttribute a true) rest
      | none => do
        let colour ← colourOf w
        ofWords { s with colour := some colour } rest

def text (s : Style) : String :=
  let attributes := StyleAttribute.all.filterMap fun a =>
    (s.attributes.find? fun (b, _) => b == a).map fun (_, on) =>
      if on then a.name else "not " ++ a.name
  let words := attributes ++ s.colour.toList
    ++ (s.background.map fun c => "on " ++ c).toList ++ (s.link.map fun l => "link " ++ l).toList
  if words.isEmpty then "none" else " ".intercalate words

def words (cs : List Char) : List String :=
  let (ws, w) := cs.foldr (fun c (ws, w) =>
    if Text.isBlank c then (if w.isEmpty then ws else String.ofList w :: ws, [])
    else (ws, c :: w)) (([] : List String), ([] : List Char))
  if w.isEmpty then ws else String.ofList w :: ws

def normalize (cs : List Char) : Except StyleFault String :=
  if words cs == ["none"] then .ok "none"
  else
    match ofWords {} (words cs) with
    | .ok s => .ok s.text
    | .error .notStyle => .ok (lowered (String.ofList (Text.trim cs)))
    | .error .malformed => .error .malformed

end Style

end AttrBinder.Console
