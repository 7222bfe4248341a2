import LayeredFiles.Fault
import LayeredFiles.Number.Reading
import LayeredFiles.Text.Blank
import LayeredFiles.Text.Case
import LayeredFiles.Text.Split
/-
Module: LayeredFiles.Console.Style
Layer: Console
Purpose: the names of the styles that a console text may ask for. A style is a list of words, and the
  same style may be written in many ways; its normal form tells whether a closing tag belongs to an
  opening one. A text that describes no style is none, but a colour with a part that is no number is a fault.
Main exports: readColour, Style, Style.parse?, Style.text, normalStyle
-/

namespace LayeredFiles.Console

/-- The properties of letters, in the order in which a style lists them. -/
def properties : List String := ["bold", "dim", "italic", "underline", "blink", "blink2", "reverse",
  "conceal", "strike", "underline2", "frame", "encircle", "overline"]

/-- Short names of properties. -/
def shortProperties : List (String × String) := [("b", "bold"), ("d", "dim"), ("i", "italic"),
  ("u", "underline"), ("r", "reverse"), ("c", "conceal"), ("s", "strike"), ("uu", "underline2"),
  ("o", "overline")]

/-- The property of a word. -/
def propertyOf? (word : String) : Option String :=
  if properties.contains word then some word else shortProperties.lookup word

/-- The colours that have a name. -/
def colourNames : List String :=
  ["default", "black", "red", "green", "yellow", "blue", "magenta", "cyan", "white", "bright_black",
   "bright_red", "bright_green", "bright_yellow", "bright_blue", "bright_magenta", "bright_cyan",
   "bright_white", "grey0", "gray0", "navy_blue", "dark_blue", "blue3", "blue1", "dark_green",
   "deep_sky_blue4", "dodger_blue3", "dodger_blue2", "green4", "spring_green4", "turquoise4",
   "deep_sky_blue3", "dodger_blue1", "green3", "spring_green3", "dark_cyan", "light_sea_green",
   "deep_sky_blue2", "deep_sky_blue1", "spring_green2", "cyan3", "dark_turquoise", "turquoise2",
   "green1", "spring_green1", "medium_spring_green", "cyan2", "cyan1", "dark_red", "deep_pink4",
   "purple4", "purple3", "blue_violet", "orange4", "grey37", "gray37", "medium_purple4", "slate_blue3",
   "royal_blue1", "chartreuse4", "dark_sea_green4", "pale_turquoise4", "steel_blue", "steel_blue3",
   "cornflower_blue", "chartreuse3", "cadet_blue", "sky_blue3", "steel_blue1", "pale_green3",
   "sea_green3", "aquamarine3", "medium_turquoise", "chartreuse2", "sea_green2", "sea_green1",
   "aquamarine1", "dark_slate_gray2", "dark_magenta", "dark_violet", "purple", "light_pink4", "plum4",
   "medium_purple3", "slate_blue1", "yellow4", "wheat4", "grey53", "gray53", "light_slate_grey",
   "light_slate_gray", "medium_purple", "light_slate_blue", "dark_olive_green3", "dark_sea_green",
   "light_sky_blue3", "sky_blue2", "dark_sea_green3", "dark_slate_gray3", "sky_blue1", "chartreuse1",
   "light_green", "pale_green1", "dark_slate_gray1", "red3", "medium_violet_red", "magenta3",
   "dark_orange3", "indian_red", "hot_pink3", "medium_orchid3", "medium_orchid", "medium_purple2",
   "dark_goldenrod", "light_salmon3", "rosy_brown", "grey63", "gray63", "medium_purple1", "gold3",
   "dark_khaki", "navajo_white3", "grey69", "gray69", "light_steel_blue3", "light_steel_blue",
   "yellow3", "dark_sea_green2", "light_cyan3", "light_sky_blue1", "green_yellow", "dark_olive_green2",
   "dark_sea_green1", "pale_turquoise1", "deep_pink3", "magenta2", "hot_pink2", "orchid",
   "medium_orchid1", "orange3", "light_pink3", "pink3", "plum3", "violet", "light_goldenrod3", "tan",
   "misty_rose3", "thistle3", "plum2", "khaki3", "light_goldenrod2", "light_yellow3", "grey84",
   "gray84", "light_steel_blue1", "yellow2", "dark_olive_green1", "honeydew2", "light_cyan1", "red1",
   "deep_pink2", "deep_pink1", "magenta1", "orange_red1", "indian_red1", "hot_pink", "dark_orange",
   "salmon1", "light_coral", "pale_violet_red1", "orchid2", "orchid1", "orange1", "sandy_brown",
   "light_salmon1", "light_pink1", "pink1", "plum1", "gold1", "navajo_white1", "misty_rose1",
   "thistle1", "yellow1", "light_goldenrod1", "khaki1", "wheat1", "cornsilk1", "grey100", "gray100",
   "grey3", "gray3", "grey7", "gray7", "grey11", "gray11", "grey15", "gray15", "grey19", "gray19",
   "grey23", "gray23", "grey27", "gray27", "grey30", "gray30", "grey35", "gray35", "grey39", "gray39",
   "grey42", "gray42", "grey46", "gray46", "grey50", "gray50", "grey54", "gray54", "grey58", "gray58",
   "grey62", "gray62", "grey66", "gray66", "grey70", "gray70", "grey74", "gray74", "grey78", "gray78",
   "grey82", "gray82", "grey85", "gray85", "grey89", "gray89", "grey93", "gray93"]

/-- A hexadecimal digit in lower case. -/
def isHexDigit (c : Char) : Bool := c.isDigit || ('a' ≤ c && c ≤ 'f')

/-- The value of a run of digits. -/
def valueOf (digits : List Char) : Nat := digits.foldl (fun n c => n * 10 + (c.toNat - 0x30)) 0

/-- The number of a colour, with up to three digits. -/
def isColourNumber (digits : List Char) : Bool :=
  digits ≠ [] && digits.length ≤ 3 && digits.all Char.isDigit && valueOf digits ≤ 255

/-- What stands between an opening text and a closing parenthesis. -/
def between? (opening : String) (s : List Char) : Option (List Char) :=
  match Text.stripPrefix? opening.toList s with
  | some rest => if rest.getLast? = some ')' then some rest.dropLast else none
  | none => none

/-- One part of a colour. Nothing between two commas is no number, and that is a fault. -/
def readPart (s : List Char) : Except Fault Int :=
  match Number.readInt 10 s with
  | .ok i => .ok i
  | .error .malformed => .error (.value (.intText 10 (String.ofList s)))
  | .error (.tooLong digits) => .error (.value (.intTextTooLong digits))

/-- Whether some digits and commas are the three parts of a colour. -/
def readParts (s : List Char) : Except Fault Bool := do
  match Text.splitOn ',' s with
  | [red, green, blue] =>
    let parts := [← readPart red, ← readPart green, ← readPart blue]
    pure (parts.all (· ≤ 255))
  | _ => pure false

/-- Whether a word names a colour, by its name, by number or by its parts. -/
def readColour (word : List Char) : Except Fault Bool :=
  if colourNames.contains (String.ofList word) then .ok true
  else match word with
  | '#' :: digits => .ok (digits.length = 6 && digits.all isHexDigit)
  | word =>
    match between? "color(" word, between? "rgb(" word with
    | some digits, _ => .ok (isColourNumber digits)
    | none, some parts =>
      if parts ≠ [] && parts.all (fun c => c = ',' || (Text.digitValue? c).isSome) then readParts parts
      else .ok false
    | none, none => .ok false

/-- A style: properties that are switched on or off, colours and a link. -/
structure Style where
  switches : List (String × Bool)
  colour : Option (List Char)
  background : Option (List Char)
  link : Option (List Char)
deriving DecidableEq, Repr

namespace Style

/-- The style without any wishes. -/
def plain : Style := ⟨[], none, none, none⟩

/-- Switches a property. -/
def switch (s : Style) (property : String) (isOn : Bool) : Style :=
  { s with switches := (property, isOn) :: s.switches.filter (fun e => e.1 != property) }

/-- Takes in the words of a style one after another; none if one of them means nothing. -/
def addWords (s : Style) : List (List Char) → Except Fault (Option Style)
  | [] => .ok (some s)
  | word :: rest =>
    let lowered := Text.lower word
    let name := String.ofList lowered
    if name = "on" then
      match rest with
      | [] => .ok none
      | colour :: rest => do
        if ← readColour (Text.lower colour) then
          addWords { s with background := some (Text.lower colour) } rest
        else pure none
    else if name = "not" then
      match rest with
      | [] => .ok none
      | property :: rest =>
        match propertyOf? (String.ofList property) with
        | some property => addWords (s.switch property false) rest
        | none => .ok none
    else if name = "link" then
      match rest with
      | [] => .ok none
      | link :: rest => addWords { s with link := some link } rest
    else
      match propertyOf? name with
      | some property => addWords (s.switch property true) rest
      | none => do
        if ← readColour lowered then addWords { s with colour := some lowered } rest else pure none

/-- The words of a text. -/
def wordsOf (s : List Char) : List (List Char) :=
  (s.splitBy (fun a b => Text.isBlank a == Text.isBlank b)).filter (fun w => !w.all Text.isBlank)

/-- The style that a text describes, if it describes one. -/
def parse? (s : List Char) : Except Fault (Option Style) :=
  if Text.strip s = "none".toList then .ok (some plain) else plain.addWords (wordsOf s)

/-- The words of a style in their normal order. -/
def words (s : Style) : List (List Char) :=
  let switched := properties.filterMap (fun property =>
    (s.switches.lookup property).map (fun isOn =>
      if isOn then property.toList else "not ".toList ++ property.toList))
  switched ++ s.colour.toList ++ (s.background.map ("on ".toList ++ ·)).toList ++
    (s.link.map ("link ".toList ++ ·)).toList

/-- The normal form of a style. -/
def text (s : Style) : List Char :=
  match s.words with
  | [] => "none".toList
  | words => Text.joinWith [' '] words

end Style

/-- The normal form of the name of a style; a text that describes none is put in lower case. -/
def normalStyle (s : List Char) : Except Fault (List Char) := do
  match ← Style.parse? s with
  | some style => pure style.text
  | none => pure (Text.lower (Text.strip s))

example : ((Style.plain.switch "bold" true).switch "dim" false).text = "bold not dim".toList := by
  decide +kernel

end LayeredFiles.Console
