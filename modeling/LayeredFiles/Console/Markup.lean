import LayeredFiles.Console.Style
import LayeredFiles.Host
/-
Module: LayeredFiles.Console.Markup
Layer: Console
Purpose: console texts with tags in square brackets. A tag opens a style or a reaction, or closes one; what
  a console without colours shows is the text without its tags, with pictures in place of their names.
  Backslashes in front of a tag turn it into text, and escaping a text puts enough of them there. A closing
  tag needs an opening one, and the parameters of a reaction need a meaning.
Main exports: Piece, takeTag?, pieces, pictured, shownText, actOf, spansOf, readMarkup, plainText,
  escapeTags
-/

namespace LayeredFiles.Console

/-- What a tag may begin with. -/
def startsTag (c : Char) : Bool := ('a' ≤ c && c ≤ 'z') || c = '#' || c = '/' || c = '@'

/-- The inside of a tag whose opening bracket was passed, and the rest. A tag holds no opening
    bracket. -/
def takeTag? (s : List Char) : Option (List Char × List Char) :=
  match s with
  | c :: rest =>
    if startsTag c then
      let body := rest.takeWhile (fun c => c != '[' && c != ']')
      match rest.dropWhile (fun c => c != '[' && c != ']') with
      | ']' :: after => some (c :: body, after)
      | _ => none
    else none
  | [] => none

/-- A part of a console text: some text, or a tag that was found so many characters behind the start. -/
inductive Piece where
  | text (chars : List Char)
  | tag (position : Nat) (inside : List Char)
deriving DecidableEq, Repr

/-- A character in front of a list of pieces. -/
def consChar (c : Char) : List Piece → List Piece
  | .text chars :: rest => .text (c :: chars) :: rest
  | rest => .text [c] :: rest

/-- The number of backslashes at the front of a text, and the rest. -/
def takeBackslashes (s : List Char) : Nat × List Char :=
  ((s.takeWhile (· = '\\')).length, s.dropWhile (· = '\\'))

/-- The pieces of a text at the given position. Of the backslashes in front of a tag two stand for one,
    and an odd one makes the tag a text. `fuel` bounds the number of characters. -/
def piecesFrom : Nat → Nat → List Char → List Piece
  | 0, _, _ => []
  | _ + 1, _, [] => []
  | fuel + 1, position, c :: rest =>
    if c = '\\' || c = '[' then
      let (count, after) := takeBackslashes (c :: rest)
      let found := match after with
        | '[' :: inner => takeTag? inner
        | _ => none
      match found with
      | some (inside, behind) =>
        let next := position + count + inside.length + 2
        let tag := if count % 2 = 1 then
            [.text ('[' :: inside ++ [']'])]
          else [.tag (position + count) inside]
        .text (List.replicate (count / 2) '\\') :: tag ++ piecesFrom fuel next behind
      | none => consChar c (piecesFrom fuel (position + 1) rest)
    else consChar c (piecesFrom fuel (position + 1) rest)

/-- The pieces of a text. -/
def pieces (s : List Char) : List Piece := piecesFrom (s.length + 1) 0 s

/-- Backslashes in front of a bracket in a text are not shown. -/
def unescapeBrackets (s : List Char) : List Char := Text.replaceAll ['\\', '['] ['['] none s

/-! ### Pictures -/

/-- The name between two colons, the first of which was passed, and the rest. A name holds no blanks. -/
def takeName? (s : List Char) : Option (List Char × List Char) :=
  match s.dropWhile (fun c => c != ':' && !Text.isBlank c) with
  | ':' :: behind => some (s.takeWhile (fun c => c != ':' && !Text.isBlank c), behind)
  | _ => none

/-- A text with pictures in place of their names. `fuel` bounds the number of characters. -/
def picturedFrom [Host] : Nat → List Char → List Char
  | 0, _ => []
  | _ + 1, [] => []
  | fuel + 1, c :: rest =>
    if c = ':' then
      match takeName? rest with
      | some (name, behind) =>
        (Host.picture? name).getD (':' :: name ++ [':']) ++ picturedFrom fuel behind
      | none => c :: picturedFrom fuel rest
    else c :: picturedFrom fuel rest

/-- A text with pictures in place of their names. -/
def pictured [Host] (s : List Char) : List Char := picturedFrom (s.length + 1) s

/-- What is shown of some pieces. -/
def shownText [Host] : List Piece → List Char
  | [] => []
  | .text chars :: rest => pictured (unescapeBrackets chars) ++ shownText rest
  | .tag _ _ :: rest => shownText rest

/-! ### Tags -/

/-- The name of a tag and what is behind its equals sign. -/
def splitTag (inside : List Char) : List Char × Option (List Char) :=
  match Text.cutAt? ['='] inside with
  | some (name, parameters) => (name, some parameters)
  | none => (inside, none)

/-- A tag that is open: the normal form of its name, and its parameters. -/
structure OpenTag where
  name : List Char
  parameters : Option (List Char)
deriving DecidableEq, Repr

namespace OpenTag

/-- The tag asks for a reaction to the user and not for a style. -/
def isReaction (tag : OpenTag) : Bool := tag.name.head? = some '@'

/-- The style that a tag asks for. -/
def style (tag : OpenTag) : List Char := tag.name ++ (tag.parameters.map (' ' :: ·)).getD []

/-- Whether a tag can be closed. The parameters of a reaction need a meaning. -/
def check [Host] (tag : OpenTag) : Except Fault Unit :=
  match tag.parameters with
  | some parameters =>
    if tag.isReaction && parameters ≠ [] && !Host.reads parameters then
      .error (.markup (.parameters (String.ofList parameters)))
    else .ok ()
  | none => .ok ()

end OpenTag

/-- What a tag does: it opens one, or it closes one of those that are open, counted from the latest. -/
inductive TagAct where
  | opens (tag : OpenTag)
  | closes (index : Nat)
deriving DecidableEq, Repr

/-- Closes the tag that was found. -/
def closeFound [Host] (missing : MarkupFault) : Option (OpenTag × Nat) → Except Fault TagAct
  | none => .error (.markup missing)
  | some (tag, index) => tag.check.map (fun _ => .closes index)

/-- What a tag does where some are open. A tag without a name closes the latest, and one with a name the latest
    of this name. -/
def actOf [Host] (isOpen : List OpenTag) (position : Nat) (inside : List Char) : Except Fault TagAct :=
  match splitTag inside with
  | ('/' :: name, _) =>
    match Text.strip name with
    | [] => closeFound (.nothingOpen position) isOpen.zipIdx.head?
    | name => do
      let name ← normalStyle name
      closeFound (.unopened (String.ofList ('[' :: inside ++ [']'])) position)
        (isOpen.zipIdx.find? (fun e => e.1.name = name))
  | (name, parameters) => (normalStyle name).map (fun name => .opens ⟨name, parameters⟩)

/-! ### Spans -/

/-- A control character that a console does not show. -/
def isHidden (c : Char) : Bool := [7, 8, 11, 12, 13].contains c.toNat

/-- A text without what a console does not show. -/
def visible (s : List Char) : List Char := s.filter (fun c => !isHidden c)

/-- A part of a text from a start up to a stop, and the style in which it is drawn. -/
structure Span where
  start : Nat
  stop : Nat
  style : List Char
deriving DecidableEq, Repr

/-- Puts a span behind those that begin no later. -/
def insertSpan (span : Span) : List Span → List Span
  | [] => [span]
  | other :: rest =>
    if other.start ≤ span.start then other :: insertSpan span rest else span :: other :: rest

/-- The part that a tag styles which was opened at some place. -/
def spanTo (stop : Nat) (e : Nat × OpenTag) : Span := ⟨e.1, stop, e.2.style⟩

/-- The part that a tag styles when it is closed; a reaction styles nothing. -/
def closedSpan? (stop : Nat) (e : Nat × OpenTag) : Option Span :=
  if e.2.isReaction then none else some (spanTo stop e)

/-- What the tags of some pieces style, ordered by the starts; of those that start at one place the last to be
    closed comes first. In front of the pieces `count` characters are visible, and some tags are open since some
    places. -/
def spansOf [Host] (count : Nat) (isOpen : List (Nat × OpenTag)) : List Piece → Except Fault (List Span)
  | [] => .ok ((isOpen.map (spanTo count)).foldr insertSpan [])
  | .text chars :: rest =>
    spansOf (count + (visible (pictured (unescapeBrackets chars))).length) isOpen rest
  | .tag position inside :: rest => do
    match ← actOf (isOpen.map Prod.snd) position inside with
    | .opens tag => spansOf count ((count, tag) :: isOpen) rest
    | .closes index =>
      let closed := isOpen[index]?.bind (closedSpan? count)
      pure (closed.toList.foldr insertSpan (← spansOf count (isOpen.eraseIdx index) rest))

/-- A text and the styles in which its parts are drawn. -/
structure StyledText where
  chars : List Char
  spans : List Span
deriving DecidableEq, Repr

/-- What a console text asks for. -/
def readMarkup [Host] (s : List Char) : Except Fault StyledText :=
  if s.contains '[' then (spansOf 0 [] (pieces s)).map (fun spans => ⟨shownText (pieces s), spans⟩)
  else .ok ⟨pictured s, []⟩

/-- The text that a console text shows. -/
def plainText [Host] (s : List Char) : Except Fault (List Char) := (readMarkup s).map StyledText.chars

/-! ### Escaping -/

/-- Puts backslashes in front of all tags. `fuel` bounds the number of characters. -/
def escapeFrom : Nat → List Char → List Char
  | 0, _ => []
  | _ + 1, [] => []
  | fuel + 1, c :: rest =>
    if c = '\\' || c = '[' then
      let (count, after) := takeBackslashes (c :: rest)
      let found := match after with
        | '[' :: inner => takeTag? inner
        | _ => none
      match found with
      | some (inside, behind) =>
        List.replicate (2 * count + 1) '\\' ++ '[' :: inside ++ ']' :: escapeFrom fuel behind
      | none => c :: escapeFrom fuel rest
    else c :: escapeFrom fuel rest

/-- A text whose tags are texts. A single backslash at its end is doubled. -/
def escapeTags (s : List Char) : List Char :=
  let escaped := escapeFrom (s.length + 1) s
  match escaped.reverse with
  | '\\' :: '\\' :: _ => escaped
  | '\\' :: _ => escaped ++ ['\\']
  | _ => escaped

example : pieces "a\\[b]c".toList = [.text ['a'], .text "[b]".toList, .text ['c']] := by
  decide +kernel

example : escapeTags "\\[/b] [0]\\".toList = "\\\\\\[/b] [0]\\\\".toList := by decide +kernel

end LayeredFiles.Console
