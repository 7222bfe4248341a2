import LayeredFiles.CommandLine.Form
import LayeredFiles.Number.Reading
import LayeredFiles.Text.Digit
import LayeredFiles.Text.Split
/-
Module: LayeredFiles.CommandLine.Read
Layer: CommandLine
Purpose: the reading of a command line. First every word is told apart: an option, two dashes, or a plain
  word; behind two dashes all words are plain. Then options and the words that a command wants are taken
  in turn, and what nobody takes is left over. Long options may be shortened as long as one option is
  meant, and short options may be written together.
Main exports: Word, Word.ofTexts, Choices, Reading, Reading.ofTexts, Stop
-/

namespace LayeredFiles.CommandLine

open Number

/-- A text that belongs to an option because it is written together with it. -/
structure Attached where
  /-- An equals sign stands between. -/
  hasSign : Bool
  text : List Char
deriving DecidableEq, Repr

/-- A use of an option: the option, whether it is spelled with one dash, and the text attached to it. -/
structure OptionUse where
  option : OptionForm
  isShort : Bool
  attached : Option Attached
deriving DecidableEq, Repr

/-- A word of a command line. -/
inductive Word where
  | plain (text : String)
  | dashes
  | option (text : String) (use : OptionUse)
  /-- It looks like an option, and there is no such option. -/
  | unknown (text : String)
deriving DecidableEq, Repr

/-- A word as it was written. -/
def Word.text : Word → String
  | .plain s => s
  | .dashes => "--"
  | .option s _ => s
  | .unknown s => s

/-- A spelling of an option has one dash only. -/
def isShortName (name : String) : Bool := name.toList[1]? ≠ some '-'

/-- The spellings of some options, each with its option. -/
def spellings (options : List OptionForm) : List (String × OptionForm) :=
  options.flatMap (fun o => o.names.map (fun name => (name, o)))

/-- A text that starts like another. -/
def startsWith (s start : List Char) : Bool := start.isPrefixOf s

/-- A negative number: digits with at most one point, and digits behind the point. A line end at the
    end does not count. -/
def isNegativeNumber (s : List Char) : Bool :=
  let isDigit (c : Char) : Bool := (Text.digitValue? c).isSome
  let ends (rest : List Char) : Bool := rest = [] || rest = ['\n']
  match s with
  | '-' :: rest =>
    let digits := rest.takeWhile isDigit
    match rest.dropWhile isDigit with
    | '.' :: places =>
      !(places.takeWhile isDigit).isEmpty && ends (places.dropWhile isDigit)
    | after => !digits.isEmpty && ends after
  | _ => false

/-- The options that a word may be a shortened or joined spelling of. -/
def guesses (options : List OptionForm) (s : List Char) : List (String × OptionUse) :=
  match s with
  | '-' :: '-' :: _ =>
    let (start, attached) : List Char × Option Attached :=
      match Text.cutAt? ['='] s with
      | some (start, text) => (start, some ⟨true, text⟩)
      | none => (s, none)
    (spellings options).filterMap (fun e =>
      if startsWith e.1.toList start then some (e.1, ⟨e.2, isShortName e.1, attached⟩) else none)
  | '-' :: c :: text =>
    (spellings options).filterMap (fun e =>
      if e.1.toList = ['-', c] then some (e.1, ⟨e.2, true, some ⟨false, text⟩⟩) else none)
  | _ => []

/-- The word that a text is; texts behind two dashes are not meant. -/
def Word.ofText (options : List OptionForm) (text : String) : Except UsageFault Word :=
  let s := text.toList
  let known (name : List Char) : Option OptionForm := (spellings options).lookup (String.ofList name)
  let plainOrUnknown : Word :=
    if isNegativeNumber s || s.contains ' ' then .plain text else .unknown text
  let guess : Except UsageFault Word :=
    match guesses options s with
    | [] => .ok plainOrUnknown
    | [(_, use)] => .ok (.option text use)
    | several => .error (.ambiguous text (several.map Prod.fst))
  if s.head? ≠ some '-' then .ok (.plain text)
  else match known s with
    | some o => .ok (.option text ⟨o, isShortName text, none⟩)
    | none =>
      if s.length = 1 then .ok (.plain text)
      else match Text.cutAt? ['='] s with
        | none => guess
        | some (name, attached) =>
          match known name with
          | some o =>
            .ok (.option text ⟨o, isShortName (String.ofList name), some ⟨true, attached⟩⟩)
          | none => guess

/-- The words of a command line. -/
def Word.ofTexts (options : List OptionForm) : List String → Except UsageFault (List Word)
  | [] => .ok []
  | "--" :: rest => .ok (.dashes :: rest.map .plain)
  | text :: rest => do
    let word ← Word.ofText options text
    let words ← Word.ofTexts options rest
    pure (word :: words)

/-! ### Options -/

/-- What the options of a command line ask for. -/
structure Choices where
  templates : Option String
  context : Option String
  assignments : List String
  verbose : Bool
  parallel : Option Int
  timeout : Option Binary64
deriving DecidableEq, Repr

/-- Why the reading of a command line stops. -/
inductive Stop where
  | help
  | fault (fault : UsageFault)
deriving DecidableEq, Repr

namespace Choices

/-- No options at all. -/
def none : Choices := ⟨.none, .none, [], false, .none, .none⟩

/-- An option with the word that belongs to it, if it takes one. -/
def take (c : Choices) (o : OptionForm) (word : String) : Except Stop Choices :=
  match o.key with
  | .help => .error .help
  | .templates => .ok { c with templates := some word }
  | .context => .ok { c with context := some word }
  | .assignment => .ok { c with assignments := c.assignments ++ [word] }
  | .verbose => .ok { c with verbose := true }
  | .parallel =>
    match readInt 10 word.toList with
    | .ok i => .ok { c with parallel := some i }
    | .error _ => .error (.fault (.notInt o word))
  | .timeout =>
    match readFloat word.toList with
    | some x => .ok { c with timeout := some x }
    | Option.none => .error (.fault (.notFloat o word))

end Choices

/-- The options that one word stands for, each with its word, what is left over of it, and whether the
    next word belongs to it. -/
structure Unfolded where
  uses : List (OptionForm × String)
  left : List String
  takesNext : Bool
deriving DecidableEq, Repr

/-- An option with nothing attached: it may take the next word. -/
def unfoldBare (o : OptionForm) (next : Option Word) : Except UsageFault Unfolded :=
  if o.takesWord then
    match next with
    | some (.plain word) => .ok ⟨[(o, word)], [], true⟩
    | _ => .error (.noWord o)
  else .ok ⟨[(o, "")], [], false⟩

/-- An option with a text attached. If it takes no word, the text is the next short option, with the
    rest of the text attached to it. -/
def unfoldAttached (options : List OptionForm) (next : Option Word) (o : OptionForm)
    (isShort hasSign : Bool) : List Char → Except UsageFault Unfolded
  | [] =>
    if o.takesWord then .ok ⟨[(o, "")], [], false⟩ else .error (.extraWord o "")
  | c :: text =>
    if o.takesWord then .ok ⟨[(o, String.ofList (c :: text))], [], false⟩
    else if !isShort || hasSign || c = '-' then .error (.extraWord o (String.ofList (c :: text)))
    else
      let more (u : Unfolded) : Unfolded := { u with uses := (o, "") :: u.uses }
      match (spellings options).lookup (String.ofList ['-', c]) with
      | none => .ok ⟨[(o, "")], [String.ofList ('-' :: c :: text)], false⟩
      | some inner =>
        match text with
        | [] => (unfoldBare inner next).map more
        | '=' :: text => (unfoldAttached options next inner true true text).map more
        | c' :: text => (unfoldAttached options next inner true false (c' :: text)).map more

/-- The options that a use of an option stands for. -/
def unfold (options : List OptionForm) (next : Option Word) (use : OptionUse) :
    Except UsageFault Unfolded :=
  match use.attached with
  | none => unfoldBare use.option next
  | some attached =>
    unfoldAttached options next use.option use.isShort attached.hasSign attached.text

/-! ### Words -/

/-- A word that belongs to the plain words. -/
def Word.isPlain : Word → Bool
  | .plain _ => true
  | .dashes => true
  | _ => false

/-- How many words go under a name, if the words begin with a plain one. Two dashes in front and behind
    go along. -/
def WordForm.count? (form : WordForm) (words : List Word) : Option Nat :=
  let before := (words.takeWhile (· = .dashes)).length
  match words.drop before with
  | .plain _ :: rest =>
    let behind :=
      match form.arity with
      | .one => (rest.takeWhile (· = .dashes)).length
      | .some => (rest.takeWhile Word.isPlain).length
      | .rest => rest.length
    some (before + 1 + behind)
  | _ => none

/-- The texts of the words under a name. The first two dashes among them are dropped, unless everything
    goes under the name. -/
def WordForm.texts (form : WordForm) (words : List Word) : List String :=
  let texts := words.map Word.text
  if form.arity = .rest then texts else texts.erase "--"

/-- The names that can be given their words now, and how many words these are altogether. -/
def takeNames (words : List Word) : List WordForm → List (String × List String) × Nat
  | [] => ([], 0)
  | form :: rest =>
    match form.count? words with
    | none => ([], 0)
    | some count =>
      let (named, more) := takeNames (words.drop count) rest
      ((form.name, form.texts (words.take count)) :: named, count + more)

/-- What was read from a command line. -/
structure Reading where
  choices : Choices
  named : List (String × List String)
  left : List String
deriving DecidableEq, Repr

namespace Reading

/-- Nothing read yet. -/
def empty : Reading := ⟨.none, [], []⟩

/-- The words under a name. -/
def wordsOf (r : Reading) (name : String) : List String := (r.named.lookup name).getD []

/-- Takes in the options that one word stands for. -/
def takeOptions (r : Reading) (u : Unfolded) : Except Stop Reading := do
  let choices ← u.uses.foldlM (fun c e => c.take e.1 e.2) r.choices
  pure { r with choices := choices, left := r.left ++ u.left }

/-- Reads words. `fuel` bounds how many steps are made; every step takes at least one word. -/
def readFrom (form : CommandForm) : Nat → Reading → List Word → Except Stop Reading
  | 0, r, _ => .ok r
  | _ + 1, r, [] => .ok r
  | fuel + 1, r, .option _ use :: rest =>
    match unfold form.options rest.head? use with
    | .error fault => .error (.fault fault)
    | .ok u => do
      let r ← r.takeOptions u
      readFrom form fuel r (if u.takesNext then rest.tail else rest)
  | fuel + 1, r, .unknown text :: rest =>
    readFrom form fuel { r with left := r.left ++ [text] } rest
  | fuel + 1, r, word :: rest =>
    match takeNames (word :: rest) (form.words.drop r.named.length) with
    | (_, 0) => readFrom form fuel { r with left := r.left ++ [word.text] } rest
    | (named, count) =>
      readFrom form fuel { r with named := r.named ++ named } ((word :: rest).drop count)

/-- Reads the texts of a command line; all words that the form wants must be there. -/
def ofTexts (form : CommandForm) (texts : List String) : Except Stop Reading :=
  match Word.ofTexts form.options texts with
  | .error fault => .error (.fault fault)
  | .ok words => do
    let r ← readFrom form words.length empty words
    match form.words.drop r.named.length with
    | [] => pure r
    | absent => throw (.fault (.required (absent.map WordForm.name)))

end Reading

example : isNegativeNumber "-.5".toList = true ∧ isNegativeNumber "-1.".toList = false := by
  decide +kernel

end LayeredFiles.CommandLine
