/-
Module: LayeredFiles.Text.Split
Layer: Text
Purpose: cutting a text at a separator, finding one text inside another and replacing it.
Main exports: splitOn, joinWith, stripPrefix?, cutAt?, splitOnText, replaceAll, lines
-/

namespace LayeredFiles.Text

/-- The pieces of a text between the occurrences of a separator; a text without it is one piece. -/
def splitOn (separator : Char) : List Char → List (List Char)
  | [] => [[]]
  | c :: rest =>
    if c = separator then [] :: splitOn separator rest
    else match splitOn separator rest with
      | [] => [[c]]
      | piece :: pieces => (c :: piece) :: pieces

theorem splitOn_ne_nil (separator : Char) (s : List Char) : splitOn separator s ≠ [] := by
  cases s with
  | nil => simp [splitOn]
  | cons c rest =>
    simp only [splitOn]
    split
    · simp
    · split <;> simp

/-- The pieces of a list with a separator between them. -/
def joinWith (separator : List Char) : List (List Char) → List Char
  | [] => []
  | [piece] => piece
  | piece :: next :: pieces => piece ++ separator ++ joinWith separator (next :: pieces)

/-- Joining the pieces with the separator gives the text back. -/
theorem joinWith_splitOn (separator : Char) (s : List Char) :
    joinWith [separator] (splitOn separator s) = s := by
  induction s with
  | nil => rfl
  | cons c rest ih =>
    simp only [splitOn]
    split
    · rename_i h
      cases hp : splitOn separator rest with
      | nil => exact absurd hp (splitOn_ne_nil _ _)
      | cons piece pieces =>
        rw [hp] at ih
        simp [joinWith, ih, h]
    · cases hp : splitOn separator rest with
      | nil => exact absurd hp (splitOn_ne_nil _ _)
      | cons piece pieces =>
        rw [hp] at ih
        cases pieces <;> simp_all [joinWith]

/-- What follows a text that starts with `start`. -/
def stripPrefix? : List Char → List Char → Option (List Char)
  | [], s => some s
  | _ :: _, [] => none
  | p :: ps, c :: cs => if p = c then stripPrefix? ps cs else none

/-- The parts of a text before and after the first occurrence of `mark`. -/
def cutAt? (mark : List Char) : List Char → Option (List Char × List Char)
  | [] => if mark = [] then some ([], []) else none
  | c :: rest =>
    match stripPrefix? mark (c :: rest) with
    | some after => some ([], after)
    | none => (cutAt? mark rest).map (fun p => (c :: p.1, p.2))

/-- Cutting goes on in what follows; `fuel` bounds the number of cuts. -/
def splitOnTextUpTo (mark : List Char) : Nat → List Char → List (List Char)
  | 0, s => [s]
  | fuel + 1, s =>
    match cutAt? mark s with
    | some (piece, after) => piece :: splitOnTextUpTo mark fuel after
    | none => [s]

/-- The pieces of a text between the occurrences of a mark that is not empty, cut at most `limit`
    times when a limit is given. -/
def splitOnText (mark : List Char) (limit : Option Nat) (s : List Char) : List (List Char) :=
  splitOnTextUpTo mark (min (limit.getD s.length) s.length) s

/-- The first `fuel` characters each preceded by `new`. -/
def spread (new : List Char) : Nat → List Char → List Char
  | 0, s => s
  | _ + 1, [] => new
  | fuel + 1, c :: rest => new ++ c :: spread new fuel rest

/-- Every occurrence of `old`, from the left and without overlap, gives way to `new`; an empty `old`
    occurs before each character and at the end. A limit bounds the number of replacements. -/
def replaceAll (old new : List Char) (limit : Option Nat) (s : List Char) : List Char :=
  if old = [] then spread new (limit.getD (s.length + 1)) s
  else joinWith new (splitOnText old limit s)

example : replaceAll "aa".toList "b".toList none "aaaa a".toList = "bb a".toList ∧
    replaceAll [] "-".toList none "ab".toList = "-a-b-".toList := by decide

example : splitOnText ",".toList (some 1) "a,b,c".toList = ["a".toList, "b,c".toList] := by decide

end LayeredFiles.Text
