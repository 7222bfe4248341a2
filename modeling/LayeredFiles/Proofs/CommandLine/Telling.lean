import LayeredFiles.CommandLine.Run
import LayeredFiles.Proofs.Console.Shown
import LayeredFiles.Proofs.Number.Spelling
/-
Module: LayeredFiles.Proofs.CommandLine.Telling
Layer: Proofs
Purpose: what a command line tells. Good and bad news can be told whatever they say, but the line about a
  result holds the name of the file and a path or an error as they are: it can be shown unless one of their
  brackets makes a tag that cannot be followed or drawn. If all lines can be shown, a batch ends with the code
  that its results ask for.
Main exports: CommandLine.sayLines_ok_iff, CommandLine.CanBeShown, CommandLine.canBeShown_of_noBracket,
  CommandLine.BatchEnds, CommandLine.tellResults_ends
-/

namespace LayeredFiles

/-! ### Texts about results -/

namespace ChainResult

/-- The style of the word that tells about a result. -/
def style (r : ChainResult) : String :=
  match r.outcome with
  | .made _ => "green"
  | .failed _ => "red"

/-- The word that tells about a result. -/
def word (r : ChainResult) : String :=
  match r.outcome with
  | .made _ => "OK"
  | .failed _ => "FAILED"

/-- What is said about a result behind the word. -/
def said (r : ChainResult) : String :=
  match r.outcome with
  | .made path => r.file.display ++ " -> " ++ path ++ " (" ++
      String.ofList (Number.fixedPlaces 2 r.seconds) ++ "s)"
  | .failed detail => r.file.display ++ ": " ++ detail

/-- What stands in front of that text. -/
def lead (r : ChainResult) : String :=
  match r.outcome with
  | .made _ => "[green]OK[/green] "
  | .failed _ => "[red]FAILED[/red] "

theorem summary_eq (r : ChainResult) : r.summary = r.lead ++ r.said := by
  have regroup : ∀ a b c d e f g : String,
      a ++ b ++ c ++ d ++ e ++ f ++ g = a ++ (b ++ c ++ d ++ e ++ f ++ g) := by
    intro a b c d e f g
    simp only [String.append_assoc]
  have regroup' : ∀ a b c d : String, a ++ b ++ c ++ d = a ++ (b ++ c ++ d) := by
    intro a b c d
    simp only [String.append_assoc]
  obtain ⟨file, outcome, seconds⟩ := r
  cases outcome with
  | made path => exact regroup _ _ _ _ _ _ _
  | failed detail => exact regroup' _ _ _ _

theorem toList_lead (r : ChainResult) : ("  " ++ r.lead).toList =
    "  ".toList ++ (Console.tagText 0 r.style.toList ++ (r.word.toList ++
      (Console.tagText 0 ('/' :: r.style.toList) ++ [' ']))) := by
  unfold lead style word
  cases r.outcome with
  | made path => exact (by decide : ("  " ++ "[green]OK[/green] ").toList =
      "  ".toList ++ (Console.tagText 0 "green".toList ++ ("OK".toList ++
        (Console.tagText 0 ('/' :: "green".toList) ++ [' ']))))
  | failed detail => exact (by decide : ("  " ++ "[red]FAILED[/red] ").toList =
      "  ".toList ++ (Console.tagText 0 "red".toList ++ ("FAILED".toList ++
        (Console.tagText 0 ('/' :: "red".toList) ++ [' ']))))

theorem isStyle_style (r : ChainResult) : Console.IsStyle r.style.toList := by
  unfold style
  split
  · exact Console.isStyle_of_check (by decide +kernel)
  · exact Console.isStyle_of_check (by decide +kernel)

theorem isPlain_word (r : ChainResult) : Console.IsPlain r.word.toList := by
  unfold word
  split
  · exact Console.isPlain_of_all (by decide)
  · exact Console.isPlain_of_all (by decide)

end ChainResult

namespace CommandLine

/-! ### Showing -/

section Work

variable {α β : Type} {Bad : Fault → Prop} {Good : α → Prop} {Good' : β → Prop}

theorem yields_andThen {first : Work α} {next : α → Work β} {w : World}
    (yields : Yields Bad Good (first w).1)
    (continues : ∀ a w', Good a → Yields Bad Good' (next a w').1) :
    Yields Bad Good' (first.andThen next w).1 := by
  unfold Work.andThen
  cases ended : first w with
  | mk answer w' =>
      rw [ended] at yields
      cases answer with
      | error fault => exact yields
      | ok a => exact continues a w' yields

theorem yields_say {text : Except Fault String} (yields : Yields Bad (fun _ => True) text) (w : World) :
    Yields Bad (fun _ => True) (say text w).1 := by
  unfold say
  cases text with
  | error fault => exact yields
  | ok text => exact True.intro

end Work

section Lines

variable [Host]

theorem yields_sayLines (lines : List String) (w : World) :
    Yields Fault.IsUnshown (fun _ => True) (sayLines lines w).1 := by
  induction lines generalizing w with
  | nil => exact True.intro
  | cons text rest ih =>
      apply yields_andThen (yields_say (Console.yields_line _) w)
      intro _ w' _
      exact ih w'

/-- Lines are shown one after another if each of them can be shown, and else not to the end. -/
theorem sayLines_ok_iff (lines : List String) (w : World) :
    (sayLines lines w).1 = .ok () ↔ ∀ text ∈ lines, ∃ shown, Console.line text.toList = .ok shown := by
  induction lines generalizing w with
  | nil => simp [sayLines]
  | cons text rest ih =>
      rw [List.forall_mem_cons]
      cases isLine : Console.line text.toList with
      | error fault => simp [sayLines, Work.andThen, say, isLine]
      | ok shown =>
          have goesOn : sayLines (text :: rest) w = sayLines rest (w.tell shown) := by
            simp [sayLines, Work.andThen, say, isLine]
          rw [goesOn, ih]
          simp

end Lines

/-- A line that can be shown is told, and then the run ends with a code. -/
theorem exists_told {text : Except Fault String} (shows : ∃ shown, text = .ok shown) (code : Nat)
    (w : World) :
    ∃ line, ((say text).andThen (fun _ w => (.ok code, w))) w = (.ok code, w.tell line) := by
  obtain ⟨shown, rfl⟩ := shows
  exact ⟨shown, rfl⟩

/-- A fault that is reported ends the run with the code one. -/
theorem reportFault_eq [Host] {fault : Fault} (reported : fault.isReported = true) (w : World) :
    ∃ line, reportFault fault w = (.ok 1, w.tell line) := by
  rw [reportFault, if_pos reported]
  exact exists_told (Console.exists_errorLine _) 1 w

/-! ### Lines about results -/

/-- The line about a result of a batch. -/
def resultLine (r : ChainResult) : String := "  " ++ r.summary

theorem toList_resultLine (r : ChainResult) :
    (resultLine r).toList = "  ".toList ++ (Console.tagText 0 r.style.toList ++ (r.word.toList ++
      (Console.tagText 0 ('/' :: r.style.toList) ++ (' ' :: r.said.toList)))) := by
  rw [resultLine, r.summary_eq, ← String.append_assoc, String.toList_append, r.toList_lead]
  simp only [List.append_assoc, List.singleton_append]

/-- The line about a result can be shown. -/
def CanBeShown [Host] (r : ChainResult) : Prop := ∃ shown, Console.line (resultLine r).toList = .ok shown

/-- The text that a result has besides the name of the file: the path that was made, or why it was not. -/
def detailOf (r : ChainResult) : String :=
  match r.outcome with
  | .made path => path
  | .failed detail => detail

/-- A word in a style between two blanks and a text without brackets can be shown. -/
theorem shown_word [Host] {style word : String} (isStyle : Console.IsStyle style.toList)
    (isPlain : Console.IsPlain word.toList) {rest : List Char} (noBracket : '[' ∉ rest) :
    Console.Shown [] ("  ".toList ++ (Console.tagText 0 style.toList ++ (word.toList ++
      (Console.tagText 0 ('/' :: style.toList) ++ rest)))) := by
  apply Console.Shown.append (Console.isPlain_of_all (by decide))
  apply isStyle.shown_opening
  apply Console.Shown.append isPlain
  exact isStyle.shown_closing (.of_noBracket [] noBracket) (.of_noBracket _ noBracket) 0

/-- A number with fixed places has digits, a point, a sign or the letters of a name. -/
theorem noBracket_fixedPlaces (places : Nat) (x : Number.Binary64) : '[' ∉ Number.fixedPlaces places x := by
  have digits : ∀ n, '[' ∉ Number.padZeros (places + 1) (Number.decimalDigits n) := by
    intro n mem
    rcases List.mem_append.1 mem with isZero | isDigit
    · exact absurd (List.mem_replicate.1 isZero).2 (by decide)
    · exact absurd (Number.isDigits_decimalDigits n _ isDigit) (by decide)
  have written : ∀ n, '[' ∉ Number.writeFixed places n := by
    intro n
    unfold Number.writeFixed
    split
    · exact fun mem => digits n (List.mem_of_mem_take mem)
    · intro mem
      rcases List.mem_append.1 mem with isWhole | isRest
      · exact digits n (List.mem_of_mem_take isWhole)
      · rcases List.mem_cons.1 isRest with isPoint | isPlace
        · exact absurd isPoint (by decide)
        · exact digits n (List.mem_of_mem_drop isPlace)
  cases x with
  | nan => exact (by decide : '[' ∉ "nan".toList)
  | number negative rank =>
      have body : '[' ∉ (if rank.val = Number.infinityRank then "inf".toList
          else Number.writeFixed places (Number.roundHalfEven
            (Number.units rank.val * Nat.pow 10 places) Number.unitsOfOne)) := by
        split
        · decide
        · exact written _
      simp only [Number.fixedPlaces]
      split
      · exact fun mem => body ((List.mem_cons.1 mem).resolve_left (by decide))
      · exact body

/-- What is said about a result has no brackets but those of its texts. -/
theorem noBracket_said {r : ChainResult} (file : '[' ∉ r.file.display.toList)
    (detail : '[' ∉ (detailOf r).toList) : '[' ∉ r.said.toList := by
  obtain ⟨name, outcome, seconds⟩ := r
  have time : '[' ∉ (String.ofList (Number.fixedPlaces 2 seconds)).toList := by
    rw [String.toList_ofList]
    exact noBracket_fixedPlaces 2 seconds
  have noMark : ∀ mark ∈ [" -> ", " (", "s)", ": "], '[' ∉ mark.toList := by decide
  have append : ∀ {s t : String}, '[' ∉ s.toList → '[' ∉ t.toList → '[' ∉ (s ++ t).toList := by
    intro s t front back
    rw [String.toList_append, List.mem_append, not_or]
    exact ⟨front, back⟩
  cases outcome with
  | made path =>
      exact append (append (append (append (append file (noMark _ (by simp))) detail)
        (noMark _ (by simp))) time) (noMark _ (by simp))
  | failed text => exact append (append file (noMark _ (by simp))) detail

/-- A result without opening brackets in its texts can be shown. -/
theorem canBeShown_of_noBracket [Host] {r : ChainResult} (file : '[' ∉ r.file.display.toList)
    (detail : '[' ∉ (detailOf r).toList) : CanBeShown r := by
  apply Console.Shown.line
  rw [toList_resultLine]
  apply shown_word r.isStyle_style r.isPlain_word
  rw [List.mem_cons, not_or]
  exact ⟨by decide, noBracket_said file detail⟩

/-! ### Results of a batch -/

section Batch

variable [Host]

/-- Tells what became of the files of a batch. -/
def tellResults (results : List ChainResult) : Work Nat :=
  (sayLines (results.map resultLine)).andThen (fun _ => verdict results)

/-- How a batch with some results ends. -/
structure BatchEnds (results : List ChainResult) (ending : Except Fault Nat) : Prop where
  /-- If all lines can be shown, the code is zero if all files were made, and else one. -/
  shown : (∀ r ∈ results, CanBeShown r) →
    ending = .ok (if results.all ChainResult.isMade then 0 else 1)
  /-- If one cannot be shown, the batch ends with the tag that is the reason. -/
  hidden : (∃ r ∈ results, ¬CanBeShown r) → ∃ fault, fault.IsUnshown ∧ ending = .error fault

/-- How a batch ended is told, and the code is zero if all files were made. -/
theorem verdict_eq (results : List ChainResult) (w : World) :
    ∃ line, verdict results w =
      (.ok (if results.all ChainResult.isMade then 0 else 1), w.tell line) := by
  have countFailed : results.countP (fun r => !r.isMade) = 0 ↔
      results.all ChainResult.isMade = true := by
    rw [List.countP_eq_zero, List.all_eq_true]
    simp
  unfold verdict
  split
  · rename_i noneFailed
    rw [if_pos (countFailed.1 noneFailed)]
    exact exists_told (Console.exists_successLine _) 0 w
  · rename_i someFailed
    rw [if_neg (fun allMade => someFailed (countFailed.2 allMade))]
    exact exists_told (Console.exists_errorLine _) 1 w

theorem tellResults_ends (results : List ChainResult) (w : World) :
    BatchEnds results (tellResults results w).1 := by
  have shown : (sayLines (results.map resultLine) w).1 = .ok () ↔ ∀ r ∈ results, CanBeShown r := by
    rw [sayLines_ok_iff, List.forall_mem_map]
    exact Iff.rfl
  have said := yields_sayLines (results.map resultLine) w
  unfold tellResults Work.andThen
  cases ended : sayLines (results.map resultLine) w with
  | mk answer w' =>
      rw [ended] at shown said
      cases answer with
      | ok =>
          have all := shown.1 rfl
          obtain ⟨line, isVerdict⟩ := verdict_eq results w'
          refine ⟨fun _ => by simp only [isVerdict], ?_⟩
          rintro ⟨r, mem, hidden⟩
          exact absurd (all r mem) hidden
      | error fault =>
          refine ⟨?_, fun _ => ⟨fault, said, rfl⟩⟩
          intro all
          cases shown.2 all

/-- A batch ends with the code zero or one, or with a tag that keeps a line from being shown. -/
theorem BatchEnds.yields {results : List ChainResult} {ending : Except Fault Nat}
    (ends : BatchEnds results ending) :
    Yields Fault.IsUnshown (fun code => code = 0 ∨ code = 1) ending := by
  by_cases all : ∀ r ∈ results, CanBeShown r
  · rw [ends.shown all]
    split
    · exact Or.inl rfl
    · exact Or.inr rfl
  · obtain ⟨fault, isUnshown, rfl⟩ := ends.hidden (by simpa using all)
    exact isUnshown

end Batch

end CommandLine

end LayeredFiles
