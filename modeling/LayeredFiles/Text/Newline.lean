/-
Module: LayeredFiles.Text.Newline
Layer: Text
Purpose: one spelling for line ends. A carriage return, alone or before a line feed, ends a line just
  as a line feed does.
Main exports: unifyNewlines
-/

namespace LayeredFiles.Text

/-- Writes every line end as one line feed. -/
def unifyNewlines : List Char → List Char
  | [] => []
  | '\r' :: '\n' :: rest => '\n' :: unifyNewlines rest
  | c :: rest => (if c = '\r' then '\n' else c) :: unifyNewlines rest

/-- A text without carriage returns stays as it is. -/
theorem unifyNewlines_eq_self {s : List Char} (h : '\r' ∉ s) : unifyNewlines s = s := by
  fun_induction unifyNewlines s with
  | case1 => rfl
  | case2 rest ih => simp at h
  | case3 c rest _ ih =>
    simp only [List.mem_cons, not_or] at h
    rw [ih h.2, if_neg (fun hc => h.1 hc.symm)]

example : unifyNewlines "a\r\nb\rc\n\r".toList = "a\nb\nc\n\n".toList := by decide

end LayeredFiles.Text
