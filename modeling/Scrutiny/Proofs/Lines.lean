import Mathlib.Data.List.TakeWhile
import Scrutiny.Proofs.Paths
import Scrutiny.Text.Lines

/-! How many lines a text has.

A text is cut at its line ends. An empty piece after the last of them is no line, while a last piece without a line end
is one (`wholeLines`). A reader takes one line after the other and stops at a limit, so it comes to the limit just when
the text has that many lines (`countLines_eq_iff`). -/
namespace Scrutiny.Text

/-- The lines of a text: the pieces between line ends, but for an empty last one. -/
def wholeLines (text : List Char) : List (List Char) :=
  if (linesOf text).getLast? = some [] then (linesOf text).dropLast else linesOf text

theorem wholeLines_nil : wholeLines [] = [] := rfl

theorem afterLine_of_not_mem {line : List Char} (h : '\n' ∉ line) : afterLine line = [] := by
  have hall : ∀ c ∈ line, decide (c ≠ '\n') = true := fun c hc => decide_eq_true fun heq => h (heq ▸ hc)
  rw [afterLine, List.dropWhile_eq_nil_iff.mpr hall, List.drop_nil]

theorem afterLine_append {line : List Char} (h : '\n' ∉ line) (rest : List Char) :
    afterLine (line ++ '\n' :: rest) = rest := by
  have hall : ∀ c ∈ line, decide (c ≠ '\n') = true := fun c hc => decide_eq_true fun heq => h (heq ▸ hc)
  rw [afterLine, List.dropWhile_append_of_pos hall]
  rfl

theorem linesOf_append {line : List Char} (h : '\n' ∉ line) (rest : List Char) :
    linesOf (line ++ '\n' :: rest) = line :: linesOf rest := by
  rw [linesOf, pieces_append, pieces_of_not_mem h]
  rfl

theorem wholeLines_append {line : List Char} (h : '\n' ∉ line) (rest : List Char) :
    wholeLines (line ++ '\n' :: rest) = line :: wholeLines rest := by
  have hne : linesOf rest ≠ [] := pieces_ne_nil '\n' rest
  have hlast : (line :: linesOf rest).getLast? = (linesOf rest).getLast? := by
    rw [List.getLast?_cons, List.getLast?_eq_some_getLast hne]
    rfl
  rw [wholeLines, wholeLines, linesOf_append h, hlast, List.dropLast_cons_of_ne_nil hne]
  split
  · rfl
  · rfl

theorem wholeLines_of_not_mem {line : List Char} (h : '\n' ∉ line) (hne : line ≠ []) : wholeLines line = [line] := by
  rw [wholeLines, linesOf, pieces_of_not_mem h]
  simp [hne]

/-- Reading a line leaves one line less. -/
theorem length_wholeLines {text : List Char} (h : text ≠ []) :
    (wholeLines text).length = (wholeLines (afterLine text)).length + 1 := by
  by_cases hend : '\n' ∈ text
  · obtain ⟨line, rest, rfl, hline⟩ := List.eq_append_cons_of_mem hend
    rw [afterLine_append hline, wholeLines_append hline, List.length_cons]
  · rw [afterLine_of_not_mem hend, wholeLines_nil, wholeLines_of_not_mem hend h]
    rfl

/-- Counting stops at the number of lines, or before it at the limit. -/
theorem countLines_eq_min (limit : Nat) (text : List Char) :
    countLines limit text = min limit (wholeLines text).length := by
  induction limit generalizing text with
  | zero => simp [countLines]
  | succ limit ih =>
    cases text with
    | nil => simp [countLines, wholeLines_nil]
    | cons c rest =>
      rw [countLines, ih, length_wholeLines (List.cons_ne_nil c rest)]
      omega

theorem countLines_eq_iff {limit : Nat} {text : List Char} :
    countLines limit text = limit ↔ limit ≤ (wholeLines text).length := by
  rw [countLines_eq_min]
  omega

end Scrutiny.Text
