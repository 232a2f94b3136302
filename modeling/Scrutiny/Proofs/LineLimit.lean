import Scrutiny.Proofs.Screening

/-! The limit on the lines of a file.

A line ends with a carriage return and a line feed, with one of the two alone, or with the text. This is said here of a
text as it is (`MadeOf`), where the reader first turns all line ends into one and then cuts at it. Both come to the same
number (`madeOf_iff`), and the reader, which stops at the limit, tells whether this number comes up to it. -/
namespace Scrutiny

namespace Text

/-- A line without its end. -/
def IsBare (line : List Char) : Prop :=
  '\n' ∉ line ∧ '\r' ∉ line

/-- What ends a line before the rest of a text. Before a line feed, a carriage return is no line end of its own. -/
inductive EndsLine : List Char → List Char → Prop
  | feed (rest : List Char) : EndsLine ['\n'] rest
  | both (rest : List Char) : EndsLine ['\r', '\n'] rest
  | back {rest : List Char} : rest.head? ≠ some '\n' → EndsLine ['\r'] rest

/-- A text is made of so many lines. The last one need not have an end, if there is anything in it. -/
inductive MadeOf : Nat → List Char → Prop
  | nothing : MadeOf 0 []
  | last {line : List Char} : IsBare line → line ≠ [] → MadeOf 1 line
  | ended {n : Nat} {line lineEnd rest : List Char} : IsBare line → EndsLine lineEnd rest → MadeOf n rest →
      MadeOf (n + 1) (line ++ (lineEnd ++ rest))

/-! ### Line ends are translated one by one -/

theorem translateLineEnds_cons {c : Char} (h : c ≠ '\r') (rest : List Char) :
    translateLineEnds (c :: rest) = c :: translateLineEnds rest := by
  rw [translateLineEnds]
  · exact fun _ hc => absurd hc h
  · exact h

theorem translateLineEnds_append {line : List Char} (h : '\r' ∉ line) (rest : List Char) :
    translateLineEnds (line ++ rest) = line ++ translateLineEnds rest := by
  induction line with
  | nil => rfl
  | cons c line ih =>
    obtain ⟨hc, hline⟩ := not_or.mp (mt List.mem_cons.mpr h)
    rw [List.cons_append, translateLineEnds_cons (Ne.symm hc), ih hline]
    rfl

theorem EndsLine.translateLineEnds_append {lineEnd rest : List Char} (h : EndsLine lineEnd rest) :
    translateLineEnds (lineEnd ++ rest) = '\n' :: translateLineEnds rest := by
  cases h with
  | feed => exact translateLineEnds_cons (by decide) rest
  | both => rfl
  | back hrest =>
    cases rest with
    | nil => rfl
    | cons c rest =>
      show translateLineEnds ('\r' :: c :: rest) = _
      rw [translateLineEnds]
      intro more hmore
      rw [hmore] at hrest
      exact hrest rfl

/-! ### Two ways to count -/

/-- Whatever number of lines a text is made of, so many are left between the translated line ends. -/
theorem MadeOf.eq_length {n : Nat} {text : List Char} (h : MadeOf n text) :
    n = (wholeLines (translateLineEnds text)).length := by
  induction h with
  | nothing => rfl
  | @last line hline hne =>
    have htext : translateLineEnds line = line := by
      simpa [translateLineEnds] using translateLineEnds_append hline.2 []
    rw [htext, wholeLines_of_not_mem hline.1 hne]
    rfl
  | ended hline hend _ ih =>
    rw [translateLineEnds_append hline.2, hend.translateLineEnds_append, wholeLines_append hline.1, List.length_cons,
      ih]

/-- A character before the first line becomes part of it. -/
theorem exists_madeOf_cons {c : Char} (hfeed : c ≠ '\n') (hback : c ≠ '\r') {n : Nat} {text : List Char}
    (h : MadeOf n text) : ∃ m, MadeOf m (c :: text) := by
  have hbare {line : List Char} (hline : IsBare line) : IsBare (c :: line) :=
    ⟨List.not_mem_cons_of_ne_of_not_mem hfeed.symm hline.1, List.not_mem_cons_of_ne_of_not_mem hback.symm hline.2⟩
  cases h with
  | nothing => exact ⟨1, .last (hbare ⟨by simp, by simp⟩) (by simp)⟩
  | last hline => exact ⟨1, .last (hbare hline) (by simp)⟩
  | ended hline hend hrest => exact ⟨_, .ended (hbare hline) hend hrest⟩

/-- Every text is made of some number of lines. The cases are those of the translation. -/
theorem exists_madeOf (text : List Char) : ∃ n, MadeOf n text := by
  have hnil : IsBare [] := ⟨by simp, by simp⟩
  fun_induction translateLineEnds text with
  | case1 => exact ⟨0, .nothing⟩
  | case2 rest ih =>
    obtain ⟨n, hn⟩ := ih
    exact ⟨n + 1, .ended hnil (.both rest) hn⟩
  | case3 rest hrest ih =>
    obtain ⟨n, hn⟩ := ih
    exact ⟨n + 1, .ended hnil (.back fun hhead => hrest _ (List.eq_cons_of_mem_head? hhead)) hn⟩
  | case4 c rest _ hback ih =>
    obtain ⟨n, hn⟩ := ih
    by_cases hfeed : c = '\n'
    · exact ⟨n + 1, hfeed ▸ .ended hnil (.feed rest) hn⟩
    · exact exists_madeOf_cons hfeed hback hn

theorem madeOf_iff {n : Nat} {text : List Char} :
    MadeOf n text ↔ n = (wholeLines (translateLineEnds text)).length := by
  refine ⟨MadeOf.eq_length, fun h => ?_⟩
  obtain ⟨m, hm⟩ := exists_madeOf text
  rwa [h, ← hm.eq_length]

end Text

/-- **The limit on lines is met just when the file has so many.** The number is that of the pieces between translated
line ends, but for an empty last one, and it is the number of lines that the text is made of: those with any of the line
ends, and a last one without. To count further than the limit does not change the answer. -/
theorem line_limit_is_exact {disk : Disk} {path : String} {file : File} {text : List Char}
    (hfile : disk.openFile path = .ok file) (htext : Text.Utf8.encode text = file.bytes) (limit : Nat) :
    disk.hasLines path limit = .ok (limit ≤ (Text.wholeLines (Text.translateLineEnds text)).length) ∧
    (∀ n, Text.MadeOf n text ↔ n = (Text.wholeLines (Text.translateLineEnds text)).length) ∧
    ∀ further, limit ≤ further →
      disk.hasLines path limit = .ok (limit ≤ Text.countLines further (Text.translateLineEnds text)) := by
  have hlines : disk.hasLines path limit = .ok (limit ≤ (Text.wholeLines (Text.translateLineEnds text)).length) := by
    rw [Disk.hasLines, hfile]
    exact File.hasLines_eq htext limit
  refine ⟨hlines, fun n => Text.madeOf_iff, fun further hfurther => ?_⟩
  rw [hlines, Text.countLines_eq_min]
  congr 2
  exact propext (by omega)

/-- Three lines: one ends in both characters, an empty one in a carriage return alone, and the last one has no end. -/
theorem line_without_end_is_counted :
    let text : List Char := ['x', '\r', '\n', '\r', 'y']
    let file : File := { bytes := [0x78, 0x0D, 0x0A, 0x0D, 0x79] }
    let disk : Disk := { top := .node { name := "" } [.node { name := "p", files := [("m.py", file)] } []] }
    Text.MadeOf 3 text ∧ disk.hasLines "p/m.py" 3 = .ok true ∧ disk.hasLines "p/m.py" 4 = .ok false ∧
      ∀ further, 3 ≤ further → 3 ≤ Text.countLines further (Text.translateLineEnds text) := by
  intro text file disk
  have hbytes : (disk.openFile "p/m.py").map File.bytes = .ok (Text.Utf8.encode text) := by decide +kernel
  cases hfile : disk.openFile "p/m.py" with
  | error failure =>
    rw [hfile] at hbytes
    cases hbytes
  | ok found =>
    rw [hfile] at hbytes
    have htext : Text.Utf8.encode text = found.bytes := (Except.ok.inj hbytes).symm
    obtain ⟨hthree, hlines, hfurther⟩ := line_limit_is_exact hfile htext 3
    have hfour := (line_limit_is_exact hfile htext 4).1
    refine ⟨(hlines 3).mpr (by decide), hthree, hfour, fun further hmore => ?_⟩
    have hsame := Except.ok.inj ((hfurther further hmore).symm.trans hthree)
    exact of_decide_eq_true (hsame.trans (by decide))

end Scrutiny
