import Mathlib.Control.Monad.Basic
import Scrutiny.Proofs.Indentation
import Scrutiny.Proofs.Outcome

/-! The line that is nested too deep.

The check goes through the lines of a source with the indentation of the line before at hand, and stops at the first
line that is too far in, and by one tab more than that. Which line this is, is said here without the scan
(`IsFirstTooDeep`), with the lines counted from one. The scan counts them from zero, so it reports the number of the
line before (`report_eq_some_iff`). -/
namespace Scrutiny

namespace Text

/-- The characters of a piece are characters of the text. -/
theorem mem_of_mem_pieces {separator c : Char} {text piece : List Char} (hpiece : piece ∈ pieces separator text)
    (hc : c ∈ piece) : c ∈ text := by
  induction text generalizing piece with
  | nil =>
    rw [List.mem_singleton.mp hpiece] at hc
    cases hc
  | cons first rest ih =>
    rw [pieces] at hpiece
    split at hpiece
    · rcases List.mem_cons.mp hpiece with rfl | hpiece
      · cases hc
      · exact List.mem_cons_of_mem _ (ih hpiece hc)
    · cases hpieces : pieces separator rest with
      | nil => exact absurd hpieces (pieces_ne_nil separator rest)
      | cons head tail =>
        rw [hpieces] at hpiece ih
        rcases List.mem_cons.mp hpiece with rfl | hpiece
        · rcases List.mem_cons.mp hc with rfl | hc
          · exact List.mem_cons_self
          · exact List.mem_cons_of_mem _ (ih List.mem_cons_self hc)
        · exact List.mem_cons_of_mem _ (ih (List.mem_cons_of_mem _ hpiece) hc)

end Text

namespace Layout
variable {size level : Nat}

/-! ### Lines -/

/-- The indentation of the line with a number, where the first line is line one; zero where there is no such line. -/
def indentAt (lines : List (List Char)) (number : Nat) : Nat :=
  Text.leadingSpace (([] :: lines).getD number [])

/-- A line that is further in than the level allows, and by one tab more than the line before it. The first line has
nothing before it, which counts as no indentation. -/
def IsTooDeep (size level : Nat) (lines : List (List Char)) (number : Nat) : Prop :=
  size * level < indentAt lines number ∧ indentAt lines number = indentAt lines (number - 1) + size

structure IsFirstTooDeep (size level : Nat) (lines : List (List Char)) (number : Nat) : Prop where
  tooDeep : IsTooDeep size level lines number
  first : ∀ earlier < number, ¬ IsTooDeep size level lines earlier

/-- The same for lines that follow a line, counted from zero. -/
def FollowsTooDeep (size level : Nat) (before : List Char) (lines : List (List Char)) (index : Nat) : Prop :=
  size * level < Text.leadingSpace (lines.getD index []) ∧
    Text.leadingSpace (lines.getD index []) = Text.leadingSpace ((before :: lines).getD index []) + size

instance (lines : List (List Char)) (number : Nat) : Decidable (IsTooDeep size level lines number) :=
  inferInstanceAs (Decidable (_ ∧ _))

theorem isTooDeep_succ {lines : List (List Char)} {index : Nat} :
    IsTooDeep size level lines (index + 1) ↔ FollowsTooDeep size level [] lines index := Iff.rfl

theorem not_isTooDeep_zero (lines : List (List Char)) : ¬ IsTooDeep size level lines 0 :=
  fun h => Nat.not_lt_zero _ h.1

theorem isFirstTooDeep_succ {lines : List (List Char)} {index : Nat} :
    IsFirstTooDeep size level lines (index + 1) ↔
      FollowsTooDeep size level [] lines index ∧ ∀ earlier < index, ¬ FollowsTooDeep size level [] lines earlier := by
  constructor
  · intro h
    exact ⟨isTooDeep_succ.mp h.tooDeep, fun earlier hlt => mt isTooDeep_succ.mpr (h.first _ (Nat.succ_lt_succ hlt))⟩
  · rintro ⟨hdeep, hfirst⟩
    refine ⟨isTooDeep_succ.mpr hdeep, fun earlier hlt => ?_⟩
    cases earlier with
    | zero => exact not_isTooDeep_zero lines
    | succ earlier => exact mt isTooDeep_succ.mp (hfirst earlier (Nat.lt_of_succ_lt_succ hlt))

/-! ### The scan -/

instance (before : List Char) (lines : List (List Char)) (index : Nat) :
    Decidable (FollowsTooDeep size level before lines index) :=
  inferInstanceAs (Decidable (_ ∧ _))

/-- One step of the scan: it stops at the line, or the line becomes the line before. -/
theorem nestedLine?_cons {before line : List Char} {rest : List (List Char)} {number : Nat} (htabs : '\t' ∉ line) :
    nestedLine? size level (Text.leadingSpace before) number (line :: rest) =
      if FollowsTooDeep size level before (line :: rest) 0 then some number
      else nestedLine? size level (Text.leadingSpace line) (number + 1) rest := by
  have hdeep : ((size * level : Int) < Text.leadingSpace line &&
      (Text.leadingSpace line : Int) - Text.leadingSpace before = size) = true ↔
      FollowsTooDeep size level before (line :: rest) 0 := by
    rw [Bool.and_eq_true, decide_eq_true_eq, decide_eq_true_eq, ← Int.natCast_mul, Int.ofNat_lt]
    refine and_congr_right fun _ => ?_
    show _ ↔ Text.leadingSpace line = Text.leadingSpace before + size
    omega
  rw [nestedLine?, Text.indentation_of_no_tabs _ htabs]
  simp only [hdeep]

section Scan
variable {number : Nat} {lines : List (List Char)}

/-- The scan finds the first line that is too deep, and counts from where it starts. -/
theorem nestedLine?_eq_some_iff (htabs : ∀ line ∈ lines, '\t' ∉ line) (before : List Char) {found : Nat} :
    nestedLine? size level (Text.leadingSpace before) number lines = some found ↔
      ∃ index, found = number + index ∧ FollowsTooDeep size level before lines index ∧
        ∀ earlier < index, ¬ FollowsTooDeep size level before lines earlier := by
  induction lines generalizing before number with
  | nil =>
    refine ⟨fun h => (nomatch h), ?_⟩
    rintro ⟨index, _, hdeep, _⟩
    exact absurd hdeep.1 (Nat.not_lt_zero _)
  | cons line rest ih =>
    obtain ⟨hline, hrest⟩ := List.forall_mem_cons.mp htabs
    rw [nestedLine?_cons hline]
    by_cases hdeep : FollowsTooDeep size level before (line :: rest) 0
    · rw [if_pos hdeep]
      constructor
      · intro h
        exact ⟨0, (Option.some.inj h).symm, hdeep, fun earlier hlt => absurd hlt (Nat.not_lt_zero _)⟩
      · rintro ⟨index, rfl, _, hfirst⟩
        cases index with
        | zero => rfl
        | succ index => exact absurd hdeep (hfirst 0 (Nat.succ_pos index))
    · rw [if_neg hdeep, ih hrest]
      constructor
      · rintro ⟨index, rfl, hindex, hfirst⟩
        refine ⟨index + 1, by omega, hindex, fun earlier hlt => ?_⟩
        cases earlier with
        | zero => exact hdeep
        | succ earlier => exact hfirst earlier (Nat.lt_of_succ_lt_succ hlt)
      · rintro ⟨index, rfl, hindex, hfirst⟩
        cases index with
        | zero => exact absurd hindex hdeep
        | succ index =>
          exact ⟨index, by omega, hindex, fun earlier hlt => hfirst (earlier + 1) (Nat.succ_lt_succ hlt)⟩

theorem nestedLine?_eq_none_iff (htabs : ∀ line ∈ lines, '\t' ∉ line) (before : List Char) :
    nestedLine? size level (Text.leadingSpace before) number lines = none ↔
      ∀ index, ¬ FollowsTooDeep size level before lines index := by
  induction lines generalizing before number with
  | nil => exact ⟨fun _ index hdeep => absurd hdeep.1 (Nat.not_lt_zero _), fun _ => rfl⟩
  | cons line rest ih =>
    obtain ⟨hline, hrest⟩ := List.forall_mem_cons.mp htabs
    rw [nestedLine?_cons hline]
    by_cases hdeep : FollowsTooDeep size level before (line :: rest) 0
    · rw [if_pos hdeep]
      exact ⟨fun h => (nomatch h), fun h => absurd hdeep (h 0)⟩
    · rw [if_neg hdeep, ih hrest]
      constructor
      · intro h index
        cases index with
        | zero => exact hdeep
        | succ index => exact h index
      · exact fun h index => h (index + 1)

end Scan

/-! ### The check -/

section Report
variable {s : Source}

theorem tabs_of_mem_lines (htabs : '\t' ∉ s.content.toList) : ∀ line ∈ s.lines, '\t' ∉ line :=
  fun _ hline htab => htabs (Text.mem_of_mem_pieces hline htab)

/-- A source is reported with the number before that of its first line that is too deep. -/
theorem report_eq_some_iff (htabs : '\t' ∉ s.content.toList) {message : String} :
    (nestedLine? size level 0 0 s.lines).map s.atLine = some message ↔
      ∃ number, IsFirstTooDeep size level s.lines number ∧ message = s.atLine (number - 1) := by
  rw [Option.map_eq_some_iff]
  constructor
  · rintro ⟨found, hfound, rfl⟩
    obtain ⟨index, rfl, hfirst⟩ := (nestedLine?_eq_some_iff (tabs_of_mem_lines htabs) []).mp hfound
    exact ⟨index + 1, isFirstTooDeep_succ.mpr hfirst, by rw [Nat.zero_add, Nat.add_sub_cancel]⟩
  · rintro ⟨number, hfirst, rfl⟩
    cases number with
    | zero => exact absurd hfirst.tooDeep (not_isTooDeep_zero _)
    | succ index =>
      refine ⟨index, ?_, rfl⟩
      exact (nestedLine?_eq_some_iff (tabs_of_mem_lines htabs) []).mpr
        ⟨index, (Nat.zero_add index).symm, isFirstTooDeep_succ.mp hfirst⟩

theorem report_eq_none_iff (htabs : '\t' ∉ s.content.toList) :
    (nestedLine? size level 0 0 s.lines).map s.atLine = none ↔ ∀ number, ¬ IsTooDeep size level s.lines number := by
  rw [Option.map_eq_none_iff]
  refine (nestedLine?_eq_none_iff (tabs_of_mem_lines htabs) []).trans ⟨fun h number => ?_, fun h index => ?_⟩
  · cases number with
    | zero => exact not_isTooDeep_zero _
    | succ index => exact mt isTooDeep_succ.mp (h index)
  · exact mt isTooDeep_succ.mpr (h (index + 1))

end Report

section Settings
variable {c : Context} {p : Project}

theorem nested_eq (hsize : c.settings.tabSize = size) (hlevel : c.settings.maxIndentationLevel = level)
    (hrange : Text.isTabSize size = true) :
    nested c p = firstFinding (fun s => .ok ((nestedLine? size level 0 0 s.lines).map s.atLine))
      (p.sourcesOutside c.settings.deepNestingPathsToIgnore) := by
  have htab : tabSize size = .ok size := if_pos hrange
  unfold nested
  rw [hsize, hlevel, htab]
  rfl

theorem nested_of_not_isTabSize (hrange : Text.isTabSize c.settings.tabSize = false) :
    nested c p =
      if (p.sourcesOutside c.settings.deepNestingPathsToIgnore).isEmpty then .ok none else .error .tabSize := by
  have htab : tabSize c.settings.tabSize = .error .tabSize := if_neg (by simp [hrange])
  unfold nested
  rw [htab]
  cases p.sourcesOutside c.settings.deepNestingPathsToIgnore with
  | nil => rfl
  | cons s rest => rfl

end Settings
end Layout

/-- **A source is reported as nested too deep with the number before that of the line, counted from one.** The source is
the first one outside of the ignored paths that has such a line, and the line is its first one. Nothing is reported just
when no source has one. A tab size that is out of range is an error as soon as there is a source to look at. -/
theorem nesting_report_names_line_before {c : Context} {p : Project} {size level : Nat}
    (hsize : c.settings.tabSize = size) (hlevel : c.settings.maxIndentationLevel = level)
    (htabs : ∀ s ∈ p.sources, '\t' ∉ s.content.toList) :
    let sources := p.sourcesOutside c.settings.deepNestingPathsToIgnore
    (Text.isTabSize size = true →
      (∀ message, Layout.nested c p = .ok (some message) ↔
        ∃ before s after number, sources = before ++ s :: after ∧
          (∀ k ∈ before, ∀ other, ¬ Layout.IsTooDeep size level k.lines other) ∧
          Layout.IsFirstTooDeep size level s.lines number ∧ message = s.atLine (number - 1)) ∧
      (Layout.nested c p = .ok none ↔ ∀ s ∈ sources, ∀ number, ¬ Layout.IsTooDeep size level s.lines number)) ∧
    (Text.isTabSize size = false →
      Layout.nested c p = if sources.isEmpty then .ok none else .error .tabSize) := by
  intro sources
  have hplain : ∀ s ∈ sources, '\t' ∉ s.content.toList := fun s hs => htabs s (List.mem_filter.mp hs).1
  refine ⟨fun hrange => ?_, fun hrange => Layout.nested_of_not_isTabSize (hsize ▸ hrange)⟩
  rw [Layout.nested_eq hsize hlevel hrange]
  refine ⟨fun message => Outcome.firstFinding_eq_some_iff.trans ?_, Outcome.firstFinding_eq_none_iff.trans ?_⟩
  · have hreached {before after : List Source} {s : Source} (hsplit : sources = before ++ s :: after) :
        '\t' ∉ s.content.toList ∧ ∀ k ∈ before, '\t' ∉ k.content.toList := by
      rw [hsplit] at hplain
      exact ⟨hplain s (by simp), fun k hk => hplain k (by simp [hk])⟩
    constructor
    · rintro ⟨before, s, after, hsplit, hs, hbefore⟩
      obtain ⟨hplain, hplains⟩ := hreached hsplit
      obtain ⟨number, hfirst, hmessage⟩ := (Layout.report_eq_some_iff hplain).mp (Except.ok.inj hs)
      refine ⟨before, s, after, number, hsplit, fun k hk => ?_, hfirst, hmessage⟩
      exact (Layout.report_eq_none_iff (hplains k hk)).mp (Except.ok.inj (hbefore k hk))
    · rintro ⟨before, s, after, number, hsplit, hbefore, hfirst, hmessage⟩
      obtain ⟨hplain, hplains⟩ := hreached hsplit
      refine ⟨before, s, after, hsplit, ?_, fun k hk => ?_⟩
      · exact congrArg _ ((Layout.report_eq_some_iff hplain).mpr ⟨number, hfirst, hmessage⟩)
      · exact congrArg _ ((Layout.report_eq_none_iff (hplains k hk)).mpr (hbefore k hk))
  · refine forall₂_congr fun s hs => ?_
    rw [Except.ok.injEq, Layout.report_eq_none_iff (hplain s hs)]

/-- A continued line is further in without being nested; the line after it that is nested is the fourth. -/
theorem fourth_line_is_reported_as_third :
    let plain : Source := ⟨"p/a.py", "a", none⟩
    let s : Source := ⟨"p/m.py", "a\n      b\n  c\n    d", none⟩
    let c : Context :=
      { disk := { top := .node { name := "" } [] }, path := "p",
        settings := { tabSize := 2, maxIndentationLevel := 1 } }
    let p : Project := { path := "p", sources := [plain, s] }
    Layout.IsFirstTooDeep 2 1 s.lines 4 ∧ Layout.nested c p = .ok (some "m.py:3") := by
  intro plain s c p
  have hdeep : Layout.IsFirstTooDeep 2 1 s.lines 4 := by
    constructor
    · decide +kernel
    · decide +kernel
  have houtside : p.sourcesOutside c.settings.deepNestingPathsToIgnore = [plain] ++ s :: [] :=
    List.filter_eq_self.mpr (by decide +kernel)
  have hplain : ∀ k ∈ [plain], ∀ other, ¬ Layout.IsTooDeep 2 1 k.lines other := by
    intro k hk
    rw [List.mem_singleton.mp hk]
    exact (Layout.report_eq_none_iff (by decide +kernel)).mp (by decide +kernel)
  have hsize : c.settings.tabSize = (2 : Nat) := rfl
  have hlevel : c.settings.maxIndentationLevel = (1 : Nat) := rfl
  have htabs : ∀ s ∈ p.sources, '\t' ∉ s.content.toList := by decide +kernel
  obtain ⟨hreport, _⟩ := (nesting_report_names_line_before hsize hlevel htabs).1 (by decide)
  exact ⟨hdeep, (hreport _).mpr ⟨[plain], s, [], 4, houtside, hplain, hdeep, by decide +kernel⟩⟩

/-- With the usual settings, the first line that is too deep is the sixth, and the fifth is reported, which is not. -/
theorem line_before_nested_one_is_reported :
    let s : Source :=
      ⟨"p/m.py", "a\n    b\n        c\n            d\n                e\n                    f", none⟩
    let c : Context := { disk := { top := .node { name := "" } [] }, path := "p" }
    let p : Project := { path := "p", sources := [s] }
    Layout.nested c p = .ok (some (s.atLine 5)) ∧ ¬ Layout.IsTooDeep 4 4 s.lines 5 ∧
      Layout.IsTooDeep 4 4 s.lines 6 := by
  intro s c p
  refine ⟨?_, ?_, ?_⟩
  · decide +kernel
  · decide +kernel
  · decide +kernel

end Scrutiny
