import Scrutiny.Check.Layout

/-! What the indentation of a line measures.

The white space is counted in the line with its tabs expanded, but it is taken from the length of the line as it is
written. So the count falls short of the white space by as much as the tabs widen the line (`indentation_eq_sub`), the
tabs behind the indentation included. It is exact where every tab is one column wide, and a line without tabs is the
usual case of that (`indentation_of_no_tabs`). -/
namespace Scrutiny

namespace Text

/-- The number of white-space characters at the start of a text. -/
def leadingSpace (text : List Char) : Nat :=
  (text.takeWhile isSpace).length

/-- The column in which a text ends. -/
def columnOf (size : Nat) (text : List Char) : Nat :=
  text.foldl (columnAfter size) 0

/-- Every tab of a line stands right before a tab stop. -/
def HasNarrowTabs (size : Nat) (line : List Char) : Prop :=
  ∀ before after, line = before ++ '\t' :: after → size ∣ columnOf size before + 1

theorem leadingSpace_add_length (text : List Char) :
    leadingSpace text + (text.dropWhile isSpace).length = text.length := by
  rw [leadingSpace, ← List.length_append, List.takeWhile_append_dropWhile]

/-! ### Widths -/

section Widths
variable {size column : Nat} {c : Char} {text : List Char}

theorem charWidth_of_ne_tab (h : c ≠ '\t') : charWidth size column c = 1 := if_pos h

theorem charWidth_tab (hpos : 0 < size) : charWidth size column '\t' = size - column % size := by
  simp [charWidth, Nat.ne_of_gt hpos]

theorem charWidth_pos (hpos : 0 < size) (column : Nat) (c : Char) : 0 < charWidth size column c := by
  by_cases htab : c = '\t'
  · have hlt := Nat.mod_lt column hpos
    rw [htab, charWidth_tab hpos]
    omega
  · rw [charWidth_of_ne_tab htab]
    exact Nat.one_pos

/-- A tab is one column wide right before a tab stop, and only there. -/
theorem charWidth_tab_eq_one_iff (hpos : 0 < size) : charWidth size column '\t' = 1 ↔ size ∣ column + 1 := by
  have hlt := Nat.mod_lt column hpos
  rw [charWidth_tab hpos, Nat.dvd_iff_mod_eq_zero]
  constructor
  · intro h
    have hlast : column % size = size - 1 := by omega
    rw [Nat.add_mod, hlast]
    by_cases hone : size = 1
    · simp [hone]
    · rw [Nat.mod_eq_of_lt (show 1 < size by omega), Nat.sub_add_cancel hpos, Nat.mod_self]
  · intro h
    by_cases hlast : column % size + 1 < size
    · rw [Nat.add_mod, Nat.mod_eq_of_lt (show 1 < size by omega), Nat.mod_eq_of_lt hlast] at h
      omega
    · omega

theorem length_le_lengthFrom (hpos : 0 < size) (column : Nat) (text : List Char) :
    text.length ≤ lengthFrom size column text := by
  induction text generalizing column with
  | nil => exact Nat.le_refl _
  | cons c rest ih =>
    have hc := charWidth_pos hpos column c
    have hrest := ih (columnAfter size column c)
    rw [lengthFrom, List.length_cons]
    omega

/-- A text keeps its length where each of its tabs keeps its own. The induction goes along the text, with the column it
starts in. -/
theorem lengthFrom_eq_length_iff (hpos : 0 < size) :
    lengthFrom size column text = text.length ↔
      ∀ before after, text = before ++ '\t' :: after → size ∣ before.foldl (columnAfter size) column + 1 := by
  induction text generalizing column with
  | nil => simp [lengthFrom]
  | cons c rest ih =>
    have hc := charWidth_pos hpos column c
    have hrest := length_le_lengthFrom hpos (columnAfter size column c) rest
    have hsplit : lengthFrom size column (c :: rest) = (c :: rest).length ↔
        charWidth size column c = 1 ∧ lengthFrom size (columnAfter size column c) rest = rest.length := by
      rw [lengthFrom, List.length_cons]
      omega
    rw [hsplit, ih]
    constructor
    · rintro ⟨hone, hlater⟩ before after htext
      cases before with
      | nil =>
        obtain ⟨rfl, rfl⟩ := List.cons.inj htext
        exact (charWidth_tab_eq_one_iff hpos).mp hone
      | cons first before =>
        obtain ⟨rfl, rfl⟩ := List.cons.inj htext
        exact hlater before after rfl
    · intro hall
      refine ⟨?_, fun before after htext => ?_⟩
      · by_cases htab : c = '\t'
        · subst htab
          exact (charWidth_tab_eq_one_iff hpos).mpr (hall [] rest rfl)
        · exact charWidth_of_ne_tab htab
      · subst htext
        exact hall (c :: before) after rfl

theorem expandTabsFrom_of_no_tabs (h : '\t' ∉ text) : expandTabsFrom size column text = text := by
  induction text generalizing column with
  | nil => rfl
  | cons c rest ih =>
    obtain ⟨hc, hrest⟩ := not_or.mp (mt List.mem_cons.mpr h)
    rw [expandTabsFrom, if_neg (Ne.symm hc), ih hrest]
    rfl

/-- Tabs at the start run from tab stop to tab stop. -/
theorem expandTabsFrom_tabs (hpos : 0 < size) (tabs : Nat) (hstop : size ∣ column) :
    expandTabsFrom size column (List.replicate tabs '\t' ++ text) =
      List.replicate (tabs * size) ' ' ++ expandTabsFrom size (column + tabs * size) text := by
  induction tabs generalizing column with
  | zero => simp
  | succ tabs ih =>
    have hwidth : charWidth size column '\t' = size := by
      rw [charWidth_tab hpos, Nat.mod_eq_zero_of_dvd hstop, Nat.sub_zero]
    have hnext : columnAfter size column '\t' = column + size := by
      simp [columnAfter, hwidth]
    rw [List.replicate_succ, List.cons_append, expandTabsFrom, if_pos rfl, hwidth, hnext,
      ih (Nat.dvd_add hstop (Nat.dvd_refl size)), ← List.append_assoc, List.replicate_append_replicate]
    have hcount : size + tabs * size = (tabs + 1) * size := by rw [Nat.succ_mul, Nat.add_comm]
    rw [hcount, Nat.add_assoc, hcount]

end Widths

/-! ### Lines -/

section Lines
variable {size : Nat} {line : List Char}

/-- The count falls short of the white space by what the tabs add to the line. -/
theorem indentation_eq_sub (size : Int) (line : List Char) :
    indentation size line =
      leadingSpace (expandTabs size line) - ((expandTabs size line).length - line.length : Int) := by
  have hparts := leadingSpace_add_length (expandTabs size line)
  rw [indentation_eq]
  omega

theorem indentation_eq_leadingSpace_iff (hpos : 0 < size) (line : List Char) :
    indentation size line = leadingSpace (expandTabs size line) ↔ HasNarrowTabs size line := by
  have hlength : (expandTabs size line).length = line.length ↔ HasNarrowTabs size line := by
    rw [expandTabs, Int.toNat_natCast, length_expandTabsFrom]
    exact lengthFrom_eq_length_iff hpos
  rw [indentation_eq_sub, ← hlength]
  omega

/-- Without tabs the count is the white space of the line itself, whatever the tab size. -/
theorem indentation_of_no_tabs (size : Int) (h : '\t' ∉ line) : indentation size line = leadingSpace line := by
  rw [indentation_eq_sub, expandTabs, expandTabsFrom_of_no_tabs h]
  omega

/-- The white space of a line that starts with tabs. -/
theorem leadingSpace_tabs (hpos : 0 < size) (tabs : Nat) {c : Char} (hc : isSpace c = false) (rest : List Char) :
    leadingSpace (expandTabs size (List.replicate tabs '\t' ++ c :: rest)) = tabs * size := by
  have hspaces : ∀ k ∈ List.replicate (tabs * size) ' ', isSpace k = true := by
    intro k hk
    rw [List.eq_of_mem_replicate hk]
    decide
  have hplain : c ≠ '\t' := by
    rintro rfl
    exact absurd hc (by decide)
  rw [leadingSpace, expandTabs, Int.toNat_natCast, expandTabsFrom_tabs hpos tabs (Nat.dvd_zero size),
    List.takeWhile_append_of_pos hspaces, expandTabsFrom, if_neg hplain, List.singleton_append,
    List.takeWhile_cons_of_neg (by simp [hc]), List.append_nil, List.length_replicate]

/-- Of a line that starts with tabs, each of them is counted once. -/
theorem indentation_tabs (hpos : 0 < size) (tabs : Nat) {c : Char} (hc : isSpace c = false) {rest : List Char}
    (hrest : '\t' ∉ rest) : indentation size (List.replicate tabs '\t' ++ c :: rest) = tabs := by
  have hplain : '\t' ∉ c :: rest := by
    intro h
    rcases List.mem_cons.mp h with rfl | h
    · exact absurd hc (by decide)
    · exact hrest h
  have hlength : (expandTabs size (List.replicate tabs '\t' ++ c :: rest)).length =
      tabs * size + (c :: rest).length := by
    rw [expandTabs, Int.toNat_natCast, expandTabsFrom_tabs hpos tabs (Nat.dvd_zero size), List.length_append,
      List.length_replicate, expandTabsFrom_of_no_tabs hplain]
  rw [indentation_eq_sub, leadingSpace_tabs hpos tabs hc, hlength, List.length_append, List.length_replicate]
  omega

end Lines

end Text

theorem Layout.map_tabSize {α : Type} (size : Int) (f : Int → α) :
    (tabSize size).map f = if Text.isTabSize size then .ok (f size) else .error .tabSize := by
  unfold tabSize
  split <;> rfl

/-- **The indentation is the white space that the expanded line starts with just when every tab stands right before a
tab stop.** Otherwise it falls short by what the tabs add to the line, so that a line which starts with tabs has each of
them counted once, and not as wide as it is. -/
theorem indentation_is_leading_space_iff {size : Nat} (hpos : 0 < size) :
    (∀ line, (Layout.tabSize size).map (Text.indentation · line) =
        .ok (Text.leadingSpace (Text.expandTabs size line) : Int) ↔
      Text.isTabSize size = true ∧ Text.HasNarrowTabs size line) ∧
    (∀ line, (Layout.tabSize size).map (Text.indentation · line) =
      if Text.isTabSize size then .ok (Text.leadingSpace (Text.expandTabs size line) -
        ((Text.expandTabs size line).length - line.length : Int)) else .error .tabSize) ∧
    ∀ (tabs : Nat) (c : Char) (rest : List Char), Text.isSpace c = false → '\t' ∉ rest →
      Text.leadingSpace (Text.expandTabs size (List.replicate tabs '\t' ++ c :: rest)) = tabs * size ∧
      (Text.isTabSize size = true →
        (Layout.tabSize size).map (Text.indentation · (List.replicate tabs '\t' ++ c :: rest)) = .ok (tabs : Int)) := by
  refine ⟨fun line => ?_, fun line => ?_, fun tabs c rest hc hrest => ⟨?_, fun hrange => ?_⟩⟩
  · rw [Layout.map_tabSize, ← Text.indentation_eq_leadingSpace_iff hpos]
    cases Text.isTabSize size with
    | false => simp
    | true => simp
  · rw [Layout.map_tabSize, Text.indentation_eq_sub]
  · exact Text.leadingSpace_tabs hpos tabs hc rest
  · rw [Layout.map_tabSize, if_pos hrange, Text.indentation_tabs hpos tabs hc hrest]

/-- A tab behind three spaces takes one column, with a tab size of four. -/
theorem narrow_tab_is_measured :
    let line := [' ', ' ', ' ', '\t', 'x']
    Text.HasNarrowTabs 4 line ∧ (Layout.tabSize 4).map (Text.indentation · line) = .ok 4 := by
  intro line
  have hnarrow : Text.HasNarrowTabs 4 line := (Text.lengthFrom_eq_length_iff (by decide)).mp (by decide)
  exact ⟨hnarrow, ((indentation_is_leading_space_iff (by decide)).1 line).mpr ⟨by decide, hnarrow⟩⟩

/-- Two tabs count as two and not as eight, and a tab inside of a line makes the count negative. -/
theorem tabs_are_counted_as_written :
    (Text.leadingSpace (Text.expandTabs 4 ['\t', '\t', 'x']) = 8 ∧
      (Layout.tabSize 4).map (Text.indentation · ['\t', '\t', 'x']) = .ok 2) ∧
    Text.leadingSpace (Text.expandTabs 4 ['x', '\t', 'y']) = 0 ∧
      (Layout.tabSize 4).map (Text.indentation · ['x', '\t', 'y']) = .ok (-2) :=
  ⟨⟨rfl, rfl⟩, rfl, rfl⟩

end Scrutiny
