import Scrutiny.CommandLine
import Scrutiny.Proofs.Lines

/-! The printed report, read back.

The name of a check holds neither blanks nor tabs, so it ends where the padding or the tab begins, however wide it is;
and the padding holds no tab, so the message is all that follows the first one. A line of the report has a tab and the
rule has none, so the findings are the lines before the first rule. Their number is the total. -/
namespace Scrutiny

/-- A finding that takes one line of a report, under a name without blanks. -/
structure Finding.IsPlain (f : Finding) : Prop where
  no_space : ' ' ∉ f.check.toList
  no_tab : '\t' ∉ f.check.toList
  no_line_end : '\n' ∉ f.check.toList
  one_line : '\n' ∉ f.message.toList

instance (f : Finding) : Decidable f.IsPlain :=
  decidable_of_iff
    (' ' ∉ f.check.toList ∧ '\t' ∉ f.check.toList ∧ '\n' ∉ f.check.toList ∧ '\n' ∉ f.message.toList)
    ⟨fun ⟨hspace, htab, hend, hline⟩ => ⟨hspace, htab, hend, hline⟩,
      fun ⟨hspace, htab, hend, hline⟩ => ⟨hspace, htab, hend, hline⟩⟩

namespace Report

/-! ### Lines -/

/-- The spaces between a name and the tab. -/
def padding (name : String) : List Char :=
  List.replicate (nameWidth - name.length) ' '

theorem eq_space_of_mem_padding {name : String} {c : Char} (h : c ∈ padding name) : c = ' ' :=
  List.eq_of_mem_replicate h

theorem toList_line (f : Finding) :
    (line f).toList = f.check.toList ++ padding f.check ++ '\t' :: f.message.toList := by
  simp [line, padded, padding, toString]

theorem toList_rule : rule.toList = List.replicate ruleWidth '=' := by
  rw [rule, String.toList_ofList]

theorem line_ne_rule (f : Finding) : (line f).toList ≠ rule.toList := by
  intro h
  have htab : '\t' ∈ rule.toList := by
    rw [← h, toList_line]
    simp
  rw [toList_rule] at htab
  exact absurd (List.eq_of_mem_replicate htab) (by decide)

/-- The last line of a report. -/
def total (count : Nat) : String :=
  s!"Total {count} violations"

theorem lines_eq (found : List Finding) : lines found = found.map line ++ [rule, total found.length] := rfl

theorem no_line_end_total (count : Nat) : '\n' ∉ (total count).toList := by
  have hdigits : '\n' ∉ Nat.toDigits 10 count := by
    intro h
    exact absurd (Nat.isDigit_of_mem_toDigits (by decide) (by decide) h) (by decide)
  simp [total, toString, hdigits]

theorem no_line_end_rule : '\n' ∉ rule.toList := by
  rw [toList_rule]
  intro h
  exact absurd (List.eq_of_mem_replicate h) (by decide)

theorem no_line_end_line {f : Finding} (h : f.IsPlain) : '\n' ∉ (line f).toList := by
  have hpadding : '\n' ∉ padding f.check := by
    intro hmem
    exact absurd (eq_space_of_mem_padding hmem) (by decide)
  rw [toList_line]
  simp [h.no_line_end, hpadding, h.one_line]

/-- Lines that are printed one after the other are those of the text. -/
theorem wholeLines_join {printed : List String} (h : ∀ l ∈ printed, '\n' ∉ l.toList) :
    Text.wholeLines (String.join (printed.map (· ++ "\n"))).toList = printed.map String.toList := by
  induction printed with
  | nil => rfl
  | cons l rest ih =>
    obtain ⟨hl, hrest⟩ := List.forall_mem_cons.mp h
    have htext : (String.join ((l :: rest).map (· ++ "\n"))).toList =
        l.toList ++ '\n' :: (String.join (rest.map (· ++ "\n"))).toList := by
      simp [String.toList_append]
    rw [htext, Text.wholeLines_append hl, ih hrest, List.map_cons]

theorem wholeLines_render {found : List Finding} (h : ∀ f ∈ found, f.IsPlain) :
    Text.wholeLines (render found).toList =
      found.map (fun f => (line f).toList) ++ [rule.toList, (total found.length).toList] := by
  have hlines : ∀ l ∈ lines found, '\n' ∉ l.toList := by
    intro l hl
    rw [lines_eq, List.mem_append, List.mem_map, List.mem_cons, List.mem_singleton] at hl
    rcases hl with ⟨f, hf, rfl⟩ | rfl | rfl
    · exact no_line_end_line (h f hf)
    · exact no_line_end_rule
    · exact no_line_end_total found.length
  rw [render, wholeLines_join hlines, lines_eq, List.map_append, List.map_map]
  rfl

/-! ### Reading -/

/-- The finding that a line tells of. -/
def readLine (text : List Char) : Finding :=
  ⟨String.ofList (text.takeWhile fun c => c ≠ ' ' && c ≠ '\t'), String.ofList ((text.dropWhile (· ≠ '\t')).drop 1)⟩

/-- The findings that a report tells of: those of the lines before the rule. -/
def read (text : String) : List Finding :=
  ((Text.wholeLines text.toList).takeWhile (· ≠ rule.toList)).map readLine

/-- The name of a finding is followed by a space or by the tab. -/
theorem takeWhile_line {f : Finding} (h : f.IsPlain) :
    (line f).toList.takeWhile (fun c => c ≠ ' ' && c ≠ '\t') = f.check.toList := by
  have hname : ∀ c ∈ f.check.toList, (decide (c ≠ ' ') && decide (c ≠ '\t')) = true := by
    intro c hc
    have hspace : c ≠ ' ' := fun heq => h.no_space (heq ▸ hc)
    have htab : c ≠ '\t' := fun heq => h.no_tab (heq ▸ hc)
    simp [hspace, htab]
  rw [toList_line, List.append_assoc, List.takeWhile_append_of_pos hname]
  cases hpadding : padding f.check with
  | nil => simp
  | cons c rest =>
    have hc : c = ' ' := eq_space_of_mem_padding (hpadding ▸ List.mem_cons_self)
    simp [hc]

/-- The message is all that follows the first tab. -/
theorem dropWhile_line {f : Finding} (h : f.IsPlain) :
    (line f).toList.dropWhile (· ≠ '\t') = '\t' :: f.message.toList := by
  have hbefore : ∀ c ∈ f.check.toList ++ padding f.check, decide (c ≠ '\t') = true := by
    intro c hc
    apply decide_eq_true
    rcases List.mem_append.mp hc with hc | hc
    · exact fun heq => h.no_tab (heq ▸ hc)
    · rw [eq_space_of_mem_padding hc]
      decide
  rw [toList_line, List.dropWhile_append_of_pos hbefore]
  simp

theorem readLine_line {f : Finding} (h : f.IsPlain) : readLine (line f).toList = f := by
  rw [readLine, takeWhile_line h, dropWhile_line h, List.drop_one, List.tail_cons, String.ofList_toList,
    String.ofList_toList]

/-- Reading undoes printing. -/
theorem read_render {found : List Finding} (h : ∀ f ∈ found, f.IsPlain) : read (render found) = found := by
  have hlines : ∀ text ∈ found.map (fun f => (line f).toList), decide (text ≠ rule.toList) = true := by
    intro text htext
    obtain ⟨f, _, rfl⟩ := List.mem_map.mp htext
    exact decide_eq_true (line_ne_rule f)
  rw [read, wholeLines_render h, List.takeWhile_append_of_pos hlines, List.takeWhile_cons_of_neg (by simp),
    List.append_nil, List.map_map]
  calc found.map (readLine ∘ fun f => (line f).toList)
      = found.map id := List.map_congr_left fun f hf => readLine_line (h f hf)
    _ = found := List.map_id found

end Report

/-! ### The command line -/

/-- What a command line finds. -/
def CommandLine.found (disk : Disk) (language : Language) (runtime : Runtime) (arguments : List String) :
    Outcome (List Finding) := do
  let options ← parse arguments
  let changes ← Settings.changesAt disk (← options.document) Settings.sectionName
  review disk { path := ← options.projectPath, changes, language, runtime }

theorem CommandLine.run_eq (disk : Disk) (language : Language) (runtime : Runtime) (arguments : List String) :
    run disk language runtime arguments = (found disk language runtime arguments).map Report.render := by
  show run disk language runtime arguments = Report.render <$> found disk language runtime arguments
  simp only [run, found, map_bind, bind_pure_comp]

/-- **A printed report determines its findings.** Where no name has a blank in it and no message a line end, reports
that read the same have the same findings, and the total is the number of lines before the rule. A command line prints
the report on what it finds. -/
theorem printed_report_determines_findings :
    (∀ found other : List Finding, (∀ f ∈ found, f.IsPlain) → (∀ f ∈ other, f.IsPlain) →
      Report.render found = Report.render other → found = other) ∧
    (∀ found : List Finding, (∀ f ∈ found, f.IsPlain) →
      ∃ before, Text.wholeLines (Report.render found).toList =
          before ++ [Report.rule.toList, s!"Total {before.length} violations".toList] ∧
        Report.rule.toList ∉ before ∧ before.length = found.length) ∧
    ∀ (disk : Disk) (language : Language) (runtime : Runtime) (arguments : List String),
      CommandLine.run disk language runtime arguments =
        (CommandLine.found disk language runtime arguments).map Report.render := by
  refine ⟨?_, ?_, CommandLine.run_eq⟩
  · intro found other hfound hother htext
    rw [← Report.read_render hfound, htext, Report.read_render hother]
  · intro found hfound
    refine ⟨found.map fun f => (Report.line f).toList, ?_, ?_, List.length_map _⟩
    · rw [Report.wholeLines_render hfound, List.length_map]
      rfl
    · intro hmem
      obtain ⟨f, _, hline⟩ := List.mem_map.mp hmem
      exact Report.line_ne_rule f hline

/-- A message that starts with a tab is told from one that does not, and a name of as many equals signs as the rule has
is not taken for the rule. -/
theorem tab_in_message_is_printed :
    let plain : Finding := ⟨"a", "b"⟩
    let shifted : Finding := ⟨"a", "\tb"⟩
    let ruled : Finding := ⟨Report.rule, ""⟩
    Report.render [plain] ≠ Report.render [shifted] ∧
      ∃ before, Text.wholeLines (Report.render [ruled]).toList =
          before ++ [Report.rule.toList, s!"Total {before.length} violations".toList] ∧ before.length = 1 := by
  intro plain shifted ruled
  obtain ⟨hsame, htotal, _⟩ := printed_report_determines_findings
  obtain ⟨before, hlines, _, hlength⟩ := htotal [ruled] (by decide)
  refine ⟨fun htext => ?_, before, hlines, hlength⟩
  exact absurd (hsame [plain] [shifted] (by decide) (by decide) htext) (by decide)

end Scrutiny
