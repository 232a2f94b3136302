import Scrutiny.Check.Layout
import Scrutiny.Proofs.Ancestors
import Scrutiny.Proofs.Passing

/-! Lines that are looked up by number.

Two checks go from the nodes of a program to the lines of its text. The one compares indentations, which it takes from a
table with an empty entry at zero, so that a line is found under its number; the other takes the line itself, from a
list that starts at zero, under its number less one. Where the nodes name lines of the text (`LinesIn`), both find what
they look for: every look-up lies in the table and not at zero, what is compared are the leading spaces of the two lines
(`isAligned_eq_ok_iff`), and neither check can fail for want of a line. -/
namespace Scrutiny

/-! ### The table of indentations -/

namespace Text

/-- A table has the number of leading spaces of each line under the number of the line, counted from one, and nothing
under zero. -/
structure IsOffsetTable (text : List Char) (table : List (Option Nat)) : Prop where
  length_eq : table.length = (linesOf text).length + 1
  zero : table[0]? = some none
  entry : ∀ i line, (linesOf text)[i]? = some line →
    ∃ spaces rest, table[i + 1]? = some (some spaces) ∧ line = List.replicate spaces ' ' ++ rest ∧
      rest.head? ≠ some ' '

theorem getElem?_lineOffsets (text : List Char) (i : Nat) :
    (lineOffsets text)[i + 1]? = (linesOf text)[i]?.map fun line => some (leadingSpaces line) := by
  rw [lineOffsets, List.getElem?_cons_succ, List.getElem?_map]
  rfl

theorem exists_leadingSpaces (line : List Char) :
    ∃ rest, line = List.replicate (leadingSpaces line) ' ' ++ rest ∧ rest.head? ≠ some ' ' := by
  refine ⟨line.dropWhile (· = ' '), ?_, fun hhead => ?_⟩
  · have hspaces : line.takeWhile (· = ' ') = List.replicate (leadingSpaces line) ' ' :=
      List.eq_replicate_iff.mpr ⟨rfl, fun c hc => by simpa using List.mem_takeWhile_imp hc⟩
    rw [← hspaces, List.takeWhile_append_dropWhile]
  · have hstop := List.head?_dropWhile_not (· = ' ') line
    rw [hhead] at hstop
    simp at hstop

theorem isOffsetTable_lineOffsets (text : List Char) : IsOffsetTable text (lineOffsets text) where
  length_eq := by rw [lineOffsets, List.length_cons, List.length_map]
  zero := rfl
  entry := by
    intro i line hline
    obtain ⟨rest, hwritten, hhead⟩ := exists_leadingSpaces line
    exact ⟨leadingSpaces line, rest, by rw [getElem?_lineOffsets, hline]; rfl, hwritten, hhead⟩

end Text

/-! ### Comparing a node with the one above it -/

namespace Code

/-- The lines that the nodes of a program name are lines of a text, counted from one. -/
def LinesIn (root : Node) (text : List Char) : Prop :=
  ∀ p ∈ root.places, ∀ line ∈ p.here.line?, 1 ≤ line ∧ line ≤ (Text.linesOf text).length

instance (root : Node) (text : List Char) : Decidable (LinesIn root text) :=
  inferInstanceAs (Decidable (∀ p ∈ root.places, _))

/-- A place is compared with the node above it, by the lines of the two. -/
structure Compared (p : Place) (owner : Node) (line ownerLine : Nat) : Prop where
  parent : p.parent? = some owner
  here : p.here.line? = some line
  there : owner.line? = some ownerLine

/-- A node starts further in than the node above it, which opens a block on another line, and not by one tab. -/
def IsMisindented (lines : List (List Char)) (tabSize : Int) (p : Place) : Prop :=
  ∃ owner line ownerLine, Compared p owner line ownerLine ∧ line ≠ ownerLine ∧ opensBlock owner.kind = true ∧
    ∃ mine its, lines[line - 1]? = some mine ∧ lines[ownerLine - 1]? = some its ∧
      Text.leadingSpaces its < Text.leadingSpaces mine ∧
      (Text.leadingSpaces mine : Int) - Text.leadingSpaces its ≠ tabSize

theorem offsetOf_congr {offsets other : List (Option Nat)} {line : Nat} (h : other[line]? = offsets[line]?) :
    offsetOf other line = offsetOf offsets line := by
  rw [offsetOf, offsetOf, h]

theorem offsetOf_lineOffsets {text : List Char} {line : Nat} (hfirst : 1 ≤ line)
    (hlast : line ≤ (Text.linesOf text).length) :
    ∃ written, (Text.linesOf text)[line - 1]? = some written ∧
      offsetOf (Text.lineOffsets text) line = .ok (Text.leadingSpaces written) := by
  obtain ⟨i, rfl⟩ := Nat.exists_eq_add_of_le' hfirst
  have hwritten := List.getElem?_eq_getElem (show i < (Text.linesOf text).length from hlast)
  refine ⟨_, hwritten, ?_⟩
  rw [offsetOf, Text.getElem?_lineOffsets, hwritten]
  rfl

section Alignment
variable {p : Place} {offsets : List (Option Nat)} {tabSize : Int}

theorem isAligned_of_compared {owner : Node} {line ownerLine : Nat} (h : Compared p owner line ownerLine) :
    isAligned p offsets tabSize = (do
      let here ← offsetOf offsets line
      let there ← offsetOf offsets ownerLine
      return !(line ≠ ownerLine && there < here && (here : Int) - there ≠ tabSize && opensBlock owner.kind)) := by
  rw [isAligned, h.parent]
  simp only [h.here, h.there]

theorem isAligned_of_not_compared (h : ¬ ∃ owner line ownerLine, Compared p owner line ownerLine) :
    isAligned p offsets tabSize = .ok true := by
  rw [isAligned]
  split
  · rfl
  · rename_i owner hparent
    split
    · rename_i line ownerLine hhere hthere
      exact absurd ⟨owner, line, ownerLine, hparent, hhere, hthere⟩ h
    · rfl

variable {root : Node} {text : List Char}

/-- Both lines of a comparison are lines of the text: the node above a place is at a place too. -/
theorem Compared.inText (hlines : LinesIn root text) (hp : p ∈ root.places) {owner : Node} {line ownerLine : Nat}
    (h : Compared p owner line ownerLine) :
    (1 ≤ line ∧ line ≤ (Text.linesOf text).length) ∧ 1 ≤ ownerLine ∧ ownerLine ≤ (Text.linesOf text).length := by
  obtain ⟨rest, habove⟩ := List.head?_eq_some_iff.mp h.parent
  obtain ⟨howner, _⟩ := Tree.parent_mem_places hp habove
  exact ⟨hlines p hp line h.here, hlines _ howner ownerLine h.there⟩

theorem isMisindented_iff {lines : List (List Char)} {owner : Node} {line ownerLine : Nat} {mine its : List Char}
    (h : Compared p owner line ownerLine) (hmine : lines[line - 1]? = some mine)
    (hits : lines[ownerLine - 1]? = some its) :
    IsMisindented lines tabSize p ↔
      ((line ≠ ownerLine ∧ Text.leadingSpaces its < Text.leadingSpaces mine) ∧
        (Text.leadingSpaces mine : Int) - Text.leadingSpaces its ≠ tabSize) ∧ opensBlock owner.kind = true := by
  constructor
  · intro ⟨owner', line', ownerLine', h', hne, hopens, mine', its', hmine', hits', hless, htab⟩
    -- A place has one node above it, and each of the two has one line.
    cases Option.some.inj (h'.parent.symm.trans h.parent)
    cases Option.some.inj (h'.here.symm.trans h.here)
    cases Option.some.inj (h'.there.symm.trans h.there)
    cases Option.some.inj (hmine'.symm.trans hmine)
    cases Option.some.inj (hits'.symm.trans hits)
    exact ⟨⟨⟨hne, hless⟩, htab⟩, hopens⟩
  · intro ⟨⟨⟨hne, hless⟩, htab⟩, hopens⟩
    exact ⟨owner, line, ownerLine, h, hne, hopens, mine, its, hmine, hits, hless, htab⟩

/-- A comparison always comes to a result, and it is that of the leading spaces of the two lines. -/
theorem isAligned_eq_ok_iff (hlines : LinesIn root text) (hp : p ∈ root.places) {aligned : Bool} :
    isAligned p (Text.lineOffsets text) tabSize = .ok aligned ↔
      (aligned = true ↔ ¬ IsMisindented (Text.linesOf text) tabSize p) := by
  by_cases hcompared : ∃ owner line ownerLine, Compared p owner line ownerLine
  · obtain ⟨owner, line, ownerLine, h⟩ := hcompared
    obtain ⟨⟨hfirst, hlast⟩, hownerFirst, hownerLast⟩ := h.inText hlines hp
    obtain ⟨mine, hmine, hhere⟩ := offsetOf_lineOffsets hfirst hlast
    obtain ⟨its, hits, hthere⟩ := offsetOf_lineOffsets hownerFirst hownerLast
    rw [isAligned_of_compared h, hhere, hthere, isMisindented_iff h hmine hits]
    simp only [bind, Except.bind, pure, Except.pure, Except.ok.injEq]
    rw [Bool.eq_iff_iff, Bool.not_eq_true', ← Bool.not_eq_true]
    simp only [Bool.and_eq_true, decide_eq_true_eq]
    exact Iff.comm
  · have hnot : ¬ IsMisindented (Text.linesOf text) tabSize p := by
      intro ⟨owner, line, ownerLine, h, _⟩
      exact hcompared ⟨owner, line, ownerLine, h⟩
    rw [isAligned_of_not_compared hcompared]
    simp [hnot]

/-- No entry but those of the lines is looked at: a table that has these gives the same result, whatever else it has. -/
theorem isAligned_congr (hlines : LinesIn root text) (hp : p ∈ root.places) {other : List (Option Nat)}
    (hother : ∀ i, 1 ≤ i → i ≤ (Text.linesOf text).length → other[i]? = (Text.lineOffsets text)[i]?) :
    isAligned p other tabSize = isAligned p (Text.lineOffsets text) tabSize := by
  by_cases hcompared : ∃ owner line ownerLine, Compared p owner line ownerLine
  · obtain ⟨owner, line, ownerLine, h⟩ := hcompared
    obtain ⟨⟨hfirst, hlast⟩, hownerFirst, hownerLast⟩ := h.inText hlines hp
    rw [isAligned_of_compared h, isAligned_of_compared h, offsetOf_congr (hother line hfirst hlast),
      offsetOf_congr (hother ownerLine hownerFirst hownerLast)]
  · rw [isAligned_of_not_compared hcompared, isAligned_of_not_compared hcompared]

end Alignment

end Code

/-! ### The two checks -/

namespace Layout
variable {c : Context} {p : Project} {s : Source} {root : Code.Node}

/-- A check of the nodes of each source, where every node of a parsed source is judged, fails only for want of a tree.
-/
theorem failure_of_walks {sources : List Source} (judge : Source → Code.Walk → Outcome (Option String))
    (hjudge : ∀ s ∈ sources, ∀ root ∈ s.tree, ∃ found, judge s root.places = .ok found) {failure : Failure}
    (h : firstFinding (fun s => s.walk >>= judge s) sources = .error failure) :
    failure = .noTree ∧ ∃ s ∈ sources, s.tree = none := by
  obtain ⟨s, hs, hfail⟩ := Outcome.firstFinding_eq_error h
  obtain ⟨hfailure, htree⟩ := Outcome.walk_bind_eq_error (hjudge s hs) hfail
  exact ⟨hfailure, s, hs, htree⟩

/-- What is said of a node by its indentation. -/
def indentFinding (c : Context) (s : Source) (i : Code.Place) : Outcome (Option String) := do
  return if ← Code.isAligned i (Text.lineOffsets s.content.toList) c.settings.tabSize then none
    else some (s.atLine i.here.line)

/-- What is said of a `return` by its line. -/
def returnFinding (s : Source) (n : Code.Node) : Outcome (Option String) := do
  return if returnsInParentheses (← lineAt s n.line) then some (s.atLine n.line) else none

theorem misaligned_eq (c : Context) (p : Project) :
    misaligned c p = firstFinding (fun s => s.walk >>= firstFinding (indentFinding c s)) p.sources := rfl

theorem parenthesizedReturn_eq (c : Context) (p : Project) :
    parenthesizedReturn c p =
      firstFinding (fun s => s.walk >>= fun walk => firstFinding (returnFinding s) (walk.nodes .returnStmt))
        p.sources :=
  rfl

theorem indentFinding_isOk (hlines : Code.LinesIn root s.content.toList) {i : Code.Place} (hi : i ∈ root.places) :
    ∃ found, indentFinding c s i = .ok found := by
  obtain ⟨aligned, haligned⟩ : ∃ aligned : Bool, aligned = true ↔
      ¬ Code.IsMisindented s.lines c.settings.tabSize i := by
    by_cases h : Code.IsMisindented s.lines c.settings.tabSize i
    · exact ⟨false, by simp [h]⟩
    · exact ⟨true, by simp [h]⟩
  rw [indentFinding, (Code.isAligned_eq_ok_iff hlines hi).mpr haligned]
  exact ⟨_, rfl⟩

theorem indentFinding_eq_none_iff (hlines : Code.LinesIn root s.content.toList) {i : Code.Place}
    (hi : i ∈ root.places) :
    indentFinding c s i = .ok none ↔ ¬ Code.IsMisindented s.lines c.settings.tabSize i := by
  have haligned : indentFinding c s i = .ok none ↔
      Code.isAligned i (Text.lineOffsets s.content.toList) c.settings.tabSize = .ok true := by
    rw [indentFinding, Outcome.return_eq_none]
    simp
  rw [haligned, Code.isAligned_eq_ok_iff hlines hi]
  simp [Source.lines]

/-- The line of a node is found. A node without a position stands for the first line, and every text has one. -/
theorem lineAt_of_linesIn (hlines : Code.LinesIn root s.content.toList) {n : Code.Node}
    (hn : n ∈ Code.Walk.nodes root.places .returnStmt) :
    ∃ line, s.lines[n.line - 1]? = some line ∧ lineAt s n.line = .ok line := by
  obtain ⟨i, hi, rfl⟩ := List.mem_map.mp hn
  have hin : i.here.line - 1 < s.lines.length := by
    have hsome : 0 < s.lines.length := List.length_pos_of_ne_nil (Text.pieces_ne_nil '\n' s.content.toList)
    cases hline : i.here.line? with
    | none =>
      rw [Tree.line, hline]
      exact hsome
    | some number =>
      obtain ⟨hfirst, hlast⟩ := hlines i (List.mem_filter.mp hi).1 number hline
      rw [Tree.line, hline]
      exact Nat.lt_of_lt_of_le (Nat.sub_lt hfirst Nat.one_pos) hlast
  have hline := List.getElem?_eq_getElem hin
  exact ⟨_, hline, by rw [lineAt, hline]⟩

theorem returnFinding_eq_none_iff {n : Code.Node} {line : List Char} (hline : lineAt s n.line = .ok line) :
    returnFinding s n = .ok none ↔ returnsInParentheses line = false := by
  rw [returnFinding, Outcome.return_eq_none, hline]
  simp

section Project
variable (hlines : ∀ s ∈ p.sources, ∀ root ∈ s.tree, Code.LinesIn root s.content.toList)
include hlines

theorem misaligned_eq_none_iff :
    misaligned c p = .ok none ↔
      ∀ s ∈ p.sources, ∃ root ∈ s.tree, ∀ i ∈ root.places, ¬ Code.IsMisindented s.lines c.settings.tabSize i := by
  rw [misaligned_eq, Outcome.firstFinding_eq_none_iff]
  refine forall₂_congr fun s hs => ?_
  rw [Outcome.walk_bind_eq_ok_iff]
  refine exists_congr fun root => and_congr_right fun hroot => ?_
  rw [Outcome.firstFinding_eq_none_iff]
  exact forall₂_congr fun i hi => indentFinding_eq_none_iff (hlines s hs root hroot) hi

theorem parenthesizedReturn_eq_none_iff :
    parenthesizedReturn c p = .ok none ↔
      ∀ s ∈ p.sources, ∃ root ∈ s.tree, ∀ n ∈ Code.Walk.nodes root.places .returnStmt,
        ∀ line ∈ s.lines[n.line - 1]?, returnsInParentheses line = false := by
  rw [parenthesizedReturn_eq, Outcome.firstFinding_eq_none_iff]
  refine forall₂_congr fun s hs => ?_
  rw [Outcome.walk_bind_eq_ok_iff]
  refine exists_congr fun root => and_congr_right fun hroot => ?_
  rw [Outcome.firstFinding_eq_none_iff]
  refine forall₂_congr fun n hn => ?_
  obtain ⟨line, hline, hlook⟩ := lineAt_of_linesIn (hlines s hs root hroot) hn
  rw [returnFinding_eq_none_iff hlook, hline]
  simp

theorem failure_of_misaligned {failure : Failure} (h : misaligned c p = .error failure) :
    failure = .noTree ∧ ∃ s ∈ p.sources, s.tree = none := by
  refine failure_of_walks (fun s => firstFinding (indentFinding c s)) (fun s hs root hroot => ?_) h
  exact Outcome.firstFinding_isOk_of_forall fun i hi => indentFinding_isOk (hlines s hs root hroot) hi

theorem failure_of_parenthesizedReturn {failure : Failure} (h : parenthesizedReturn c p = .error failure) :
    failure = .noTree ∧ ∃ s ∈ p.sources, s.tree = none := by
  refine failure_of_walks (fun s walk => firstFinding (returnFinding s) (walk.nodes .returnStmt))
    (fun s hs root hroot => ?_) h
  refine Outcome.firstFinding_isOk_of_forall fun n hn => ?_
  obtain ⟨line, _, hlook⟩ := lineAt_of_linesIn (hlines s hs root hroot) hn
  rw [returnFinding, hlook]
  exact ⟨_, rfl⟩

end Project

end Layout

/-- **Look-ups of lines stay in range.** The table of a text has the leading spaces of line `i`, counted from one, under
`i`. Where the nodes of a program name lines of its text, the indentation check compares the leading spaces of the lines
of a node and the node above it, and looks at no other entry of the table, the empty one at zero included; the line of a
`return` is found under its number less one. So neither check ever fails for want of a line, only for want of a tree,
and each finds nothing just when there is nothing of its kind in the lines. -/
theorem line_lookups_stay_in_range {p : Project}
    (hlines : ∀ s ∈ p.sources, ∀ root ∈ s.tree, Code.LinesIn root s.content.toList) (c : Context) :
    (∀ text, Text.IsOffsetTable text (Text.lineOffsets text)) ∧
    (∀ s ∈ p.sources, ∀ root ∈ s.tree, ∀ i ∈ root.places, ∀ tabSize : Int,
      (∀ aligned, Code.isAligned i (Text.lineOffsets s.content.toList) tabSize = .ok aligned ↔
        (aligned = true ↔ ¬ Code.IsMisindented s.lines tabSize i)) ∧
      ∀ table : List (Option Nat),
        (∀ k, 1 ≤ k → k ≤ s.lines.length → table[k]? = (Text.lineOffsets s.content.toList)[k]?) →
          Code.isAligned i table tabSize = Code.isAligned i (Text.lineOffsets s.content.toList) tabSize) ∧
    (∀ s ∈ p.sources, ∀ root ∈ s.tree, ∀ n ∈ Code.Walk.nodes root.places .returnStmt, ∀ number ∈ n.line?,
      1 ≤ number ∧ ∃ line, s.lines[number - 1]? = some line ∧ Layout.lineAt s number = .ok line) ∧
    (∀ failure, Layout.misaligned c p = .error failure ∨ Layout.parenthesizedReturn c p = .error failure →
      failure = .noTree ∧ ∃ s ∈ p.sources, s.tree = none) ∧
    (Layout.misaligned c p = .ok none ↔
      ∀ s ∈ p.sources, ∃ root ∈ s.tree, ∀ i ∈ root.places, ¬ Code.IsMisindented s.lines c.settings.tabSize i) ∧
    (Layout.parenthesizedReturn c p = .ok none ↔
      ∀ s ∈ p.sources, ∃ root ∈ s.tree, ∀ n ∈ Code.Walk.nodes root.places .returnStmt,
        ∀ line ∈ s.lines[n.line - 1]?, Layout.returnsInParentheses line = false) := by
  refine ⟨Text.isOffsetTable_lineOffsets, fun s hs root hroot i hi tabSize => ⟨fun _ => ?_, fun _ htable => ?_⟩,
    fun s hs root hroot n hn number hnumber => ?_, fun failure h => ?_, Layout.misaligned_eq_none_iff hlines,
    Layout.parenthesizedReturn_eq_none_iff hlines⟩
  · exact Code.isAligned_eq_ok_iff (hlines s hs root hroot) hi
  · exact Code.isAligned_congr (hlines s hs root hroot) hi htable
  · obtain ⟨line, hline, hlook⟩ := Layout.lineAt_of_linesIn (hlines s hs root hroot) hn
    obtain ⟨i, hi, rfl⟩ := List.mem_map.mp hn
    obtain ⟨hfirst, _⟩ := hlines s hs root hroot i (List.mem_filter.mp hi).1 number hnumber
    have hsame : i.here.line = number := by
      rw [Tree.line, hnumber, Option.getD_some]
    rw [hsame] at hline hlook
    exact ⟨hfirst, line, hline, hlook⟩
  · rcases h with h | h
    · exact Layout.failure_of_misaligned hlines h
    · exact Layout.failure_of_parenthesizedReturn hlines h

/-- A `return` on the last line of a text, two spaces in and with parentheses: both checks find its line. -/
theorem return_on_last_line_is_found :
    let returned : Code.Node := .node ⟨.returnStmt, .body, some ⟨2, 2⟩, []⟩ []
    let function : Code.Node := .node ⟨.functionDef, .body, some ⟨1, 0⟩, []⟩ [returned]
    let program : Code.Node := .node ⟨.module, .body, none, []⟩ [function]
    let s : Source := ⟨"p/m.py", "def f(x):\n  return(x)", some program⟩
    let p : Project := { path := "p", sources := [s] }
    let c : Context := { disk := { top := .node { name := "" } [] }, path := "p" }
    Code.LinesIn program s.content.toList ∧ Layout.misaligned c p = .ok (some "m.py:2") ∧
      Layout.parenthesizedReturn c p = .ok (some "m.py:2") ∧
      Code.IsMisindented s.lines 4 ⟨returned, [function, program]⟩ := by
  intro returned function program s p c
  have hin : Code.LinesIn program s.content.toList := by decide +kernel
  have hlines : ∀ k ∈ p.sources, ∀ root ∈ k.tree, Code.LinesIn root k.content.toList := by
    intro k hk root hroot
    rw [List.mem_singleton.mp hk] at hroot ⊢
    cases hroot
    exact hin
  obtain ⟨_, hplaces, _⟩ := line_lookups_stay_in_range hlines c
  have hplace : (⟨returned, [function, program]⟩ : Code.Place) ∈ program.places :=
    List.mem_of_getElem? (show program.places[2]? = some ⟨returned, [function, program]⟩ from rfl)
  obtain ⟨haligned, _⟩ := hplaces s (List.mem_singleton.mpr rfl) program rfl _ hplace 4
  have hfalse := (haligned false).mp (by decide +kernel)
  exact ⟨hin, by decide +kernel, by decide +kernel, by simpa using hfalse⟩

end Scrutiny
