import Mathlib.Data.Option.Basic
import Scrutiny.Proofs.NamedTargets

/-! Names that imports bind, and the check for names of mixed case.

The check goes through five lists of names that are no fault of the program: what it imports, its classes, its named
tuples, what is built in, and what the settings allow. Each list is said here by what stands in the program
(`mem_mixedNames_iff`). The list of imports has the names that `from` imports bind, and not those of imported modules.

Of the names that are left only the first are shown, and which ones are first is not settled: the names of a program are
a set. Every one of them comes first in some order (`Enumeration.startingWith`), so none is safe that is not excused. -/
namespace Scrutiny

/-! ### Orders of names -/

namespace Text.Enumeration

/-- By code point, but for one name that comes first wherever it is in the set. -/
def startingWith (first : String) : Enumeration where
  list names := if first ∈ names then first :: (sortedOnce names).filter (· ≠ first) else sortedOnce names
  mem_list_iff := by
    intro names name
    split
    · next hfirst =>
      by_cases hname : name = first
      · simp [hname, hfirst]
      · simp [hname, mem_sortedOnce]
    · exact mem_sortedOnce
  nodup_list names := by
    have hsorted : (sortedOnce names).Nodup := Enumeration.sorted.nodup_list names
    split
    · exact List.nodup_cons.mpr ⟨by simp, hsorted.filter _⟩
    · exact hsorted

/-- A name that is left of a set comes first among those that are left, where the set starts with it. -/
theorem head?_filter_startingWith {first : String} {names : List String} {isLeft : String → Bool}
    (h : first ∈ ((startingWith first).list names).filter isLeft) :
    (((startingWith first).list names).filter isLeft).head? = some first := by
  obtain ⟨hmem, hleft⟩ := List.mem_filter.mp h
  have hlist : (startingWith first).list names = first :: (sortedOnce names).filter (· ≠ first) :=
    if_pos ((startingWith first).mem_list_iff.mp hmem)
  rw [hlist, List.filter_cons_of_pos hleft]
  rfl

/-- There is one order of a single name. -/
theorem list_singleton (order : Enumeration) (name : String) : order.list [name] = [name] := by
  rw [← List.perm_singleton, List.perm_ext_iff_of_nodup (order.nodup_list _) (List.nodup_singleton _)]
  exact fun _ => order.mem_list_iff

end Text.Enumeration

namespace Code
open Scrutiny.Tree (Occurs)

/-! ### What imports bind -/

/-- The name that an imported thing is given: the one that is asked for, or its own. A module is known by its top
package. -/
def Binds (statement : Node) (name : String) : Prop :=
  ∃ item ∈ statement.parts .names, item.word? .asname = some name ∨
    item.word? .asname = none ∧ ∃ thing, item.word? .name = some thing ∧
      name = if statement.kind = .importStmt then Text.topPackage thing else thing

/-- A `from` import of the program binds the name. -/
def ImportsFrom (root : Node) (name : String) : Prop :=
  ∃ statement, Occurs statement root ∧ statement.kind = .importFrom ∧ Binds statement name

/-- An import of whole modules binds the name. -/
def ImportsModule (root : Node) (name : String) : Prop :=
  ∃ statement, Occurs statement root ∧ statement.kind = .importStmt ∧ Binds statement name

/-- An import of the program binds the name. -/
def Imports (root : Node) (name : String) : Prop :=
  ImportsFrom root name ∨ ImportsModule root name

/-! ### What excuses a name -/

/-- The name stands in the program. -/
def Uses (root : Node) (name : String) : Prop :=
  ∃ n, Occurs n root ∧ n.kind = .identifier ∧ n.identifier? = some name

/-- A class of the program has the name. -/
def NamesClass (root : Node) (name : String) : Prop :=
  ∃ n, Occurs n root ∧ n.kind = .classDef ∧ n.word? .name = some name

/-- A named tuple is given the name. -/
def NamesRecord (root : Node) (name : String) : Prop :=
  ∃ assignment, Occurs assignment root ∧ assignment.kind = .assign ∧ makesRecord assignment = true ∧
    ∃ target, (assignment.parts .targets).head? = some target ∧ target.identifier? = some name

/-- Something that starts from an allowed name is given the name. -/
def AssignsFrom (allowed : List String) (root : Node) (name : String) : Prop :=
  ∃ assignment, Occurs assignment root ∧ assignment.kind = .assign ∧ TakesFrom allowed assignment ∧
    ∃ target ∈ assignment.parts .targets, target.identifier? = some name

variable {allowed : List String} {root : Node} {name : String}

theorem mem_usedNames_iff : name ∈ usedNames root.places ↔ Uses root name := by
  simp only [usedNames, List.mem_filterMap, mem_nodes_iff, Uses, and_assoc]

theorem mem_classNames_iff : name ∈ classNames root.places ↔ NamesClass root name := by
  simp only [classNames, List.mem_filterMap, mem_nodes_iff, NamesClass, and_assoc]

theorem mem_namesFromImports_iff : name ∈ namesFromImports root.places ↔ ImportsFrom root name := by
  simp only [namesFromImports, List.mem_flatMap, List.mem_filterMap, mem_nodes_iff, Option.orElse_eq_some]
  refine exists_congr fun statement => ?_
  rw [and_assoc]
  refine and_congr_right fun _ => and_congr_right fun hkind => ?_
  simp [Binds, hkind]

theorem targetName_eq_ok_iff {n : Node} : targetName n = .ok name ↔ n.identifier? = some name := by
  unfold targetName
  cases n.identifier? <;> simp

theorem mem_recordNames_iff {records : List String} (h : recordNames root.places = .ok records) :
    name ∈ records ↔ NamesRecord root name := by
  rw [recordNames] at h
  simp only [Outcome.mem_mapM_iff h, mem_recordTargets_iff, targetName_eq_ok_iff, NamesRecord]
  constructor
  · rintro ⟨target, ⟨assignment, hoccurs, hkind, hmakes, htarget⟩, hname⟩
    exact ⟨assignment, hoccurs, hkind, hmakes, target, htarget, hname⟩
  · rintro ⟨assignment, hoccurs, hkind, hmakes, target, htarget, hname⟩
    exact ⟨target, ⟨assignment, hoccurs, hkind, hmakes, htarget⟩, hname⟩

theorem mem_namesFrom_iff {assignment : Node} {names : List String}
    (h : namesFrom (.list allowed) assignment = .ok names) :
    name ∈ names ↔
      TakesFrom allowed assignment ∧ ∃ target ∈ assignment.parts .targets, target.identifier? = some name := by
  by_cases htakes : TakesFrom allowed assignment
  · rw [namesFrom_of_takesFrom htakes] at h
    rw [Outcome.mem_mapM_iff h, and_iff_right htakes]
    simp only [targetName_eq_ok_iff]
  · rw [namesFrom_of_not_takesFrom htakes] at h
    cases h
    simp [htakes]

theorem mem_namesAssignedFrom_iff {excused : List String}
    (h : namesAssignedFrom root.places (.list allowed) = .ok excused) :
    name ∈ excused ↔ AssignsFrom allowed root name := by
  obtain ⟨lists, hlists, hexcused⟩ := Outcome.bind_eq_ok.mp h
  cases hexcused
  simp only [List.mem_flatten, Outcome.mem_mapM_iff hlists, mem_nodes_iff, AssignsFrom]
  constructor
  · rintro ⟨names, ⟨assignment, ⟨hoccurs, hkind⟩, hnames⟩, hname⟩
    exact ⟨assignment, hoccurs, hkind, (mem_namesFrom_iff hnames).mp hname⟩
  · rintro ⟨assignment, hoccurs, hkind, hfrom⟩
    obtain ⟨names, hnames⟩ := Outcome.ok_of_mapM hlists (mem_nodes_iff.mpr ⟨hoccurs, hkind⟩)
    exact ⟨names, ⟨assignment, ⟨hoccurs, hkind⟩, hnames⟩, (mem_namesFrom_iff hnames).mpr hfrom⟩

end Code

/-! ### The check -/

namespace Naming
open Code (Uses NamesClass NamesRecord AssignsFrom Imports ImportsFrom ImportsModule)

/-- A name mixes cases and nothing but an import can excuse it. -/
structure IsBlamed (settings : Settings) (allowed : List String) (root : Code.Node) (name : String) : Prop where
  used : Uses root name
  mixed : isMixedCase name = true
  no_class : ¬ NamesClass root name
  no_record : ¬ NamesRecord root name
  not_built_in : name ∉ Code.builtins
  not_allowed : settings.validNonSnakeCaseLeftHandValues.has name = false
  not_assigned : ¬ AssignsFrom allowed root name

variable {c : Context} {p : Project} {order : Text.Enumeration} {settings : Settings} {s : Source}
  {allowed : List String} {root : Code.Node}

theorem of_mixedNames_eq_ok (htree : s.tree = some root)
    (hallowed : settings.validNonSnakeCaseRightHandValues = .list allowed) {names : List String}
    (h : mixedNames order settings s = .ok names) :
    ∃ excused records, Code.namesAssignedFrom root.places (.list allowed) = .ok excused ∧
      Code.recordNames root.places = .ok records ∧
      names = (order.list (Code.usedNames root.places)).filter
        (isInexcusable settings root.places excused records) := by
  rw [mixedNames_eq htree hallowed] at h
  obtain ⟨excused, hexcused, hrest⟩ := Outcome.bind_eq_ok.mp h
  obtain ⟨records, hrecords, hnames⟩ := Outcome.bind_eq_ok.mp hrest
  exact ⟨excused, records, hexcused, hrecords, (Except.ok.inj hnames).symm⟩

/-- In another order the same names are found. -/
theorem mixedNames_reorder {names : List String} (h : mixedNames order settings s = .ok names)
    (other : Text.Enumeration) :
    ∃ names', mixedNames other settings s = .ok names' ∧ ∀ name, name ∈ names' ↔ name ∈ names := by
  obtain ⟨walk, hwalk, hrest⟩ := Outcome.bind_eq_ok.mp h
  obtain ⟨excused, hexcused, hrest⟩ := Outcome.bind_eq_ok.mp hrest
  obtain ⟨records, hrecords, hnames⟩ := Outcome.bind_eq_ok.mp hrest
  cases hnames
  refine ⟨_, Outcome.bind_eq_ok.mpr ⟨walk, hwalk, Outcome.bind_eq_ok.mpr ⟨excused, hexcused,
    Outcome.bind_eq_ok.mpr ⟨records, hrecords, rfl⟩⟩⟩, fun name => ?_⟩
  rw [List.mem_filter, List.mem_filter, other.mem_list_iff, order.mem_list_iff]

theorem mem_mixedNames_iff (htree : s.tree = some root)
    (hallowed : settings.validNonSnakeCaseRightHandValues = .list allowed) {names : List String}
    (h : mixedNames order settings s = .ok names) {name : String} :
    name ∈ names ↔ ¬ ImportsFrom root name ∧ IsBlamed settings allowed root name := by
  obtain ⟨excused, records, hexcused, hrecords, rfl⟩ := of_mixedNames_eq_ok htree hallowed h
  simp only [List.mem_filter, isInexcusable, order.mem_list_iff, Bool.and_eq_true, Bool.not_eq_true',
    List.contains_eq_mem, decide_eq_false_iff_not, Code.mem_usedNames_iff, Code.mem_namesFromImports_iff,
    Code.mem_classNames_iff, Code.mem_recordNames_iff hrecords, Code.mem_namesAssignedFrom_iff hexcused]
  constructor
  · rintro ⟨hused, ⟨⟨⟨⟨⟨hmixed, himport⟩, hclass⟩, hrecord⟩, hbuiltin⟩, hleft⟩, hassigned⟩
    exact ⟨himport, hused, hmixed, hclass, hrecord, hbuiltin, hleft, hassigned⟩
  · rintro ⟨himport, hused, hmixed, hclass, hrecord, hbuiltin, hleft, hassigned⟩
    exact ⟨hused, ⟨⟨⟨⟨⟨hmixed, himport⟩, hclass⟩, hrecord⟩, hbuiltin⟩, hleft⟩, hassigned⟩

/-- A report names the first mixed names of a source, in sources before which there are none. -/
theorem camelCase_eq_some_iff {message : String} :
    camelCase c p = .ok (some message) ↔
      ∃ before s after names, p.sources = before ++ s :: after ∧
        (∀ k ∈ before, mixedNames c.runtime.order c.settings k = .ok []) ∧
        mixedNames c.runtime.order c.settings s = .ok names ∧ names ≠ [] ∧
        message = (Message.rename (names.take shownNames)).render c.language := by
  rw [camelCase, Outcome.firstFinding_eq_some_iff]
  constructor
  · rintro ⟨before, s, after, hsplit, hjudge, hbefore⟩
    obtain ⟨names, hnames, hreport⟩ := Outcome.bind_eq_ok.mp hjudge
    have hne : names ≠ [] := by
      rintro rfl
      cases hreport
    rw [if_neg (by simpa using hne)] at hreport
    refine ⟨before, s, after, names, hsplit, fun k hk => ?_, hnames, hne, ?_⟩
    · exact Outcome.returnUnlessEmpty_eq_none.mp (hbefore k hk)
    · exact (Option.some.inj (Except.ok.inj hreport)).symm
  · rintro ⟨before, s, after, names, hsplit, hbefore, hnames, hne, rfl⟩
    refine ⟨before, s, after, hsplit, Outcome.bind_eq_ok.mpr ⟨names, hnames, ?_⟩, fun k hk => ?_⟩
    · rw [if_neg (by simpa using hne)]
      rfl
    · exact Outcome.returnUnlessEmpty_eq_none.mpr (hbefore k hk)

/-- The context with names in another order. -/
def reordered (c : Context) (order : Text.Enumeration) : Context :=
  { c with runtime := { c.runtime with order } }

/-- In whatever order, a report is on one and the same source. -/
theorem camelCase_reorder {message : String} (h : camelCase c p = .ok (some message)) :
    ∃ s ∈ p.sources, ∀ order, ∃ names, mixedNames order c.settings s = .ok names ∧ names ≠ [] ∧
      camelCase (reordered c order) p =
        .ok (some ((Message.rename (names.take shownNames)).render c.language)) := by
  obtain ⟨before, s, after, names, hsplit, hbefore, hnames, hne, _⟩ := camelCase_eq_some_iff.mp h
  refine ⟨s, by simp [hsplit], fun order => ?_⟩
  have hclean : ∀ k ∈ before, mixedNames order c.settings k = .ok [] := by
    intro k hk
    obtain ⟨none', hnone, hsame⟩ := mixedNames_reorder (hbefore k hk) order
    rw [hnone, List.eq_nil_iff_forall_not_mem.mpr fun name hname => List.not_mem_nil ((hsame name).mp hname)]
  obtain ⟨names', hnames', hsame⟩ := mixedNames_reorder hnames order
  have hne' : names' ≠ [] := by
    obtain ⟨name, hname⟩ := List.exists_mem_of_ne_nil names hne
    exact List.ne_nil_of_mem ((hsame name).mpr hname)
  exact ⟨names', hnames', hne',
    camelCase_eq_some_iff.mpr ⟨before, s, after, names', hsplit, hclean, hnames', hne', rfl⟩⟩

/-- A name that is found is shown where the names start with it. -/
theorem mem_take_mixedNames (htree : s.tree = some root)
    (hallowed : settings.validNonSnakeCaseRightHandValues = .list allowed) {name : String} {names : List String}
    (h : mixedNames (.startingWith name) settings s = .ok names) (hname : name ∈ names) :
    name ∈ names.take shownNames := by
  obtain ⟨excused, records, _, _, rfl⟩ := of_mixedNames_eq_ok htree hallowed h
  have hhead := Text.Enumeration.head?_filter_startingWith hname
  obtain ⟨rest, hrest⟩ := List.head?_eq_some_iff.mp hhead
  rw [hrest]
  exact List.mem_cons_self

end Naming

/-- **A report spares what `from` imports bind, and judges a name that only an import of modules binds as if it were not
imported.** There is a source that is reported on in whatever order its names are gone through, and in each order the
report shows the first of the names that are blamed. No imported name is among those just when each name that an import
of modules binds and that is blamed is bound by a `from` import too, or comes after the names that are shown. In no
order is there an imported name among them just when each such name is bound by a `from` import too. -/
theorem imported_names_are_spared_iff {c : Context} {p : Project} {allowed : List String} {message : String}
    (hallowed : c.settings.validNonSnakeCaseRightHandValues = .list allowed)
    (hparsed : ∀ s ∈ p.sources, s.isParsed = true) (h : Naming.camelCase c p = .ok (some message)) :
    ∃ s ∈ p.sources, ∃ root, s.tree = some root ∧
      (∀ order, ∃ names, Naming.mixedNames order c.settings s = .ok names ∧
        Naming.camelCase (Naming.reordered c order) p =
          .ok (some ((Message.rename (names.take Naming.shownNames)).render c.language)) ∧
        (∀ name, name ∈ names ↔ ¬ Code.ImportsFrom root name ∧ Naming.IsBlamed c.settings allowed root name) ∧
        ((∀ name ∈ names.take Naming.shownNames, ¬ Code.Imports root name) ↔
          ∀ name, Code.ImportsModule root name → Naming.IsBlamed c.settings allowed root name →
            Code.ImportsFrom root name ∨ Naming.shownNames ≤ names.idxOf name)) ∧
      ((∀ order names, Naming.mixedNames order c.settings s = .ok names →
          ∀ name ∈ names.take Naming.shownNames, ¬ Code.Imports root name) ↔
        ∀ name, Code.ImportsModule root name → Naming.IsBlamed c.settings allowed root name →
          Code.ImportsFrom root name) := by
  obtain ⟨s, hs, hreports⟩ := Naming.camelCase_reorder h
  obtain ⟨root, htree⟩ := Option.isSome_iff_exists.mp (hparsed s hs)
  have hmem {order : Text.Enumeration} {names : List String}
      (hnames : Naming.mixedNames order c.settings s = .ok names) (name : String) :
      name ∈ names ↔ ¬ Code.ImportsFrom root name ∧ Naming.IsBlamed c.settings allowed root name :=
    Naming.mem_mixedNames_iff htree hallowed hnames
  refine ⟨s, hs, root, htree, fun order => ?_, fun hspared name himports hblamed => ?_,
    fun hexcused order names hnames name hshown himports => ?_⟩
  · obtain ⟨names, hnames, _, hreport⟩ := hreports order
    refine ⟨names, hnames, hreport, hmem hnames, fun hspared name himports hblamed => ?_,
      fun hexcused name hshown himports => ?_⟩
    · by_contra hreported
      obtain ⟨hfrom, hplace⟩ := not_or.mp hreported
      have hname : name ∈ names := (hmem hnames name).mpr ⟨hfrom, hblamed⟩
      exact hspared name ((List.mem_take_iff_idxOf_lt hname).mpr (Nat.lt_of_not_le hplace)) (.inr himports)
    · have hname : name ∈ names := List.mem_of_mem_take hshown
      obtain ⟨hfrom, hblamed⟩ := (hmem hnames name).mp hname
      rcases hexcused name (himports.resolve_left hfrom) hblamed with hfrom' | hplace
      · exact hfrom hfrom'
      · exact Nat.not_le_of_lt ((List.mem_take_iff_idxOf_lt hname).mp hshown) hplace
  · by_contra hfrom
    obtain ⟨names, hnames, _⟩ := hreports (.startingWith name)
    have hname : name ∈ names := (hmem hnames name).mpr ⟨hfrom, hblamed⟩
    exact hspared _ names hnames name (Naming.mem_take_mixedNames htree hallowed hnames hname) (.inr himports)
  · obtain ⟨hfrom, hblamed⟩ := (hmem hnames name).mp (List.mem_of_mem_take hshown)
    exact hfrom (hexcused name (himports.resolve_left hfrom) hblamed)

/-- A thing that is imported under a name of mixed case inside of a function, next to a variable of mixed case. -/
theorem renamed_import_is_spared :
    let named : Code.Slot → String → Code.Node := fun role name =>
      .node ⟨.identifier, role, some ⟨1, 0⟩, [(.id, .word name)]⟩ []
    let statement : Code.Node := .node ⟨.importFrom, .body, some ⟨2, 4⟩, [(.module, .word "web")]⟩
      [.node ⟨.importAlias, .names, some ⟨2, 20⟩, [(.name, .word "page"), (.asname, .word "webPage")]⟩ []]
    let function : Code.Node := .node ⟨.functionDef, .body, some ⟨1, 0⟩, [(.name, .word "show")]⟩
      [statement, .node ⟨.expr, .body, some ⟨3, 4⟩, []⟩ [named .value "webPage"]]
    let root : Code.Node := .node ⟨.module, .body, none, []⟩
      [function, .node ⟨.assign, .body, some ⟨4, 0⟩, []⟩ [named .targets "pageSize", named .value "size"]]
    let c : Context := { disk := { top := .node { name := "" } [] }, path := "p" }
    let s : Source := ⟨"p/m.py", "", some root⟩
    let p : Project := { path := "p", sources := [s] }
    (Naming.camelCase c p = .ok (some "for example, rename the following: pageSize") ∧
        Code.ImportsFrom root "webPage") ∧
      ∀ order, ∃ names, Naming.mixedNames order c.settings s = .ok names ∧ "webPage" ∉ names := by
  intro named statement function root c s p
  have hsorted : c.runtime.order.list (Code.usedNames root.places) = ["pageSize", "size", "webPage"] := by
    have hused : Code.usedNames root.places = ["pageSize", "size", "webPage"] := by decide +kernel
    -- Sorting does not evaluate, but the walk meets these names in order.
    show Text.sortedOnce _ = _
    rw [hused, Text.sortedOnce, Text.sorted, List.mergeSort_of_pairwise (by decide)]
    decide
  have hmixed : Naming.mixedNames c.runtime.order c.settings s = .ok ["pageSize"] := by
    rw [Naming.mixedNames_eq rfl rfl, hsorted]
    decide +kernel
  have hreport : Naming.camelCase c p = .ok (some "for example, rename the following: pageSize") :=
    Naming.camelCase_eq_some_iff.mpr
      ⟨[], _, [], ["pageSize"], rfl, fun _ hk => absurd hk List.not_mem_nil, hmixed, by decide, by decide +kernel⟩
  have himports : Code.ImportsFrom root "webPage" :=
    ⟨statement, .child List.mem_cons_self (.child List.mem_cons_self .here), rfl, _, List.mem_cons_self, .inl rfl⟩
  obtain ⟨s', hs, other, htree, hreports, _⟩ := imported_names_are_spared_iff rfl (by decide +kernel) hreport
  obtain rfl := List.mem_singleton.mp hs
  cases htree
  refine ⟨⟨hreport, himports⟩, fun order => ?_⟩
  obtain ⟨names, hnames, _, hiff, _⟩ := hreports order
  exact ⟨names, hnames, fun hname => ((hiff "webPage").mp hname).1 himports⟩

/-- A module of mixed case that is imported and used is to be renamed, in whatever order names are gone through. -/
theorem imported_module_is_blamed :
    let statement : Code.Node := .node ⟨.importStmt, .body, some ⟨1, 0⟩, []⟩
      [.node ⟨.importAlias, .names, some ⟨1, 7⟩, [(.name, .word "webPage")]⟩ []]
    let root : Code.Node := .node ⟨.module, .body, none, []⟩
      [statement, .node ⟨.expr, .body, some ⟨2, 0⟩, []⟩
        [.node ⟨.identifier, .value, some ⟨2, 0⟩, [(.id, .word "webPage")]⟩ []]]
    let c : Context := { disk := { top := .node { name := "" } [] }, path := "p" }
    let s : Source := ⟨"p/m.py", "", some root⟩
    let p : Project := { path := "p", sources := [s] }
    Code.Imports root "webPage" ∧ ∀ order, Naming.mixedNames order c.settings s = .ok ["webPage"] ∧
      Naming.camelCase (Naming.reordered c order) p = .ok (some "for example, rename the following: webPage") := by
  intro statement root c s p
  have himports : Code.Imports root "webPage" :=
    .inr ⟨statement, .child List.mem_cons_self .here, rfl, _, List.mem_cons_self, .inr ⟨rfl, _, rfl, by decide +kernel⟩⟩
  refine ⟨himports, fun order => ?_⟩
  have hused : Code.usedNames root.places = ["webPage"] := by decide +kernel
  have hmixed : Naming.mixedNames order c.settings s = .ok ["webPage"] := by
    rw [Naming.mixedNames_eq rfl rfl, hused, order.list_singleton]
    decide +kernel
  have hmessage : "for example, rename the following: webPage" =
      (Message.rename (["webPage"].take Naming.shownNames)).render c.language := by decide +kernel
  exact ⟨hmixed, Naming.camelCase_eq_some_iff.mpr
    ⟨[], s, [], ["webPage"], rfl, fun _ hk => absurd hk List.not_mem_nil, hmixed, by decide, hmessage⟩⟩

end Scrutiny
