import Scrutiny.Check.Naming
import Scrutiny.Proofs.Announced
import Scrutiny.Proofs.Collection
import Scrutiny.Proofs.Outcome
import Scrutiny.Proofs.TreeWalk

/-! The variables of loops among the names that a program defines.

The targets of all loops are read together: each of them has to be a plain name, or no loop gives a name at all
(`mem_loopNames_iff`). A loop variable is then defined only if something else defines it too. What is defined is what
the checks of names see, so a name that is lost is not reported. -/
namespace Scrutiny

namespace Code
open Scrutiny.Tree (Occurs)

/-! ### What a program defines -/

/-- A loop or comprehension of the program has the target. -/
def LoopsOver (root target : Node) : Prop :=
  ∃ loop, Occurs loop root ∧ (loop.kind = .forLoop ∨ loop.kind = .comprehension) ∧ loop.part? .target = some target

/-- Every loop of the program has a plain name as its target. -/
def LoopsByName (root : Node) : Prop :=
  ∀ target, LoopsOver root target → target.identifier?.isSome = true

/-- The program assigns to the name, and not at the start of a line. -/
def Assigns (root : Node) (name : String) : Prop :=
  ∃ assignment, Occurs assignment root ∧ assignment.kind = .assign ∧
    ∃ target ∈ assignment.parts .targets, 0 < target.column ∧ target.identifier? = some name

/-- A function of the program takes an argument of the name. -/
def Takes (root : Node) (name : String) : Prop :=
  ∃ function, Occurs function root ∧ function.kind = .functionDef ∧
    ∃ args, function.part? .args = some args ∧ ∃ arg ∈ args.parts .args, arg.word? .arg = some name

/-- A function of the program has the name. -/
def Names (root : Node) (name : String) : Prop :=
  ∃ function, Occurs function root ∧ function.kind = .functionDef ∧ function.word? .name = some name

/-- The program defines the name in another way than by a loop. -/
def DefinesElsewhere (root : Node) (name : String) : Prop :=
  Assigns root name ∨ Takes root name ∨ Names root name

variable {root : Node} {name : String}

theorem mem_nodes_iff {kind : Kind} {n : Node} : n ∈ Walk.nodes root.places kind ↔ Occurs n root ∧ n.kind = kind := by
  rw [← Tree.mem_walk_iff, Tree.walk, Walk.nodes, List.mem_map, List.mem_map]
  constructor
  · rintro ⟨p, hp, rfl⟩
    obtain ⟨hplace, hkind⟩ := List.mem_filter.mp hp
    exact ⟨⟨p, hplace, rfl⟩, of_decide_eq_true hkind⟩
  · rintro ⟨⟨p, hplace, rfl⟩, hkind⟩
    exact ⟨p, List.mem_filter.mpr ⟨hplace, decide_eq_true hkind⟩, rfl⟩

theorem mem_loopTargets_iff {target : Node} : target ∈ loopTargets root.places ↔ LoopsOver root target := by
  simp only [loopTargets, Walk.ofKinds, List.mem_filterMap, List.mem_filter, List.contains_eq_mem, List.mem_cons,
    List.not_mem_nil, or_false, decide_eq_true_eq, and_assoc]
  exact Tree.exists_place_iff (P := fun loop =>
    (loop.kind = .forLoop ∨ loop.kind = .comprehension) ∧ loop.part? .target = some target)

section Mapping
variable {α β : Type} {f : α → Option β} {as : List α}

theorem mapM_eq_filterMap (h : ∀ a ∈ as, (f a).isSome = true) : as.mapM f = some (as.filterMap f) := by
  induction as with
  | nil => rfl
  | cons a rest ih =>
    obtain ⟨ha, hrest⟩ := List.forall_mem_cons.mp h
    obtain ⟨b, hb⟩ := Option.isSome_iff_exists.mp ha
    rw [List.mapM_cons, hb, ih hrest, List.filterMap_cons_some hb]
    rfl

theorem mapM_eq_none {a : α} (ha : a ∈ as) (h : f a = none) : as.mapM f = none := by
  induction as with
  | nil => cases ha
  | cons first rest ih =>
    rw [List.mapM_cons]
    rcases List.mem_cons.mp ha with rfl | ha
    · rw [h]
      rfl
    · rw [ih ha]
      cases f first with
      | none => rfl
      | some b => rfl

end Mapping

/-- The name of a loop is kept if all loops of the program have names. -/
theorem mem_loopNames_iff : name ∈ loopNames root.places ↔
    LoopsByName root ∧ ∃ target, LoopsOver root target ∧ target.identifier? = some name := by
  simp only [loopNames, LoopsByName, ← mem_loopTargets_iff]
  by_cases hall : ∀ other ∈ loopTargets root.places, other.identifier?.isSome = true
  · rw [mapM_eq_filterMap hall, Option.getD_some, List.mem_filterMap]
    exact (and_iff_right hall).symm
  · obtain ⟨other, hother, hnone⟩ : ∃ other ∈ loopTargets root.places, other.identifier? = none := by
      simpa using hall
    rw [mapM_eq_none hother hnone]
    simp [hall]

theorem mem_functionNames_iff : name ∈ functionNames root.places ↔ Names root name := by
  simp only [functionNames, List.mem_filterMap, mem_nodes_iff, Names, and_assoc]

theorem mem_argumentNames_iff : name ∈ argumentNames root.places ↔ Takes root name := by
  simp only [argumentNames, List.mem_flatMap, List.mem_filterMap, mem_nodes_iff, Takes]
  constructor
  · rintro ⟨args, ⟨function, ⟨hfunction, hkind⟩, hargs⟩, harg⟩
    exact ⟨function, hfunction, hkind, args, hargs, harg⟩
  · rintro ⟨function, hfunction, hkind, args, hargs, harg⟩
    exact ⟨args, ⟨function, ⟨hfunction, hkind⟩, hargs⟩, harg⟩

theorem mem_parts_iff {p q : Place} {slot : Slot} :
    q ∈ p.parts slot ↔ ∃ n ∈ p.here.parts slot, q = ⟨n, p.here :: p.above⟩ := by
  simp only [Tree.Place.parts, Tree.Place.below, Tree.parts, List.mem_filter, List.mem_map]
  constructor
  · rintro ⟨⟨n, hn, rfl⟩, hrole⟩
    exact ⟨n, ⟨hn, hrole⟩, rfl⟩
  · rintro ⟨n, ⟨hn, hrole⟩, rfl⟩
    exact ⟨⟨n, hn, rfl⟩, hrole⟩

/-- A target stands right below its assignment. -/
theorem mem_targets_iff {q : Place} :
    q ∈ targets root.places ↔
      ∃ p ∈ root.places, p.here.kind = .assign ∧ ∃ n ∈ p.here.parts .targets, q = ⟨n, p.here :: p.above⟩ := by
  simp only [targets, List.mem_flatMap, List.mem_filter, decide_eq_true_eq, mem_parts_iff, and_assoc]
  rfl

theorem mem_indentedNames_iff : some name ∈ indentedNames (targets root.places) ↔ Assigns root name := by
  rw [Assigns, ← Tree.exists_place_iff (P := fun assignment => assignment.kind = .assign ∧
    ∃ target ∈ assignment.parts .targets, 0 < target.column ∧ target.identifier? = some name)]
  simp only [indentedNames, List.mem_map, List.mem_filter, mem_targets_iff, decide_eq_true_eq]
  constructor
  · rintro ⟨_, ⟨⟨p, hp, hkind, n, hn, rfl⟩, hcolumn⟩, hname⟩
    exact ⟨p, hp, hkind, n, hn, hcolumn, hname⟩
  · rintro ⟨p, hp, hkind, n, hn, hcolumn, hname⟩
    exact ⟨_, ⟨⟨p, hp, hkind, n, hn, rfl⟩, hcolumn⟩, hname⟩

/-- What is defined is what loops give names to, and what is defined elsewhere. -/
theorem mem_definedNames_iff (hne : name ≠ "") :
    name ∈ definedNames root.places ↔ name ∈ loopNames root.places ∨ DefinesElsewhere root name := by
  simp only [definedNames, definedBy, List.mem_filter, List.mem_append, List.mem_filterMap, id_eq, exists_eq_right,
    mem_indentedNames_iff, mem_argumentNames_iff, mem_functionNames_iff, DefinesElsewhere]
  simp only [ne_eq, hne, not_false_eq_true, decide_true, and_true]
  constructor
  · rintro (((hassigns | hloop) | htakes) | hnames)
    · exact .inr (.inl hassigns)
    · exact .inl hloop
    · exact .inr (.inr (.inl htakes))
    · exact .inr (.inr (.inr hnames))
  · rintro (hloop | hassigns | htakes | hnames)
    · exact .inl (.inl (.inr hloop))
    · exact .inl (.inl (.inl hassigns))
    · exact .inl (.inr htakes)
    · exact .inr hnames

end Code

/-! ### What the checks of names report -/

/-- The names that a source defines; none if it does not parse. -/
def Source.definedNames (s : Source) : List String :=
  match s.tree with
  | some root => Code.definedNames root.places
  | none => []

theorem Source.walk_of_isParsed {s : Source} (h : s.isParsed = true) :
    ∃ walk, s.walk = .ok walk ∧ s.definedNames = Code.definedNames walk := by
  obtain ⟨root, htree⟩ := Option.isSome_iff_exists.mp h
  exact ⟨root.places, by simp [walk, htree], by simp [definedNames, htree]⟩

theorem Text.Enumeration.isEmpty_list (order : Enumeration) (names : List String) :
    (order.list names).isEmpty = names.isEmpty := by
  rw [Bool.eq_iff_iff, List.isEmpty_iff, List.isEmpty_iff, List.eq_nil_iff_forall_not_mem,
    List.eq_nil_iff_forall_not_mem]
  simp only [order.mem_list_iff]

namespace Naming
variable {c : Context} {p : Project} {name : String}

/-- The names in common, if there are any. -/
theorem common_of_mem (order : Text.Enumeration) {names words : List String} (h : name ∈ names)
    (hword : name ∈ words) : ∃ found, common order names words = some (listed found) ∧ name ∈ found := by
  have hmem : name ∈ names.filter words.contains := List.mem_filter.mpr ⟨h, by simpa using hword⟩
  have hne : (names.filter words.contains).isEmpty = false := by
    simpa using List.ne_nil_of_mem hmem
  exact ⟨order.list (names.filter words.contains), by simp [common, hne], order.mem_list_iff.mpr hmem⟩

/-- Of sources that parse, all names that are too short are reported, and no others. -/
theorem short_eq (hparsed : ∀ s ∈ p.sources, s.isParsed = true) :
    ∃ names, short c p = .ok (if names.isEmpty then none else some (listed names)) ∧
      ∀ name, name ∈ names ↔ isTooShort c.settings name = true ∧ ∃ s ∈ p.sources, name ∈ s.definedNames := by
  have hlists : p.sources.mapM (shortNames c.settings) =
      .ok (p.sources.map fun s => s.definedNames.filter (isTooShort c.settings)) := by
    rw [Outcome.mapM_eq_ok_iff, List.forall₂_map_right_iff, List.forall₂_same]
    intro s hs
    obtain ⟨walk, hwalk, hnames⟩ := Source.walk_of_isParsed (hparsed s hs)
    rw [shortNames, hwalk, hnames]
    rfl
  refine ⟨c.runtime.order.list (p.sources.map fun s => s.definedNames.filter (isTooShort c.settings)).flatten, ?_, ?_⟩
  · rw [short, hlists, Text.Enumeration.isEmpty_list]
    rfl
  · intro name
    simp only [Text.Enumeration.mem_list_iff, List.mem_flatten, List.mem_map]
    constructor
    · rintro ⟨_, ⟨s, hs, rfl⟩, hname⟩
      obtain ⟨hdefined, hshort⟩ := List.mem_filter.mp hname
      exact ⟨hshort, s, hs, hdefined⟩
    · rintro ⟨hshort, s, hs, hdefined⟩
      exact ⟨_, ⟨s, hs, rfl⟩, List.mem_filter.mpr ⟨hdefined, hshort⟩⟩

/-- A name on the blacklist in one of the sources is enough for a report. -/
theorem blacklisted_of_mem (hparsed : ∀ s ∈ p.sources, s.isParsed = true) {s : Source}
    (hs : s ∈ p.sourcesOutside c.settings.badVariablesPathsToIgnore) (h : name ∈ s.definedNames)
    (hbad : name ∈ c.settings.badVariableNames.items) : ∃ message, blacklisted c p = .ok (some message) := by
  have hjudge : ∀ k ∈ p.sourcesOutside c.settings.badVariablesPathsToIgnore,
      (do return common c.runtime.order (Code.definedNames (← k.walk)) c.settings.badVariableNames.items :
        Outcome (Option String)) = .ok (common c.runtime.order k.definedNames c.settings.badVariableNames.items) := by
    intro k hk
    obtain ⟨walk, hwalk, hnames⟩ := Source.walk_of_isParsed (hparsed k (List.mem_filter.mp hk).1)
    rw [hwalk, hnames]
    rfl
  obtain ⟨found, hcommon, _⟩ := common_of_mem c.runtime.order h hbad
  rw [blacklisted, Outcome.firstFinding_eq_findSome? hjudge]
  obtain ⟨message, hmessage⟩ : ∃ message, (p.sourcesOutside c.settings.badVariablesPathsToIgnore).findSome?
      (fun k => common c.runtime.order k.definedNames c.settings.badVariableNames.items) = some message := by
    rw [← Option.isSome_iff_exists, List.findSome?_isSome_iff]
    exact ⟨s, hs, by rw [hcommon]; rfl⟩
  exact ⟨message, by rw [hmessage]⟩

end Naming

/-- **A loop variable is defined just when all loops of the program are over plain names, or something else defines it
too.** One loop over a tuple, an attribute or an item takes the names of all the others away. A name that is defined is
reported by the checks of names, if it is too short or on the blacklist. -/
theorem loop_variable_is_defined_iff {root target : Code.Node} {name : String} (hloop : Code.LoopsOver root target)
    (hplain : target.identifier? = some name) (hne : name ≠ "") :
    (name ∈ Code.definedNames root.places ↔ Code.LoopsByName root ∨ Code.DefinesElsewhere root name) ∧
    ∀ (c : Context) (p : Project) (s : Source), (∀ k ∈ p.sources, k.isParsed = true) → s ∈ p.sources →
      s.tree = some root → Code.LoopsByName root ∨ Code.DefinesElsewhere root name →
      (Naming.isTooShort c.settings name = true →
        ∃ names, Naming.short c p = .ok (some (Naming.listed names)) ∧ name ∈ names) ∧
      (s.isIgnored c.settings.badVariablesPathsToIgnore = false → name ∈ c.settings.badVariableNames.items →
        (∃ names, Naming.common c.runtime.order s.definedNames c.settings.badVariableNames.items =
            some (Naming.listed names) ∧ name ∈ names) ∧ ∃ message, Naming.blacklisted c p = .ok (some message)) := by
  have hiff : name ∈ Code.definedNames root.places ↔ Code.LoopsByName root ∨ Code.DefinesElsewhere root name := by
    rw [Code.mem_definedNames_iff hne, Code.mem_loopNames_iff]
    exact or_congr_left (and_iff_left ⟨target, hloop, hplain⟩)
  refine ⟨hiff, fun c p s hparsed hs htree hkept => ?_⟩
  have hname : name ∈ s.definedNames := by
    simpa [Source.definedNames, htree] using hiff.mpr hkept
  refine ⟨fun hshort => ?_, fun hseen hbad => ?_⟩
  · obtain ⟨names, hreport, hmem⟩ := Naming.short_eq (c := c) hparsed
    have hin := (hmem name).mpr ⟨hshort, s, hs, hname⟩
    have hsome : names.isEmpty = false := by simpa using List.ne_nil_of_mem hin
    exact ⟨names, by rw [hreport, hsome]; rfl, hin⟩
  · have houtside : s ∈ p.sourcesOutside c.settings.badVariablesPathsToIgnore :=
      List.mem_filter.mpr ⟨hs, by simp [hseen]⟩
    exact ⟨Naming.common_of_mem _ hname hbad, Naming.blacklisted_of_mem hparsed houtside hname hbad⟩

/-- A loop inside of a loop, and a comprehension beside them, all over plain names. -/
theorem plain_loop_variable_is_reported :
    let variableNamed : String → Code.Node := fun name =>
      .node ⟨.identifier, .target, some ⟨1, 4⟩, [(.id, .word name)]⟩ []
    let inner : Code.Node := .node ⟨.forLoop, .body, some ⟨2, 4⟩, []⟩ [variableNamed "n"]
    let outer : Code.Node := .node ⟨.forLoop, .body, some ⟨1, 0⟩, []⟩ [variableNamed "row", inner]
    let generator : Code.Node := .node ⟨.comprehension, .generators, none, []⟩ [variableNamed "cell"]
    let root : Code.Node := .node ⟨.module, .body, none, []⟩
      [outer, .node ⟨.listComp, .body, some ⟨3, 0⟩, []⟩ [generator]]
    let c : Context := { disk := { top := .node { name := "" } [] }, path := "p" }
    let p : Project := { path := "p", sources := [⟨"p/m.py", "", some root⟩] }
    Code.LoopsOver root (variableNamed "n") ∧ "n" ∈ Code.definedNames root.places ∧
      (∃ names, Naming.short c p = .ok (some (Naming.listed names)) ∧ "n" ∈ names) ∧
      ∃ message, Naming.blacklisted c p = .ok (some message) := by
  intro variableNamed inner outer generator root c p
  have hloop : Code.LoopsOver root (variableNamed "n") :=
    ⟨inner, .child List.mem_cons_self (.child (List.mem_cons_of_mem _ List.mem_cons_self) .here), .inl rfl, rfl⟩
  have htargets : ∀ target ∈ Code.loopTargets root.places, target.identifier?.isSome = true := by decide +kernel
  have hkept : Code.LoopsByName root ∨ Code.DefinesElsewhere root "n" :=
    .inl fun target htarget => htargets target (Code.mem_loopTargets_iff.mpr htarget)
  obtain ⟨hiff, hreported⟩ := loop_variable_is_defined_iff hloop rfl (by decide)
  obtain ⟨hshort, hbad⟩ := hreported c p _ (by decide +kernel) List.mem_cons_self rfl hkept
  exact ⟨hloop, hiff.mpr hkept, hshort (by decide +kernel), (hbad (by decide +kernel) (by decide +kernel)).2⟩

/-- Beside a loop over pairs, a loop variable that is short and on the blacklist is lost. -/
theorem loop_over_pairs_hides_other_loops :
    let variableNamed : Code.Slot → String → Code.Node := fun role name =>
      .node ⟨.identifier, role, some ⟨1, 4⟩, [(.id, .word name)]⟩ []
    let plain : Code.Node := .node ⟨.forLoop, .body, some ⟨1, 0⟩, []⟩ [variableNamed .target "n"]
    let pairs : Code.Node := .node ⟨.forLoop, .body, some ⟨2, 0⟩, []⟩
      [.node ⟨.tuple, .target, some ⟨2, 4⟩, []⟩ [variableNamed .elts "key", variableNamed .elts "box"]]
    let root : Code.Node := .node ⟨.module, .body, none, []⟩ [plain, pairs]
    let c : Context := { disk := { top := .node { name := "" } [] }, path := "p" }
    let p : Project := { path := "p", sources := [⟨"p/m.py", "", some root⟩] }
    (Code.LoopsOver root (variableNamed .target "n") ∧ (variableNamed .target "n").identifier? = some "n") ∧
      (Naming.isTooShort c.settings "n" = true ∧ "n" ∈ c.settings.badVariableNames.items) ∧
      "n" ∉ Code.definedNames root.places ∧ Naming.short c p = .ok none ∧ Naming.blacklisted c p = .ok none := by
  intro variableNamed plain pairs root c p
  refine ⟨⟨⟨plain, .child List.mem_cons_self .here, .inl rfl, rfl⟩, rfl⟩, ?_⟩
  decide +kernel

end Scrutiny
