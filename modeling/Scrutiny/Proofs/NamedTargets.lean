import Scrutiny.Proofs.LoopNames
import Scrutiny.Proofs.Passing

/-! Targets of assignments that are asked for their names.

The check for names of mixed case reads the names of two kinds of targets: those of an assignment whose value starts
from an allowed name, and the first one of an assignment that makes a named tuple. It looks at the value only, so a
target that is no plain name is met there too, and then the check fails. Elsewhere any target will do. -/
namespace Scrutiny

namespace Code
open Scrutiny.Tree (Occurs)

/-! ### Where a value starts from -/

/-- A value starts from a name if it is the name, or an attribute or a call of something that starts from it. -/
inductive StartsFrom (name : String) : Node → Prop
  | plain {n : Node} : n.kind ≠ .member → n.kind ≠ .call → n.identifier? = some name → StartsFrom name n
  | member {n value : Node} : n.kind = .member → n.part? .value = some value → StartsFrom name value → StartsFrom name n
  | call {n function : Node} : n.kind = .call → n.part? .func = some function → StartsFrom name function →
      StartsFrom name n

theorem rootNameIn?_eq (slot : Slot) (nodes : List Node) :
    rootNameIn? slot nodes = (nodes.find? (·.role = slot)).bind rootName? := by
  induction nodes with
  | nil => rfl
  | cons n rest ih =>
    rw [rootNameIn?, ih]
    by_cases hrole : n.role = slot
    · simp [hrole]
    · simp [hrole]

theorem rootName?_of_member {n : Node} (h : n.kind = .member) : rootName? n = (n.part? .value).bind rootName? := by
  obtain ⟨label, children⟩ := n
  have hkind : label.kind = .member := h
  rw [rootName?, hkind]
  exact rootNameIn?_eq .value children

theorem rootName?_of_call {n : Node} (h : n.kind = .call) : rootName? n = (n.part? .func).bind rootName? := by
  obtain ⟨label, children⟩ := n
  have hkind : label.kind = .call := h
  rw [rootName?, hkind]
  exact rootNameIn?_eq .func children

theorem rootName?_of_plain {n : Node} (hmember : n.kind ≠ .member) (hcall : n.kind ≠ .call) :
    rootName? n = n.identifier? := by
  obtain ⟨label, children⟩ := n
  rw [rootName?]
  split
  · rename_i hkind
    exact absurd hkind hmember
  · rename_i hkind
    exact absurd hkind hcall
  · rfl

/-- The search for the name follows attributes and calls. One way the induction is on the tree, the other on the
chain. -/
theorem rootName?_eq_some_iff {name : String} {n : Node} : rootName? n = some name ↔ StartsFrom name n := by
  constructor
  · induction n using Tree.induction with
    | h label children ih =>
      intro h
      by_cases hmember : (Tree.node label children).kind = .member
      · rw [rootName?_of_member hmember] at h
        obtain ⟨value, hvalue, hname⟩ := Option.bind_eq_some_iff.mp h
        exact .member hmember hvalue (ih value (List.mem_of_find?_eq_some hvalue) hname)
      · by_cases hcall : (Tree.node label children).kind = .call
        · rw [rootName?_of_call hcall] at h
          obtain ⟨function, hfunction, hname⟩ := Option.bind_eq_some_iff.mp h
          exact .call hcall hfunction (ih function (List.mem_of_find?_eq_some hfunction) hname)
        · rw [rootName?_of_plain hmember hcall] at h
          exact .plain hmember hcall h
  · intro h
    induction h with
    | plain hmember hcall hname => rw [rootName?_of_plain hmember hcall, hname]
    | member hkind hvalue _ ih => rw [rootName?_of_member hkind, hvalue, Option.bind_some, ih]
    | call hkind hfunction _ ih => rw [rootName?_of_call hkind, hfunction, Option.bind_some, ih]

/-! ### Targets that are read -/

/-- The value of an assignment starts from one of the names. -/
def TakesFrom (names : List String) (assignment : Node) : Prop :=
  ∃ value name, assignment.part? .value = some value ∧ StartsFrom name value ∧ name ∈ names

/-- A target that is asked for its name: one of an assignment from an allowed name, or the first one of an assignment
that makes a named tuple. -/
def AsksFor (allowed : List String) (root target : Node) : Prop :=
  ∃ assignment, Occurs assignment root ∧ assignment.kind = .assign ∧
    (TakesFrom allowed assignment ∧ target ∈ assignment.parts .targets ∨
      makesRecord assignment = true ∧ (assignment.parts .targets).head? = some target)

theorem targetName_isOk_iff {n : Node} : (∃ name, targetName n = .ok name) ↔ n.identifier?.isSome = true := by
  unfold targetName
  cases n.identifier? <;> simp

theorem targetName_eq_error_iff {n : Node} {failure : Failure} :
    targetName n = .error failure ↔ n.identifier? = none ∧ failure = .unnamed n.kind := by
  unfold targetName
  cases n.identifier? <;> simp [eq_comm]

section Reading
variable {allowed : List String} {root : Node}

theorem namedAmong_list {found : Option String} :
    namedAmong (.list allowed) found = .ok (found.any allowed.contains) := by
  cases found with
  | none => rfl
  | some name => rfl

theorem takesFrom_iff {assignment : Node} :
    ((assignment.part? .value).bind rootName?).any allowed.contains = true ↔ TakesFrom allowed assignment := by
  rw [Option.any_eq_true, TakesFrom]
  constructor
  · rintro ⟨name, hname, hallowed⟩
    obtain ⟨value, hvalue, hroot⟩ := Option.bind_eq_some_iff.mp hname
    exact ⟨value, name, hvalue, rootName?_eq_some_iff.mp hroot, by simpa using hallowed⟩
  · rintro ⟨value, name, hvalue, hstarts, hallowed⟩
    have hname := Option.bind_eq_some_iff.mpr ⟨value, hvalue, rootName?_eq_some_iff.mpr hstarts⟩
    exact ⟨name, hname, by simpa using hallowed⟩

theorem namesFrom_of_takesFrom {assignment : Node} (h : TakesFrom allowed assignment) :
    namesFrom (.list allowed) assignment = (assignment.parts .targets).mapM targetName := by
  rw [namesFrom, namedAmong_list, takesFrom_iff.mpr h]
  rfl

theorem namesFrom_of_not_takesFrom {assignment : Node} (h : ¬ TakesFrom allowed assignment) :
    namesFrom (.list allowed) assignment = .ok [] := by
  rw [namesFrom, namedAmong_list, Bool.eq_false_iff.mpr (mt takesFrom_iff.mp h)]
  rfl

/-- The targets of one assignment are read where each of them has a name, if they are asked for at all. -/
theorem namesFrom_isOk_iff {assignment : Node} :
    (∃ names, namesFrom (.list allowed) assignment = .ok names) ↔
      (TakesFrom allowed assignment → ∀ target ∈ assignment.parts .targets, target.identifier?.isSome = true) := by
  by_cases htakes : TakesFrom allowed assignment
  · rw [namesFrom_of_takesFrom htakes, Outcome.mapM_isOk_iff]
    simp only [targetName_isOk_iff, htakes, true_imp_iff]
  · rw [namesFrom_of_not_takesFrom htakes]
    simp [htakes]

theorem of_namesFrom_eq_error {assignment : Node} {failure : Failure}
    (h : namesFrom (.list allowed) assignment = .error failure) :
    TakesFrom allowed assignment ∧ ∃ target ∈ assignment.parts .targets, targetName target = .error failure := by
  by_cases htakes : TakesFrom allowed assignment
  · rw [namesFrom_of_takesFrom htakes] at h
    exact ⟨htakes, Outcome.mapM_eq_error h⟩
  · rw [namesFrom_of_not_takesFrom htakes] at h
    cases h

/-- The first target of each assignment that makes a named tuple. -/
theorem mem_recordTargets_iff {target : Node} :
    target ∈ ((Walk.nodes root.places .assign).filter makesRecord).filterMap (fun a => (a.parts .targets).head?) ↔
      ∃ assignment, Occurs assignment root ∧ assignment.kind = .assign ∧ makesRecord assignment = true ∧
        (assignment.parts .targets).head? = some target := by
  simp only [List.mem_filterMap, List.mem_filter, mem_nodes_iff, and_assoc]

theorem namesAssignedFrom_isOk_iff :
    (∃ names, namesAssignedFrom root.places (.list allowed) = .ok names) ↔
      ∀ assignment, Occurs assignment root → assignment.kind = .assign → TakesFrom allowed assignment →
        ∀ target ∈ assignment.parts .targets, target.identifier?.isSome = true := by
  have hall : (∃ names, namesAssignedFrom root.places (.list allowed) = .ok names) ↔
      ∃ lists, (Walk.nodes root.places .assign).mapM (namesFrom (.list allowed)) = .ok lists := by
    rw [namesAssignedFrom, Outcome.bind_isOk_iff]
    exact exists_congr fun lists => and_iff_left ⟨_, rfl⟩
  rw [hall, Outcome.mapM_isOk_iff]
  simp only [namesFrom_isOk_iff, mem_nodes_iff, and_imp]

theorem recordNames_isOk_iff :
    (∃ names, recordNames root.places = .ok names) ↔
      ∀ assignment, Occurs assignment root → assignment.kind = .assign → makesRecord assignment = true →
        ∀ target, (assignment.parts .targets).head? = some target → target.identifier?.isSome = true := by
  rw [recordNames, Outcome.mapM_isOk_iff]
  simp only [targetName_isOk_iff, mem_recordTargets_iff]
  constructor
  · intro h assignment hoccurs hkind hmakes target htarget
    exact h target ⟨assignment, hoccurs, hkind, hmakes, htarget⟩
  · rintro h target ⟨assignment, hoccurs, hkind, hmakes, htarget⟩
    exact h assignment hoccurs hkind hmakes target htarget

/-- The names of a program are read just when all targets that are asked for theirs have one. -/
theorem reading_isOk_iff :
    ((∃ names, namesAssignedFrom root.places (.list allowed) = .ok names) ∧
        ∃ names, recordNames root.places = .ok names) ↔
      ∀ target, AsksFor allowed root target → target.identifier?.isSome = true := by
  rw [namesAssignedFrom_isOk_iff, recordNames_isOk_iff]
  constructor
  · rintro ⟨hassigned, hrecords⟩ target ⟨assignment, hoccurs, hkind, ⟨htakes, htarget⟩ | ⟨hmakes, htarget⟩⟩
    · exact hassigned assignment hoccurs hkind htakes target htarget
    · exact hrecords assignment hoccurs hkind hmakes target htarget
  · intro h
    refine ⟨fun assignment hoccurs hkind htakes target htarget => ?_,
      fun assignment hoccurs hkind hmakes target htarget => ?_⟩
    · exact h target ⟨assignment, hoccurs, hkind, .inl ⟨htakes, htarget⟩⟩
    · exact h target ⟨assignment, hoccurs, hkind, .inr ⟨hmakes, htarget⟩⟩

theorem of_namesAssignedFrom_eq_error {failure : Failure}
    (h : namesAssignedFrom root.places (.list allowed) = .error failure) :
    ∃ target, AsksFor allowed root target ∧ targetName target = .error failure := by
  obtain hlists | ⟨_, _, hdone⟩ := Outcome.bind_eq_error.mp h
  · obtain ⟨assignment, hmem, hfail⟩ := Outcome.mapM_eq_error hlists
    obtain ⟨hoccurs, hkind⟩ := mem_nodes_iff.mp hmem
    obtain ⟨htakes, target, htarget, hname⟩ := of_namesFrom_eq_error hfail
    exact ⟨target, ⟨assignment, hoccurs, hkind, .inl ⟨htakes, htarget⟩⟩, hname⟩
  · cases hdone

theorem of_recordNames_eq_error {failure : Failure} (h : recordNames root.places = .error failure) :
    ∃ target, AsksFor allowed root target ∧ targetName target = .error failure := by
  obtain ⟨target, hmem, hname⟩ := Outcome.mapM_eq_error h
  obtain ⟨assignment, hoccurs, hkind, hmakes, htarget⟩ := mem_recordTargets_iff.mp hmem
  exact ⟨target, ⟨assignment, hoccurs, hkind, .inr ⟨hmakes, htarget⟩⟩, hname⟩

end Reading
end Code

/-! ### The check -/

namespace Naming
open Code (AsksFor)
variable {order : Text.Enumeration} {settings : Settings} {s : Source} {allowed : List String} {root : Code.Node}

/-- Whether a name mixes cases and has no excuse, given the names that were read from targets. -/
def isInexcusable (settings : Settings) (walk : Code.Walk) (excused records : List String) (name : String) : Bool :=
  isMixedCase name && !(Code.namesFromImports walk).contains name && !(Code.classNames walk).contains name &&
    !records.contains name && !Code.builtins.contains name && !settings.validNonSnakeCaseLeftHandValues.has name &&
    !excused.contains name

/-- Of a source with a tree, only the reading of targets can fail. -/
theorem mixedNames_eq (htree : s.tree = some root)
    (hallowed : settings.validNonSnakeCaseRightHandValues = .list allowed) :
    mixedNames order settings s =
      Code.namesAssignedFrom root.places (.list allowed) >>= fun excused =>
        Code.recordNames root.places >>= fun records =>
          .ok ((order.list (Code.usedNames root.places)).filter
            (isInexcusable settings root.places excused records)) := by
  have hwalk : s.walk = .ok root.places := by rw [Source.walk, htree]
  rw [mixedNames, hwalk, hallowed]
  rfl

theorem mixedNames_isOk_iff (htree : s.tree = some root)
    (hallowed : settings.validNonSnakeCaseRightHandValues = .list allowed) :
    (∃ names, mixedNames order settings s = .ok names) ↔
      ∀ target, AsksFor allowed root target → target.identifier?.isSome = true := by
  rw [← Code.reading_isOk_iff, mixedNames_eq htree hallowed, Outcome.bind_isOk_iff]
  simp only [Outcome.bind_isOk_iff]
  constructor
  · rintro ⟨excused, hexcused, records, hrecords, _⟩
    exact ⟨⟨excused, hexcused⟩, records, hrecords⟩
  · rintro ⟨⟨excused, hexcused⟩, records, hrecords⟩
    exact ⟨excused, hexcused, records, hrecords, _, rfl⟩

theorem of_mixedNames_eq_error (htree : s.tree = some root)
    (hallowed : settings.validNonSnakeCaseRightHandValues = .list allowed) {failure : Failure}
    (h : mixedNames order settings s = .error failure) :
    ∃ target, AsksFor allowed root target ∧ target.identifier? = none ∧ failure = .unnamed target.kind := by
  rw [mixedNames_eq htree hallowed] at h
  suffices hasked : ∃ target, AsksFor allowed root target ∧ Code.targetName target = .error failure by
    obtain ⟨target, hasks, hname⟩ := hasked
    exact ⟨target, hasks, Code.targetName_eq_error_iff.mp hname⟩
  obtain hexcused | ⟨_, _, hrest⟩ := Outcome.bind_eq_error.mp h
  · exact Code.of_namesAssignedFrom_eq_error hexcused
  · obtain hrecords | ⟨_, _, hdone⟩ := Outcome.bind_eq_error.mp hrest
    · exact Code.of_recordNames_eq_error hrecords
    · cases hdone

end Naming

/-- **The check for names of mixed case comes to an end just when, in every source that it reaches, the targets that are
asked for their names have one.** It reaches a source if it finds nothing in those before. Where it fails, it fails on
such a target without a name, and says of which kind that is. -/
theorem mixed_names_are_read_iff {c : Context} {p : Project} {allowed : List String}
    (hallowed : c.settings.validNonSnakeCaseRightHandValues = .list allowed)
    (hparsed : ∀ s ∈ p.sources, s.isParsed = true) :
    ((∃ found, Naming.camelCase c p = .ok found) ↔
      ∀ before s after root, p.sources = before ++ s :: after → s.tree = some root →
        (∀ k ∈ before, Naming.mixedNames c.runtime.order c.settings k = .ok []) →
        ∀ target, Code.AsksFor allowed root target → target.identifier?.isSome = true) ∧
    ∀ failure, Naming.camelCase c p = .error failure →
      ∃ s ∈ p.sources, ∃ root target, s.tree = some root ∧ Code.AsksFor allowed root target ∧
        target.identifier? = none ∧ failure = .unnamed target.kind := by
  refine ⟨?_, fun failure hfail => ?_⟩
  · rw [Naming.camelCase, Outcome.firstFinding_isOk_iff]
    simp only [Outcome.returnUnlessEmpty_eq_none, Outcome.bind_isOk_iff]
    constructor
    · intro hall before s after root hsplit htree hbefore
      obtain ⟨names, hnames, _⟩ := hall before s after hsplit hbefore
      exact (Naming.mixedNames_isOk_iff htree hallowed).mp ⟨names, hnames⟩
    · intro hall before s after hsplit hbefore
      obtain ⟨root, htree⟩ := Option.isSome_iff_exists.mp (hparsed s (by rw [hsplit]; simp))
      obtain ⟨names, hnames⟩ := (Naming.mixedNames_isOk_iff htree hallowed).mpr
        (hall before s after root hsplit htree hbefore)
      exact ⟨names, hnames, _, rfl⟩
  · obtain ⟨s, hs, hjudge⟩ := Outcome.firstFinding_eq_error hfail
    obtain ⟨root, htree⟩ := Option.isSome_iff_exists.mp (hparsed s hs)
    obtain hnames | ⟨_, _, hdone⟩ := Outcome.bind_eq_error.mp hjudge
    · obtain ⟨target, htarget⟩ := Naming.of_mixedNames_eq_error htree hallowed hnames
      exact ⟨s, hs, root, target, htree, htarget⟩
    · cases hdone

/-- Named targets where they are asked for, next to an attribute and a pair where they are not. -/
theorem plain_targets_are_read :
    let named : Code.Slot → String → Code.Node := fun role name =>
      .node ⟨.identifier, role, some ⟨1, 0⟩, [(.id, .word name)]⟩ []
    let call : Code.Slot → Code.Node → Code.Node := fun role function => .node ⟨.call, role, some ⟨1, 0⟩, []⟩ [function]
    let made : Code.Slot → Code.Node → Code.Node := fun role value =>
      .node ⟨.member, role, some ⟨1, 0⟩, [(.attr, .word "made")]⟩ [value]
    let assign : Code.Node → Code.Node → Code.Node := fun target value =>
      .node ⟨.assign, .body, some ⟨1, 0⟩, []⟩ [target, value]
    let root : Code.Node := .node ⟨.module, .body, none, []⟩
      [assign (named .targets "Point") (call .value (named .func "namedtuple")),
       assign (named .targets "Model") (call .value (made .func (call .value (named .func "Base")))),
       assign (made .targets (named .value "box")) (call .value (named .func "make")),
       assign (.node ⟨.tuple, .targets, some ⟨1, 0⟩, []⟩ [named .elts "left", named .elts "right"])
         (named .value "pair")]
    let c : Context := { disk := { top := .node { name := "" } [] }, path := "p" }
    let p : Project := { path := "p", sources := [⟨"p/m.py", "", some root⟩] }
    (∀ target, Code.AsksFor ["Base"] root target → target.identifier?.isSome = true) ∧
      ∃ found, Naming.camelCase c p = .ok found := by
  intro named call made assign root c p
  have hnamed : ∀ target, Code.AsksFor ["Base"] root target → target.identifier?.isSome = true :=
    Code.reading_isOk_iff.mp ⟨⟨["Model"], by decide +kernel⟩, ["Point"], by decide +kernel⟩
  refine ⟨hnamed, (mixed_names_are_read_iff rfl (by decide +kernel)).1.mpr ?_⟩
  intro before s after other hsplit htree _
  have hs : s ∈ p.sources := by
    rw [hsplit]
    exact List.mem_append_right _ List.mem_cons_self
  rw [List.mem_singleton.mp hs] at htree
  cases htree
  exact hnamed

/-- A named tuple that is kept in an attribute, and a pair that an allowed thing is taken apart into, end the check. -/
theorem unnamed_target_ends_check :
    let named : Code.Slot → String → Code.Node := fun role name =>
      .node ⟨.identifier, role, some ⟨1, 0⟩, [(.id, .word name)]⟩ []
    let call : Code.Node → Code.Node := fun function => .node ⟨.call, .value, some ⟨1, 0⟩, []⟩ [function]
    let program : Code.Node → Code.Node → Code.Node := fun target value =>
      .node ⟨.module, .body, none, []⟩ [.node ⟨.assign, .body, some ⟨1, 0⟩, []⟩ [target, value]]
    let record := program (.node ⟨.member, .targets, some ⟨1, 0⟩, [(.attr, .word "kind")]⟩ [named .value "box"])
      (call (named .func "namedtuple"))
    let pair := program (.node ⟨.tuple, .targets, some ⟨1, 0⟩, []⟩ [named .elts "left", named .elts "right"])
      (call (.node ⟨.member, .func, some ⟨1, 0⟩, [(.attr, .word "pair")]⟩ [named .value "Base"]))
    let c : Context := { disk := { top := .node { name := "" } [] }, path := "p" }
    let check := fun root => Naming.camelCase c { path := "p", sources := [⟨"p/m.py", "", some root⟩] }
    check record = .error (.unnamed .member) ∧ check pair = .error (.unnamed .tuple) := by
  decide +kernel

end Scrutiny
