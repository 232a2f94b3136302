import Scrutiny.Code.Family
import Scrutiny.Proofs.Ancestors
import Scrutiny.Proofs.Collection
import Scrutiny.Proofs.Findings
import Scrutiny.Proofs.Passing

/-! Imports inside of functions and classes.

Whether an import is local is told by two columns: its own and, if it is directly under an `if`, that of the `if`.
Nothing inside of a function or a class starts its line, so an import there is indented, and an `if` right around it
stands in the same function or class and is indented too. However deep it lies, such an import is found. -/
namespace Scrutiny

namespace Code

/-- What has names of its own: functions and classes. -/
def isScope (kind : Kind) : Bool :=
  kind ∈ [.functionDef, .asyncFunctionDef, .classDef]

/-- A module as the parser makes it: no statement inside of a function or a class starts its line. -/
structure IsModule (root : Node) : Prop where
  kind_eq : root.kind = .module
  indents : ∀ p ∈ root.places, p.here.kind.isStatement = true → (∃ n ∈ p.above, isScope n.kind = true) →
    0 < p.here.column

instance (root : Node) : Decidable (IsModule root) :=
  decidable_of_iff (root.kind = .module ∧ ∀ p ∈ root.places, p.here.kind.isStatement = true →
      (∃ n ∈ p.above, isScope n.kind = true) → 0 < p.here.column)
    ⟨fun h => ⟨h.1, h.2⟩, fun h => ⟨h.kind_eq, h.indents⟩⟩

def isImport (kind : Kind) : Bool :=
  kind = .importStmt || kind = .importFrom

/-- Some import stands in a function or a class, at any depth. -/
def ImportsInside (root : Node) : Prop :=
  ∃ p ∈ root.places, isImport p.here.kind = true ∧ ∃ n ∈ p.above, isScope n.kind = true

instance (root : Node) : Decidable (ImportsInside root) :=
  inferInstanceAs (Decidable (∃ p ∈ root.places, _))

variable {root : Node} {p : Place}

theorem mem_imports_iff : p ∈ imports root.places ↔ p ∈ root.places ∧ isImport p.here.kind = true := by
  simp [imports, Walk.ofKinds, Tree.Place.kind, isImport, or_comm]

theorem isStatement_of_isImport {kind : Kind} (h : isImport kind = true) : kind.isStatement = true := by
  rw [isImport, Bool.or_eq_true, decide_eq_true_eq, decide_eq_true_eq] at h
  rcases h with rfl | rfl <;> rfl

/-- Whether an import is indented, and not just by an `if` that starts its line. -/
def isIndented (p : Place) : Bool :=
  p.here.column ≠ 0 && !p.parent?.any fun owner => owner.kind = .ifStmt && owner.column = 0

/-- Every import of a module has something around it, at least the module, and so can be judged. -/
theorem isLocalImport_eq (hroot : root.kind = .module) (hp : p ∈ imports root.places) :
    isLocalImport p = .ok (isIndented p) := by
  obtain ⟨hplace, himport⟩ := mem_imports_iff.mp hp
  rw [isLocalImport, isIndented, Tree.Place.parent?]
  cases habove : p.above with
  | nil =>
    rw [Tree.eq_root_of_above hplace habove, hroot] at himport
    cases himport
  | cons owner rest => by_cases hcolumn : p.here.column = 0 <;> simp [hcolumn]

/-- Where each import can be judged, a local one is found wherever it stands. -/
theorem anyLocal_eq {places : List Place} (h : ∀ q ∈ places, isLocalImport q = .ok (isIndented q)) :
    anyLocal places = .ok (places.any isIndented) := by
  induction places with
  | nil => rfl
  | cons q rest ih =>
    obtain ⟨hq, hrest⟩ := List.forall_mem_cons.mp h
    rw [anyLocal, hq, ih hrest, List.any_cons]
    cases isIndented q <;> rfl

theorem hasLocalImport_eq (hroot : root.kind = .module) :
    hasLocalImport root.places = .ok ((imports root.places).any isIndented) :=
  anyLocal_eq fun _ => isLocalImport_eq hroot

/-- An `if` directly around an import in a function or a class stands in it as well, since it is neither. -/
theorem isIndented_of_inside (hroot : IsModule root) (hp : p ∈ root.places) (himport : isImport p.here.kind = true)
    (hinside : ∃ n ∈ p.above, isScope n.kind = true) : isIndented p = true := by
  have hcolumn := hroot.indents p hp (isStatement_of_isImport himport) hinside
  rw [isIndented, Bool.and_eq_true, decide_eq_true_eq, Bool.not_eq_true', Option.any_eq_false]
  refine ⟨Nat.ne_of_gt hcolumn, fun owner howner => ?_⟩
  obtain ⟨rest, habove⟩ : ∃ rest, p.above = owner :: rest := List.head?_eq_some_iff.mp howner
  obtain ⟨n, hn, hscope⟩ := hinside
  by_cases hif : owner.kind = .ifStmt
  · have hne : n ≠ owner := by
      rintro rfl
      rw [hif] at hscope
      cases hscope
    rw [habove] at hn
    have hindents : 0 < owner.column := hroot.indents ⟨owner, rest⟩ (Tree.parent_mem_places hp habove).1
      (by rw [hif]; rfl) ⟨n, List.mem_of_ne_of_mem hne hn, hscope⟩
    simp [Nat.ne_of_gt hindents]
  · simp [hif]

theorem hasLocalImport_of_inside (hroot : IsModule root) (h : ImportsInside root) :
    hasLocalImport root.places = .ok true := by
  obtain ⟨p, hp, himport, hinside⟩ := h
  rw [hasLocalImport_eq hroot.kind_eq]
  exact congrArg Except.ok (List.any_eq_true.mpr
    ⟨p, mem_imports_iff.mpr ⟨hp, himport⟩, isIndented_of_inside hroot hp himport hinside⟩)

end Code

namespace Imports

/-- What the check finds on one source. -/
def innerIn (s : Source) : Outcome (Option String) := do
  return nameIf s (← Code.hasLocalImport (← s.walk))

theorem inner_eq (c : Context) (p : Project) :
    inner c p = firstFinding innerIn (p.sourcesOutside c.settings.localImportsPathsToIgnore) := rfl

theorem innerIn_eq {s : Source} {root : Code.Node} (htree : s.tree = some root) {answer : Bool}
    (h : Code.hasLocalImport root.places = .ok answer) : innerIn s = .ok (nameIf s answer) := by
  have hwalk : s.walk = .ok root.places := by rw [Source.walk, htree]
  rw [innerIn, hwalk]
  show (Code.hasLocalImport root.places >>= fun found => .ok (nameIf s found)) = _
  rw [h]
  rfl

/-- The name that is found on a source is that of the source. -/
theorem eq_name_of_innerIn {s : Source} {name : String} (h : innerIn s = .ok (some name)) : name = s.name := by
  obtain ⟨walk, _, hrest⟩ := Outcome.bind_eq_ok.mp h
  obtain ⟨answer, _, hdone⟩ := Outcome.bind_eq_ok.mp hrest
  cases answer with
  | true => exact (Option.some.inj (Except.ok.inj hdone)).symm
  | false => cases hdone

end Imports

/-- **No import inside of a function or a class escapes.** It is found in its module, whatever stands between. The check
of the sources outside of the ignored paths then names a source that comes no later, if those up to there have been
parsed. A source that has not been parsed is found before in a usual review, so with such an import no usual review
passes. -/
theorem inner_import_does_not_escape {root : Code.Node} (hroot : Code.IsModule root)
    (himport : Code.ImportsInside root) :
    Code.hasLocalImport root.places = .ok true ∧
    (∀ (c : Context) (p : Project) (before after : List Source) (s : Source),
      p.sourcesOutside c.settings.localImportsPathsToIgnore = before ++ s :: after → s.tree = some root →
      (∀ k ∈ before, ∃ other, k.tree = some other ∧ other.kind = .module) →
      ∃ k ∈ before ++ [s], Imports.inner c p = .ok (some k.name)) ∧
    ∀ (disk : Disk) (r : Request) (p : Project) (s : Source), r.plan = .ofChoice none none none →
      Project.load disk r.path r.settings.directoriesToSkip = .ok p →
      s ∈ p.sourcesOutside r.settings.localImportsPathsToIgnore → s.tree = some root → review disk r ≠ .ok [] := by
  have hfound := Code.hasLocalImport_of_inside hroot himport
  have hjudge {s : Source} (htree : s.tree = some root) : Imports.innerIn s = .ok (some s.name) :=
    Imports.innerIn_eq htree hfound
  refine ⟨hfound, fun c p before after s hsplit htree hbefore => ?_, fun disk r p s hplan hload hs htree hclear => ?_⟩
  · have hjudged : ∀ k ∈ before, ∃ found, Imports.innerIn k = .ok found := by
      intro k hk
      obtain ⟨other, hother, hkind⟩ := hbefore k hk
      exact ⟨_, Imports.innerIn_eq hother (Code.hasLocalImport_eq hkind)⟩
    obtain ⟨k, hk, name, hname, hfirst⟩ := Outcome.firstFinding_of_split hjudged (hjudge htree) after
    rw [Imports.inner_eq, hsplit, hfirst, Imports.eq_name_of_innerIn hname]
    exact ⟨k, hk, rfl⟩
  · have hcheck : Check.onProject "local_import" Imports.inner ∈ Registry.general := by simp [Registry.general]
    obtain ⟨q, base, hq, hnone⟩ := Registry.judge_of_clear_review hplan hclear hcheck
    obtain rfl : q = p := Except.ok.inj (hq.symm.trans hload)
    have hpassed := Outcome.firstFinding_eq_none_iff.mp hnone s hs
    rw [← Imports.innerIn, hjudge htree] at hpassed
    cases hpassed

/-- An import in an `if` of the module, which is let pass, and behind it one in an `if` in a `try` in a class. -/
theorem import_in_class_is_reported :
    let importAt : Nat → Code.Node := fun column => .node ⟨.importStmt, .body, some ⟨1, column⟩, []⟩ []
    let block : Code.Kind → Nat → Code.Node → Code.Node := fun kind column inner =>
      .node ⟨kind, .body, some ⟨1, column⟩, []⟩ [inner]
    let program : Code.Node → Code.Node := fun inner => .node ⟨.module, .body, none, []⟩ [inner]
    let outer := program (block .ifStmt 0 (importAt 4))
    let nested := program (block .classDef 0 (block .tryStmt 4 (block .ifStmt 8 (importAt 12))))
    let disk : Disk := { top := .node { name := "" } [.node { name := "p", files :=
      [("a.py", { bytes := [], tree := some outer }), ("b.py", { bytes := [], tree := some nested })] } []] }
    let r : Request := { path := "p" }
    let p : Project := ⟨"p", [⟨"p/a.py", "", some outer⟩, ⟨"p/b.py", "", some nested⟩]⟩
    (Code.IsModule nested ∧ Code.ImportsInside nested) ∧ Code.hasLocalImport outer.places = .ok false ∧
      Code.hasLocalImport nested.places = .ok true ∧ Imports.inner (r.context disk) p = .ok (some "b.py") ∧
      review disk r ≠ .ok [] := by
  intro importAt block program outer nested disk r p
  have hmodule : Code.IsModule nested := by decide +kernel
  have hinside : Code.ImportsInside nested := by decide +kernel
  have hsources : p.sourcesOutside r.settings.localImportsPathsToIgnore = p.sources :=
    List.filter_eq_self.mpr (by decide +kernel)
  have hloaded : ((Project.load disk "p" r.settings.directoriesToSkip).toOption.any fun q =>
      (q.sourcesOutside r.settings.localImportsPathsToIgnore).any fun s =>
        s.tree.any fun root => decide (Code.IsModule root) && decide (Code.ImportsInside root)) = true := by
    decide +kernel
  obtain ⟨hfound, hreported, _⟩ := inner_import_does_not_escape hmodule hinside
  refine ⟨⟨hmodule, hinside⟩, by decide +kernel, hfound, ?_, ?_⟩
  · obtain ⟨k, hk, hinner⟩ := hreported (r.context disk) p [_] [] _ hsources rfl (by
      intro k hk
      exact ⟨outer, by rw [List.mem_singleton.mp hk], rfl⟩)
    rcases List.mem_pair.mp hk with rfl | rfl
    · exact absurd hinner (by decide +kernel)
    · rw [hinner]
      exact congrArg (Except.ok ∘ some) (by decide +kernel)
  · cases hload : Project.load disk "p" r.settings.directoriesToSkip with
    | error failure =>
      rw [hload] at hloaded
      cases hloaded
    | ok q =>
      rw [hload] at hloaded
      obtain ⟨s, hs, hroot⟩ := List.any_eq_true.mp hloaded
      obtain ⟨root, htree, hboth⟩ := (Option.any_eq_true _ _).mp hroot
      rw [Bool.and_eq_true, decide_eq_true_eq, decide_eq_true_eq] at hboth
      exact (inner_import_does_not_escape hboth.1 hboth.2).2.2 disk r q s rfl hload hs htree

end Scrutiny
