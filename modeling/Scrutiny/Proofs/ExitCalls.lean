import Scrutiny.Proofs.Ancestors
import Scrutiny.Proofs.LoopNames

/-! Functions that end the program.

The check takes each function in turn and walks through everything in it, so a call in a function within a function is
met once for each of them. Seen from the call, it is judged by all functions around it: the check passes just when each
of them is allowed to end the program (`exit_calls_are_judged_by_functions_around`). -/
namespace Scrutiny

namespace Code
open Scrutiny.Tree (Occurs)

/-- A call of `exit`, by its plain name or as an attribute of `sys`. -/
inductive EndsProgram (n : Node) : Prop
  | plain {function : Node} : n.kind = .call → n.part? .func = some function → function.kind = .identifier →
      function.identifier? = some "exit" → EndsProgram n
  | ofSystem {function owner : Node} : n.kind = .call → n.part? .func = some function → function.kind = .member →
      function.word? .attr = some "exit" → function.part? .value = some owner → owner.identifier? = some "sys" →
      EndsProgram n

theorem EndsProgram.kind_eq {n : Node} (h : EndsProgram n) : n.kind = .call := by
  cases h with
  | plain hkind => exact hkind
  | ofSystem hkind => exact hkind

theorem isExit_iff {n : Node} : isExit n = true ↔ EndsProgram n := by
  refine ⟨fun h => ?_, fun h => ?_⟩
  · rw [isExit, Bool.and_eq_true, decide_eq_true_eq] at h
    obtain ⟨hcall, h⟩ := h
    split at h
    · rename_i function hfunction
      simp only [Bool.or_eq_true, Bool.and_eq_true, decide_eq_true_eq, Option.bind_eq_some_iff] at h
      rcases h with ⟨hkind, hname⟩ | ⟨⟨hkind, owner, howner, hsystem⟩, hname⟩
      · exact .plain hcall hfunction hkind hname
      · exact .ofSystem hcall hfunction hkind hname howner hsystem
    · cases h
  · cases h with
    | plain hcall hfunction hkind hname => simp [isExit, hcall, hfunction, hkind, hname]
    | ofSystem hcall hfunction hkind hname howner hsystem =>
      simp [isExit, hcall, hfunction, hkind, hname, howner, hsystem]

/-- A function stands around a call that ends the program. -/
def EndsProgramIn (root function : Node) : Prop :=
  function.kind = .functionDef ∧ ∃ call ∈ root.places, EndsProgram call.here ∧ function ∈ call.above

/-- The name that a definition gives. -/
def definedName (definition : Node) : String :=
  (definition.word? .name).getD ""

/-- The functions whose walk meets a call that ends the program are those around such a call. A function is no call, so
it does not matter that its walk starts with itself. -/
theorem hasExit_iff {root function : Node} :
    function ∈ Walk.nodes root.places .functionDef ∧ hasExit function = true ↔ EndsProgramIn root function := by
  rw [mem_nodes_iff, EndsProgramIn, Tree.exists_above_iff, hasExit, List.any_eq_true]
  simp only [Tree.mem_walk_iff, isExit_iff]
  refine ⟨fun ⟨⟨hoccurs, hkind⟩, call, hcall, hends⟩ => ⟨hkind, hoccurs, ?_⟩,
    fun ⟨hkind, hoccurs, first, hfirst, call, hcall, hends⟩ => ⟨⟨hoccurs, hkind⟩, call, .child hfirst hcall, hends⟩⟩
  rcases Tree.occurs_iff.mp hcall with rfl | ⟨first, hfirst, hinside⟩
  · rw [hends.kind_eq] at hkind
    cases hkind
  · exact ⟨first, hfirst, call, hinside, hends⟩

/-- The first function of a walk that ends the program and is not allowed to. -/
def exitingFunction? (allowed : Words) (root : Node) : Option Node :=
  (Walk.nodes root.places .functionDef).find? fun f => !allowed.has (definedName f) && hasExit f

variable {allowed : Words} {root : Node}

theorem exitingFunction?_eq_none_iff :
    exitingFunction? allowed root = none ↔ ∀ f, EndsProgramIn root f → allowed.has (definedName f) = true := by
  rw [exitingFunction?, List.find?_eq_none]
  refine ⟨fun h f hends => ?_, fun h f hf hfault => ?_⟩
  · obtain ⟨hf, hexit⟩ := hasExit_iff.mpr hends
    have hnot := h f hf
    rw [hexit, Bool.and_true, Bool.not_eq_true'] at hnot
    exact Bool.eq_true_of_not_eq_false hnot
  · rw [Bool.and_eq_true, Bool.not_eq_true'] at hfault
    have hallowed := h f (hasExit_iff.mp ⟨hf, hfault.2⟩)
    rw [hfault.1] at hallowed
    cases hallowed

theorem of_exitingFunction? {f : Node} (h : exitingFunction? allowed root = some f) :
    EndsProgramIn root f ∧ allowed.has (definedName f) = false := by
  have hfault := List.find?_some h
  rw [Bool.and_eq_true, Bool.not_eq_true'] at hfault
  exact ⟨hasExit_iff.mp ⟨List.mem_of_find?_eq_some h, hfault.2⟩, hfault.1⟩

end Code

/-- Where every source is parsed, the check goes through the sources to the first such function. -/
theorem Idioms.exitCall_eq {c : Context} {p : Project} (hparsed : ∀ s ∈ p.sources, s.isParsed = true) :
    exitCall c p = .ok (p.sources.findSome? fun s =>
      (s.tree.bind (Code.exitingFunction? c.settings.functionsAllowedToHaveExitCalls)).map Code.definedName) := by
  refine Outcome.firstFinding_eq_findSome? fun s hs => ?_
  obtain ⟨root, htree⟩ := Option.isSome_iff_exists.mp (hparsed s hs)
  rw [Source.walk, htree]
  rfl

/-- **A call that ends the program is judged by all functions around it.** The check passes just when, around every such
call of every source, each function is allowed to end the program. Otherwise it names one that is not. -/
theorem exit_calls_are_judged_by_functions_around {c : Context} {p : Project}
    (hparsed : ∀ s ∈ p.sources, s.isParsed = true) :
    (∃ found, Idioms.exitCall c p = .ok found) ∧
    (Idioms.exitCall c p = .ok none ↔
      ∀ s ∈ p.sources, ∀ root, s.tree = some root → ∀ call ∈ root.places, Code.EndsProgram call.here →
        ∀ f ∈ call.above, f.kind = .functionDef →
          c.settings.functionsAllowedToHaveExitCalls.has (Code.definedName f) = true) ∧
    ∀ name, Idioms.exitCall c p = .ok (some name) →
      ∃ s ∈ p.sources, ∃ root, s.tree = some root ∧ ∃ call ∈ root.places, Code.EndsProgram call.here ∧
        ∃ f ∈ call.above, f.kind = .functionDef ∧ Code.definedName f = name ∧
          c.settings.functionsAllowedToHaveExitCalls.has name = false := by
  rw [Idioms.exitCall_eq hparsed]
  refine ⟨⟨_, rfl⟩, ?_, fun name hname => ?_⟩
  · rw [Except.ok.injEq, List.findSome?_eq_none_iff]
    refine ⟨fun h s hs root htree call hcall hends f hf hkind => ?_, fun h s hs => ?_⟩
    · have hnone := h s hs
      rw [htree, Option.bind_some, Option.map_eq_none_iff] at hnone
      exact Code.exitingFunction?_eq_none_iff.mp hnone f ⟨hkind, call, hcall, hends, hf⟩
    · obtain ⟨root, htree⟩ := Option.isSome_iff_exists.mp (hparsed s hs)
      rw [htree, Option.bind_some, Option.map_eq_none_iff, Code.exitingFunction?_eq_none_iff]
      intro f hexits
      obtain ⟨hkind, call, hcall, hends, hf⟩ := hexits
      exact h s hs root htree call hcall hends f hf hkind
  · rw [Except.ok.injEq] at hname
    obtain ⟨s, hs, hfound⟩ := List.exists_of_findSome?_eq_some hname
    obtain ⟨f, hf, hdefined⟩ := Option.map_eq_some_iff.mp hfound
    obtain ⟨root, htree, hfirst⟩ := Option.bind_eq_some_iff.mp hf
    obtain ⟨⟨hkind, call, hcall, hends, habove⟩, hallowed⟩ := Code.of_exitingFunction? hfirst
    rw [hdefined] at hallowed
    exact ⟨s, hs, root, htree, call, hcall, hends, f, habove, hkind, hdefined, hallowed⟩

/-- The function around an allowed one is not allowed to hold its calls, and a call outside of functions is no matter.
-/
theorem exit_in_allowed_function_is_blamed_on_outer :
    let named : Code.Slot → String → Code.Node := fun role name =>
      .node ⟨.identifier, role, some ⟨1, 0⟩, [(.id, .word name)]⟩ []
    let call : Code.Node → Code.Node := fun function => .node ⟨.call, .value, some ⟨1, 0⟩, []⟩ [function]
    let define : String → List Code.Node → Code.Node := fun name body =>
      .node ⟨.functionDef, .body, some ⟨1, 0⟩, [(.name, .word name)]⟩ body
    let leave := call (.node ⟨.member, .func, some ⟨1, 0⟩, [(.attr, .word "exit")]⟩ [named .value "sys"])
    let calm : Code.Node := .node ⟨.module, .body, none, []⟩ [leave, define "main" [call (named .func "exit")]]
    let tense : Code.Node := .node ⟨.module, .body, none, []⟩ [define "start" [define "main" [leave]]]
    let c : Context := { disk := { top := .node { name := "" } [] }, path := "p" }
    let check := fun roots : List Code.Node =>
      Idioms.exitCall c { path := "p", sources := roots.map fun root => ⟨"p/m.py", "", some root⟩ }
    (check [calm] = .ok none ∧ ∀ place ∈ calm.places, Code.EndsProgram place.here → ∀ f ∈ place.above,
      f.kind = .functionDef → c.settings.functionsAllowedToHaveExitCalls.has (Code.definedName f) = true) ∧
    check [calm, tense] = .ok (some "start") ∧ ∃ root ∈ [calm, tense], ∃ place ∈ root.places,
      Code.EndsProgram place.here ∧ ∃ f ∈ place.above, f.kind = .functionDef ∧ Code.definedName f = "start" := by
  intro named call define leave calm tense c check
  have hcalm : check [calm] = .ok none := by decide +kernel
  have hboth : check [calm, tense] = .ok (some "start") := by decide +kernel
  obtain ⟨_, hpasses, _⟩ := exit_calls_are_judged_by_functions_around (c := c)
    (p := { path := "p", sources := [⟨"p/m.py", "", some calm⟩] }) (by decide)
  obtain ⟨_, _, hnames⟩ := exit_calls_are_judged_by_functions_around (c := c)
    (p := { path := "p", sources := [⟨"p/m.py", "", some calm⟩, ⟨"p/m.py", "", some tense⟩] }) (by decide)
  refine ⟨⟨hcalm, hpasses.mp hcalm _ List.mem_cons_self calm rfl⟩, hboth, ?_⟩
  obtain ⟨s, hs, root, htree, place, hplace, hends, f, hf, hkind, hdefined, _⟩ := hnames "start" hboth
  refine ⟨root, ?_, place, hplace, hends, f, hf, hkind, hdefined⟩
  simp only [List.mem_cons, List.not_mem_nil, or_false] at hs ⊢
  rcases hs with rfl | rfl
  · exact .inl (Option.some.inj htree).symm
  · exact .inr (Option.some.inj htree).symm

end Scrutiny
