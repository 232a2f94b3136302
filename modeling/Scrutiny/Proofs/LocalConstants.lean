import Scrutiny.Proofs.LoopNames

/-! Constants that are taken for local variables.

The climb from an assignment goes on through classes and conditions, and stops at the first thing around them
(`climb_eq_true_iff`). A function stops it, as it should, and so do loops, `try`, `with` and `match`, wherever they
stand. A constant that is assigned in one of these is reported, although it may be a variable of the module. -/
namespace Scrutiny

namespace Code

/-! ### What stands around a statement -/

def isFunction (kind : Kind) : Bool :=
  kind = .functionDef || kind = .asyncFunctionDef

/-- The kinds that hold statements and are neither a scope nor a condition. -/
def isBlock (kind : Kind) : Bool :=
  kind ∈ [.forLoop, .asyncFor, .whileLoop, .tryStmt, .tryStar, .exceptHandler, .withStmt, .asyncWith, .matchStmt,
    .matchCase]

/-- The kinds that hold statements. -/
def holdsStatements (kind : Kind) : Bool :=
  kind ∈ [.module, .classDef, .ifStmt] || isFunction kind || isBlock kind

/-- Around every assignment of the program there are only things that hold statements. -/
def NestsStatements (root : Node) : Prop :=
  ∀ p ∈ root.places, p.here.kind = .assign → ∀ n ∈ p.above, holdsStatements n.kind = true

/-- The program assigns to the name at a place. -/
structure AssignsAt (root : Node) (name : String) (p : Place) : Prop where
  mem : p ∈ root.places
  kind : p.here.kind = .assign
  target : ∃ target ∈ p.here.parts .targets, target.identifier? = some name

/-- The program assigns to the name inside of a function. -/
def AssignsInFunction (root : Node) (name : String) : Prop :=
  ∃ p, AssignsAt root name p ∧ ∃ n ∈ p.above, isFunction n.kind = true

/-- The climb from an assignment, of which the assignment itself is one step, comes to `stop`. -/
def StopsAt (level : Int) (p : Place) (stop : Node) : Prop :=
  ∃ inner outer, p.above = inner ++ stop :: outer ∧ (inner.length + 1 : Int) < level ∧
    ∀ n ∈ inner, isTransparent n.kind = true

/-- The program assigns to the name outside of functions and in a block, which is not too far up. -/
def AssignsInBlock (root : Node) (level : Int) (name : String) : Prop :=
  ∃ p, AssignsAt root name p ∧ (∀ n ∈ p.above, isFunction n.kind = false) ∧
    ∃ stop, StopsAt level p stop ∧ isBlock stop.kind = true

/-! ### The climb -/

/-- One step: what is transparent is passed, and all else stops the climb, the module without a finding. -/
theorem climb_cons {steps : Nat} {first : Node} {rest : List Node} :
    climb (steps + 1) (first :: rest) =
      if isTransparent first.kind then climb steps rest else decide (first.kind ≠ .module) := by
  rw [climb]
  by_cases hmodule : first.kind = .module
  · simp [hmodule, isTransparent]
  · simp [hmodule]

/-- The climb finds something just when the first thing that is not transparent is near enough and not the module. The
induction is on the nodes above, with one step of the climb for each. -/
theorem climb_eq_true_iff {steps : Nat} {above : List Node} :
    climb steps above = true ↔
      ∃ inner stop outer, above = inner ++ stop :: outer ∧ inner.length < steps ∧
        (∀ n ∈ inner, isTransparent n.kind = true) ∧ isTransparent stop.kind = false ∧ stop.kind ≠ .module := by
  induction above generalizing steps with
  | nil => cases steps <;> simp [climb]
  | cons first rest ih =>
    cases steps with
    | zero => simp [climb]
    | succ steps =>
      rw [climb_cons]
      by_cases hpass : isTransparent first.kind = true
      · rw [if_pos hpass, ih]
        constructor
        · rintro ⟨inner, stop, outer, rfl, hnear, hinner, hstop⟩
          have hpasses : ∀ n ∈ first :: inner, isTransparent n.kind = true :=
            List.forall_mem_cons.mpr ⟨hpass, hinner⟩
          exact ⟨first :: inner, stop, outer, rfl, Nat.succ_lt_succ hnear, hpasses, hstop⟩
        · rintro ⟨inner, stop, outer, habove, hnear, hinner, hstop⟩
          cases inner with
          | nil =>
            obtain ⟨rfl, _⟩ := List.cons.inj habove
            rw [hpass] at hstop
            cases hstop.1
          | cons n inner =>
            obtain ⟨rfl, rfl⟩ := List.cons.inj habove
            exact ⟨inner, stop, outer, rfl, Nat.lt_of_succ_lt_succ hnear, (List.forall_mem_cons.mp hinner).2, hstop⟩
      · rw [if_neg hpass, decide_eq_true_eq]
        constructor
        · intro hmodule
          exact ⟨[], first, rest, rfl, Nat.succ_pos steps, by simp, by simpa using hpass, hmodule⟩
        · rintro ⟨inner, stop, outer, habove, _, hinner, _, hmodule⟩
          cases inner with
          | nil =>
            obtain ⟨rfl, _⟩ := List.cons.inj habove
            exact hmodule
          | cons n inner =>
            obtain ⟨rfl, _⟩ := List.cons.inj habove
            exact absurd (hinner _ List.mem_cons_self) hpass

/-- From the target of an assignment, the assignment is the first step. -/
theorem climb_assignment_iff {level : Int} {p : Place} (hkind : p.here.kind = .assign) :
    climb level.toNat (p.here :: p.above) = true ↔
      ∃ stop, StopsAt level p stop ∧ isTransparent stop.kind = false ∧ stop.kind ≠ .module := by
  have hpass : isTransparent p.here.kind = true := by simp [isTransparent, hkind]
  cases hsteps : level.toNat with
  | zero =>
    refine ⟨fun h => (nomatch h), ?_⟩
    rintro ⟨_, ⟨inner, _, _, hnear, _⟩, _⟩
    omega
  | succ steps =>
    rw [climb_cons, if_pos hpass, climb_eq_true_iff]
    constructor
    · rintro ⟨inner, stop, outer, habove, hnear, hinner, hstop⟩
      exact ⟨stop, ⟨inner, outer, habove, by omega, hinner⟩, hstop⟩
    · rintro ⟨stop, ⟨inner, outer, habove, hnear, hinner⟩, hstop⟩
      exact ⟨inner, stop, outer, habove, by omega, hinner, hstop⟩

/-! ### The names that are reported -/

section Names
variable {root : Node} {level : Int} {name : String}

/-- A target of the name with its surroundings is a target of an assignment to the name. -/
theorem exists_target_iff {P : List Node → Prop} :
    (∃ q ∈ targets root.places, q.here.identifier? = some name ∧ P q.above) ↔
      ∃ p, AssignsAt root name p ∧ P (p.here :: p.above) := by
  simp only [mem_targets_iff]
  constructor
  · rintro ⟨_, ⟨p, hp, hkind, n, hn, rfl⟩, hname, habove⟩
    exact ⟨p, ⟨hp, hkind, n, hn, hname⟩, habove⟩
  · rintro ⟨p, ⟨hp, hkind, n, hn, hname⟩, habove⟩
    exact ⟨_, ⟨p, hp, hkind, n, hn, rfl⟩, hname, habove⟩

/-- The names that are looked for: those spelled like constants that are assigned somewhere in a line. -/
theorem contains_candidates_iff :
    (((indentedNames (targets root.places)).filterMap id).filter isConstantName).contains name = true ↔
      isConstantName name = true ∧ Assigns root name := by
  rw [List.contains_iff_mem, List.mem_filter, List.mem_filterMap, ← mem_indentedNames_iff, and_comm]
  simp

theorem mem_localConstants_iff_target :
    name ∈ localConstants root.places level ↔
      (isConstantName name = true ∧ Assigns root name) ∧
        ∃ q ∈ targets root.places, q.here.identifier? = some name ∧ climb level.toNat q.above = true := by
  rw [← contains_candidates_iff]
  simp only [localConstants, List.mem_filterMap]
  constructor
  · rintro ⟨q, hq, hname⟩
    split at hname
    · rename_i found hfound
      split at hname
      · rename_i hlocal
        obtain rfl := Option.some.inj hname
        rw [Bool.and_eq_true] at hlocal
        exact ⟨hlocal.1, q, hq, hfound, hlocal.2⟩
      · cases hname
    · cases hname
  · rintro ⟨hcandidate, q, hq, hname, hlocal⟩
    refine ⟨q, hq, ?_⟩
    rw [hname]
    exact if_pos (Bool.and_eq_true _ _ ▸ ⟨hcandidate, hlocal⟩)

/-- Such a name is reported if the climb from one of its assignments finds something. -/
theorem mem_localConstants_iff :
    name ∈ localConstants root.places level ↔
      (isConstantName name = true ∧ Assigns root name) ∧ ∃ p, AssignsAt root name p ∧
        ∃ stop, StopsAt level p stop ∧ isTransparent stop.kind = false ∧ stop.kind ≠ .module := by
  rw [mem_localConstants_iff_target, exists_target_iff (P := fun above => climb level.toNat above = true)]
  refine and_congr_right fun _ => exists_congr fun p => and_congr_right fun hp => ?_
  exact climb_assignment_iff hp.kind

theorem StopsAt.mem {p : Place} {stop : Node} (h : StopsAt level p stop) : stop ∈ p.above := by
  obtain ⟨inner, outer, habove, _⟩ := h
  rw [habove]
  exact List.mem_append_right _ List.mem_cons_self

/-- A block stops the climb. -/
theorem stops_of_isBlock {kind : Kind} (h : isBlock kind = true) : isTransparent kind = false ∧ kind ≠ .module := by
  simp only [isBlock, List.mem_cons, List.not_mem_nil, or_false, decide_eq_true_eq] at h
  rcases h with rfl | rfl | rfl | rfl | rfl | rfl | rfl | rfl | rfl | rfl <;> decide

/-- What holds statements and stops the climb is a function or a block. -/
theorem isFunction_or_isBlock {kind : Kind} (hholds : holdsStatements kind = true) (hpass : isTransparent kind = false)
    (hmodule : kind ≠ .module) : isFunction kind = true ∨ isBlock kind = true := by
  simp only [holdsStatements, Bool.or_eq_true, List.mem_cons, List.not_mem_nil, or_false, decide_eq_true_eq] at hholds
  rcases hholds with ((rfl | rfl | rfl) | hfunction) | hblock
  · exact absurd rfl hmodule
  · cases hpass
  · cases hpass
  · exact .inl hfunction
  · exact .inr hblock

/-- A reported name is assigned in a function, or outside of functions in a block. -/
theorem of_mem_localConstants (hroot : NestsStatements root) (h : name ∈ localConstants root.places level) :
    (isConstantName name = true ∧ Assigns root name) ∧
      (AssignsInFunction root name ∨ AssignsInBlock root level name) := by
  obtain ⟨hname, p, hp, stop, hstop, hpass, hmodule⟩ := mem_localConstants_iff.mp h
  refine ⟨hname, ?_⟩
  by_cases hinside : ∃ n ∈ p.above, isFunction n.kind = true
  · exact .inl ⟨p, hp, hinside⟩
  · have houtside : ∀ n ∈ p.above, isFunction n.kind = false := by simpa using hinside
    have hholds := hroot p hp.mem hp.kind stop hstop.mem
    rcases isFunction_or_isBlock hholds hpass hmodule with hfunction | hblock
    · exact absurd ⟨stop, hstop.mem, hfunction⟩ hinside
    · exact .inr ⟨p, hp, houtside, stop, hstop, hblock⟩

theorem mem_localConstants_of_block (hname : isConstantName name = true) (hassigns : Assigns root name)
    (h : AssignsInBlock root level name) : name ∈ localConstants root.places level := by
  obtain ⟨p, hp, _, stop, hstop, hblock⟩ := h
  exact mem_localConstants_iff.mpr ⟨⟨hname, hassigns⟩, p, hp, stop, hstop, stops_of_isBlock hblock⟩

instance (root : Node) : Decidable (NestsStatements root) :=
  inferInstanceAs (Decidable (∀ p ∈ root.places, _))

end Names

end Code

/-- **What is reported as local is assigned in a function, just when this is so of the constants that are assigned in a
loop, a `try`, a `with` or a `match` outside of functions.** These are all reported, if the block is near enough. A
constant that is assigned under nothing but classes and conditions is never reported. -/
theorem reported_constants_are_local_iff {root : Code.Node} (hroot : Code.NestsStatements root) (level : Int) :
    ((∀ name ∈ Code.localConstants root.places level, Code.AssignsInFunction root name) ↔
      ∀ name, Code.isConstantName name = true → Code.Assigns root name → Code.AssignsInBlock root level name →
        Code.AssignsInFunction root name) ∧
    (∀ name, Code.isConstantName name = true → Code.Assigns root name → Code.AssignsInBlock root level name →
      name ∈ Code.localConstants root.places level) ∧
    ∀ name, (∀ p, Code.AssignsAt root name p →
        ∀ n ∈ p.above, n.kind = .module ∨ n.kind = .classDef ∨ n.kind = .ifStmt) →
      name ∉ Code.localConstants root.places level := by
  refine ⟨⟨fun hall name hname hassigns hblock => ?_, fun hall name hname => ?_⟩,
    fun name => ?_, fun name hplain hname => ?_⟩
  · exact hall name (Code.mem_localConstants_of_block hname hassigns hblock)
  · obtain ⟨⟨hconstant, hassigns⟩, hfunction | hblock⟩ := Code.of_mem_localConstants hroot hname
    · exact hfunction
    · exact hall name hconstant hassigns hblock
  · exact Code.mem_localConstants_of_block
  · obtain ⟨_, p, hp, stop, hstop, hpass, hmodule⟩ := Code.mem_localConstants_iff.mp hname
    rcases hplain p hp stop hstop.mem with hkind | hkind | hkind
    · exact hmodule hkind
    · rw [hkind] at hpass
      cases hpass
    · rw [hkind] at hpass
      cases hpass

/-- A constant of a function, one of a class and one of the module under a condition. -/
theorem constant_of_function_is_reported :
    let assign : String → Nat → Code.Node := fun name column =>
      .node ⟨.assign, .body, some ⟨1, column⟩, []⟩
        [.node ⟨.identifier, .targets, some ⟨1, column⟩, [(.id, .word name)]⟩ []]
    let loop : Code.Node := .node ⟨.forLoop, .body, some ⟨1, 4⟩, []⟩ [assign "LIMIT" 8]
    let root : Code.Node := .node ⟨.module, .body, none, []⟩
      [.node ⟨.functionDef, .body, some ⟨1, 0⟩, []⟩ [loop],
       .node ⟨.classDef, .body, some ⟨1, 0⟩, []⟩ [.node ⟨.ifStmt, .body, some ⟨1, 4⟩, []⟩ [assign "FIELD" 8]],
       .node ⟨.ifStmt, .body, some ⟨1, 0⟩, []⟩ [assign "CHOICE" 4]]
    Code.localConstants root.places 4 = ["LIMIT"] ∧ Code.AssignsInFunction root "LIMIT" := by
  intro assign loop root
  have hreported : Code.localConstants root.places 4 = ["LIMIT"] := by decide +kernel
  have hroot : Code.NestsStatements root := by decide +kernel
  have hblocks : ∀ p ∈ root.places, (∀ n ∈ p.above, Code.isFunction n.kind = false) →
      ∀ n ∈ p.above, Code.isBlock n.kind = false := by decide +kernel
  have hlocal := (reported_constants_are_local_iff hroot 4).1.mpr (by
    rintro name _ _ ⟨p, hp, houtside, stop, hstop, hblock⟩
    rw [hblocks p hp.mem houtside stop hstop.mem] at hblock
    cases hblock)
  exact ⟨hreported, hlocal "LIMIT" (by rw [hreported]; exact List.mem_singleton.mpr rfl)⟩

/-- A constant of the module is reported as local when it is assigned in a loop. -/
theorem constant_in_loop_of_module_is_reported :
    let assignment : Code.Node := .node ⟨.assign, .body, some ⟨2, 4⟩, []⟩
      [.node ⟨.identifier, .targets, some ⟨2, 4⟩, [(.id, .word "LIMIT")]⟩ []]
    let root : Code.Node := .node ⟨.module, .body, none, []⟩
      [.node ⟨.forLoop, .body, some ⟨1, 0⟩, []⟩ [assignment]]
    Code.localConstants root.places 4 = ["LIMIT"] ∧ Code.NestsStatements root ∧
      ¬ Code.AssignsInFunction root "LIMIT" := by
  intro assignment root
  refine ⟨by decide +kernel, by decide +kernel, ?_⟩
  rintro ⟨p, hp, n, hn, hfunction⟩
  have hnone : ∀ p ∈ root.places, ∀ n ∈ p.above, Code.isFunction n.kind = false := by decide +kernel
  rw [hnone p hp.mem n hn] at hfunction
  cases hfunction

end Scrutiny
