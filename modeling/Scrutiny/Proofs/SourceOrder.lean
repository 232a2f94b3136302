import Mathlib.Data.List.Perm.Basic
import Scrutiny.Proofs.Passing

/-! The order of the sources.

A project has its sources in the order in which its folders were listed, and a message names the first that offends.
What passes does not depend on that order. Checks gather what they see of the sources in three ways: they stop at the
first finding (`firstFinding_perm`), they report all that they have gathered (`short_perm`, `tangled_perm`), or they
hold a sum against a limit (`styleFaults_perm`). The others look at the path of the project alone, but for those that
are supplied: of them it has to be asked for. -/
namespace Scrutiny

/-! ### Three ways to gather -/

namespace Outcome
variable {α β : Type} {as bs : List α}

theorem firstFinding_perm {judge : α → Outcome (Option β)} (h : as.Perm bs) :
    firstFinding judge as = .ok none ↔ firstFinding judge bs = .ok none := by
  rw [firstFinding_eq_none_iff, firstFinding_eq_none_iff]
  exact forall_congr' fun a => by rw [h.mem_iff]

theorem find?_perm {isFault : α → Bool} {say : α → β} (h : as.Perm bs) :
    (.ok ((as.find? isFault).map say) : Outcome (Option β)) = .ok none ↔
      (.ok ((bs.find? isFault).map say) : Outcome (Option β)) = .ok none := by
  simp only [Except.ok.injEq, Option.map_eq_none_iff, List.find?_eq_none]
  exact forall_congr' fun a => by rw [h.mem_iff]

end Outcome

section Gathering
variable {c c' : Context} {p q : Project}

theorem Naming.short_perm (h : p.sources.Perm q.sources) (hs : c'.settings = c.settings) :
    short c p = .ok none ↔ short c' q = .ok none := by
  rw [short_eq_none, short_eq_none, hs]
  exact forall_congr' fun s => by rw [h.mem_iff]

theorem Layout.tangled_perm (h : p.sources.Perm q.sources) (hs : c'.settings = c.settings)
    (hd : c'.disk = c.disk) (hr : c'.runtime = c.runtime) : tangled c p = .ok none ↔ tangled c' q = .ok none := by
  rw [tangled_eq_none, tangled_eq_none, hs, hd, hr]
  exact forall_congr' fun s => by rw [h.mem_iff]

theorem Project.styleFaults_perm (h : p.sources.Perm q.sources) (disk : Disk) (ignored : Words) :
    p.styleFaults disk ignored = q.styleFaults disk ignored := by
  unfold styleFaults sourcesOutside
  exact ((h.filter _).map _).foldr_eq 0

theorem Idioms.styleFaults_perm (h : p.sources.Perm q.sources) (hs : c'.settings = c.settings)
    (hd : c'.disk = c.disk) : styleFaults c p = .ok none ↔ styleFaults c' q = .ok none := by
  rw [styleFaults_eq_none, styleFaults_eq_none, hs, hd, Project.styleFaults_perm h]

end Gathering

/-! ### Checks that pass in any order or in none -/

namespace Check

/-- A check that passes the sources of a project in one order when it passes them in another. -/
def IgnoresOrder (check : Check) : Prop :=
  ∀ (c : Context) (p q : Project), q.path = p.path → p.sources.Perm q.sources →
    (check.run { c with project := some p } = .ok .passed ↔ check.run { c with project := some q } = .ok .passed)

theorem ignoresOrder_onProject {name : String} {judge : Context → Project → Outcome (Option String)}
    (h : ∀ (c : Context) (path : String) (sources sources' : List Source), sources.Perm sources' →
      (judge { c with project := some ⟨path, sources⟩ } ⟨path, sources⟩ = .ok none ↔
        judge { c with project := some ⟨path, sources'⟩ } ⟨path, sources'⟩ = .ok none)) :
    (onProject name judge).IgnoresOrder := by
  rintro c ⟨path, sources⟩ ⟨_, sources'⟩ ⟨⟩ hperm
  rw [passed_onProject rfl, passed_onProject rfl]
  exact h c path sources sources' hperm

end Check

namespace Registry
open Check (onProject ignoresOrder_onProject)
open Outcome (firstFinding_perm find?_perm)

theorem general_ignores_order : ∀ check ∈ general, check ∈ supplied ∨ check.IgnoresOrder := by
  -- A check sees the path of the project, its sources one by one, or those that are not left out.
  have sees {name : String} {judge : Context → Project → Outcome (Option String)}
      (h : ∀ (c : Context) (path : String) (sources sources' : List Source), sources.Perm sources' →
        (judge { c with project := some ⟨path, sources⟩ } ⟨path, sources⟩ = .ok none ↔
          judge { c with project := some ⟨path, sources'⟩ } ⟨path, sources'⟩ = .ok none)) :
      onProject name judge ∈ supplied ∨ (onProject name judge).IgnoresOrder :=
    .inr (ignoresOrder_onProject h)
  simp only [general, List.forall_mem_cons]
  exact ⟨sees fun _ _ _ _ _ => .rfl, sees fun _ _ _ _ h => Idioms.styleFaults_perm h rfl rfl,
    sees fun _ _ _ _ _ => .rfl, sees fun _ _ _ _ h => firstFinding_perm h,
    sees fun _ _ _ _ h => Layout.tangled_perm h rfl rfl rfl, sees fun _ _ _ _ h => find?_perm (h.filter _),
    sees fun _ _ _ _ h => firstFinding_perm h, sees fun _ _ _ _ h => firstFinding_perm (h.filter _),
    sees fun _ _ _ _ h => firstFinding_perm (h.filter _), sees fun _ _ _ _ h => firstFinding_perm (h.filter _),
    sees fun _ _ _ _ h => Naming.short_perm h rfl, sees fun _ _ _ _ h => firstFinding_perm h,
    sees fun _ _ _ _ _ => .rfl, sees fun _ _ _ _ h => firstFinding_perm h, .inl (by simp [supplied]),
    sees fun _ _ _ _ h => firstFinding_perm h, sees fun _ _ _ _ h => firstFinding_perm (h.filter _),
    sees fun _ _ _ _ _ => .rfl, sees fun _ _ _ _ h => firstFinding_perm h,
    sees fun _ _ _ _ h => firstFinding_perm h, sees fun _ _ _ _ h => firstFinding_perm (h.filter _),
    sees fun _ _ _ _ h => firstFinding_perm h, .inl (by simp [supplied]),
    sees fun _ _ _ _ h => firstFinding_perm h, sees fun _ _ _ _ h => firstFinding_perm h,
    sees fun _ _ _ _ h => firstFinding_perm h, sees fun _ _ _ _ h => firstFinding_perm h,
    sees fun _ _ _ _ h => firstFinding_perm h, sees fun _ _ _ _ h => firstFinding_perm h,
    sees fun _ _ _ _ h => firstFinding_perm (h.filter _), sees fun _ _ _ _ h => firstFinding_perm h,
    sees fun _ _ _ _ h => firstFinding_perm h, sees fun _ _ _ _ h => firstFinding_perm h, by simp⟩

theorem syntax_ignores_order : ∀ check ∈ errors.checksOf "syntax", check.IgnoresOrder := by
  show ∀ check ∈ [onProject "syntax_error" Layout.unparsed], check.IgnoresOrder
  rw [List.forall_mem_singleton]
  exact ignoresOrder_onProject fun _ _ _ _ h => find?_perm h

theorem warnings_ignore_order : ∀ check ∈ warnings.flatMap (·.checks), check.IgnoresOrder := by
  simp only [warnings, List.flatMap_cons, List.flatMap_nil, List.cons_append, List.nil_append,
    List.forall_mem_cons]
  exact ⟨ignoresOrder_onProject fun _ _ _ _ _ => .rfl,
    ignoresOrder_onProject fun _ _ _ _ h => firstFinding_perm h,
    ignoresOrder_onProject fun _ _ _ _ h => firstFinding_perm h, by simp⟩

end Registry

/-- **The order of the sources makes no difference to what passes.** Two projects under one path have the same sources,
in any two orders. Then the guard of the syntax, every check of the last group and every warning passes both or
neither: a pass in one order leaves no room for a finding, nor for a failure, in the other. Of the two checks of
requirements, which are supplied, this is asked for. -/
theorem passing_ignores_source_order (c : Context) (p q : Project) (hpath : q.path = p.path)
    (hsources : p.sources.Perm q.sources)
    (hsupplied : ∀ check ∈ Registry.supplied,
      (check.run { c with project := some p } = .ok .passed ↔ check.run { c with project := some q } = .ok .passed)) :
    ∀ check ∈ Registry.errors.checksOf "syntax" ++ Registry.errors.checksOf "general" ++
        Registry.warnings.flatMap (·.checks),
      check.run { c with project := some p } = .ok .passed ↔
        check.run { c with project := some q } = .ok .passed := by
  intro check hcheck
  rw [List.append_assoc, List.mem_append, List.mem_append] at hcheck
  rcases hcheck with h | h | h
  · exact Registry.syntax_ignores_order check h c p q hpath hsources
  · rcases Registry.general_ignores_order check h with hgiven | hblind
    · exact hsupplied check hgiven
    · exact hblind c p q hpath hsources
  · exact Registry.warnings_ignore_order check h c p q hpath hsources

/-- Two sources that offend are named in their order, and pass in neither. -/
theorem semicolons_in_either_order :
    let tree : Code.Node := .node ⟨.module, .body, none, []⟩ []
    let first : Source := ⟨"p/a.py", "x;", some tree⟩
    let second : Source := ⟨"p/b.py", "y;", some tree⟩
    let c : Context := { disk := { top := Folder.empty "" }, path := "p" }
    let check := Check.onProject "line_ends_with_semicolon" Layout.semicolons
    check.run { c with project := some ⟨"p", [first, second]⟩ } = .ok (.failed "a.py") ∧
      check.run { c with project := some ⟨"p", [second, first]⟩ } = .ok (.failed "b.py") ∧
      (check.run { c with project := some ⟨"p", [first, second]⟩ } = .ok .passed ↔
        check.run { c with project := some ⟨"p", [second, first]⟩ } = .ok .passed) := by
  intro tree first second c check
  refine ⟨by decide +kernel, by decide +kernel, ?_⟩
  refine passing_ignores_source_order c ⟨"p", [first, second]⟩ ⟨"p", [second, first]⟩ rfl
    (List.Perm.swap second first []) (List.forall_mem_cons.mpr ⟨.rfl, List.forall_mem_singleton.mpr .rfl⟩) check ?_
  have hgeneral : check ∈ Registry.general := by simp [check, Registry.general]
  exact List.mem_append_left _ (List.mem_append_right _ hgeneral)

end Scrutiny
