import Scrutiny.Proofs.Phases

/-! What it takes to pass.

A check passes where its judgement finds nothing. Going through sources finds nothing where nothing is found on any of
them; the names and blocks that are gathered from all sources are none where each source has none; and the faults of
style are added up. So whether a check passes is a question about the sources one by one, or about a sum over them. -/
namespace Scrutiny

namespace Check
variable {c : Context} {p : Project} {name : String}

theorem passed_onContext {judge : Context → Outcome (Option String)} :
    (onContext name judge).run c = .ok .passed ↔ judge c = .ok none := by
  rw [run_onContext]
  cases judge c with
  | error failure => simp [Except.map]
  | ok found => cases found <;> simp [Except.map, Verdict.ofFinding]

theorem passed_onProject (hp : c.project = some p) {judge : Context → Project → Outcome (Option String)} :
    (onProject name judge).run c = .ok .passed ↔ judge c p = .ok none := by
  unfold onProject
  rw [passed_onContext, hp]

end Check

namespace Outcome
variable {α β : Type}

/-- A result that is worked out of another and says nothing. -/
theorem return_eq_none {x : Outcome α} {f : α → Option β} :
    (do return f (← x)) = (.ok none : Outcome (Option β)) ↔ ∃ a, x = .ok a ∧ f a = none := by
  rw [bind_eq_ok]
  simp [pure, Except.pure]

theorem returnIf_eq_none {x : Outcome Bool} {b : β} :
    (do return if ← x then some b else none) = (.ok none : Outcome (Option β)) ↔ x = .ok false := by
  rw [return_eq_none]
  simp

theorem returnUnlessEmpty_eq_none {x : Outcome (List α)} {report : List α → β} :
    (do
      let found ← x
      return if found.isEmpty then none else some (report found) : Outcome (Option β)) = .ok none ↔ x = .ok [] := by
  rw [return_eq_none]
  simp

/-- What is gathered from a list and reported as a whole. -/
theorem gathered_eq_none (report : List β → String) {f : α → Outcome (List β)} {as : List α} :
    (do
      let found := (← as.mapM f).flatten
      return if found.isEmpty then none else some (report found) : Outcome (Option String)) = .ok none ↔
      ∀ a ∈ as, f a = .ok [] := by
  rw [return_eq_none, ← mapM_flatten_eq_nil_iff]
  simp

end Outcome

theorem Naming.short_eq_none {c : Context} {p : Project} :
    short c p = .ok none ↔ ∀ s ∈ p.sources, shortNames c.settings s = .ok [] :=
  Outcome.gathered_eq_none fun names => listed (c.runtime.order.list names)

theorem Layout.tangled_eq_none {c : Context} {p : Project} :
    tangled c p = .ok none ↔
      ∀ s ∈ p.sources,
        ((c.disk.openFile s.path) >>= (tangledIn c.runtime.codecs · c.settings.maxComplexity)) = .ok [] :=
  Outcome.gathered_eq_none fun blocks => ",".intercalate blocks

theorem Idioms.styleFaults_eq_none {c : Context} {p : Project} :
    styleFaults c p = .ok none ↔
      (p.styleFaults c.disk c.settings.pep8PathsToIgnore : Int) ≤ c.settings.allowedMaxPep8Violations := by
  simp [styleFaults]

end Scrutiny
