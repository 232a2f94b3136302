import Scrutiny.Proofs.Findings

/-! The names that a review can report.

A plan announces the names of all its checks, and a finding carries the name of the check that made it. Every check that
a review carries out is of its plan: of the preflight, of the error groups, or of a warning group that follows up one
of them. Which groups are run depends on the project, which are in the plan on what was asked for; and the plan of a
review is the one that its names are announced for. -/
namespace Scrutiny

namespace Groups

theorem mem_checkNames {groups : Groups} {name : String} :
    name ∈ groups.checkNames ↔ ∃ check ∈ groups.flatMap (·.checks), check.name = name := by
  simp only [checkNames, List.mem_flatMap, List.mem_map]
  constructor
  · rintro ⟨g, hg, check, hcheck, hname⟩
    exact ⟨check, ⟨g, hg, hcheck⟩, hname⟩
  · rintro ⟨check, ⟨g, hg, hcheck⟩, hname⟩
    exact ⟨g, hg, check, hcheck, hname⟩

end Groups

namespace Plan

/-- All checks of a plan. -/
def checks (plan : Plan) : List Check :=
  (plan.preflight ++ (plan.errors ++ plan.warnings)).flatMap (·.checks)

theorem mem_checkNames {plan : Plan} {name : String} :
    name ∈ plan.checkNames ↔ ∃ check ∈ plan.checks, check.name = name := by
  unfold checkNames checks
  rw [Text.mem_sortedOnce, ← Groups.mem_checkNames]
  simp [Groups.checkNames]

end Plan

/-- A finding of a review is made by a check of its plan. -/
theorem check_of_review {disk : Disk} {r : Request} {found : List Finding} (h : review disk r = .ok found)
    {f : Finding} (hf : f ∈ found) : ∃ check ∈ r.plan.checks, check.name = f.check := by
  unfold Plan.checks
  rw [List.flatMap_append]
  rcases finding_of_review h hf with ⟨check, hcheck, hfinding⟩ | ⟨_, _, check, hcheck, hfinding⟩
  · exact ⟨check, List.mem_append_left _ hcheck, (Check.check_of_finding? hfinding).symm⟩
  · exact ⟨check, List.mem_append_right _ hcheck, (Check.check_of_finding? hfinding).symm⟩

/-- **What is reported was announced.** Whatever groups are asked for, and whether they are given, left out or empty:
every name that a review reports is announced for the same choice of groups, and nothing is announced but the names of
the checks of the plan that the review follows. -/
theorem review_reports_announced_names (disk : Disk) (r : Request) (found : List Finding)
    (h : review disk r = .ok found) :
    (∀ f ∈ found, f.check ∈ (Plan.ofChoice r.preflight r.errors r.warnings).checkNames) ∧
      ∀ name ∈ (Plan.ofChoice r.preflight r.errors r.warnings).checkNames,
        ∃ check ∈ r.plan.checks, check.name = name := by
  constructor
  · intro f hf
    obtain ⟨check, hcheck, hname⟩ := check_of_review h hf
    exact Plan.mem_checkNames.mpr ⟨check, hcheck, hname⟩
  · intro name hname
    exact Plan.mem_checkNames.mp hname

/-- Errors and warnings of one's own, with the usual preflight in the place of an empty one. -/
theorem own_groups_report_announced_names :
    let project : Folder := .node { name := "p", files := [("a.py", { bytes := [0x78] })] } []
    let disk : Disk := { top := .node { name := "" } [project] }
    let r : Request :=
      { path := "p", preflight := some [],
        errors := some [⟨"first", [.constant "fine" none]⟩, ⟨"second", [.constant "odd" (some "")]⟩],
        warnings := some [⟨"second", [.constant "never" (some "")]⟩, ⟨"first", [.constant "late" (some "w")]⟩] }
    review disk r = .ok [⟨"odd", ""⟩, ⟨"late", "w"⟩] ∧
      "late" ∈ (Plan.ofChoice r.preflight r.errors r.warnings).checkNames := by
  intro project disk r
  have hreview : review disk r = .ok [⟨"odd", ""⟩, ⟨"late", "w"⟩] := by decide +kernel
  exact ⟨hreview, (review_reports_announced_names disk r _ hreview).1 ⟨"late", "w"⟩ (by simp)⟩

end Scrutiny
