import Mathlib.Data.List.Nodup
import Scrutiny.Proofs.Phases
import Scrutiny.Proofs.SkippedFolders

/-! Where a finding comes from.

A review hands on what its checks find: those of the preflight on the request, the others on what was loaded
(`finding_of_review`). The usual checks have different names, so a finding of a usual review is traced back by its name
to the judgement that made it (`judge_of_review`). -/
namespace Scrutiny

namespace Groups

theorem mem_of_mem_checksOf {groups : Groups} {name : String} {check : Check} (h : check ∈ groups.checksOf name) :
    check ∈ groups.flatMap (·.checks) := by
  unfold checksOf at h
  split at h
  · rename_i g hg
    exact List.mem_flatMap.mpr ⟨g, List.mem_of_find?_eq_some hg, h⟩
  · cases h

/-- A finding of a run is made by a check of the groups or of the follow-up groups. -/
theorem finding_of_outcome {c : Context} {groups after : Groups} {found : List Finding}
    (h : groups.outcome c after = .ok found) {f : Finding} (hf : f ∈ found) :
    ∃ check ∈ (groups ++ after).flatMap (·.checks), check.finding? c = some f := by
  obtain ⟨_, rfl⟩ := findings_of_outcome h
  obtain ⟨check, hcheck, hfinding⟩ := List.mem_filterMap.mp hf
  refine ⟨check, ?_, hfinding⟩
  rw [List.flatMap_append, List.mem_append]
  rcases mem_executed hcheck with hmem | hnote
  · exact .inl hmem
  · obtain ⟨g, _, hof⟩ := List.mem_flatMap.mp hnote
    exact .inr (mem_of_mem_checksOf hof)

end Groups

/-- A review that comes to an end was asked for without conflicting marks. -/
theorem not_conflicting_of_review {disk : Disk} {r : Request} {found : List Finding} (h : review disk r = .ok found) :
    r.marking.isConflicting = false := by
  cases hm : r.marking.isConflicting with
  | false => rfl
  | true =>
    rw [review, hm] at h
    cases h

/-- A finding of a review is made by a check of its plan, before the project is loaded or after. -/
theorem finding_of_review {disk : Disk} {r : Request} {found : List Finding} (h : review disk r = .ok found)
    {f : Finding} (hf : f ∈ found) :
    (∃ check ∈ r.plan.preflight.flatMap (·.checks), check.finding? (r.context disk) = some f) ∨
      ∃ loaded, (r.context disk).load = .ok loaded ∧
        ∃ check ∈ (r.plan.errors ++ r.plan.warnings).flatMap (·.checks), check.finding? loaded = some f := by
  rw [review_eq (not_conflicting_of_review h)] at h
  obtain ⟨early, hearly, hrest⟩ := Outcome.bind_eq_ok.mp h
  split at hrest
  · obtain ⟨loaded, hload, hlate⟩ := Outcome.bind_eq_ok.mp hrest
    exact .inr ⟨loaded, hload, Groups.finding_of_outcome hlate hf⟩
  · cases hrest
    left
    have hfinding := Groups.finding_of_outcome hearly hf
    rwa [List.append_nil] at hfinding

namespace Registry
open Check (onProject)

theorem nodup_names : (all.map (·.name)).Nodup := by
  decide +kernel

theorem eq_of_name {check other : Check} (h : check ∈ all) (hother : other ∈ all) (hname : check.name = other.name) :
    check = other :=
  List.inj_on_of_nodup_map nodup_names h hother hname

theorem mem_all_of_general {check : Check} (h : check ∈ general) : check ∈ all :=
  List.mem_flatMap.mpr ⟨⟨"general", general⟩, by simp [errors], h⟩

/-- What a usual review reports under the name of a check of projects, this check has found in the loaded project. -/
theorem judge_of_review {disk : Disk} {r : Request} {found : List Finding} (hplan : r.plan = .ofChoice none none none)
    (h : review disk r = .ok found) {name message : String} {judge : Context → Project → Outcome (Option String)}
    (hcheck : onProject name judge ∈ all) (hf : ⟨name, message⟩ ∈ found) :
    ∃ p base, Project.load disk r.path r.settings.directoriesToSkip = .ok p ∧
      judge { r.context disk with project := some p, base } p = .ok (some message) := by
  have hall : (r.plan.preflight ++ (r.plan.errors ++ r.plan.warnings)).flatMap (·.checks) = all := by
    rw [hplan]
    rfl
  rw [List.flatMap_append] at hall
  have hsame {check : Check} {c : Context} (hmem : check ∈ all) (hfinding : check.finding? c = some ⟨name, message⟩) :
      check = onProject name judge :=
    eq_of_name hmem hcheck (Check.check_of_finding? hfinding).symm
  rcases finding_of_review h hf with ⟨check, hmem, hfinding⟩ | ⟨loaded, hload, check, hmem, hfinding⟩
  · -- Without a project, a check of projects finds nothing.
    rw [hsame (hall ▸ List.mem_append_left _ hmem) hfinding] at hfinding
    obtain ⟨_, hjudge, _⟩ := Check.finding?_onContext.mp hfinding
    cases hjudge
  · rw [hsame (hall ▸ List.mem_append_right _ hmem) hfinding] at hfinding
    obtain ⟨p, base, hp, rfl, _⟩ := Request.of_load hload
    obtain ⟨_, hjudge, hmessage⟩ := (Check.finding?_onProject rfl).mp hfinding
    cases hmessage
    exact ⟨p, base, hp, hjudge⟩

/-- A usual review without findings has come to every check of the last group, and none has found anything. -/
theorem judge_of_clear_review {disk : Disk} {r : Request} (hplan : r.plan = .ofChoice none none none)
    (h : review disk r = .ok []) {name : String} {judge : Context → Project → Outcome (Option String)}
    (hcheck : onProject name judge ∈ general) :
    ∃ p base, Project.load disk r.path r.settings.directoriesToSkip = .ok p ∧
      judge { r.context disk with project := some p, base } p = .ok none := by
  rw [review_eq (not_conflicting_of_review h), hplan] at h
  obtain ⟨early, _, hrest⟩ := Outcome.bind_eq_ok.mp h
  split at hrest
  · obtain ⟨loaded, hload, hlate⟩ := Outcome.bind_eq_ok.mp hrest
    have hgroup : ⟨"general", general⟩ ∈ errors := by simp [errors]
    obtain ⟨hfailure, hfinding⟩ := Groups.clear_of_outcome hlate hgroup hcheck
    obtain ⟨p, base, hp, rfl, _⟩ := Request.of_load hload
    exact ⟨p, base, hp, Check.judge_of_clear hfailure hfinding⟩
  · rename_i hsome
    cases hrest
    exact absurd rfl hsome

end Registry
end Scrutiny
