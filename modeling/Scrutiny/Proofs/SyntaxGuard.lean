import Scrutiny.Proofs.Phases

/-! A source that does not parse keeps every syntax tree unwalked.

Most checks walk the trees of all sources and fail on a source without one. They all stand behind the check that every
source parses: in the last group, or among the follow-ups to the group of that check. So with one source that does not
parse, a run of the usual groups carries out at most four checks (`executed_unparsed`), none of which looks further
than at the outline of the project, and its failures are those of the history alone. -/
namespace Scrutiny

/-! ### The checks before the guard -/

namespace Registry
open Check (onProject)

def commitsCheck : Check := onProject "no_more_commits_than_origin" Commits.noMoreThanBefore

def readmeCheck : Check := onProject "no_readme_file" Readme.absent

def parseCheck : Check := onProject "syntax_error" Layout.unparsed

def messageCheck : Check := onProject "commit_messages_from_blacklist" Commits.emptyMessage

/-- The checks that look at no syntax tree. -/
def treeless : List Check := [commitsCheck, readmeCheck, parseCheck, messageCheck]

theorem errors_eq : errors =
    [⟨"commits", [commitsCheck]⟩, ⟨"readme", [readmeCheck]⟩, ⟨"syntax", [parseCheck]⟩, ⟨"general", general⟩] := rfl

end Registry

namespace Groups
open Registry

theorem executed_commits {c : Context} (h : (commitsCheck.finding? c).isSome) :
    Registry.errors.executed c Registry.warnings = [commitsCheck] := by
  have hb : ∀ k ∈ ([] : Groups), k.finds c = false := by simp
  have hg : (Group.mk "commits" [commitsCheck]).finds c = true := by
    rw [Group.finds_singleton, h]
  rw [errors_eq]
  exact executed_append hb hg _ _

theorem executed_readme {c : Context} (hc : commitsCheck.finding? c = none)
    (h : (readmeCheck.finding? c).isSome) :
    Registry.errors.executed c Registry.warnings = [commitsCheck, readmeCheck, messageCheck] := by
  have hb : ∀ k ∈ [Group.mk "commits" [commitsCheck]], k.finds c = false := by
    simp [Group.finds_singleton, hc]
  have hg : (Group.mk "readme" [readmeCheck]).finds c = true := by
    rw [Group.finds_singleton, h]
  rw [errors_eq]
  exact executed_append hb hg _ _

theorem executed_syntax {c : Context} (hc : commitsCheck.finding? c = none)
    (hr : readmeCheck.finding? c = none) (h : (parseCheck.finding? c).isSome) :
    Registry.errors.executed c Registry.warnings =
      [commitsCheck, readmeCheck, parseCheck, messageCheck] := by
  have hb : ∀ k ∈ [Group.mk "commits" [commitsCheck], ⟨"readme", [readmeCheck]⟩], k.finds c = false := by
    simp [Group.finds_singleton, hc, hr]
  have hg : (Group.mk "syntax" [parseCheck]).finds c = true := by
    rw [Group.finds_singleton, h]
  rw [errors_eq]
  exact executed_append hb hg _ _

end Groups

/-! ### What those checks see -/

/-- Where a project and its sources are, and which of them parse. -/
def Project.outline (p : Project) : String × List (String × Bool) :=
  (p.path, p.sources.map fun s => (s.path, s.isParsed))

theorem Project.path_of_outline {p q : Project} (h : q.outline = p.outline) : q.path = p.path :=
  congrArg Prod.fst h

theorem Project.firstUnparsed_eq (p : Project) :
    (p.sources.find? (!·.isParsed)).map (·.name) =
      (p.outline.2.find? (!·.2)).map fun entry => Text.baseName entry.1 := by
  unfold outline
  rw [List.find?_map, Option.map_map]
  rfl

/-- The checks before the guard say the same of projects with the same outline. -/
theorem judge_of_outline {p q : Project} (h : q.outline = p.outline) (c : Context) (sources : Option Project) :
    Commits.noMoreThanBefore { c with project := sources } q = Commits.noMoreThanBefore c p ∧
      Readme.absent { c with project := sources } q = Readme.absent c p ∧
      Layout.unparsed { c with project := sources } q = Layout.unparsed c p ∧
      Commits.emptyMessage { c with project := sources } q = Commits.emptyMessage c p := by
  have hpath := Project.path_of_outline h
  refine ⟨?_, ?_, ?_, ?_⟩
  · simp only [Commits.noMoreThanBefore, Project.repository?, hpath]
  · unfold Readme.absent Project.hasFile
    rw [hpath]
  · unfold Layout.unparsed
    rw [Project.firstUnparsed_eq, Project.firstUnparsed_eq, h]
  · simp only [Commits.emptyMessage, Project.repository?, hpath]

theorem Repository.failure_of_countCommits {r : Repository} {failure : Failure}
    (h : r.countCommits = .error failure) : failure = .noCommits r.branch := by
  unfold Repository.countCommits at h
  split at h
  · cases h; rfl
  · cases h

/-- The history is all that can fail before the guard. -/
theorem failure_of_noMoreThanBefore {c : Context} {p : Project} {failure : Failure}
    (h : Commits.noMoreThanBefore c p = .error failure) : ∃ branch, failure = .noCommits branch := by
  unfold Commits.noMoreThanBefore at h
  split at h
  · cases h
  · split at h
    · obtain hmine | ⟨now, _, hrest⟩ := Outcome.bind_eq_error.mp h
      · exact ⟨_, Repository.failure_of_countCommits hmine⟩
      · obtain htheirs | ⟨before, _, hdone⟩ := Outcome.bind_eq_error.mp hrest
        · exact ⟨_, Repository.failure_of_countCommits htheirs⟩
        · cases hdone
    · cases h

theorem failure_of_emptyMessage {c : Context} {p : Project} {failure : Failure}
    (h : Commits.emptyMessage c p = .error failure) : failure = .unknownRevision := by
  unfold Commits.emptyMessage at h
  split at h
  · cases h
  · obtain hmessages | ⟨messages, _, hdone⟩ := Outcome.bind_eq_error.mp h
    · unfold Repository.messagesOn at hmessages
      obtain hargument | ⟨request, _, hspan⟩ := Outcome.bind_eq_error.mp hmessages
      · have hmain : Repository.argument Commits.mainBranch = .ok Commits.mainBranch := by decide
        rw [hmain] at hargument
        cases hargument
      · split at hspan
        · cases hspan
        · cases hspan; rfl
    · cases hdone

/-! ### The guard -/

/-- Whether the group of a name is run to its end and finds nothing. -/
def Groups.passes (c : Context) (groups : Groups) (name : String) : Prop :=
  ∃ log, judgeAll c (groups.checksOf name) = .ok log ∧ log.findings = []

theorem Groups.passes_singleton {c : Context} {groups : Groups} {name : String} {check : Check}
    (h : groups.checksOf name = [check]) :
    groups.passes c name ↔ check.failure? c = none ∧ check.finding? c = none := by
  unfold passes
  rw [h]
  constructor
  · rintro ⟨log, hlog, hnone⟩
    rw [findings_judgeAll hlog, List.filterMap_eq_nil_iff] at hnone
    refine ⟨?_, hnone check List.mem_cons_self⟩
    cases hf : check.failure? c with
    | none => rfl
    | some failure =>
      have hfirst : [check].findSome? (Check.failure? c) = some failure := by simp [hf]
      rw [judgeAll_of_failure hfirst] at hlog
      cases hlog
  · rintro ⟨hfailure, hfinding⟩
    have hall : ∀ k ∈ [check], k.failure? c = none := by simpa using hfailure
    obtain ⟨log, hlog⟩ := judgeAll_of_no_failure hall
    refine ⟨log, hlog, ?_⟩
    rw [findings_judgeAll hlog]
    simp [hfinding]

section Guard
open Registry
variable {c : Context} {p : Project} {s : Source}

theorem parseCheck_finds (hp : c.project = some p) (hs : p.sources.find? (!·.isParsed) = some s) :
    parseCheck.finding? c = some ⟨"syntax_error", s.name⟩ := by
  have hjudge : Layout.unparsed c p = .ok (some s.name) := by
    unfold Layout.unparsed
    rw [hs]
    rfl
  exact (Check.finding?_onProject hp).mpr ⟨s.name, hjudge, rfl⟩

theorem executed_unparsed (hp : c.project = some p) (hs : p.sources.find? (!·.isParsed) = some s) :
    ∀ check ∈ Registry.errors.executed c Registry.warnings, check ∈ treeless := by
  have hparse := parseCheck_finds hp hs
  cases hc : commitsCheck.finding? c with
  | some found =>
    rw [Groups.executed_commits (by simp [hc])]
    simp [treeless]
  | none =>
    cases hr : readmeCheck.finding? c with
    | some found =>
      rw [Groups.executed_readme hc (by simp [hr])]
      simp [treeless]
    | none =>
      rw [Groups.executed_syntax hc hr (by simp [hparse])]
      simp [treeless]

theorem run_treeless_of_outline (hp : c.project = some p) {q : Project} (h : q.outline = p.outline) :
    ∀ check ∈ treeless, check.run { c with project := some q } = check.run c := by
  obtain ⟨hcommits, hreadme, hparse, hmessage⟩ := judge_of_outline h c (some q)
  have hq : ({ c with project := some q } : Context).project = some q := rfl
  simp only [treeless, List.forall_mem_cons, commitsCheck, readmeCheck, parseCheck, messageCheck,
    Check.run_onProject hq, Check.run_onProject hp, hcommits, hreadme, hparse, hmessage]
  simp

theorem failure_of_treeless (hp : c.project = some p) {failure : Failure} :
    ∀ check ∈ treeless, check.failure? c = some failure →
      (∃ branch, failure = .noCommits branch) ∨ failure = .unknownRevision := by
  simp only [treeless, List.forall_mem_cons, commitsCheck, readmeCheck, parseCheck, messageCheck,
    Check.failure?_onProject hp]
  refine ⟨fun h => .inl (failure_of_noMoreThanBefore h), fun h => ?_, fun h => ?_,
    fun h => .inr (failure_of_emptyMessage h), by simp⟩
  · cases h
  · cases h

/-- The guard is among the findings when the groups before it pass, and only then. -/
theorem parse_finding_mem_iff (hp : c.project = some p) (hs : p.sources.find? (!·.isParsed) = some s)
    {found : List Finding} (h : Registry.errors.outcome c Registry.warnings = .ok found) :
    ⟨"syntax_error", s.name⟩ ∈ found ↔
      Registry.errors.passes c "commits" ∧ Registry.errors.passes c "readme" := by
  obtain ⟨hnone, rfl⟩ := Groups.findings_of_outcome h
  have hparse := parseCheck_finds hp hs
  have hpc : Registry.errors.passes c "commits" ↔
      commitsCheck.failure? c = none ∧ commitsCheck.finding? c = none := Groups.passes_singleton rfl
  have hpr : Registry.errors.passes c "readme" ↔
      readmeCheck.failure? c = none ∧ readmeCheck.finding? c = none := Groups.passes_singleton rfl
  rw [hpc, hpr]
  cases hc : commitsCheck.finding? c with
  | some first =>
    rw [Groups.executed_commits (by simp [hc])]
    have hother : "syntax_error" ∉ [commitsCheck].map (·.name) := by decide
    simp [Check.not_mem_filterMap hother]
  | none =>
    cases hr : readmeCheck.finding? c with
    | some first =>
      rw [Groups.executed_readme hc (by simp [hr])]
      have hother : "syntax_error" ∉ [commitsCheck, readmeCheck, messageCheck].map (·.name) := by decide
      simp [Check.not_mem_filterMap hother]
    | none =>
      rw [Groups.executed_syntax hc hr (by simp [hparse])] at hnone ⊢
      have hmem : ⟨"syntax_error", s.name⟩ ∈
          [commitsCheck, readmeCheck, parseCheck, messageCheck].filterMap (Check.finding? c) :=
        List.mem_filterMap.mpr ⟨parseCheck, by simp, hparse⟩
      simp only [hmem, true_iff, and_true]
      exact ⟨hnone commitsCheck (by simp), hnone readmeCheck (by simp)⟩

/-- **The guard.** With one source that does not parse, the usual groups carry out none but the four checks that look
at no tree: the run is the same for all projects of that outline, it never fails for want of a tree, and its findings
are of those four. The first source that does not parse is among them just when the groups before the guard pass. -/
theorem unparsed_source_keeps_trees_unwalked (c : Context) (p : Project) (hp : c.project = some p)
    (hs : ∃ s ∈ p.sources, s.tree = none) :
    (∀ check ∈ Registry.errors.executed c Registry.warnings, check ∈ Registry.treeless) ∧
    (∀ q : Project, q.outline = p.outline →
      Registry.errors.run { c with project := some q } Registry.warnings =
        Registry.errors.run c Registry.warnings) ∧
    Registry.errors.outcome c Registry.warnings ≠ .error .noTree ∧
    ∀ found, Registry.errors.outcome c Registry.warnings = .ok found →
      (∀ f ∈ found, f.check ∈ ["no_more_commits_than_origin", "no_readme_file", "syntax_error",
        "commit_messages_from_blacklist"]) ∧
      ∃ s, p.sources.find? (!·.isParsed) = some s ∧
        (⟨"syntax_error", s.name⟩ ∈ found ↔
          Registry.errors.passes c "commits" ∧ Registry.errors.passes c "readme") := by
  obtain ⟨first, hfirst⟩ : ∃ s, p.sources.find? (!·.isParsed) = some s := by
    obtain ⟨s, hmem, hnone⟩ := hs
    rw [← Option.isSome_iff_exists, List.find?_isSome]
    exact ⟨s, hmem, by simp [Source.isParsed, hnone]⟩
  have hexecuted := executed_unparsed hp hfirst
  refine ⟨hexecuted, ?_, ?_, ?_⟩
  · intro q hq
    exact Groups.run_congr fun check hcheck => run_treeless_of_outline hp hq check (hexecuted check hcheck)
  · intro hnoTree
    obtain ⟨check, hcheck, hfailure⟩ :=
      List.exists_of_findSome?_eq_some (Groups.failure_of_outcome hnoTree)
    obtain ⟨branch, hbranch⟩ | hrevision := failure_of_treeless hp check (hexecuted check hcheck) hfailure
    · cases hbranch
    · cases hrevision
  · intro found hfound
    refine ⟨?_, first, hfirst, parse_finding_mem_iff hp hfirst hfound⟩
    intro f hf
    obtain ⟨_, rfl⟩ := Groups.findings_of_outcome hfound
    obtain ⟨check, hcheck, hfinding⟩ := List.mem_filterMap.mp hf
    rw [Check.check_of_finding? hfinding]
    exact List.mem_map_of_mem (f := Check.name) (hexecuted check hcheck)

/-- A project with a readme, a source that parses and one that does not. -/
theorem unparsed_source_after_parsed_one :
    let parsed : Source := ⟨"p/a.py", "", some (.node ⟨.module, .body, none, []⟩ [])⟩
    let broken : Source := ⟨"p/b.py", "(", none⟩
    let project : Folder := .node { name := "p", files := [("README.md", { bytes := [] })] } []
    let disk : Disk := { top := .node { name := "" } [project] }
    let c : Context := { disk, path := "p", project := some ⟨"p", [parsed, broken]⟩ }
    broken.tree = none ∧ Registry.errors.outcome c Registry.warnings ≠ .error .noTree ∧
      ∀ found, Registry.errors.outcome c Registry.warnings = .ok found →
        (⟨"syntax_error", "b.py"⟩ ∈ found ↔
          Registry.errors.passes c "commits" ∧ Registry.errors.passes c "readme") := by
  intro parsed broken project disk c
  have hall := unparsed_source_keeps_trees_unwalked c ⟨"p", [parsed, broken]⟩ rfl ⟨broken, by simp, rfl⟩
  refine ⟨rfl, hall.2.2.1, fun found hfound => ?_⟩
  obtain ⟨s, hs, hiff⟩ := (hall.2.2.2 found hfound).2
  cases hs
  have hname : broken.name = "b.py" := by decide
  rw [← hname]
  exact hiff

end Guard
end Scrutiny
