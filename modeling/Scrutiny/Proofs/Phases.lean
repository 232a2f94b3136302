import Mathlib.Data.List.Find
import Mathlib.Data.List.Nodup
import Mathlib.Data.List.TakeWhile
import Scrutiny.Proofs.Outcome
import Scrutiny.Review

/-! The phases of a review.

Which checks are carried out, in which order, is known from what each check would say on its own. The first group
with a check that finds something is the last to be run (`stop?`); the groups before it have passed (`passed`); the
follow-ups to those are what is left to do (`notes`). A run is nothing but these checks one after the other
(`run_eq_judgeAll`), so the first failure among them is its outcome, and without one its findings are those of the
stop and of the notes. What is not among them cannot change it. -/
namespace Scrutiny

/-! ### A check on its own -/

namespace Check

/-- What a check finds; nothing if it gives no verdict. -/
def finding? (c : Context) (check : Check) : Option Finding :=
  match check.run c with
  | .ok verdict => (Judged.mk check.name verdict).finding?
  | .error _ => none

/-- Why a check gives no verdict. -/
def failure? (c : Context) (check : Check) : Option Failure :=
  match check.run c with
  | .ok _ => none
  | .error failure => some failure

theorem judge_of_run {c : Context} {check : Check} {verdict : Verdict} (h : check.run c = .ok verdict) :
    check.judge c = .ok ⟨check.name, verdict⟩ := by
  unfold judge
  rw [h]
  rfl

theorem judge_of_failure {c : Context} {check : Check} {failure : Failure}
    (h : check.run c = .error failure) : check.judge c = .error failure := by
  unfold judge
  rw [h]
  rfl

theorem finding?_of_run {c : Context} {check : Check} {verdict : Verdict} (h : check.run c = .ok verdict) :
    check.finding? c = (Judged.mk check.name verdict).finding? := by
  unfold finding?
  rw [h]

theorem failure?_of_run {c : Context} {check : Check} {verdict : Verdict} (h : check.run c = .ok verdict) :
    check.failure? c = none := by
  unfold failure?
  rw [h]

theorem failure?_of_failure {c : Context} {check : Check} {failure : Failure}
    (h : check.run c = .error failure) : check.failure? c = some failure := by
  unfold failure?
  rw [h]

/-- A finding carries the name of its check. -/
theorem check_of_finding? {c : Context} {check : Check} {found : Finding} (h : check.finding? c = some found) :
    found.check = check.name := by
  unfold finding? at h
  split at h
  · obtain ⟨message, _, rfl⟩ := Option.map_eq_some_iff.mp h
    rfl
  · cases h

theorem not_mem_filterMap {name : String} {checks : List Check} (h : name ∉ checks.map (·.name)) (c : Context)
    (message : String) : ⟨name, message⟩ ∉ checks.filterMap (finding? c) := by
  intro hmem
  obtain ⟨check, hcheck, hfinding⟩ := List.mem_filterMap.mp hmem
  have hname : name = check.name := check_of_finding? hfinding
  rw [hname] at h
  exact h (List.mem_map_of_mem hcheck)

/-! #### Checks made of a judgement -/

section Judgement
variable {c : Context} {p : Project} {name : String}

theorem run_onContext (judge : Context → Outcome (Option String)) :
    (onContext name judge).run c = (judge c).map Verdict.ofFinding := by
  show (do return Verdict.ofFinding (← judge c)) = _
  cases judge c <;> rfl

theorem failure?_onContext {judge : Context → Outcome (Option String)} {failure : Failure} :
    (onContext name judge).failure? c = some failure ↔ judge c = .error failure := by
  unfold failure?
  rw [run_onContext]
  cases judge c <;> simp [Except.map]

theorem finding?_onContext {judge : Context → Outcome (Option String)} {found : Finding} :
    (onContext name judge).finding? c = some found ↔
      ∃ message, judge c = .ok (some message) ∧ found = ⟨name, message⟩ := by
  unfold finding?
  rw [run_onContext]
  cases judge c with
  | error failure => simp [Except.map]
  | ok message => cases message <;> simp [Except.map, Verdict.ofFinding, Judged.finding?, Verdict.finding?,
      onContext, eq_comm]

/-- A check without a failure and without a finding has judged that there is none. -/
theorem judge_of_clear {judge : Context → Outcome (Option String)}
    (hfailure : (onContext name judge).failure? c = none) (hfinding : (onContext name judge).finding? c = none) :
    judge c = .ok none := by
  cases hj : judge c with
  | error failure => rw [failure?_onContext.mpr hj] at hfailure; cases hfailure
  | ok found =>
    cases found with
    | none => rfl
    | some message => rw [finding?_onContext.mpr ⟨message, hj, rfl⟩] at hfinding; cases hfinding

theorem run_onProject (hp : c.project = some p) (judge : Context → Project → Outcome (Option String)) :
    (onProject name judge).run c = (judge c p).map Verdict.ofFinding := by
  unfold onProject
  rw [run_onContext, hp]

theorem failure?_onProject (hp : c.project = some p) {judge : Context → Project → Outcome (Option String)}
    {failure : Failure} : (onProject name judge).failure? c = some failure ↔ judge c p = .error failure := by
  unfold onProject
  rw [failure?_onContext, hp]

theorem finding?_onProject (hp : c.project = some p) {judge : Context → Project → Outcome (Option String)}
    {found : Finding} : (onProject name judge).finding? c = some found ↔
      ∃ message, judge c p = .ok (some message) ∧ found = ⟨name, message⟩ := by
  unfold onProject
  rw [finding?_onContext, hp]

end Judgement

end Check

/-! ### Checks one after the other -/

theorem judgeAll_cons (c : Context) (check : Check) (rest : List Check) :
    judgeAll c (check :: rest) = do return (← check.judge c) :: (← judgeAll c rest) := by
  unfold judgeAll
  rw [List.mapM_cons]

theorem judgeAll_append (c : Context) (first second : List Check) :
    judgeAll c (first ++ second) = do return (← judgeAll c first) ++ (← judgeAll c second) := by
  unfold judgeAll
  rw [List.mapM_append]

theorem judgeAll_congr {c c' : Context} {checks : List Check}
    (h : ∀ check ∈ checks, check.run c' = check.run c) : judgeAll c' checks = judgeAll c checks := by
  refine Outcome.mapM_congr fun check hcheck => ?_
  unfold Check.judge
  rw [h check hcheck]

/-- The log of checks holds what each of them finds. -/
theorem findings_judgeAll {c : Context} {checks : List Check} {log : Log} (h : judgeAll c checks = .ok log) :
    log.findings = checks.filterMap (Check.finding? c) := by
  induction checks generalizing log with
  | nil => cases h; rfl
  | cons check rest ih =>
    rw [judgeAll_cons] at h
    cases hv : check.run c with
    | error failure => rw [Check.judge_of_failure hv] at h; cases h
    | ok verdict =>
      rw [Check.judge_of_run hv] at h
      cases hr : judgeAll c rest with
      | error failure => rw [hr] at h; cases h
      | ok tail =>
        rw [hr] at h
        cases h
        rw [List.filterMap_cons, Check.finding?_of_run hv, ← ih hr]
        unfold Log.findings
        rw [List.filterMap_cons]

/-- The first failure among checks ends them. -/
theorem judgeAll_of_failure {c : Context} {checks : List Check} {failure : Failure}
    (h : checks.findSome? (Check.failure? c) = some failure) : judgeAll c checks = .error failure := by
  induction checks with
  | nil => cases h
  | cons check rest ih =>
    rw [judgeAll_cons]
    rw [List.findSome?_cons] at h
    cases hv : check.run c with
    | error other =>
      rw [Check.failure?_of_failure hv] at h
      cases h
      rw [Check.judge_of_failure hv]
      rfl
    | ok verdict =>
      rw [Check.failure?_of_run hv] at h
      rw [Check.judge_of_run hv, ih h]
      rfl

theorem judgeAll_of_no_failure {c : Context} {checks : List Check}
    (h : ∀ check ∈ checks, check.failure? c = none) : ∃ log, judgeAll c checks = .ok log := by
  induction checks with
  | nil => exact ⟨[], rfl⟩
  | cons check rest ih =>
    obtain ⟨tail, htail⟩ := ih fun k hk => h k (List.mem_cons_of_mem _ hk)
    have hcheck := h check List.mem_cons_self
    cases hv : check.run c with
    | error failure => rw [Check.failure?_of_failure hv] at hcheck; cases hcheck
    | ok verdict =>
      refine ⟨⟨check.name, verdict⟩ :: tail, ?_⟩
      rw [judgeAll_cons, Check.judge_of_run hv, htail]
      rfl

/-! ### Groups up to the stop -/

/-- Whether a check of the group finds something. -/
def Group.finds (c : Context) (g : Group) : Bool :=
  g.checks.any fun check => (check.finding? c).isSome

theorem Group.finds_congr {c c' : Context} {g : Group}
    (h : ∀ check ∈ g.checks, check.run c' = check.run c) : g.finds c' = g.finds c := by
  unfold Group.finds
  rw [Bool.eq_iff_iff, List.any_eq_true, List.any_eq_true]
  refine exists_congr fun check => and_congr_right fun hcheck => ?_
  unfold Check.finding?
  rw [h check hcheck]

theorem Group.finds_singleton (c : Context) (name : String) (check : Check) :
    (Group.mk name [check]).finds c = (check.finding? c).isSome := by
  simp [Group.finds]

theorem Group.filterMap_of_not_finds {c : Context} {g : Group} (h : g.finds c = false) :
    g.checks.filterMap (Check.finding? c) = [] := by
  rw [List.filterMap_eq_nil_iff]
  intro check hcheck
  have hnone := List.any_eq_false.mp h check hcheck
  simpa using hnone

theorem Group.findings_isEmpty {c : Context} {g : Group} {log : Log} (h : judgeAll c g.checks = .ok log) :
    log.findings.isEmpty = !g.finds c := by
  rw [findings_judgeAll h]
  cases hf : g.finds c with
  | false => rw [Group.filterMap_of_not_finds hf]; rfl
  | true =>
    obtain ⟨check, hcheck, hsome⟩ := List.any_eq_true.mp hf
    obtain ⟨finding, hfinding⟩ := Option.isSome_iff_exists.mp hsome
    have hmem : finding ∈ g.checks.filterMap (Check.finding? c) :=
      List.mem_filterMap.mpr ⟨check, hcheck, hfinding⟩
    rw [List.isEmpty_eq_false_iff_exists_mem.mpr ⟨finding, hmem⟩]
    rfl

namespace Groups

/-- The first group that finds something. -/
def stop? (c : Context) (groups : Groups) : Option Group :=
  groups.find? (·.finds c)

/-- The groups before the first that finds something. -/
def passed (c : Context) (groups : Groups) : Groups :=
  groups.takeWhile (!·.finds c)

/-- The checks that follow up groups, in the order of the groups. -/
def notes (after groups : Groups) : List Check :=
  groups.flatMap fun g => after.checksOf g.name

/-- The checks that are carried out, in order. -/
def executed (c : Context) (groups after : Groups) : List Check :=
  (groups.passed c).flatMap (·.checks) ++
    match groups.stop? c with
    | some g => g.checks ++ after.notes (groups.passed c)
    | none => []

/-- The findings of a run. -/
def outcome (c : Context) (groups after : Groups) : Outcome (List Finding) :=
  (groups.run c after).map Log.findings

theorem followUp_eq (c : Context) (after : Groups) (names : List String) :
    followUp c after names = judgeAll c (names.flatMap after.checksOf) := by
  induction names with
  | nil => rfl
  | cons name rest ih =>
    rw [List.flatMap_cons, judgeAll_append, ← ih]
    unfold followUp
    rw [List.mapM_cons]
    cases judgeAll c (after.checksOf name) with
    | error failure => rfl
    | ok log => cases rest.mapM fun name => judgeAll c (after.checksOf name) <;> rfl

theorem notes_eq (after groups : Groups) : after.notes groups = (groups.map (·.name)).flatMap after.checksOf := by
  unfold notes
  rw [List.flatMap_map]

theorem notes_nil (groups : Groups) : notes [] groups = [] := by
  unfold notes
  rw [List.flatMap_eq_nil_iff]
  intro g _
  rfl

theorem passed_cons_of_finds {c : Context} {g : Group} {rest : Groups} (h : g.finds c = true) :
    passed c (g :: rest) = [] := by
  simp [passed, h]

theorem passed_cons_of_not_finds {c : Context} {g : Group} {rest : Groups} (h : g.finds c = false) :
    passed c (g :: rest) = g :: passed c rest := by
  simp [passed, h]

theorem stop?_cons_of_finds {c : Context} {g : Group} {rest : Groups} (h : g.finds c = true) :
    stop? c (g :: rest) = some g := by
  simp [stop?, h]

theorem stop?_cons_of_not_finds {c : Context} {g : Group} {rest : Groups} (h : g.finds c = false) :
    stop? c (g :: rest) = stop? c rest := by
  simp [stop?, h]

/-- Part way through a run: groups of the given names have passed, and the checks still to come are those up to the
stop, then the follow-ups to all that have passed by then. -/
theorem runFrom_eq (c : Context) (after : Groups) (names : List String) (groups : Groups) :
    runFrom c after names groups = judgeAll c ((groups.passed c).flatMap (·.checks) ++
      match groups.stop? c with
      | some g => g.checks ++ (names ++ (groups.passed c).map (·.name)).flatMap after.checksOf
      | none => []) := by
  induction groups generalizing names with
  | nil => rfl
  | cons g rest ih =>
    unfold runFrom
    cases hf : g.finds c with
    | true =>
      rw [passed_cons_of_finds hf, stop?_cons_of_finds hf]
      simp only [List.flatMap_nil, List.nil_append, List.map_nil, List.append_nil]
      rw [judgeAll_append, ← followUp_eq]
      cases hlog : judgeAll c g.checks with
      | error failure => rfl
      | ok log =>
        have hempty := Group.findings_isEmpty hlog
        rw [hf] at hempty
        simp only [bind, Except.bind, hempty, Bool.not_true, Bool.false_eq_true, if_false]
    | false =>
      rw [passed_cons_of_not_finds hf, stop?_cons_of_not_finds hf, List.flatMap_cons, List.append_assoc,
        judgeAll_append]
      simp only [ih, List.map_cons, List.append_assoc, List.singleton_append]
      cases hlog : judgeAll c g.checks with
      | error failure => rfl
      | ok log =>
        have hempty := Group.findings_isEmpty hlog
        rw [hf] at hempty
        simp only [bind, Except.bind, hempty, Bool.not_false, if_true]

/-- A run carries out the executed checks one after the other. -/
theorem run_eq_judgeAll (c : Context) (groups after : Groups) :
    groups.run c after = judgeAll c (groups.executed c after) := by
  unfold run executed
  rw [runFrom_eq]
  simp only [List.nil_append, notes_eq]

theorem passed_not_finds {c : Context} {groups : Groups} {g : Group} (h : g ∈ groups.passed c) :
    g.finds c = false := by
  have hnot := List.mem_takeWhile_imp h
  simpa using hnot

theorem filterMap_passed (c : Context) (groups : Groups) :
    ((groups.passed c).flatMap (·.checks)).filterMap (Check.finding? c) = [] := by
  rw [List.filterMap_flatMap, List.flatMap_eq_nil_iff]
  intro g hg
  exact Group.filterMap_of_not_finds (passed_not_finds hg)

/-- Only the stop and the notes have findings. -/
theorem filterMap_executed (c : Context) (groups after : Groups) :
    (groups.executed c after).filterMap (Check.finding? c) =
      match groups.stop? c with
      | some g => g.checks.filterMap (Check.finding? c) ++
          (after.notes (groups.passed c)).filterMap (Check.finding? c)
      | none => [] := by
  unfold executed
  rw [List.filterMap_append, filterMap_passed, List.nil_append]
  cases groups.stop? c with
  | some g => simp only [List.filterMap_append]
  | none => rfl

theorem outcome_of_failure {c : Context} {groups after : Groups} {failure : Failure}
    (h : (groups.executed c after).findSome? (Check.failure? c) = some failure) :
    groups.outcome c after = .error failure := by
  unfold outcome
  rw [run_eq_judgeAll, judgeAll_of_failure h]
  rfl

theorem outcome_of_no_failure {c : Context} {groups after : Groups}
    (h : ∀ check ∈ groups.executed c after, check.failure? c = none) :
    groups.outcome c after = .ok ((groups.executed c after).filterMap (Check.finding? c)) := by
  obtain ⟨log, hlog⟩ := judgeAll_of_no_failure h
  unfold outcome
  rw [run_eq_judgeAll, hlog, ← findings_judgeAll hlog]
  rfl

/-- A run fails with the first failure among the checks that are carried out, and with no other. -/
theorem failure_of_outcome {c : Context} {groups after : Groups} {failure : Failure}
    (h : groups.outcome c after = .error failure) :
    (groups.executed c after).findSome? (Check.failure? c) = some failure := by
  cases hf : (groups.executed c after).findSome? (Check.failure? c) with
  | none => rw [outcome_of_no_failure (List.findSome?_eq_none_iff.mp hf)] at h; cases h
  | some other => rw [outcome_of_failure hf] at h; cases h; rfl

/-- A run that ends has no failure, and finds what the checks find that are carried out. -/
theorem findings_of_outcome {c : Context} {groups after : Groups} {found : List Finding}
    (h : groups.outcome c after = .ok found) :
    (∀ check ∈ groups.executed c after, check.failure? c = none) ∧
      found = (groups.executed c after).filterMap (Check.finding? c) := by
  cases hf : (groups.executed c after).findSome? (Check.failure? c) with
  | some failure => rw [outcome_of_failure hf] at h; cases h
  | none =>
    have hnone := List.findSome?_eq_none_iff.mp hf
    rw [outcome_of_no_failure hnone] at h
    cases h
    exact ⟨hnone, rfl⟩

/-! ### What a run does not depend on -/

theorem stop?_congr {c c' : Context} {groups : Groups}
    (hpassed : ∀ g ∈ groups.passed c, g.finds c' = g.finds c)
    (hstop : ∀ g, groups.stop? c = some g → g.finds c' = g.finds c) :
    groups.passed c' = groups.passed c ∧ groups.stop? c' = groups.stop? c := by
  induction groups with
  | nil => exact ⟨rfl, rfl⟩
  | cons g rest ih =>
    cases hf : g.finds c with
    | true =>
      have hf' : g.finds c' = true := by rw [hstop g (stop?_cons_of_finds hf), hf]
      rw [passed_cons_of_finds hf, passed_cons_of_finds hf', stop?_cons_of_finds hf, stop?_cons_of_finds hf']
      exact ⟨rfl, rfl⟩
    | false =>
      rw [passed_cons_of_not_finds hf] at hpassed
      rw [stop?_cons_of_not_finds hf] at hstop
      have hf' : g.finds c' = false := by rw [hpassed g List.mem_cons_self, hf]
      obtain ⟨hp, hs⟩ := ih (fun k hk => hpassed k (List.mem_cons_of_mem _ hk)) hstop
      rw [passed_cons_of_not_finds hf, passed_cons_of_not_finds hf', stop?_cons_of_not_finds hf,
        stop?_cons_of_not_finds hf', hp, hs]
      exact ⟨rfl, rfl⟩

/-- Two contexts in which the checks that are carried out in one of them say the same have the same run. -/
theorem run_congr {c c' : Context} {groups after : Groups}
    (h : ∀ check ∈ groups.executed c after, check.run c' = check.run c) :
    groups.run c' after = groups.run c after := by
  have hpassed : ∀ g ∈ groups.passed c, g.finds c' = g.finds c := by
    intro g hg
    refine Group.finds_congr fun check hcheck => h check ?_
    exact List.mem_append_left _ (List.mem_flatMap.mpr ⟨g, hg, hcheck⟩)
  have hstop : ∀ g, groups.stop? c = some g → g.finds c' = g.finds c := by
    intro g hg
    refine Group.finds_congr fun check hcheck => h check ?_
    unfold executed
    rw [hg]
    exact List.mem_append_right _ (List.mem_append_left _ hcheck)
  obtain ⟨hp, hs⟩ := stop?_congr hpassed hstop
  have hexecuted : groups.executed c' after = groups.executed c after := by
    unfold executed
    rw [hp, hs]
  rw [run_eq_judgeAll, run_eq_judgeAll, hexecuted, judgeAll_congr h]

/-- Groups are taken apart at the first that finds something. -/
theorem passed_append {c : Context} {before : Groups} {g : Group} (hb : ∀ k ∈ before, k.finds c = false)
    (hg : g.finds c = true) (later : Groups) :
    passed c (before ++ g :: later) = before ∧ stop? c (before ++ g :: later) = some g := by
  have hpassed : ∀ k ∈ before, (!k.finds c) = true := by
    intro k hk
    rw [hb k hk]
    rfl
  constructor
  · unfold passed
    rw [List.takeWhile_append_of_pos hpassed, List.takeWhile_cons_of_neg (by simp [hg]), List.append_nil]
  · unfold stop?
    rw [List.find?_append, List.find?_eq_none.mpr fun k hk => by simp [hb k hk], Option.none_or,
      List.find?_cons_of_pos hg]

theorem notes_congr {after after' groups : Groups}
    (h : ∀ g ∈ groups, after'.checksOf g.name = after.checksOf g.name) : after'.notes groups = after.notes groups := by
  unfold notes
  exact List.flatMap_congr h

/-- Of groups with different names, the one of a name is found wherever it stands. -/
theorem checksOf_perm {after after' : Groups} (hp : after.Perm after') (hn : (after.map (·.name)).Nodup)
    (name : String) : after'.checksOf name = after.checksOf name := by
  have honce : {g ∈ after | decide (g.name = name)}.Subsingleton := by
    intro g hg h hh
    have hnames : g.name = h.name := by
      rw [of_decide_eq_true hg.2, of_decide_eq_true hh.2]
    exact List.inj_on_of_nodup_map hn hg.1 hh.1 hnames
  unfold checksOf
  rw [List.find?_eq_find?_of_perm hp honce]

theorem outcome_perm {after after' : Groups} (hp : after.Perm after') (hn : (after.map (·.name)).Nodup)
    (c : Context) (groups : Groups) : groups.outcome c after' = groups.outcome c after := by
  unfold outcome
  rw [run_eq_judgeAll, run_eq_judgeAll]
  unfold executed
  rw [notes_congr fun g _ => checksOf_perm hp hn g.name]

/-- A run carries out some checks in order: the first failure among them is its outcome, and if there is none its
findings are those of the decisive ones. -/
structure CarriesOut (c : Context) (groups after : Groups) (checks decisive : List Check) : Prop where
  log : groups.run c after = judgeAll c checks
  failure : ∀ failure, checks.findSome? (Check.failure? c) = some failure →
    groups.outcome c after = .error failure
  findings : (∀ check ∈ checks, check.failure? c = none) →
    groups.outcome c after = .ok (decisive.filterMap (Check.finding? c))

theorem carriesOut_of_executed {c : Context} {groups after : Groups} {checks decisive : List Check}
    (hc : groups.executed c after = checks)
    (hd : (groups.executed c after).filterMap (Check.finding? c) = decisive.filterMap (Check.finding? c)) :
    CarriesOut c groups after checks decisive := by
  subst hc
  refine ⟨run_eq_judgeAll c groups after, fun failure h => outcome_of_failure h, fun h => ?_⟩
  rw [outcome_of_no_failure h, hd]

theorem executed_of_stop {c : Context} {groups : Groups} {g : Group} (h : groups.stop? c = some g)
    (after : Groups) : groups.executed c after =
      (groups.passed c).flatMap (·.checks) ++ g.checks ++ after.notes (groups.passed c) := by
  unfold executed
  rw [h, List.append_assoc]

theorem executed_append {c : Context} {before : Groups} {g : Group} (hb : ∀ k ∈ before, k.finds c = false)
    (hg : g.finds c = true) (later after : Groups) : executed c (before ++ g :: later) after =
      before.flatMap (·.checks) ++ g.checks ++ after.notes before := by
  obtain ⟨hpassed, hstop⟩ := passed_append hb hg later
  rw [executed_of_stop hstop, hpassed]

/-- What is carried out is of the groups or of the follow-ups. -/
theorem mem_executed {c : Context} {groups after : Groups} {check : Check}
    (h : check ∈ groups.executed c after) :
    check ∈ groups.flatMap (·.checks) ∨ check ∈ after.notes groups := by
  have hpassed : ∀ k ∈ groups.passed c, k ∈ groups := fun k hk => (List.takeWhile_sublist _).subset hk
  unfold executed at h
  rcases List.mem_append.mp h with h | h
  · obtain ⟨g, hg, hcheck⟩ := List.mem_flatMap.mp h
    exact .inl (List.mem_flatMap.mpr ⟨g, hpassed g hg, hcheck⟩)
  · split at h
    · rename_i g hg
      rcases List.mem_append.mp h with h | h
      · exact .inl (List.mem_flatMap.mpr ⟨g, List.mem_of_find?_eq_some hg, h⟩)
      · obtain ⟨k, hk, hcheck⟩ := List.mem_flatMap.mp h
        exact .inr (List.mem_flatMap.mpr ⟨k, hpassed k hk, hcheck⟩)
    · cases h

/-- Behind a group that finds something, only checks of the groups up to there and their follow-ups are carried out. -/
theorem mem_executed_of_finds {c : Context} {before later after : Groups} {check : Check}
    (hb : ∃ k ∈ before, k.finds c = true) (h : check ∈ executed c (before ++ later) after) :
    check ∈ before.flatMap (·.checks) ∨ check ∈ after.notes before := by
  obtain ⟨g, hg⟩ : ∃ g, before.find? (·.finds c) = some g := by
    rw [← Option.isSome_iff_exists, List.find?_isSome]
    exact hb
  obtain ⟨hfinds, first, rest, rfl, hfirst⟩ := List.find?_eq_some_iff_append.mp hg
  have hclear : ∀ k ∈ first, k.finds c = false := fun k hk => by simpa using hfirst k hk
  apply mem_executed
  rw [executed_append hclear hfinds]
  rwa [List.append_assoc, List.cons_append, executed_append hclear hfinds] at h

theorem executed_of_no_stop {c : Context} {groups : Groups} (h : groups.stop? c = none) (after : Groups) :
    groups.executed c after = groups.flatMap (·.checks) := by
  have hall : groups.passed c = groups := by
    unfold passed
    rw [List.takeWhile_eq_self_iff]
    intro g hg
    have hnot := List.find?_eq_none.mp h g hg
    simpa using hnot
  unfold executed
  rw [h, hall, List.append_nil]

/-- A run without findings is one in which every check of every group passes. -/
theorem clear_of_outcome {c : Context} {groups after : Groups} (h : groups.outcome c after = .ok [])
    {g : Group} (hg : g ∈ groups) {check : Check} (hcheck : check ∈ g.checks) :
    check.failure? c = none ∧ check.finding? c = none := by
  obtain ⟨hnone, hnil⟩ := findings_of_outcome h
  have hall := List.filterMap_eq_nil_iff.mp hnil.symm
  have hmem : check ∈ groups.executed c after := by
    cases hs : groups.stop? c with
    | none =>
      rw [executed_of_no_stop hs]
      exact List.mem_flatMap.mpr ⟨g, hg, hcheck⟩
    | some stop =>
      obtain ⟨k, hk, hsome⟩ := List.any_eq_true.mp (List.find?_some hs : stop.finds c = true)
      rw [executed_of_stop hs] at hall
      rw [hall k (List.mem_append_left _ (List.mem_append_right _ hk))] at hsome
      cases hsome
  exact ⟨hnone check hmem, hall check hmem⟩

/-- The group that finds something is run to its end, then the follow-ups to those before it. -/
theorem carriesOut_stop {c : Context} {groups : Groups} {g : Group} (h : groups.stop? c = some g)
    (after : Groups) :
    CarriesOut c groups after
      ((groups.passed c).flatMap (·.checks) ++ g.checks ++ after.notes (groups.passed c))
      (g.checks ++ after.notes (groups.passed c)) := by
  refine carriesOut_of_executed (executed_of_stop h after) ?_
  rw [filterMap_executed, h, List.filterMap_append]

/-- If none finds anything, all groups are run, and no follow-up. -/
theorem carriesOut_no_stop {c : Context} {groups : Groups} (h : groups.stop? c = none) (after : Groups) :
    CarriesOut c groups after (groups.flatMap (·.checks)) [] := by
  refine carriesOut_of_executed (executed_of_no_stop h after) ?_
  rw [filterMap_executed, h, List.filterMap_nil]

theorem outcome_replace {c : Context} {groups after after' : Groups} {g : Group}
    (h : groups.stop? c = some g) (later : Groups)
    (hafter : ∀ k ∈ groups.passed c, after'.checksOf k.name = after.checksOf k.name) :
    outcome c (groups.passed c ++ g :: later) after' = groups.outcome c after := by
  obtain ⟨hpassed, hstop⟩ := passed_append (fun k hk => passed_not_finds hk) (List.find?_some h) later
  unfold outcome
  rw [run_eq_judgeAll, run_eq_judgeAll, executed_of_stop h, executed_of_stop hstop, hpassed, notes_congr hafter]

theorem outcome_no_stop {c : Context} {groups : Groups} (h : groups.stop? c = none) (after after' : Groups) :
    groups.outcome c after' = groups.outcome c after := by
  unfold outcome
  rw [run_eq_judgeAll, run_eq_judgeAll, executed_of_no_stop h, executed_of_no_stop h]

end Groups

/-! ### Preflight, then the rest -/

/-- A review without conflicting marks, in terms of what its two parts find. -/
theorem review_eq {disk : Disk} {r : Request} (h : r.marking.isConflicting = false) :
    review disk r = do
      let found ← r.plan.preflight.outcome (r.context disk) []
      if found.isEmpty then r.plan.errors.outcome (← (r.context disk).load) r.plan.warnings
      else return found := by
  unfold review Plan.review Groups.outcome
  rw [h]
  cases r.plan.preflight.run (r.context disk) [] with
  | error failure => rfl
  | ok log =>
    simp only [Bool.false_eq_true, if_false, bind, Except.bind, Except.map]
    split
    · cases (r.context disk).load with
      | error failure => rfl
      | ok loaded => cases r.plan.errors.run loaded r.plan.warnings <;> rfl
    · rfl

/-- **Phases.** The first group that finds something is run to its end; then come the follow-ups to the groups before
it, in the order of those groups. The findings are those of that group and of the follow-ups, or the first failure on
the way. Later groups, the order of the follow-up groups and those under other names make no difference; without such
a group there are no findings and no follow-ups. A review is its preflight alone as soon as that finds anything or
fails; else the project is loaded and the error groups are run with the warnings as follow-ups. -/
theorem review_runs_in_phases (disk : Disk) (r : Request) (c : Context) (groups after : Groups) :
    (∀ g, groups.stop? c = some g →
      Groups.CarriesOut c groups after
        ((groups.passed c).flatMap (·.checks) ++ g.checks ++ after.notes (groups.passed c))
        (g.checks ++ after.notes (groups.passed c)) ∧
      ∀ later after', (∀ h ∈ groups.passed c, after'.checksOf h.name = after.checksOf h.name) →
        Groups.outcome c (groups.passed c ++ g :: later) after' = groups.outcome c after) ∧
    (groups.stop? c = none →
      Groups.CarriesOut c groups after (groups.flatMap (·.checks)) [] ∧
      ∀ after', groups.outcome c after' = groups.outcome c after) ∧
    (∀ after', after.Perm after' → (after.map (·.name)).Nodup →
      groups.outcome c after' = groups.outcome c after) ∧
    (r.marking.isConflicting = false →
      (∀ found, found ≠ [] → r.plan.preflight.outcome (r.context disk) [] = .ok found →
        review disk r = .ok found) ∧
      (∀ failure, r.plan.preflight.outcome (r.context disk) [] = .error failure →
        review disk r = .error failure) ∧
      (r.plan.preflight.outcome (r.context disk) [] = .ok [] →
        review disk r = do r.plan.errors.outcome (← (r.context disk).load) r.plan.warnings)) := by
  refine ⟨fun g hg => ⟨Groups.carriesOut_stop hg after, fun later after' h => Groups.outcome_replace hg later h⟩,
    fun h => ⟨Groups.carriesOut_no_stop h after, fun after' => Groups.outcome_no_stop h after after'⟩,
    fun after' hp hn => Groups.outcome_perm hp hn c groups, fun hm => ⟨?_, ?_, ?_⟩⟩
  · intro found hne hfound
    rw [review_eq hm, hfound]
    show (if found.isEmpty then _ else _) = _
    rw [if_neg (by simpa using hne)]
    rfl
  · intro failure hfailure
    rw [review_eq hm, hfailure]
    rfl
  · intro hnone
    rw [review_eq hm, hnone]
    rfl

/-- An empty message stops a run, and neither the groups after it nor its own follow-ups are reached. -/
theorem empty_message_stops_run :
    let c : Context := { disk := { top := Folder.empty "" }, path := "" }
    let broken : Check := ⟨"broken", fun _ => .error .noReadme⟩
    let names : Group := ⟨"names", [.constant "short" (some ""), .constant "long" none]⟩
    let groups : Groups := [⟨"size", [.constant "large" none]⟩, names, ⟨"layout", [broken]⟩]
    let after : Groups := [⟨"names", [broken]⟩, ⟨"size", [.constant "slow" (some "late")]⟩]
    groups.stop? c = some names ∧ groups.outcome c after = .ok [⟨"short", ""⟩, ⟨"slow", "late"⟩] := by
  intro c broken names groups after
  have hstop : groups.stop? c = some names := rfl
  have hrun := ((review_runs_in_phases { top := Folder.empty "" } { path := "" } c groups after).1 names hstop).1
  exact ⟨hstop, hrun.findings (by decide)⟩

end Scrutiny
