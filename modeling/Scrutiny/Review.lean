import Scrutiny.Check.Registry

/-! A review of a project.

The preflight groups come first; if they find anything, that is the review. Then the project is loaded, and the one it
started from if there is one, and the error groups are run with the warning groups as follow-ups. Groups that are
not given, or given empty, are the usual ones; the usual warnings go only with the usual errors. -/
namespace Scrutiny

/-- The groups of a review. -/
structure Plan where
  preflight : Groups
  errors : Groups
  warnings : Groups

namespace Plan

/-- Groups that are given and not empty. -/
def given? (groups : Option Groups) : Option Groups :=
  groups.filter (!·.isEmpty)

def ofChoice (preflight errors warnings : Option Groups) : Plan where
  preflight := (given? preflight).getD Registry.preflight
  errors := (given? errors).getD Registry.errors
  warnings := (given? warnings).getD (if (given? errors).isSome then [] else Registry.warnings)

/-- The names of all checks of a plan, in order. -/
def checkNames (p : Plan) : List String :=
  Text.sortedOnce (p.preflight.checkNames ++ p.errors.checkNames ++ p.warnings.checkNames)

end Plan

/-- What a review is asked for. -/
structure Request where
  path : String
  basePath : Option String := none
  changes : List Change := []
  marking : Marking := {}
  language : Language := .english
  runtime : Runtime := {}
  preflight : Option Groups := none
  errors : Option Groups := none
  warnings : Option Groups := none

namespace Request

def plan (r : Request) : Plan :=
  .ofChoice r.preflight r.errors r.warnings

/-- The context of the preflight checks. -/
def context (r : Request) (disk : Disk) : Context :=
  { disk, path := r.path, basePath := r.basePath, settings := .ofChanges r.changes,
    marking := r.marking, language := r.language, runtime := r.runtime }

end Request

namespace Context

/-- Loads the project and the one it started from. -/
def load (c : Context) : Outcome Context := do
  let project ← Project.load c.disk c.path c.settings.directoriesToSkip
  match c.basePath.filter (· ≠ "") with
  | none => return { c with project := some project }
  | some path =>
    let base ← Project.load c.disk path c.settings.directoriesToSkip
    return { c with project := some project, base := some base }

end Context

/-- The findings of a plan in a context. -/
def Plan.review (p : Plan) (c : Context) : Outcome (List Finding) := do
  let preflight ← p.preflight.run c []
  if preflight.findings.isEmpty then
    let log ← p.errors.run (← c.load) p.warnings
    return log.findings
  else return preflight.findings

/-- Runs checks one by one, whatever they find. The projects are loaded once; when that fails, so does every check
that needs them. -/
def judgeEach (disk : Disk) (r : Request) (checks : List Check) : List (String × Outcome Verdict) :=
  let c := r.context disk
  let loaded := c.load
  checks.map fun check =>
    (check.name, if Registry.isPreflight check.name then check.run c else loaded.bind check.run)

/-- Reviews a project. -/
def review (disk : Disk) (r : Request) : Outcome (List Finding) :=
  if r.marking.isConflicting then .error .conflictingMarks
  else r.plan.review (r.context disk)

end Scrutiny
