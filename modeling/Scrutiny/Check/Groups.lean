import Scrutiny.Check.Basic

/-! Groups of checks and the order in which they are run.

Groups are run one after the other. The first group with a finding is run to its end and is the last;
then come the follow-up groups that carry the names of the groups passed before it, in that order. If no
group has a finding, no follow-up is run. `run` gives the log of all verdicts; the findings are those of the log. -/
namespace Scrutiny

structure Group where
  name : String
  checks : List Check

abbrev Groups := List Group

/-- A check that was run, and its verdict. -/
structure Judged where
  check : String
  verdict : Verdict
  deriving DecidableEq, Repr

abbrev Log := List Judged

structure Finding where
  check : String
  message : String
  deriving DecidableEq, Repr

def Judged.finding? (j : Judged) : Option Finding :=
  j.verdict.finding?.map (⟨j.check, ·⟩)

def Log.findings (log : Log) : List Finding :=
  log.filterMap Judged.finding?

/-- The checks that were not skipped. -/
def Log.ran (log : Log) : List String :=
  (log.filter (·.verdict ≠ .skipped)).map (·.check)

def Check.judge (c : Context) (check : Check) : Outcome Judged := do
  return ⟨check.name, ← check.run c⟩

/-- The log of some checks. -/
def judgeAll (c : Context) (checks : List Check) : Outcome Log :=
  checks.mapM (Check.judge c)

namespace Groups

/-- Puts a group in the place of the one with its name, or at the end. -/
def put (g : Group) : Groups → Groups
  | [] => [g]
  | h :: rest => if h.name = g.name then g :: rest else h :: put g rest

/-- Groups by name: of two with one name the later counts, in the place of the earlier. -/
def ofList (groups : List Group) : Groups :=
  groups.foldl (fun found g => put g found) []

/-- The checks of the group of a name; none if there is no such group. -/
def checksOf (groups : Groups) (name : String) : List Check :=
  match groups.find? (·.name = name) with
  | some g => g.checks
  | none => []

/-- The names of the checks in all groups. -/
def checkNames (groups : Groups) : List String :=
  groups.flatMap fun g => g.checks.map (·.name)

/-- The log of the follow-ups to groups of the given names. -/
def followUp (c : Context) (after : Groups) (passed : List String) : Outcome Log := do
  let logs ← passed.mapM fun name => judgeAll c (after.checksOf name)
  return logs.flatten

/-- Runs groups, after groups of the given names have passed. -/
def runFrom (c : Context) (after : Groups) (passed : List String) : Groups → Outcome Log
  | [] => .ok []
  | g :: rest => do
    let log ← judgeAll c g.checks
    if log.findings.isEmpty then return log ++ (← runFrom c after (passed ++ [g.name]) rest)
    else return log ++ (← followUp c after passed)

/-- Runs groups with their follow-ups. -/
def run (c : Context) (groups after : Groups) : Outcome Log :=
  runFrom c after [] groups

end Groups
end Scrutiny
