import Scrutiny.Check.Basic

/-! Checks that look at the disk alone, before a project is loaded.

They go through the files outside of the skipped folders, in the order of the visits, and name the first that
offends. A path that leads to no folder has no files. -/
namespace Scrutiny.Preflight

/-- The files to look at, each with the path of its folder. -/
def files (c : Context) : Outcome (List (String × String × File)) := do
  Disk.visitable c.path
  return Disk.filesOf (c.disk.visitsOutside c.settings.directoriesToSkip c.path)

def isTooLarge (c : Context) (path : String) : Outcome Bool := do
  Disk.visitable path
  return c.disk.isLargerThan c.settings.directoriesToSkip c.settings.maxNumOfPyFiles path

/-- The paths of a project and, if one is given, of the one it started from. -/
def paths (c : Context) : List String :=
  c.path :: (c.basePath.filter (· ≠ "")).toList

def tooLarge (c : Context) : Outcome (Option String) :=
  firstFinding (fun path => do return if ← isTooLarge c path then some "" else none) (paths c)

/-- The first file that has to be UTF-8 and is not. -/
def notUtf8 (c : Context) : Outcome (Option String) := do
  return ((← files c).find? fun f => isTextName (Path.join f.1 f.2.1) && !f.2.2.isUtf8).map (·.2.1)

/-- The first file that starts with a byte order mark. -/
def marked (c : Context) : Outcome (Option String) := do
  return ((← files c).find? fun f => f.2.2.hasMark).map (·.2.1)

/-- The first file named like a source that has too many lines. -/
def tooLong (c : Context) : Outcome (Option String) := do
  firstFinding
    (fun f => do
      return if ← f.2.2.hasLines c.settings.maxNumberOfLines then some f.2.1 else none)
    ((← files c).filter fun f => Text.endsWith ".py" f.2.1)

end Scrutiny.Preflight
