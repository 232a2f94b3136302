import Scrutiny.Gate
import Scrutiny.Language
import Scrutiny.Project
import Scrutiny.Settings
import Scrutiny.Text.Order

/-! Checks.

A check has a name and judges a scene: the disk, the paths under review, the settings and, once they are
loaded, the projects. Its verdict is that it was skipped, that it passed, or that it failed with a message, which may be
empty. A check behind a gate is skipped unless the marks of the project open it.

Some of what a review does is settled by what it is run by and not by what it looks at: the order in which sets of names
are gone through, the encodings that are known, and the two checks of requirements, which are no part of it and have to
be supplied. A context is a scene together with these. -/
namespace Scrutiny

/-- All that checks look at. -/
structure Scene where
  disk : Disk
  path : String
  basePath : Option String := none
  settings : Settings := {}
  marking : Marking := {}
  language : Language := .english
  project : Option Project := none
  base : Option Project := none

/-- The two checks of requirements. Those that are put in where none are supplied find nothing. -/
structure Requirements where
  /-- The requirements that are not frozen. -/
  notFrozen : Scene → Outcome (Option String) := fun _ => .ok none
  /-- The requirements that come with the language. -/
  fromStandard : Scene → Outcome (Option String) := fun _ => .ok none

/-- What a review is run by. -/
structure Runtime where
  order : Text.Enumeration := .sorted
  codecs : Text.Codecs := .usual
  requirements : Requirements := {}

/-- All that checks are given. -/
structure Context extends Scene where
  runtime : Runtime := {}

inductive Verdict where
  | skipped
  | passed
  | failed (message : String)
  deriving DecidableEq, Repr

/-- The message of a failure. -/
def Verdict.finding? : Verdict → Option String
  | failed message => some message
  | _ => none

/-- A failure with a message, or a pass. -/
def Verdict.ofFinding : Option String → Verdict
  | some message => failed message
  | none => passed

structure Check where
  name : String
  run : Context → Outcome Verdict

namespace Check

/-- A check of the context. -/
def onContext (name : String) (judge : Context → Outcome (Option String)) : Check :=
  ⟨name, fun c => do return .ofFinding (← judge c)⟩

/-- The name by which a project is given. -/
def projectKey : String := "project_folder"

/-- A check of the loaded project. -/
def onProject (name : String) (judge : Context → Project → Outcome (Option String)) : Check :=
  onContext name fun c =>
    match c.project with
    | some p => judge c p
    | none => .error (.lacking name [projectKey])

/-- A check that always says the same. -/
def constant (name : String) (finding : Option String) : Check :=
  ⟨name, fun _ => .ok (.ofFinding finding)⟩

/-- A check behind a gate. -/
def behind (gate : Gate) (check : Check) : Check :=
  ⟨check.name, fun c =>
    match gate.admits c.marking with
    | .ok true => check.run c
    | .ok false => .ok .skipped
    | .error fault => .error (.value fault)⟩

end Check

/-- The first finding among several things, the first failure counting if it comes before. -/
def firstFinding {α β : Type} (judge : α → Outcome (Option β)) : List α → Outcome (Option β)
  | [] => .ok none
  | a :: rest => do
    match ← judge a with
    | some b => return some b
    | none => firstFinding judge rest

/-- The name of the file, if it is found fault with. -/
def nameIf (s : Source) (fault : Bool) : Option String :=
  if fault then some s.name else none

end Scrutiny
