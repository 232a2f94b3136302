import Scrutiny.Check.Basic
import Scrutiny.Code.Import

/-! Checks of imports. -/
namespace Scrutiny.Imports

def star (_ : Context) (p : Project) : Outcome (Option String) :=
  firstFinding (fun s => do return nameIf s (Code.hasStarImport (← s.walk))) p.sources

def inner (c : Context) (p : Project) : Outcome (Option String) :=
  firstFinding (fun s => do return nameIf s (← Code.hasLocalImport (← s.walk)))
    (p.sourcesOutside c.settings.localImportsPathsToIgnore)

/-- The first file that imports the debugger. -/
def debugger (_ : Context) (p : Project) : Outcome (Option String) :=
  firstFinding (fun s => do return nameIf s ((Code.mentioned (← s.walk)).contains (some "pdb")))
    p.sources

/-- The first plain import of several modules. -/
def several (_ : Context) (p : Project) : Outcome (Option String) :=
  firstFinding
    (fun s => do
      return ((Code.imports (← s.walk)).find? fun i => Code.importsSeveral i.here).map
        fun i => s.atLine i.here.line)
    p.sources

end Scrutiny.Imports
