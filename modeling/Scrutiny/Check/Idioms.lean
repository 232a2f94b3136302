import Scrutiny.Check.Basic
import Scrutiny.Code.Call
import Scrutiny.Code.Comparison
import Scrutiny.Number.Binary

/-! Checks of idioms: constructs that have a better form. -/
namespace Scrutiny.Idioms

def styleFaults (c : Context) (p : Project) : Outcome (Option String) :=
  let amount := p.styleFaults c.disk c.settings.pep8PathsToIgnore
  .ok (if c.settings.allowedMaxPep8Violations < amount then
    some ((Message.styleFaults amount).render c.language) else none)

/-- The file and line of the first place in the walk that is found fault with. -/
def firstPlace (p : Project) (isFault : Code.Place → Bool) : Outcome (Option String) :=
  firstFinding (fun s => do return ((← s.walk).find? isFault).map fun i => s.atLine i.here.line) p.sources

/-- The file and line of the first node of a kind that is found fault with. -/
def firstNode (p : Project) (kind : Code.Kind) (isFault : Code.Node → Bool) :
    Outcome (Option String) :=
  firstPlace p fun i => i.kind = kind && isFault i.here

def rangeFromZero (_ : Context) (p : Project) : Outcome (Option String) :=
  firstNode p .call Code.isRangeFromZero

/-- What is wrong with an exception handler: it catches everything, or every exception. -/
def broadHandler (language : Language) (handler : Code.Node) : Option String :=
  match handler.part? .type with
  | none => some ""
  | some type =>
    if type.kind = .identifier && type.identifier? = some "Exception" then
      some ((Message.tooBroad "Exception").render language)
    else none

def broadExcept (c : Context) (p : Project) : Outcome (Option String) :=
  firstFinding
    (fun s => do return ((← s.walk).nodes .exceptHandler).findSome? (broadHandler c.language)) p.sources

def namedLambda (_ : Context) (p : Project) : Outcome (Option String) :=
  firstNode p .assign fun n => (n.part? .value).any (·.kind = .lambda)

def queryAddress (_ : Context) (p : Project) : Outcome (Option String) :=
  firstPlace p fun i => i.here.text?.any Text.isQueryAddress

/-- Whether an `if` tests for an empty list by its length. -/
def testsLength (n : Code.Node) : Bool :=
  (n.part? .test).any fun t => t.kind = .compare && Code.comparesLengthToZero t

/-- The line is that of the comparison. -/
def lengthTest (_ : Context) (p : Project) : Outcome (Option String) :=
  firstFinding
    (fun s => do
      let found := ((← s.walk).nodes .ifStmt).find? testsLength
      return (found.bind (·.part? .test)).map fun t => s.atLine t.line)
    p.sources

/-- The first function that ends the program and is not allowed to. -/
def exitCall (c : Context) (p : Project) : Outcome (Option String) :=
  firstFinding
    (fun s => do
      return (((← s.walk).nodes .functionDef).find? fun f =>
        !c.settings.functionsAllowedToHaveExitCalls.has ((f.word? .name).getD "") && Code.hasExit f).map
          fun f => (f.word? .name).getD "")
    p.sources

def statusComparison (_ : Context) (p : Project) : Outcome (Option String) :=
  firstNode p .compare Code.comparesStatusToOk

def mutableDefault (_ : Context) (p : Project) : Outcome (Option String) :=
  firstNode p .functionDef Code.hasMutableDefault

def sliceFromZero (_ : Context) (p : Project) : Outcome (Option String) :=
  firstFinding (fun s => do return nameIf s (((← s.walk).nodes .slice).any Code.isSliceFromZero))
    p.sources

def textOfInput (_ : Context) (p : Project) : Outcome (Option String) :=
  firstPlace p fun i => i.kind = .call && Code.isTextOfInput i

def addedTexts (_ : Context) (p : Project) : Outcome (Option String) :=
  firstPlace p fun i => Code.addsTexts i.here

/-- The first call that is given a number, outside of tests. -/
def numberInCall (c : Context) (p : Project) : Outcome (Option String) :=
  firstPlace { p with sources := p.sources.filter fun s => !Text.hasText "tests" s.path }
    fun i => i.kind = .call && Code.isGivenNumber i c.settings.validCallsWithConstants

/-- The first file in which too large a share of the functions has a docstring. -/
def docstrings (c : Context) (p : Project) : Outcome (Option String) :=
  firstFinding
    (fun s => do
      let functions := (← s.walk).nodes .functionDef
      let share := Number.share (functions.countP Code.hasDocstring) functions.length
      return nameIf s (!functions.isEmpty && c.settings.functionsWithDocstringsPercentLimit < share))
    (p.sourcesOutside c.settings.extraDocstringsPathsToIgnore)

end Scrutiny.Idioms
