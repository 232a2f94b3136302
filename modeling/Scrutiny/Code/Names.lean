import Scrutiny.Code.Assignment

/-! Names that a program uses and defines. -/
namespace Scrutiny.Code

/-- Every name used as an expression or a target. -/
def usedNames (walk : Walk) : List String :=
  (walk.nodes .identifier).filterMap (·.identifier?)

def classNames (walk : Walk) : List String :=
  (walk.nodes .classDef).filterMap (·.word? .name)

def functionNames (walk : Walk) : List String :=
  (walk.nodes .functionDef).filterMap (·.word? .name)

/-- The plain arguments of functions. -/
def argumentNames (walk : Walk) : List String :=
  ((walk.nodes .functionDef).filterMap (·.part? .args)).flatMap fun args =>
    (args.parts .args).filterMap (·.word? .arg)

/-- The targets of loops and comprehensions. -/
def loopTargets (walk : Walk) : List Node :=
  (walk.ofKinds [.forLoop, .comprehension]).filterMap (·.here.part? .target)

/-- The loop variables of a program in which every loop has a plain name as its target; none
otherwise. -/
def loopNames (walk : Walk) : List String :=
  ((loopTargets walk).mapM Tree.identifier?).getD []

/-- The names defined by the given targets, by loops, and by functions and their arguments. -/
def definedBy (places : List Place) (walk : Walk) : List String :=
  ((indentedNames places).filterMap id ++ loopNames walk ++ argumentNames walk ++
    functionNames walk).filter (· ≠ "")

def definedNames (walk : Walk) : List String :=
  definedBy (targets walk) walk

def definedOutsideClasses (walk : Walk) : List String :=
  definedBy (targetsOutsideClasses walk) walk

end Scrutiny.Code
