import Scrutiny.Code.Node
import Scrutiny.Failure
import Scrutiny.Text.Case
import Scrutiny.Text.Words

/-! What a program assigns to.

The targets of assignment statements, in the order of the walk. A target directly in the body of
a class is a field of it. A target is *local* when climbing from it through classes,
assignments and `if` statements meets anything else before the module, within a bounded number of steps. -/
namespace Scrutiny.Code

/-- The targets of all assignment statements. -/
def targets (walk : Walk) : List Place :=
  (walk.filter (·.kind = .assign)).flatMap (·.parts .targets)

/-- Whether a target is assigned directly in the body of a class. -/
def isField (p : Place) : Bool :=
  match p.above with
  | _ :: owner :: _ => owner.kind = .classDef
  | _ => false

def targetsOutsideClasses (walk : Walk) : List Place :=
  (targets walk).filter (!isField ·)

/-- The names of targets that do not start their line; `none` for a target without a plain name. -/
def indentedNames (places : List Place) : List (Option String) :=
  (places.filter (0 < ·.here.column)).map (·.here.identifier?)

/-- Kinds through which the climb from a target goes on. -/
def isTransparent (kind : Kind) : Bool :=
  kind = .classDef || kind = .assign || kind = .ifStmt

/-- Climbs a bounded number of steps until something that is not transparent; it counts unless it is
the module. -/
def climb : Nat → List Node → Bool
  | 0, _ => false
  | _ + 1, [] => false
  | steps + 1, n :: above =>
    if n.kind = .module then false
    else if isTransparent n.kind then climb steps above
    else true

def isLocal (p : Place) (steps : Int) : Bool :=
  climb steps.toNat p.above

/-- Whether a name is spelled like a constant: it has an ASCII letter, and no letter that has an upper-case
form. -/
def isConstantName (name : String) : Bool :=
  name.toList.any Char.isAlpha && Text.upper name = name

/-- Local variables named like constants, once for each assignment. -/
def localConstants (walk : Walk) (steps : Int) : List String :=
  let candidates := ((indentedNames (targets walk)).filterMap id).filter isConstantName
  (targets walk).filterMap fun p =>
    match p.here.identifier? with
    | some name => if candidates.contains name && isLocal p steps then some name else none
    | none => none

mutual

/-- The name at the root of a chain of attributes and calls. -/
def rootName? : Node → Option String
  | .node label children =>
    match label.kind with
    | .member => rootNameIn? .value children
    | .call => rootNameIn? .func children
    | _ => (Tree.node label children).identifier?

def rootNameIn? (slot : Slot) : List Node → Option String
  | [] => none
  | n :: rest => if n.role = slot then rootName? n else rootNameIn? slot rest

end

/-- The plain name of a target. -/
def targetName (n : Node) : Outcome String :=
  match n.identifier? with
  | some name => .ok name
  | none => .error (.unnamed n.kind)

/-- Whether an optional name is one of the words. -/
def namedAmong (words : Words) : Option String → Outcome Bool
  | some name => .ok (words.has name)
  | none =>
    match words with
    | .list _ => .ok false
    | .text _ => .error (.value (.notText Value.nothing.kindName))

/-- The targets of one assignment, if its value starts from one of the given names. -/
def namesFrom (sources : Words) (assignment : Node) : Outcome (List String) := do
  if ← namedAmong sources ((assignment.part? .value).bind rootName?) then
    (assignment.parts .targets).mapM targetName
  else return []

/-- The targets of all assignments whose value starts from one of the given names. -/
def namesAssignedFrom (walk : Walk) (sources : Words) : Outcome (List String) := do
  let names ← (walk.nodes .assign).mapM (namesFrom sources)
  return names.flatten

/-- Whether an assignment makes a named tuple type. -/
def makesRecord (assignment : Node) : Bool :=
  match assignment.part? .value with
  | some value => value.kind = .call && value.callsName "namedtuple"
  | none => false

/-- The names given to named tuple types. -/
def recordNames (walk : Walk) : Outcome (List String) :=
  (((walk.nodes .assign).filter makesRecord).filterMap fun a => (a.parts .targets).head?).mapM
    targetName

end Scrutiny.Code
