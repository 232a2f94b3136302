import Scrutiny.Code.Definition
import Scrutiny.Text.Words

/-! Calls. -/
namespace Scrutiny.Code

/-- The name a call is made by: a plain name, or the last attribute. -/
def calleeName? (call : Node) : Option String :=
  (call.part? .func).bind fun f => f.identifier? <|> f.word? .attr

/-- Whether a node is the call `exit(...)` or `sys.exit(...)`. -/
def isExit (n : Node) : Bool :=
  n.kind = .call &&
    match n.part? .func with
    | some f =>
      (f.kind = .identifier && f.identifier? = some "exit") ||
        (f.kind = .member && (f.part? .value).bind (·.identifier?) = some "sys" &&
          f.word? .attr = some "exit")
    | none => false

def hasExit (n : Node) : Bool :=
  n.walk.any isExit

/-- Whether a call of `input` stands directly in a call of `str`. -/
def isTextOfInput (p : Place) : Bool :=
  p.here.callsName "input" &&
    match p.parent? with
    | some owner => owner.callsName "str"
    | none => false

/-- Whether a call is given a number directly. Calls in the body of a class do not count, nor those of
the functions allowed to. -/
def isGivenNumber (p : Place) (allowed : Words) : Bool :=
  if (closestDefinition? p).any (·.kind = .classDef) then false
  else
    match calleeName? p.here with
    | some name => name ≠ "" && !allowed.has name && (p.here.parts .args).any (·.isNumber)
    | none => false

/-- Whether a call `range(0, x)` spells out its start. -/
def isRangeFromZero (call : Node) : Bool :=
  call.callsName "range" &&
    match call.parts .args with
    | [first, _] => first.isNat 0
    | _ => false

/-- Whether a slice without a step spells out that it starts at zero. -/
def isSliceFromZero (slice : Node) : Bool :=
  (slice.part? .step).isNone && (slice.part? .lower).any (·.isNat 0)

def usesAttribute (walk : Walk) (name : String) : Bool :=
  (walk.nodes .member).any (·.word? .attr = some name)

end Scrutiny.Code
