import Scrutiny.Code.Node

/-! Functions and classes. -/
namespace Scrutiny.Code

def isDefinition (n : Node) : Bool :=
  n.kind = .classDef || n.kind = .functionDef

/-- The nearest function or class among a node and those above it. The root is never the answer. -/
def closestDefinition? (p : Place) : Option Node :=
  ((p.here :: p.above).dropLast).find? isDefinition

/-- Whether the body of a definition starts with a string. -/
def hasDocstring (definition : Node) : Bool :=
  match (definition.parts .body).head? with
  | some first => first.kind = .expr && ((first.part? .value).bind (·.text?)).isSome
  | none => false

/-- Whether a default value of a plain argument is a list or a dictionary. -/
def hasMutableDefault (definition : Node) : Bool :=
  match definition.part? .args with
  | some args => (args.parts .defaults).any fun d => d.kind = .list || d.kind = .dict
  | none => false

end Scrutiny.Code
