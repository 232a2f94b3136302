import Scrutiny.Code.Node

/-! How expressions are used.

An expression that can stand on the left of an assignment is loaded, stored or deleted, which follows from the part it
plays: what a statement assigns to is stored, and so are the items of a tuple or list that is stored. `withUsages`
writes this into a tree, as a last child of each such expression. -/
namespace Scrutiny.Code

/-- Whether nodes of a kind are used in one of several ways. -/
def Kind.hasUsage : Kind → Bool
  | identifier | member | subscript | starred | list | tuple => true
  | _ => false

/-- How a part of a node is used, where the node itself is used as `whole`. -/
def usageOf (whole : Usage) : Kind → Slot → Usage
  | .assign, .targets | .augAssign, .target | .annAssign, .target | .forLoop, .target | .asyncFor, .target
  | .comprehension, .target | .namedExpr, .target | .withItem, .optionalVars => .store
  | .delete, .targets => .del
  | .list, .elts | .tuple, .elts | .starred, .value => whole
  | _, _ => .load

/-- The node that says how the node above it is used. -/
def usageNode (u : Usage) : Node :=
  .node ⟨.usage u, .usage, none, []⟩ []

mutual

/-- A node that is used in a way, with the usages of all that is in it. -/
def withUsage (u : Usage) : Node → Node
  | .node label children =>
    .node label (usagesBelow u label.kind children ++ if label.kind.hasUsage then [usageNode u] else [])

def usagesBelow (whole : Usage) (kind : Kind) : List Node → List Node
  | [] => []
  | n :: rest => withUsage (usageOf whole kind n.label.role) n :: usagesBelow whole kind rest

end

def withUsages (root : Node) : Node :=
  withUsage .load root

end Scrutiny.Code
