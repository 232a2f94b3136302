import Scrutiny.Code.Node

/-! Comparisons. -/
namespace Scrutiny.Code

/-- The operator of a comparison that has only one. -/
def soleOperator? (n : Node) : Option Kind :=
  match n.parts .ops with
  | [op] => some op.kind
  | _ => none

/-- Whether a comparison is `len(...) > 0` or `len(...) == 0`. -/
def comparesLengthToZero (n : Node) : Bool :=
  match soleOperator? n, n.part? .left with
  | some op, some left =>
    left.kind = .call && left.callsName "len" &&
      (op = .operator .gt || op = .operator .eq) &&
      (n.parts .comparators).head?.any (·.isNat 0)
  | _, _ => false

/-- Whether a comparison is `x.status_code == 200`. -/
def comparesStatusToOk (n : Node) : Bool :=
  match soleOperator? n, n.parts .comparators, n.part? .left with
  | some op, [right], some left =>
    op = .operator .eq && right.isNat 200 && left.kind = .member &&
      left.word? .attr = some "status_code"
  | _, _, _ => false

/-- Whether a node adds two string literals. -/
def addsTexts (n : Node) : Bool :=
  n.kind = .binOp && (n.part? .op).any (·.kind = .operator .add) &&
    (n.part? .left).any (·.text?.isSome) && (n.part? .right).any (·.text?.isSome)

end Scrutiny.Code
