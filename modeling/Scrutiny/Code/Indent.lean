import Scrutiny.Code.Node
import Scrutiny.Failure

/-! Indentation of nodes, by the leading spaces of their lines. -/
namespace Scrutiny.Code

/-- The kinds whose inside is expected one tab further in. -/
def opensBlock (kind : Kind) : Bool :=
  kind = .forLoop || kind = .ifStmt || kind = .functionDef || kind = .withStmt

/-- The entry of a line in a table of line offsets. -/
def offsetOf (offsets : List (Option Nat)) (line : Nat) : Outcome Nat :=
  match offsets[line]? with
  | some (some spaces) => .ok spaces
  | _ => .error .noSuchLine

/-- Whether a node is indented as its parent asks: if it starts a line further in, below a node that opens
a block, then by one tab. -/
def isAligned (p : Place) (offsets : List (Option Nat)) (tabSize : Int) : Outcome Bool :=
  match p.parent? with
  | none => .ok true
  | some owner =>
    match p.here.line?, owner.line? with
    | some line, some ownerLine => do
      let here ← offsetOf offsets line
      let there ← offsetOf offsets ownerLine
      return !(line ≠ ownerLine && there < here && (here : Int) - there ≠ tabSize &&
        opensBlock owner.kind)
    | _, _ => .ok true

/-- The places of a walk that are not aligned. -/
def misaligned (walk : Walk) (offsets : List (Option Nat)) (tabSize : Int) : Outcome (List Place) :=
  walk.filterM fun p => do return !(← isAligned p offsets tabSize)

end Scrutiny.Code
