import Scrutiny.Code.Node
import Scrutiny.Text.Search

/-! How branched a program is.

Every loop, `if`, `try`, exception handler and nested function adds a decision to the block it stands
in. A block is a function, or a loop, `if` or `try` outside of any function; its complexity is one more
than the decisions in it. Blocks are named by their function, after the classes around it, or by
statement and line. Of two blocks of one name the later counts, in the place of the earlier. -/
namespace Scrutiny.Code

mutual

/-- The decisions that a statement makes. -/
def decisions : Node → Nat
  | .node label children =>
    match label.kind with
    | .functionDef | .asyncFunctionDef | .exceptHandler => 1 + decisionsIn [.body] children
    | .forLoop | .asyncFor | .whileLoop | .ifStmt => 1 + decisionsIn [.body, .orelse] children
    | .tryStmt => 1 + decisionsIn [.body, .handlers, .orelse] children
    | .classDef | .withStmt | .asyncWith => decisionsIn [.body] children
    | _ => 0

def decisionsIn (slots : List Slot) : List Node → Nat
  | [] => 0
  | n :: rest => (if slots.contains n.role then decisions n else 0) + decisionsIn slots rest

end

structure Block where
  /-- Blocks of one key replace each other. -/
  key : String
  title : String
  complexity : Nat
  deriving DecidableEq, Repr

/-- A block outside of functions, titled by its statement and line. -/
def lineBlock (owner word : String) (n : Node) : Block :=
  let title := s!"{word} {n.line}"
  ⟨owner ++ title, title, 1 + decisions n⟩

mutual

/-- The blocks of a statement outside of functions; `owner` names the classes around it. -/
def blocks (owner : String) : Node → List Block
  | .node label children =>
    let n : Node := .node label children
    match label.kind with
    | .functionDef | .asyncFunctionDef =>
      let title := owner ++ (n.word? .name).getD ""
      [⟨title, title, decisions n⟩]
    | .classDef => blocksIn (owner ++ (n.word? .name).getD "" ++ ".") children
    | .module | .withStmt | .asyncWith => blocksIn owner children
    | .forLoop | .asyncFor | .whileLoop => [lineBlock owner "Loop" n]
    | .ifStmt => [lineBlock owner "If" n]
    | .tryStmt => [lineBlock owner "TryExcept" n]
    | _ => []

def blocksIn (owner : String) : List Node → List Block
  | [] => []
  | n :: rest => (if n.role = .body then blocks owner n else []) ++ blocksIn owner rest

end

/-- Puts a block in the place of the one with its key, or at the end. -/
def Block.put (block : Block) : List Block → List Block
  | [] => [block]
  | b :: rest => if b.key = block.key then block :: rest else b :: put block rest

/-- The blocks of a module, one for each key. -/
def moduleBlocks (root : Node) : List Block :=
  (blocks "" root).foldl (fun found block => block.put found) []

/-- How a block is reported. An `if` outside of functions is taken for the main guard. -/
def Block.shown (block : Block) : String :=
  if Text.startsWith "If " block.title then "if __name__ == \"__main__\"" else block.title

/-- The blocks whose complexity reaches the limit. -/
def tangled (root : Node) (limit : Int) : List String :=
  ((moduleBlocks root).filter fun b => limit ≤ b.complexity).map Block.shown

end Scrutiny.Code
