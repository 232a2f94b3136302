import Scrutiny.Code.Node

/-! Families of nodes.

Besides its kinds the language has names for families of kinds, such as the statements, and for constants of one sort.
-/
namespace Scrutiny.Code

namespace Operator

def isBoolean : Operator → Bool
  | and | or => true
  | _ => false

def isUnary : Operator → Bool
  | invert | not | plus | minus => true
  | _ => false

def isComparison : Operator → Bool
  | eq | notEq | lt | ltE | gt | gtE | is | isNot | isIn | notIn => true
  | _ => false

/-- Whether an operator stands between two operands of an arithmetic or bitwise expression. -/
def isBinary (op : Operator) : Bool :=
  !op.isBoolean && !op.isUnary && !op.isComparison

end Operator

namespace Kind

def isStatement : Kind → Bool
  | functionDef | asyncFunctionDef | classDef | returnStmt | delete | assign | augAssign | annAssign | forLoop
  | asyncFor | whileLoop | ifStmt | withStmt | asyncWith | matchStmt | raise | tryStmt | tryStar | assertion
  | importStmt | importFrom | globalStmt | nonlocalStmt | expr | pass | breakStmt | continueStmt => true
  | _ => false

def isExpression : Kind → Bool
  | boolOp | namedExpr | binOp | unaryOp | lambda | ifExp | dict | set | listComp | setComp | dictComp
  | generatorExp | await | yield | yieldFrom | compare | call | formattedValue | joinedStr | constant | member
  | subscript | starred | identifier | list | tuple | slice => true
  | _ => false

def isPattern : Kind → Bool
  | matchValue | matchSingleton | matchSequence | matchMapping | matchClass | matchStar | matchAs | matchOr => true
  | _ => false

end Kind

/-- A family by its name; `none` for a name that is not one of a family. -/
def family? (name : String) (n : Node) : Option Bool :=
  match name with
  | "AST" => some true
  | "mod" => some (n.kind = .module)
  | "stmt" => some n.kind.isStatement
  | "expr" => some n.kind.isExpression
  | "pattern" => some n.kind.isPattern
  | "excepthandler" => some (n.kind = .exceptHandler)
  | "boolop" => some (ofOperator Operator.isBoolean)
  | "operator" => some (ofOperator Operator.isBinary)
  | "unaryop" => some (ofOperator Operator.isUnary)
  | "cmpop" => some (ofOperator Operator.isComparison)
  | "expr_context" => some (match n.kind with
    | .usage _ => true
    | _ => false)
  | "Num" => some n.isNumber
  | "Str" => some n.text?.isSome
  | "Bytes" => some (ofLiteral fun v => match v with
    | .bytes _ => true
    | _ => false)
  | "NameConstant" => some (ofLiteral fun v => match v with
    | .nothing | .truth _ => true
    | _ => false)
  | "Ellipsis" => some (ofLiteral (· = .ellipsis))
  | _ => none
where
  ofOperator (p : Operator → Bool) : Bool :=
    match n.kind with
    | .operator op => p op
    | _ => false
  ofLiteral (p : Literal → Bool) : Bool :=
    n.literal?.any p

/-- Whether a node is of the kind or of the family of a name. -/
def isNamed (n : Node) (name : String) : Bool :=
  (family? name n).getD (n.kind.name = name)

/-- The places of a walk whose node is of one of the kinds or families named. -/
def Walk.ofNames (walk : Walk) (names : List String) : List Place :=
  walk.filter fun p => names.any (isNamed p.here)

end Scrutiny.Code
