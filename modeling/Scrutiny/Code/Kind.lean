/-! The kinds of nodes in the abstract syntax of Python, and the parts each kind has.

`Kind.slots` lists the parts of a kind in the order in which they are written down; a walk visits the
children of a node in that order. `Kind.name` is the name by which the language knows a kind. -/
namespace Scrutiny.Code

/-- The operators: binary, boolean, unary and comparisons. -/
inductive Operator where
  | add | sub | mult | matMult | div | mod | pow | shiftLeft | shiftRight | bitOr | bitXor
  | bitAnd | floorDiv | and | or | invert | not | plus | minus | eq | notEq | lt | ltE | gt | gtE
  | is | isNot | isIn | notIn
  deriving DecidableEq, Repr

/-- How an expression is used. -/
inductive Usage where
  | load | store | del
  deriving DecidableEq, Repr

/-- The kinds of nodes. -/
inductive Kind where
  | annAssign | assertion | assign | asyncFor | asyncFunctionDef | asyncWith | member | augAssign
  | await | binOp | boolOp | breakStmt | call | classDef | compare | constant | continueStmt
  | delete | dict | dictComp | exceptHandler | expr | forLoop | formattedValue | functionDef
  | generatorExp | globalStmt | ifStmt | ifExp | importStmt | importFrom | joinedStr | lambda
  | list | listComp | matchStmt | matchAs | matchClass | matchMapping | matchOr | matchSequence
  | matchSingleton | matchStar | matchValue | module | identifier | namedExpr | nonlocalStmt
  | pass | raise | returnStmt | set | setComp | slice | starred | subscript | tryStmt | tryStar
  | tuple | unaryOp | whileLoop | withStmt | yield | yieldFrom | importAlias | arg | arguments
  | comprehension | keyword | matchCase | withItem
  | operator (op : Operator)
  | usage (usage : Usage)
  deriving DecidableEq, Repr

/-- The parts of nodes. -/
inductive Slot where
  | target | hint | value | simple | test | msg | targets | iter | body | orelse | name
  | args | decoratorList | returns | items | attr | op | left | right | values | func | keywords
  | bases | ops | comparators | keys | key | generators | type | conversion | formatSpec | elt
  | names | module | level | elts | subject | cases | pattern | cls | patterns | kwdAttrs
  | kwdPatterns | rest | id | exc | cause | lower | upper | step | slice | handlers | finalbody
  | operand | asname | arg | posonlyargs | vararg | kwonlyargs | kwDefaults | kwarg | defaults
  | ifs | isAsync | guard | contextExpr | optionalVars | usage
  deriving DecidableEq, Repr

namespace Operator

def name : Operator → String
  | add => "Add"
  | sub => "Sub"
  | mult => "Mult"
  | matMult => "MatMult"
  | div => "Div"
  | mod => "Mod"
  | pow => "Pow"
  | shiftLeft => "LShift"
  | shiftRight => "RShift"
  | bitOr => "BitOr"
  | bitXor => "BitXor"
  | bitAnd => "BitAnd"
  | floorDiv => "FloorDiv"
  | and => "And"
  | or => "Or"
  | invert => "Invert"
  | not => "Not"
  | plus => "UAdd"
  | minus => "USub"
  | eq => "Eq"
  | notEq => "NotEq"
  | lt => "Lt"
  | ltE => "LtE"
  | gt => "Gt"
  | gtE => "GtE"
  | is => "Is"
  | isNot => "IsNot"
  | isIn => "In"
  | notIn => "NotIn"

def all : List Operator :=
  [.add, .sub, .mult, .matMult, .div, .mod, .pow, .shiftLeft, .shiftRight, .bitOr, .bitXor,
   .bitAnd, .floorDiv, .and, .or, .invert, .not, .plus, .minus, .eq, .notEq, .lt, .ltE, .gt, .gtE,
   .is, .isNot, .isIn, .notIn]

end Operator

namespace Usage

def name : Usage → String
  | load => "Load"
  | store => "Store"
  | del => "Del"

def all : List Usage :=
  [load, store, del]

end Usage

namespace Kind

def name : Kind → String
  | annAssign => "AnnAssign"
  | assertion => "Assert"
  | assign => "Assign"
  | asyncFor => "AsyncFor"
  | asyncFunctionDef => "AsyncFunctionDef"
  | asyncWith => "AsyncWith"
  | member => "Attribute"
  | augAssign => "AugAssign"
  | await => "Await"
  | binOp => "BinOp"
  | boolOp => "BoolOp"
  | breakStmt => "Break"
  | call => "Call"
  | classDef => "ClassDef"
  | compare => "Compare"
  | constant => "Constant"
  | continueStmt => "Continue"
  | delete => "Delete"
  | dict => "Dict"
  | dictComp => "DictComp"
  | exceptHandler => "ExceptHandler"
  | expr => "Expr"
  | forLoop => "For"
  | formattedValue => "FormattedValue"
  | functionDef => "FunctionDef"
  | generatorExp => "GeneratorExp"
  | globalStmt => "Global"
  | ifStmt => "If"
  | ifExp => "IfExp"
  | importStmt => "Import"
  | importFrom => "ImportFrom"
  | joinedStr => "JoinedStr"
  | lambda => "Lambda"
  | list => "List"
  | listComp => "ListComp"
  | matchStmt => "Match"
  | matchAs => "MatchAs"
  | matchClass => "MatchClass"
  | matchMapping => "MatchMapping"
  | matchOr => "MatchOr"
  | matchSequence => "MatchSequence"
  | matchSingleton => "MatchSingleton"
  | matchStar => "MatchStar"
  | matchValue => "MatchValue"
  | module => "Module"
  | identifier => "Name"
  | namedExpr => "NamedExpr"
  | nonlocalStmt => "Nonlocal"
  | pass => "Pass"
  | raise => "Raise"
  | returnStmt => "Return"
  | set => "Set"
  | setComp => "SetComp"
  | slice => "Slice"
  | starred => "Starred"
  | subscript => "Subscript"
  | tryStmt => "Try"
  | tryStar => "TryStar"
  | tuple => "Tuple"
  | unaryOp => "UnaryOp"
  | whileLoop => "While"
  | withStmt => "With"
  | yield => "Yield"
  | yieldFrom => "YieldFrom"
  | importAlias => "alias"
  | arg => "arg"
  | arguments => "arguments"
  | comprehension => "comprehension"
  | keyword => "keyword"
  | matchCase => "match_case"
  | withItem => "withitem"
  | operator op => op.name
  | usage u => u.name

def all : List Kind :=
  [.annAssign, .assertion, .assign, .asyncFor, .asyncFunctionDef, .asyncWith, .member, .augAssign,
   .await, .binOp, .boolOp, .breakStmt, .call, .classDef, .compare, .constant, .continueStmt,
   .delete, .dict, .dictComp, .exceptHandler, .expr, .forLoop, .formattedValue, .functionDef,
   .generatorExp, .globalStmt, .ifStmt, .ifExp, .importStmt, .importFrom, .joinedStr, .lambda,
   .list, .listComp, .matchStmt, .matchAs, .matchClass, .matchMapping, .matchOr, .matchSequence,
   .matchSingleton, .matchStar, .matchValue, .module, .identifier, .namedExpr, .nonlocalStmt,
   .pass, .raise, .returnStmt, .set, .setComp, .slice, .starred, .subscript, .tryStmt, .tryStar,
   .tuple, .unaryOp, .whileLoop, .withStmt, .yield, .yieldFrom, .importAlias, .arg, .arguments,
   .comprehension, .keyword, .matchCase, .withItem] ++
    Operator.all.map operator ++ Usage.all.map usage

def ofName? (name : String) : Option Kind :=
  all.find? (·.name = name)

/-- The parts of a kind, in order. -/
def slots : Kind → List Slot
  | annAssign => [.target, .hint, .value, .simple]
  | assertion => [.test, .msg]
  | assign => [.targets, .value]
  | asyncFor => [.target, .iter, .body, .orelse]
  | asyncFunctionDef => [.name, .args, .body, .decoratorList, .returns]
  | asyncWith => [.items, .body]
  | member => [.value, .attr]
  | augAssign => [.target, .op, .value]
  | await => [.value]
  | binOp => [.left, .op, .right]
  | boolOp => [.op, .values]
  | breakStmt => []
  | call => [.func, .args, .keywords]
  | classDef => [.name, .bases, .keywords, .body, .decoratorList]
  | compare => [.left, .ops, .comparators]
  | constant => [.value]
  | continueStmt => []
  | delete => [.targets]
  | dict => [.keys, .values]
  | dictComp => [.key, .value, .generators]
  | exceptHandler => [.type, .name, .body]
  | expr => [.value]
  | forLoop => [.target, .iter, .body, .orelse]
  | formattedValue => [.value, .conversion, .formatSpec]
  | functionDef => [.name, .args, .body, .decoratorList, .returns]
  | generatorExp => [.elt, .generators]
  | globalStmt => [.names]
  | ifStmt => [.test, .body, .orelse]
  | ifExp => [.test, .body, .orelse]
  | importStmt => [.names]
  | importFrom => [.module, .names, .level]
  | joinedStr => [.values]
  | lambda => [.args, .body]
  | list => [.elts]
  | listComp => [.elt, .generators]
  | matchStmt => [.subject, .cases]
  | matchAs => [.pattern, .name]
  | matchClass => [.cls, .patterns, .kwdAttrs, .kwdPatterns]
  | matchMapping => [.keys, .patterns, .rest]
  | matchOr => [.patterns]
  | matchSequence => [.patterns]
  | matchSingleton => [.value]
  | matchStar => [.name]
  | matchValue => [.value]
  | module => [.body]
  | identifier => [.id]
  | namedExpr => [.target, .value]
  | nonlocalStmt => [.names]
  | pass => []
  | raise => [.exc, .cause]
  | returnStmt => [.value]
  | set => [.elts]
  | setComp => [.elt, .generators]
  | slice => [.lower, .upper, .step]
  | starred => [.value]
  | subscript => [.value, .slice]
  | tryStmt => [.body, .handlers, .orelse, .finalbody]
  | tryStar => [.body, .handlers, .orelse, .finalbody]
  | tuple => [.elts]
  | unaryOp => [.op, .operand]
  | whileLoop => [.test, .body, .orelse]
  | withStmt => [.items, .body]
  | yield => [.value]
  | yieldFrom => [.value]
  | importAlias => [.name, .asname]
  | arg => [.arg, .hint]
  | arguments => [.posonlyargs, .args, .vararg, .kwonlyargs, .kwDefaults, .kwarg, .defaults]
  | comprehension => [.target, .iter, .ifs, .isAsync]
  | keyword => [.arg, .value]
  | matchCase => [.pattern, .guard, .body]
  | withItem => [.contextExpr, .optionalVars]
  | operator _ => []
  | usage _ => []

end Kind
end Scrutiny.Code
