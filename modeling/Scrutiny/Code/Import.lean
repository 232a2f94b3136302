import Scrutiny.Code.Node
import Scrutiny.Failure
import Scrutiny.Text.Link

/-! Import statements. -/
namespace Scrutiny.Code

/-- Both forms of import statements. -/
def imports (walk : Walk) : List Place :=
  walk.ofKinds [.importFrom, .importStmt]

/-- The names of the imported things, as the statement spells them. -/
def importedThings (statement : Node) : List String :=
  (statement.parts .names).filterMap (·.word? .name)

/-- The modules an import statement mentions: that of a `from` import, `none` for a relative one
without a name, or every name of a plain import. -/
def mentionedModules (statement : Node) : List (Option String) :=
  if statement.kind = .importFrom then [statement.word? .module]
  else (importedThings statement).map some

def mentioned (walk : Walk) : List (Option String) :=
  (imports walk).flatMap (mentionedModules ·.here)

/-- The names that `from` imports bind. -/
def namesFromImports (walk : Walk) : List String :=
  (walk.nodes .importFrom).flatMap fun n =>
    (n.parts .names).filterMap fun alias_ => alias_.word? .asname <|> alias_.word? .name

def isStarImport (statement : Node) : Bool :=
  (importedThings statement).head? = some "*"

def hasStarImport (walk : Walk) : Bool :=
  (walk.nodes .importFrom).any isStarImport

def importsSeveral (statement : Node) : Bool :=
  statement.kind = .importStmt && 1 < (statement.parts .names).length

/-- Whether an import is local: it does not start its line, and is not directly under an `if` that does. -/
def isLocalImport (p : Place) : Outcome Bool :=
  if p.here.column = 0 then .ok false
  else
    match p.parent? with
    | none => .error (.unplaced p.kind)
    | some owner => .ok !(owner.kind = .ifStmt && owner.column = 0)

/-- Whether one of the imports is local, looking no further than the first. -/
def anyLocal : List Place → Outcome Bool
  | [] => .ok false
  | p :: rest => do
    if ← isLocalImport p then return true
    anyLocal rest

def hasLocalImport (walk : Walk) : Outcome Bool :=
  anyLocal (imports walk)

def usesModule (walk : Walk) (name : String) : Bool :=
  (imports walk).any fun p =>
    p.here.word? .module = some name || (importedThings p.here).contains name

/-- The version of the standard library that counts unless another is asked for. -/
def standardVersion : String := "3.5"

/-- The packages of a list of modules, one for each module. -/
def packages (modules : List String) : List String :=
  modules.map Text.topPackage

end Scrutiny.Code
