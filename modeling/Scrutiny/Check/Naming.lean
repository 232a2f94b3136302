import Scrutiny.Check.Basic
import Scrutiny.Code.Builtin
import Scrutiny.Code.Import
import Scrutiny.Code.Names

/-! Checks of names. -/
namespace Scrutiny.Naming

def listed (names : List String) : String :=
  ", ".intercalate names

/-- The names that are among the words, if any. -/
def common (order : Text.Enumeration) (names words : List String) : Option String :=
  let found := names.filter words.contains
  if found.isEmpty then none else some (listed (order.list found))

/-- The first file that defines names from the blacklist, and those names. -/
def blacklisted (c : Context) (p : Project) : Outcome (Option String) :=
  firstFinding
    (fun s => do return common c.runtime.order (Code.definedNames (← s.walk)) c.settings.badVariableNames.items)
    (p.sourcesOutside c.settings.badVariablesPathsToIgnore)

/-- The first file with local variables named like constants, and those. -/
def localConstants (c : Context) (p : Project) : Outcome (Option String) :=
  firstFinding
    (fun s => do
      let names := Code.localConstants (← s.walk) c.settings.maxIndentationLevel
      return if names.isEmpty then none else some ((Message.forExample names).render c.language))
    (p.sourcesOutside c.settings.localVarNamedAsGlobalPathsToIgnore)

def isTooShort (settings : Settings) (name : String) : Bool :=
  (name.length : Int) < settings.minimumNameLength && !settings.validShortVariableNames.has name

/-- The short names of a file. -/
def shortNames (settings : Settings) (s : Source) : Outcome (List String) := do
  return (Code.definedNames (← s.walk)).filter (isTooShort settings)

/-- The short names of all files. -/
def short (c : Context) (p : Project) : Outcome (Option String) := do
  let names := (← p.sources.mapM (shortNames c.settings)).flatten
  return if names.isEmpty then none else some (listed (c.runtime.order.list names))

/-- Whether a name mixes lower and upper case. -/
def isMixedCase (name : String) : Bool :=
  Text.lower name ≠ name && Text.upper name ≠ name

/-- The names of a file that mix cases and have no excuse: not imported, no class, no named tuple, not
built in, not allowed, and not assigned from an allowed thing. -/
def mixedNames (order : Text.Enumeration) (settings : Settings) (s : Source) : Outcome (List String) := do
  let walk ← s.walk
  let excused ← Code.namesAssignedFrom walk settings.validNonSnakeCaseRightHandValues
  let records ← Code.recordNames walk
  return (order.list (Code.usedNames walk)).filter fun name =>
    isMixedCase name && !(Code.namesFromImports walk).contains name &&
      !(Code.classNames walk).contains name && !records.contains name &&
      !Code.builtins.contains name && !settings.validNonSnakeCaseLeftHandValues.has name &&
      !excused.contains name

/-- How many names a finding shows. -/
def shownNames : Nat := 3

/-- The first file with names that mix cases, and the first of those. -/
def camelCase (c : Context) (p : Project) : Outcome (Option String) :=
  firstFinding
    (fun s => do
      let names ← mixedNames c.runtime.order c.settings s
      return if names.isEmpty then none
        else some ((Message.rename (names.take shownNames)).render c.language))
    p.sources

/-- The first file that defines names of things built in, and those. -/
def shadowing (c : Context) (p : Project) : Outcome (Option String) :=
  firstFinding
    (fun s => do return common c.runtime.order (Code.definedOutsideClasses (← s.walk)) Code.builtins) p.sources

end Scrutiny.Naming
