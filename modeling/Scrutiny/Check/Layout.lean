import Scrutiny.Check.Basic
import Scrutiny.Code.Branching
import Scrutiny.Code.Indent
import Scrutiny.Text.Tabs

/-! Checks of how sources are laid out on the disk and in lines. -/
namespace Scrutiny.Layout

def unparsed (_ : Context) (p : Project) : Outcome (Option String) :=
  .ok ((p.sources.find? (!·.isParsed)).map (·.name))

/-- The first data directory that is under version control. -/
def trackedData (c : Context) (p : Project) : Outcome (Option String) :=
  match p.repository? c.disk with
  | none => .ok none
  | some repository =>
    firstFinding
      (fun folder => firstFinding
        (fun data => do
          return if ← repository.tracks folder then some data else none)
        (c.settings.dataDirectories.items.filter fun data => Text.hasText data folder))
      (p.folders c.disk)

/-- The syntax tree of a file that is read anew, by the encoding that it declares. -/
def reparsed (codecs : Text.Codecs) (file : File) : Outcome Code.Node := do
  match file.treeOf (← file.declaredText codecs) with
  | some root => return root
  | none => .error .unparsable

/-- The blocks of a file that are too branched. -/
def tangledIn (codecs : Text.Codecs) (file : File) (limit : Int) : Outcome (List String) := do
  return Code.tangled (← reparsed codecs file) limit

/-- The blocks of all files that are too branched. The files are read anew. -/
def tangled (c : Context) (p : Project) : Outcome (Option String) := do
  let blocks ← p.sources.mapM fun s => do
    tangledIn c.runtime.codecs (← c.disk.openFile s.path) c.settings.maxComplexity
  return if blocks.flatten.isEmpty then none else some (",".intercalate blocks.flatten)

/-- The first line that is indented too far, and by one tab more than the line before it. Lines are numbered
from `number` on; `before` is the indentation of the line before. -/
def nestedLine? (tabSize level : Int) (before : Int) (number : Nat) : List (List Char) → Option Nat
  | [] => none
  | line :: rest =>
    let here := Text.indentation tabSize line
    if tabSize * level < here && here - before = tabSize then some number
    else nestedLine? tabSize level here (number + 1) rest

/-- A tab size, if it is in range. -/
def tabSize (size : Int) : Outcome Int :=
  if Text.isTabSize size then .ok size else .error .tabSize

/-- The first line that is nested too deep, the first line of a file being line zero. -/
def nested (c : Context) (p : Project) : Outcome (Option String) :=
  firstFinding
    (fun s => do
      let size ← tabSize c.settings.tabSize
      return (nestedLine? size c.settings.maxIndentationLevel 0 0 s.lines).map s.atLine)
    (p.sourcesOutside c.settings.deepNestingPathsToIgnore)

/-- The extensions of files in which no line may start with a tab. -/
def frontendExtensions : List String :=
  [".html", ".css", ".js"]

/-- Whether a file is indented with tabs: a source in more than half of its lines that are not empty, any
other file in one. -/
def isTabbed (path text : String) : Bool :=
  let lines := (Text.linesOf text.toList).filter (!·.isEmpty)
  let tabbed := lines.countP (·.head? = some '\t')
  if Path.extension (Text.baseName path) = ".py" then lines.length < 2 * tabbed else 0 < tabbed

def tabs (c : Context) (p : Project) : Outcome (Option String) := do
  let texts ← c.disk.textsWith (.list (frontendExtensions ++ [".py"])) c.settings.directoriesToSkip p.path
  return (texts.find? fun f => isTabbed f.1 f.2).map fun f => Text.baseName f.1

/-- Whether the first line of a text declares UTF-8. -/
def declaresEncoding (text : String) : Bool :=
  let line := (Text.linesOf (Text.trim (· = '\n') text.toList)).headD []
  let dense := (Text.strip line).filter (· ≠ ' ')
  dense.head? = some '#' && Text.contains "coding:utf-8".toList dense

def encodingDeclaration (c : Context) (p : Project) : Outcome (Option String) :=
  .ok (((p.sourcesOutside c.settings.encodingDeclarationsPathsToIgnore).find? fun s =>
    declaresEncoding s.content).map (·.name))

/-- Whether a line ends in a semicolon and is no comment. -/
def endsInSemicolon (line : List Char) : Bool :=
  line.getLast? = some ';' && line.head? ≠ some '#'

/-- Whether more lines end in a semicolon than there are semicolons in strings. -/
def hasSemicolons (s : Source) (walk : Code.Walk) : Bool :=
  let inTexts := (walk.filterMap (·.here.text?)).map fun t => t.toList.count ';'
  inTexts.foldr (· + ·) 0 < s.lines.countP endsInSemicolon

def semicolons (_ : Context) (p : Project) : Outcome (Option String) :=
  firstFinding (fun s => do return nameIf s (hasSemicolons s (← s.walk))) p.sources

/-- Whether a line returns something in parentheses. -/
def returnsInParentheses (line : List Char) : Bool :=
  Text.occurrences "return".toList line = 1 &&
    (Text.contains "return(".toList line || Text.contains "return (".toList line) &&
    (Text.strip line).getLast? = some ')'

/-- A line of a source, counted from one. -/
def lineAt (s : Source) (number : Nat) : Outcome (List Char) :=
  match s.lines[number - 1]? with
  | some line => .ok line
  | none => .error .noSuchLine

def parenthesizedReturn (_ : Context) (p : Project) : Outcome (Option String) :=
  firstFinding
    (fun s => do
      firstFinding
        (fun n => do
          return if returnsInParentheses (← lineAt s n.line) then some (s.atLine n.line) else none)
        ((← s.walk).nodes .returnStmt))
    p.sources

/-- The first node that is not indented by one tab. -/
def misaligned (c : Context) (p : Project) : Outcome (Option String) :=
  firstFinding
    (fun s => do
      let offsets := Text.lineOffsets s.content.toList
      firstFinding
        (fun i => do
          return if ← Code.isAligned i offsets c.settings.tabSize then none
            else some (s.atLine i.here.line))
        (← s.walk))
    p.sources

end Scrutiny.Layout
