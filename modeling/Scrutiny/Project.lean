import Scrutiny.Disk.Visit
import Scrutiny.Text.Link

/-! A project under review.

Loading a project reads and keeps its Python sources: later changes on the disk show in what is asked of
the disk, not in the sources. Everything else about a project, its readme, folders and history, is
asked of the disk when it is needed. -/
namespace Scrutiny

/-- A Python source as it was when the project was loaded. -/
structure Source where
  path : String
  content : String
  tree : Option Code.Node

namespace Source

def name (s : Source) : String :=
  Text.baseName s.path

def isParsed (s : Source) : Bool :=
  s.tree.isSome

/-- Whether a part of the path is among the words. -/
def isIgnored (s : Source) (ignored : Words) : Bool :=
  ignored.anyIn s.path

/-- The name of the file and a line of it. -/
def atLine {α : Type} [ToString α] (s : Source) (line : α) : String :=
  s!"{s.name}:{line}"

def description (s : Source) : String :=
  s!"ParsedPyFile object for the file {s.name}"

/-- The walk of the syntax tree. -/
def walk (s : Source) : Outcome Code.Walk :=
  match s.tree with
  | some root => .ok root.places
  | none => .error .noTree

def lines (s : Source) : List (List Char) :=
  Text.linesOf s.content.toList

end Source

structure Project where
  path : String
  sources : List Source

namespace Disk

/-- The texts of the files with one of the extensions, by their paths. -/
def textsWith (disk : Disk) (extensions skip : Words) (path : String) :
    Outcome (List (String × String)) :=
  (disk.filesWith extensions skip path).mapM fun f => do return (f.1, ← f.2.text)

end Disk

namespace Project

def ofFile (entry : String × File) : Outcome Source := do
  return { path := entry.1, content := ← entry.2.text, tree := entry.2.tree }

/-- Loads the project at a path. -/
def load (disk : Disk) (path : String) (skip : Words) : Outcome Project :=
  match disk.folderAt? path with
  | none => .error (.notAFolder path)
  | some _ => do
    let sources ← (disk.filesWith (.list [".py"]) skip path).mapM ofFile
    if sources.isEmpty then .error .noSources else return { path, sources }

/-- The sources whose path has none of the ignored parts. -/
def sourcesOutside (p : Project) (ignored : Words) : List Source :=
  p.sources.filter (!·.isIgnored ignored)

def repository? (p : Project) (disk : Disk) : Option Repository :=
  disk.repositoryAt? p.path

/-- The repository, to answer a question. -/
def repository (p : Project) (disk : Disk) (question : String) : Outcome Repository :=
  match p.repository? disk with
  | some r => .ok r
  | none => .error (.noRepository question)

def hasFile (p : Project) (disk : Disk) (name : String) : Bool :=
  disk.isFile (Path.join p.path name)

/-- The text of the first file of a name, in the order of the visits. -/
def fileNamed (p : Project) (disk : Disk) (name : String) : Outcome (Option String) :=
  match (disk.visitsFrom p.path).findSome? fun v => v.files.lookup name with
  | some file => do return some (← file.text)
  | none => .ok none

/-- Whether a folder is visited by that path, or one of that name exists. -/
def hasFolder (p : Project) (disk : Disk) (name : String) : Bool :=
  (disk.visitsFrom p.path).any fun v => v.path = name || v.folders.contains name

/-- What is left of a path below the project's: one character more than the project's path is cut off. -/
def relative (p : Project) (path : String) : String :=
  let rest := String.ofList (path.toList.drop (p.path.length + 1))
  if rest = "" then "." else rest

/-- The folders of a project, each after what is left of the path of the folder it is in. -/
def folders (p : Project) (disk : Disk) : List String :=
  (disk.visitsFrom p.path).flatMap fun v => v.folders.map fun name => s!"{p.relative v.path}/{name}"

/-- What the style checker counts in a file that cannot be read. -/
def unreadableFaults : Nat := 1

/-- The faults that the style checker counts in the sources outside of the ignored paths. -/
def styleFaults (p : Project) (disk : Disk) (ignored : Words) : Nat :=
  ((p.sourcesOutside ignored).map fun s =>
    match disk.openFile s.path with
    | .ok file => file.styleFaults
    | .error _ => unreadableFaults).foldr (· + ·) 0

end Project
end Scrutiny
