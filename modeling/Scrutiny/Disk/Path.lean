import Scrutiny.Disk.Folder

/-! Paths, and what they lead to.

A path is followed component by component, from the top if it starts with a slash and from the working folder otherwise:
empty components and `.` stay, `..` goes up as far as the top, and whatever follows a file, be it nothing but a slash,
leads nowhere. A path holds no NUL, and it and the names in it are not longer than they may be. -/
namespace Scrutiny

namespace Path

/-- A path and a name in it. A name that starts at the top stands alone. -/
def join (path name : String) : String :=
  if Text.startsWith "/" name then name
  else if path = "" || Text.endsWith "/" path then path ++ name
  else path ++ "/" ++ name

/-- From the last dot of a file name on, unless only dots stand before it. -/
def extension (name : String) : String :=
  let reversed := name.toList.reverse
  let before := (reversed.dropWhile (· ≠ '.')).drop 1
  if before.all (· = '.') then ""
  else String.ofList ('.' :: (reversed.takeWhile (· ≠ '.')).reverse)

end Path

/-- Where a path leads. -/
inductive Entry where
  | file (file : File)
  | folder (folder : Folder)

/-- Why a path leads nowhere. -/
inductive DeadEnd where
  | missing
  | belowFile
  | tooLong
  | nul
  deriving DecidableEq, Repr

/-- All folders, from the top on, and the names on the way from there to the working folder. -/
structure Disk where
  top : Folder
  way : List String := []

namespace Disk

/-- The number of bytes that a name in a path may have. -/
def longestName : Nat := 255

/-- The number of bytes that a path may have. -/
def longestPath : Nat := 4095

/-- Follows components from an entry; `trail` are the folders gone through, nearest first. -/
def follow (trail : List Folder) (entry : Entry) : List String → Except DeadEnd Entry
  | [] => .ok entry
  | part :: rest =>
    match entry with
    | .file _ => .error .belowFile
    | .folder f =>
      if part = "" || part = "." then follow trail entry rest
      else if part = ".." then
        match trail with
        | up :: more => follow more (.folder up) rest
        | [] => follow [] entry rest
      else if longestName < part.utf8ByteSize then .error .tooLong
      else
        match f.folder? part with
        | some sub => follow (f :: trail) (.folder sub) rest
        | none =>
          match f.file? part with
          | some file => follow (f :: trail) (.file file) rest
          | none => .error .missing

/-- The components of a path, from the top on. -/
def components (disk : Disk) (path : String) : List String :=
  (if Text.startsWith "/" path then [] else disk.way) ++ Text.cut '/' path

/-- Where a path leads. -/
def entry (disk : Disk) (path : String) : Except DeadEnd Entry :=
  if path.toList.contains '\x00' then .error .nul
  else if longestPath < path.utf8ByteSize then .error .tooLong
  else if path = "" then .error .missing
  else follow [] (.folder disk.top) (disk.components path)

def folderAt? (disk : Disk) (path : String) : Option Folder :=
  match entry disk path with
  | .ok (.folder f) => some f
  | _ => none

def isFile (disk : Disk) (path : String) : Bool :=
  match entry disk path with
  | .ok (.file _) => true
  | _ => false

/-- The file at a path. -/
def openFile (disk : Disk) (path : String) : Outcome File :=
  match entry disk path with
  | .ok (.file file) => .ok file
  | .ok (.folder _) => .error (.isFolder path)
  | .error .missing => .error (.missing path)
  | .error .belowFile => .error (.belowFile path)
  | .error .tooLong => .error (.tooLong path)
  | .error .nul => .error .nul

/-- The text of the file at a path. -/
def readText (disk : Disk) (path : String) : Outcome String := do
  (← openFile disk path).text

def repositoryAt? (disk : Disk) (path : String) : Option Repository :=
  (folderAt? disk path).bind (·.label.repository)

/-- Changes the working folder. -/
def changeWorking (disk : Disk) (g : Folder → Folder) : Disk :=
  { disk with top := disk.top.changeAt disk.way g }

def makeFolder (disk : Disk) (path : String) : Disk :=
  disk.changeWorking (·.makeFolder path)

def write (disk : Disk) (path : String) (file : File) : Disk :=
  disk.changeWorking (·.write path file)

def delete (disk : Disk) (path : String) : Disk :=
  disk.changeWorking (·.delete path)

def changeRepository (disk : Disk) (path : String) (g : Option Repository → Option Repository) : Disk :=
  disk.changeWorking (·.changeRepository path g)

end Disk
end Scrutiny
