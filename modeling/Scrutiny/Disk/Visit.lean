import Scrutiny.Disk.Path
import Scrutiny.Text.Words

/-! Going through a folder.

A folder is visited before the folders in it, and those in order, each with all that is below it. Folders
with a name that is to be skipped are not entered, at any depth. A path that leads to no folder
has no visits; one with a NUL in it cannot be asked for at all. -/
namespace Scrutiny

/-- One folder on the way: its path, and what is directly in it. -/
structure Visit where
  path : String
  folders : List String
  files : List (String × File)

mutual

/-- The visits to a folder, itself first; folders that are not kept are passed over. -/
def visits (keep : String → Bool) (path : String) : Folder → List Visit
  | .node listing children =>
    ⟨path, children.map (·.label.name), listing.files⟩ :: visitsBelow keep path children

def visitsBelow (keep : String → Bool) (path : String) : List Folder → List Visit
  | [] => []
  | f :: rest =>
    (if keep f.label.name then visits keep (Path.join path f.label.name) f else []) ++
      visitsBelow keep path rest

end

namespace Disk

/-- A path that visits can start from. -/
def visitable (path : String) : Outcome Unit :=
  if path.toList.contains '\x00' then .error .nul else .ok ()

/-- All visits below a path. -/
def visitsFrom (disk : Disk) (path : String) : List Visit :=
  match folderAt? disk path with
  | some f => visits (fun _ => true) path f
  | none => []

/-- The visits below a path that enter no folder of a name to skip. -/
def visitsOutside (disk : Disk) (skip : Words) (path : String) : List Visit :=
  match folderAt? disk path with
  | some f => visits (fun name => !skip.has name) path f
  | none => []

/-- The files of visits, each with the path of its folder. -/
def filesOf (visits : List Visit) : List (String × String × File) :=
  visits.flatMap fun v => v.files.map fun f => (v.path, f)

/-- The number of files that are named like Python sources. -/
def countSources (disk : Disk) (skip : Words) (path : String) : Nat :=
  ((filesOf (disk.visitsOutside skip path)).filter fun f => Text.endsWith ".py" f.2.1).length

/-- Whether a path holds more files named like Python sources than allowed. -/
def isLargerThan (disk : Disk) (skip : Words) (limit : Int) (path : String) : Bool :=
  limit < disk.countSources skip path

/-- The files whose extension is one of those wanted, by their paths. -/
def filesWith (disk : Disk) (extensions skip : Words) (path : String) : List (String × File) :=
  ((filesOf (disk.visitsOutside skip path)).filter fun f => extensions.has (Path.extension f.2.1)).map
    fun f => (Path.join f.1 f.2.1, f.2.2)

end Disk

/-- Whether a path is that of a file that has to be UTF-8: it ends in `.py` or `.txt`. -/
def isTextName (path : String) : Bool :=
  Text.endsWith ".py" path || Text.endsWith ".txt" path

namespace File

def isUtf8 (file : File) : Bool :=
  (Text.Utf8.decode file.bytes).isSome

/-- Whether a file starts with a byte order mark. -/
def hasMark (file : File) : Bool :=
  Text.Utf8.mark.isPrefixOf file.bytes

/-- Whether a file has at least so many lines. No line is read for a limit of zero or less, and a file that
is not UTF-8 is read only as far as the lines are needed. -/
def hasLines (file : File) (limit : Int) : Outcome Bool :=
  if limit ≤ 0 then .ok (limit = 0)
  else
    match file.text with
    | .ok text => .ok (Text.countLines limit.toNat text.toList = limit.toNat)
    | .error failure => if limit.toNat ≤ file.start.length then .ok true else .error failure

end File

namespace Disk

/-- Whether the file at a path is UTF-8, if it has to be. -/
def isUtf8 (disk : Disk) (path : String) : Outcome Bool :=
  if isTextName path then do return (← disk.openFile path).isUtf8 else .ok true

/-- Whether the file at a path has at least so many lines. -/
def hasLines (disk : Disk) (path : String) (limit : Int) : Outcome Bool := do
  (← disk.openFile path).hasLines limit

end Disk
end Scrutiny
