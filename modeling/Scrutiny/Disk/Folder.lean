import Scrutiny.Code.Node
import Scrutiny.Disk.Repository
import Scrutiny.Text.Charset
import Scrutiny.Text.Lines

/-! Files and folders.

A file is its bytes, together with what the parser makes of them and how many faults the style checker counts in them.
The parser finds a tree in a text or finds that it is no program; that it gives up for another reason, as it does where
it runs out of stack or memory, is left out. A folder is a tree of listings. Files and folders of a listing stand in the
order of their names, by code point, and writing keeps them so. -/
namespace Scrutiny

structure File where
  bytes : List UInt8
  /-- The syntax tree; `none` when the file does not parse. -/
  tree : Option Code.Node := none
  /-- What the style checker counts. -/
  styleFaults : Nat := 0
  /-- The syntax tree of the text by the encoding that the file declares, where that is another text. -/
  declaredTree : Option Code.Node := tree

/-- The text of a file, with its line ends translated. -/
def File.text (file : File) : Outcome String :=
  match Text.Utf8.decode file.bytes with
  | some text => .ok (String.ofList (Text.translateLineEnds text))
  | none => .error .undecodable

/-- The text of a file by the encoding that it declares, with its line ends translated. -/
def File.declaredText (codecs : Text.Codecs) (file : File) : Outcome String := do
  return String.ofList (Text.translateLineEnds (← Text.readDeclared codecs file.bytes))

/-- The syntax tree of a text that a file is read as. -/
def File.treeOf (file : File) (text : String) : Option Code.Node :=
  if file.text.toOption = some text then file.tree else file.declaredTree

/-- The lines of a file, without their line ends, that can be read before a fault in its encoding is met. Of the last
line read, whose end is not known, there is no trace. -/
def File.start (file : File) : List (List Char) :=
  let text := Text.Utf8.readable file.bytes
  let text := if text.getLast? = some '\r' then text.dropLast else text
  (Text.linesOf (Text.translateLineEnds text)).dropLast

structure Listing where
  name : String
  files : List (String × File) := []
  repository : Option Repository := none

abbrev Folder := Tree Listing

namespace Folder

def empty (name : String) : Folder :=
  .node { name } []

def name (f : Folder) : String :=
  f.label.name

def folder? (f : Folder) (name : String) : Option Folder :=
  f.children.find? (·.label.name = name)

def file? (f : Folder) (name : String) : Option File :=
  f.label.files.lookup name

/-- Puts a file in its place, over a file of the same name. -/
def putFile (name : String) (file : File) : List (String × File) → List (String × File)
  | [] => [(name, file)]
  | entry :: rest =>
    if entry.1 = name then (name, file) :: rest
    else if name < entry.1 then (name, file) :: entry :: rest
    else entry :: putFile name file rest

/-- Changes the folder of a name, a new one if there is none. -/
def change (name : String) (g : Folder → Folder) : List Folder → List Folder
  | [] => [g (empty name)]
  | f :: rest =>
    if f.label.name = name then g f :: rest
    else if name < f.label.name then g (empty name) :: f :: rest
    else f :: change name g rest

/-- Changes the folder at a path, making the folders that lead to it. -/
def changeAt (path : List String) (g : Folder → Folder) (f : Folder) : Folder :=
  match path with
  | [] => g f
  | name :: rest => .node f.label (change name (changeAt rest g) f.children)

/-- The names on a path that lead somewhere. -/
def steps (path : String) : List String :=
  (Text.cut '/' path).filter fun part => part ≠ "" && part ≠ "."

def changeListing (g : Listing → Listing) (f : Folder) : Folder :=
  .node (g f.label) f.children

/-- Makes a folder and those that lead to it. -/
def makeFolder (path : String) (f : Folder) : Folder :=
  f.changeAt (steps path) id

def write (path : String) (file : File) (f : Folder) : Folder :=
  match (steps path).getLast? with
  | some name =>
    f.changeAt (steps path).dropLast (changeListing fun l => { l with files := putFile name file l.files })
  | none => f

def delete (path : String) (f : Folder) : Folder :=
  match (steps path).getLast? with
  | some name =>
    f.changeAt (steps path).dropLast
      (changeListing fun l => { l with files := l.files.filter (·.1 ≠ name) })
  | none => f

/-- Changes the repository of the folder at a path. -/
def changeRepository (path : String) (g : Option Repository → Option Repository) (f : Folder) : Folder :=
  f.changeAt (steps path) (changeListing fun l => { l with repository := g l.repository })

end Folder
end Scrutiny
