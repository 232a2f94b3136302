import Scrutiny.Disk.Path
import Scrutiny.Text.Digit

/-! A disk written down as text.

A snapshot has one entry a line, its fields divided by single spaces. A file comes with what other tools
know of it: the number of style faults, and its syntax tree, node by node, each node before those below it
and with its depth. Parts are given by their place among the parts of the kind. Bytes and texts are
written in hexadecimal digits, so that a line stays a line.

- `folder PATH`
- `file BYTES PATH`, and of the file last named: `faults COUNT`, `node DEPTH PART KIND` or
  `node DEPTH PART KIND LINE COLUMN`, and of the node last named: `word PART TEXT`,
  `number PART INTEGER`, `words PART TEXT...`, `literal PART SORT VALUE`
- `repository BRANCH PATH`, and of the repository last named: `commit MESSAGE`, oldest first, and
  `tracked PATH` -/
namespace Scrutiny.Snapshot

def hexDigit? (c : Char) : Option Nat :=
  if '0' ≤ c && c ≤ '9' then some (c.toNat - '0'.toNat)
  else if 'a' ≤ c && c ≤ 'f' then some (c.toNat - 'a'.toNat + 10)
  else none

/-- The bytes that pairs of hexadecimal digits stand for. -/
def bytes? : List Char → Option (List UInt8)
  | [] => some []
  | [_] => none
  | high :: low :: rest => do
    return UInt8.ofNat (16 * (← hexDigit? high) + (← hexDigit? low)) :: (← bytes? rest)

/-- The text whose bytes are written down. -/
def text? (field : String) : Option String := do
  return String.ofList (← Text.Utf8.decode (← bytes? field.toList))

def integer? (field : String) : Option Int :=
  (Text.readInteger field).toOption

def natural? (field : String) : Option Nat :=
  (integer? field).bind Int.toNat?

def literal? (sort value : String) : Option Code.Literal :=
  match sort with
  | "nothing" => some .nothing
  | "ellipsis" => some .ellipsis
  | "truth" => some (.truth (value = "true"))
  | "text" => do return .text (← text? value)
  | "bytes" => some (.bytes value)
  | "integer" => do return .integer (← integer? value)
  | "real" => some (.real (Number.Decimal.read? value))
  | "imaginary" => some (.imaginary (Number.Decimal.read? value))
  | _ => none

/-- A node as it is written down; its parts are numbered. -/
structure Item where
  depth : Nat
  part : Nat
  kind : Code.Kind
  position : Option Code.Position
  facts : List (Nat × Code.Fact) := []

/-- A tree that waits for the node above it. -/
structure Branch where
  depth : Nat
  part : Nat
  node : Code.Node

/-- The part of a kind at a place; beyond the last it is the body. -/
def slotAt (kind : Code.Kind) (part : Nat) : Code.Slot :=
  kind.slots.getD part .body

/-- The tree of a branch below a node of a kind. -/
def Branch.below (kind : Code.Kind) (b : Branch) : Code.Node :=
  .node { b.node.label with role := slotAt kind b.part } b.node.children

/-- Puts a node over the branches after it that are deeper. -/
def graft (i : Item) (later : List Branch) : List Branch :=
  let isInside := fun b : Branch => i.depth < b.depth
  let facts := i.facts.map fun f => (slotAt i.kind f.1, f.2)
  let label : Code.Label := { kind := i.kind, role := .body, position := i.position, facts }
  ⟨i.depth, i.part, .node label ((later.takeWhile isInside).map (Branch.below i.kind))⟩ ::
    later.dropWhile isInside

/-- The tree that a list of items writes down. -/
def tree? (items : List Item) : Option Code.Node :=
  (items.foldr graft []).head?.map (·.node)

inductive Line where
  | folder (path : String)
  | file (bytes : List UInt8) (path : String)
  | faults (count : Nat)
  | node (item : Item)
  | fact (part : Nat) (fact : Code.Fact)
  | repository (branch path : String)
  | commit (message : String)
  | tracked (path : String)

/-- Fields that belong to one path. -/
def path (fields : List String) : String :=
  " ".intercalate fields

def position? : List String → Option (Option Code.Position)
  | [] => some none
  | [line, column] => do return some ⟨← natural? line, ← natural? column⟩
  | _ => none

def Line.read? (line : String) : Option Line :=
  match Text.cut ' ' line with
  | "folder" :: rest => some (.folder (path rest))
  | "file" :: bytes :: rest => do return .file (← bytes? bytes.toList) (path rest)
  | ["faults", count] => do return .faults (← natural? count)
  | "node" :: depth :: part :: kind :: rest => do
    return .node ⟨← natural? depth, ← natural? part, ← Code.Kind.ofName? kind, ← position? rest, []⟩
  | ["word", part, text] => do return .fact (← natural? part) (.word (← text? text))
  | ["number", part, value] => do return .fact (← natural? part) (.number (← integer? value))
  | "words" :: part :: texts => do return .fact (← natural? part) (.words (← texts.mapM text?))
  | ["literal", part, sort, value] => do return .fact (← natural? part) (.literal (← literal? sort value))
  | "repository" :: branch :: rest => some (.repository branch (path rest))
  | ["commit", message] => do return .commit (← text? message)
  | "tracked" :: rest => some (.tracked (path rest))
  | _ => none

/-- What has been read; the items are those of the file last named, the last one first. -/
structure Reading where
  disk : Disk := { top := Folder.empty "" }
  path : String := ""
  file : File := { bytes := [] }
  items : List Item := []
  work : String := ""

namespace Reading

/-- Puts the file last named on the disk. -/
def close (r : Reading) : Reading :=
  if r.path = "" then r
  else
    let tree := tree? r.items.reverse
    { r with disk := r.disk.write r.path { r.file with tree, declaredTree := tree }, path := "", items := [] }

def changeItem (r : Reading) (g : Item → Item) : Reading :=
  { r with items := r.items.modifyHead g }

def changeWork (r : Reading) (g : Repository → Repository) : Reading :=
  { r with disk := r.disk.changeRepository r.work (·.map g) }

def add (r : Reading) : Line → Reading
  | .folder path => { r with disk := r.disk.makeFolder path }
  | .file bytes path => { r.close with path, file := { bytes } }
  | .faults count => { r with file := { r.file with styleFaults := count } }
  | .node item => { r with items := item :: r.items }
  | .fact part fact => r.changeItem fun i => { i with facts := i.facts ++ [(part, fact)] }
  | .repository branch path =>
    { r with disk := r.disk.changeRepository path fun _ => some ⟨branch, [], []⟩, work := path }
  | .commit message => r.changeWork (·.commit message)
  | .tracked path => r.changeWork fun w => { w with tracked := w.tracked ++ [path] }

end Reading

/-- The disk that a text writes down; `none` if a line of it is none of the above. -/
def read? (text : String) : Option Disk := do
  let lines ← ((Text.cut '\n' text).filter (· ≠ "")).mapM Line.read?
  return (lines.foldl Reading.add {}).close.disk

end Scrutiny.Snapshot
