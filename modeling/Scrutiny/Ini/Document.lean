import Scrutiny.Ini.Fault
import Scrutiny.Text.Case
import Scrutiny.Text.Lines

/-! Settings documents: sections of options.

A header is `[name]`, up to the last bracket of its line. An option is a name, the first `=` or `:` of
the line, and a value; names are taken in lower case, both are trimmed. A line indented further than the
option before it continues the value, and so does an empty line. Lines that start with `#` or `;` are
passed over. The options of the section `DEFAULT` belong to every section. Repetitions and lines before
the first header end the reading at once; lines that mean nothing are gathered and reported at the end. -/
namespace Scrutiny.Ini

/-- Options with the lines of their values, in order. -/
abbrev Options := List (String × List String)

def defaultSection : String := "DEFAULT"

/-- What has been read so far. -/
structure Reading where
  defaults : Options := []
  sections : List (String × Options) := []
  /-- The section being read; none before the first header. -/
  place : Option String := none
  /-- The option being read; empty if there is none to continue. -/
  option : String := ""
  /-- The indentation of the last line that was no continuation. -/
  indent : Nat := 0
  /-- Lines that mean nothing. -/
  bad : List (Nat × String) := []

/-- Changes the entry of a key. -/
def modify {α : Type} (key : String) (g : α → α) (entries : List (String × α)) : List (String × α) :=
  entries.map fun e => if e.1 = key then (e.1, g e.2) else e

namespace Reading

/-- The options of the section being read. -/
def here (r : Reading) : Options :=
  match r.place with
  | some name => if name = defaultSection then r.defaults else (r.sections.lookup name).getD []
  | none => []

/-- Changes the options of the section being read. -/
def change (r : Reading) (g : Options → Options) : Reading :=
  match r.place with
  | some name =>
    if name = defaultSection then { r with defaults := g r.defaults }
    else { r with sections := modify name g r.sections }
  | none => r

/-- Adds a line to the value being read. -/
def extend (r : Reading) (line : String) : Reading :=
  r.change (modify r.option (· ++ [line]))

def enter (r : Reading) (file : String) (number : Nat) (name : String) : Except Fault Reading :=
  if (r.sections.lookup name).isSome then .error (.repeatedSection file number name)
  else if name = defaultSection then .ok { r with place := some name, option := "" }
  else .ok { r with sections := r.sections ++ [(name, [])], place := some name, option := "" }

def add (r : Reading) (file : String) (number : Nat) (name value : String) : Except Fault Reading :=
  if (r.here.lookup name).isSome then
    .error (.repeatedOption file number (r.place.getD "") name)
  else .ok { r.change (· ++ [(name, [value])]) with option := name }

end Reading

/-- The name in a section header at the start of a line. -/
def header? (line : List Char) : Option String :=
  match line with
  | '[' :: rest =>
    match (rest.reverse.dropWhile (· ≠ ']')).drop 1 with
    | [] => none
    | name => some (String.ofList name.reverse)
  | _ => none

def isDelimiter (c : Char) : Bool :=
  c = '=' || c = ':'

/-- The name and the value of an option line. -/
def option? (line : List Char) : Option (String × String) :=
  match line.dropWhile (!isDelimiter ·) with
  | [] => none
  | _ :: value =>
    let name := Text.dropTail Text.isSpace (line.takeWhile (!isDelimiter ·))
    some (Text.lower (String.ofList name), String.ofList (Text.strip value))

def isComment (line : List Char) : Bool :=
  line.head? = some '#' || line.head? = some ';'

/-- Reads a line that is neither blank nor a continuation. -/
def readEntry (file : String) (number : Nat) (line : String) (r : Reading) : Except Fault Reading :=
  let value := Text.strip line.toList
  match header? value with
  | some name => r.enter file number name
  | none =>
    if r.place.isNone then .error (.noHeader file number line)
    else
      match option? value with
      | some (name, text) =>
        let r := if name = "" then { r with bad := r.bad ++ [(number, line)] } else r
        r.add file number name text
      | none => .ok { r with bad := r.bad ++ [(number, line)] }

/-- Reads one line, with its line end if it has one. -/
def readLine (file : String) (r : Reading) (numbered : Nat × String) : Except Fault Reading :=
  let (number, line) := numbered
  let value := Text.strip line.toList
  let continuing := r.place.isSome && r.option ≠ ""
  let indent := (line.toList.takeWhile Text.isSpace).length
  if isComment value then .ok r
  else if value.isEmpty then .ok (if continuing then r.extend "" else r)
  else if continuing && r.indent < indent then .ok (r.extend (String.ofList value))
  else readEntry file number line { r with indent }

structure Section where
  name : String
  options : List (String × String)
  deriving DecidableEq, Repr

structure Document where
  defaults : List (String × String)
  sections : List Section
  deriving DecidableEq, Repr

/-- The lines of a value as one text. -/
def valueOf (lines : List String) : String :=
  String.ofList (Text.dropTail Text.isSpace ("\n".intercalate lines).toList)

def closed (options : Options) : List (String × String) :=
  options.map fun o => (o.1, valueOf o.2)

/-- The lines of a text, each with its line end, numbered from one. -/
def numberedLines (text : String) : List (Nat × String) :=
  let lines := Text.linesOf text.toList
  let ended := lines.dropLast.map (· ++ ['\n'])
  let last := (lines.getLast?.filter (!·.isEmpty)).toList
  ((ended ++ last).zipIdx 1).map fun l => (l.2, String.ofList l.1)

/-- Reads a document; `file` is what faults call it. -/
def Document.read (file text : String) : Except Fault Document := do
  let r ← (numberedLines text).foldlM (readLine file) ({} : Reading)
  if r.bad.isEmpty then
    return ⟨closed r.defaults, r.sections.map fun s => ⟨s.1, closed s.2⟩⟩
  else .error (.badLines file r.bad)

def Document.section? (d : Document) (name : String) : Option Section :=
  d.sections.find? (·.name = name)

/-- The value of an option as it is written: that of the section, or the default. -/
def Document.raw? (d : Document) (s : Section) (option : String) : Option String :=
  s.options.lookup option <|> d.defaults.lookup option

end Scrutiny.Ini
