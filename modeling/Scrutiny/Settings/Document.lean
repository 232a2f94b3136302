import Scrutiny.Disk.Path
import Scrutiny.Ini.Reference
import Scrutiny.Settings
import Scrutiny.Text.Digit

/-! Settings from a section of a document.

Thirteen parameters can be set there; they are read in a fixed order, and everything else in the section is passed over.
Whole numbers are read as `Text.readInteger` reads them, folders to skip are separated by commas. -/
namespace Scrutiny.Settings

/-- A parameter that a document can set. -/
inductive Entry where
  | readme
  | amount (parameter : Amount)
  | percentage (parameter : Percentage)
  | skip
  deriving DecidableEq, Repr

namespace Entry

def key : Entry → String
  | readme => readmeKey
  | amount parameter => parameter.key
  | percentage parameter => parameter.key
  | skip => Vocabulary.directoriesToSkip.key

/-- The parameters in the order in which they are read. -/
def all : List Entry :=
  [readme, amount .allowedMaxPep8Violations, amount .maxComplexity, amount .minimumNameLength,
   percentage .minPercentOfAnotherLanguage, amount .lastCommitsToCheckAmount, amount .tabSize,
   percentage .functionsWithDocstringsPercentLimit, amount .maxPep8LineLength,
   amount .maxNumberOfLines, amount .maxIndentationLevel, amount .maxNumOfPyFiles, skip]

end Entry

def integer (text : String) : Outcome Int :=
  match Text.readInteger text with
  | .ok n => .ok n
  | .error .malformed => .error (.notInteger text)
  | .error (.tooLong digits) => .error (.tooManyDigits digits)

/-- The change that a text makes to a parameter. -/
def changeOf (text : String) : Entry → Outcome Change
  | .readme => .ok (.readme text)
  | .amount parameter => do return .amount parameter (← integer text)
  | .percentage parameter => do return .percentage parameter (← integer text)
  | .skip => .ok (.vocabulary .directoriesToSkip (.list (Text.cut ',' text)))

/-- The changes that options make, by what is known of each option. -/
def changesFrom (value? : String → Outcome (Option String)) : Outcome (List Change) := do
  let changes ← Entry.all.mapM fun entry => do
    match ← value? entry.key with
    | some text => return [← changeOf text entry]
    | none => return []
  return changes.flatten

/-- The section that holds the settings. -/
def sectionName : String := "fiasko_bro"

def ofFault {α : Type} : Except Ini.Fault α → Outcome α
  | .ok a => .ok a
  | .error fault => .error (.document fault)

/-- The changes that a document makes; none if it has no such section. -/
def changesIn (file text title : String) : Outcome (List Change) := do
  let document ← ofFault (Ini.Document.read file text)
  match document.section? title with
  | none => return []
  | some s => changesFrom fun key => ofFault (document.value? s key)

/-- Why a document that is not UTF-8 cannot be read: for a fault that ends the reading before, or for its encoding. -/
def encodingFailure (path : String) (file : File) : Failure :=
  let start := String.ofList (file.start.flatMap (· ++ ['\n']))
  match Ini.Document.read path start with
  | .error (.badLines ..) => .undecodable
  | .error fault => .document fault
  | .ok _ => .undecodable

/-- The changes that the document at a path makes; none if there is no such file. -/
def changesAt (disk : Disk) (path title : String) : Outcome (List Change) :=
  match disk.openFile path with
  | .ok file =>
    match file.text with
    | .ok text => changesIn path text title
    | .error _ => .error (encodingFailure path file)
  | .error _ => .ok []

end Scrutiny.Settings
