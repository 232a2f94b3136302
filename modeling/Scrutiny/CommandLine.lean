import Scrutiny.Report
import Scrutiny.Review
import Scrutiny.Settings.Document

/-! The command line.

There are three flags: the path of the project, the path of a settings document, and a call for help. A
value stands in the next argument, after `=`, or directly after a short flag. Long flags may be shortened
as long as only one is meant. What is ambiguous is refused before anything is done; after that arguments
count from the first to the last, and of a repeated flag the last value counts. A value that is written like the
separator counts as none. Nothing but flags and their values is expected. -/
namespace Scrutiny.CommandLine

inductive Flag where
  | help
  | path
  | config
  deriving DecidableEq, Repr

namespace Flag

def spellings : List (String × Flag) :=
  [("-h", help), ("--help", help), ("-p", path), ("--path", path), ("--config", config)]

def ofSpelling? (text : String) : Option Flag :=
  spellings.lookup text

/-- The flags with a spelling that starts so. -/
def startingWith (start : String) : List Flag :=
  (spellings.filter fun s => Text.startsWith start s.1).map (·.2)

end Flag

inductive Argument where
  | word (text : String)
  /-- Everything after it is a word. -/
  | separator
  /-- A flag in its long form, with what stands after an equals sign. -/
  | long (flag : Flag) (attached : Option String)
  /-- A flag in its short form, with what stands after an equals sign or directly after it. -/
  | short (flag : Flag) (attached : Option String)
  | unknown
  deriving DecidableEq, Repr

/-- The text of the argument separator. -/
def separatorText : String := "--"

/-- The parts of a text before and after its first equals sign. -/
def splitValue? (text : List Char) : Option (List Char × String) :=
  match text.dropWhile (· ≠ '=') with
  | [] => none
  | _ :: value => some (text.takeWhile (· ≠ '='), String.ofList value)

/-- Whether a text looks like a negative number: digits after the sign, with at most one point, and a digit after it. A
line end after it does not count. -/
def isNegativeNumber (text : List Char) : Bool :=
  match if text.getLast? = some '\n' then text.dropLast else text with
  | '-' :: body =>
    let isDigit := fun c => (Text.digit? c).isSome
    match body.dropWhile isDigit with
    | [] => !body.isEmpty
    | '.' :: rest => !rest.isEmpty && rest.all isDigit
    | _ => false
  | _ => false

def isLong (spelling : List Char) : Bool :=
  "--".toList.isPrefixOf spelling

/-- A flag in the form in which it is spelled. -/
def Argument.ofFlag (spelling : List Char) (flag : Flag) (attached : Option String) : Argument :=
  if isLong spelling then .long flag attached else .short flag attached

/-- A long flag, possibly shortened. -/
def longFlag (name : String) (attached : Option String) (otherwise : Argument) : Outcome Argument :=
  match Flag.startingWith name with
  | [] => .ok otherwise
  | [flag] => .ok (.long flag attached)
  | _ => .error .usage

/-- A short flag with something directly after it. -/
def shortFlag (text : List Char) (otherwise : Argument) : Argument :=
  match text with
  | dash :: letter :: tail =>
    match Flag.ofSpelling? (String.ofList [dash, letter]) with
    | some flag => .short flag (some (String.ofList tail))
    | none => otherwise
  | _ => otherwise

/-- An argument that starts with a dash and is no spelling of a flag. -/
def classifyDashed (text : List Char) : Outcome Argument :=
  let otherwise :=
    if isNegativeNumber text || text.contains ' ' then .word (String.ofList text) else .unknown
  if isLong text then
    match splitValue? text with
    | some (name, value) => longFlag (String.ofList name) (some value) otherwise
    | none => longFlag (String.ofList text) none otherwise
  else .ok (shortFlag text otherwise)

/-- The spelling of a flag before an equals sign. -/
def exactValue? (text : List Char) : Option Argument := do
  let (name, value) ← splitValue? text
  let flag ← Flag.ofSpelling? (String.ofList name)
  return .ofFlag name flag (some value)

def classify (text : String) : Outcome Argument :=
  match text.toList with
  | '-' :: rest =>
    match Flag.ofSpelling? text, exactValue? text.toList with
    | some flag, _ => .ok (.ofFlag text.toList flag none)
    | none, some argument => .ok argument
    | none, none => if rest.isEmpty then .ok (.word text) else classifyDashed text.toList
  | _ => .ok (.word text)

def classifyAll : List String → Outcome (List Argument)
  | [] => .ok []
  | text :: rest =>
    if text = separatorText then .ok (.separator :: rest.map .word)
    else do return (← classify text) :: (← classifyAll rest)

/-- What a command line asks for. -/
structure Options where
  path : Option String := some "."
  config : Option String := none
  deriving DecidableEq, Repr

/-- Sets the value of a flag. -/
def Options.set (o : Options) (value : String) (flag : Flag) : Options :=
  let value? := if value = separatorText then none else some value
  match flag with
  | .path => { o with path := value? }
  | .config => { o with config := value? }
  | .help => o

def startsWithWord : List Argument → Bool
  | .word _ :: _ => true
  | _ => false

/-- What the letters after a short call for help make of it. Each has to be a short flag, up to one that takes a value;
a flag that misses its value and a letter that is no flag come before the help. -/
def helpTail (rest : List Argument) : List Char → Failure
  | [] => .help
  | c :: more =>
    match Flag.ofSpelling? (String.ofList ['-', c]) with
    | some .help => helpTail rest more
    | some _ => if more.isEmpty && !startsWithWord rest then .usage else .help
    | none => .usage

/-- Reads classified arguments; `stray` tells whether there was one that is not expected. A call for help takes no
value. -/
def read (o : Options) (stray : Bool) : List Argument → Outcome Options
  | [] => if stray then .error .usage else .ok o
  | .long .help none :: _ => .error .help
  | .long .help (some _) :: _ => .error .usage
  | .short .help none :: _ => .error .help
  | .short .help (some tail) :: rest =>
    .error (if tail = "" then .usage else helpTail rest tail.toList)
  | .long flag (some value) :: rest => read (o.set value flag) stray rest
  | .short flag (some value) :: rest => read (o.set value flag) stray rest
  | .long flag none :: .word value :: rest => read (o.set value flag) stray rest
  | .short flag none :: .word value :: rest => read (o.set value flag) stray rest
  | .long _ none :: _ => .error .usage
  | .short _ none :: _ => .error .usage
  | _ :: rest => read o true rest

/-- The options that arguments ask for. -/
def parse (arguments : List String) : Outcome Options := do
  read {} false (← classifyAll arguments)

/-- How the command is called. -/
def usageLine : String :=
  "usage: scrutiny [-h] [-p PATH] [--config CONFIG_PATH]\n"

def helpText : String :=
  usageLine ++ "\nStatic code analyser.\n\noptions:\n" ++
    "  -h, --help            show this help message and exit\n" ++
    "  -p PATH, --path PATH\n" ++
    "  --config CONFIG_PATH\n"

/-- The name of the settings document in a project. -/
def documentName : String := "setup.cfg"

/-- The path of the project, which needs a value. -/
def Options.projectPath (o : Options) : Outcome String :=
  match o.path with
  | some path => .ok path
  | none => .error .noPath

/-- The settings document that counts: the one asked for, or else that of the project. -/
def Options.document (o : Options) : Outcome String :=
  match o.config.filter (· ≠ "") with
  | some path => .ok path
  | none => do return Path.join (← o.projectPath) documentName

/-- What a command line prints. -/
def run (disk : Disk) (language : Language) (runtime : Runtime) (arguments : List String) : Outcome String := do
  let options ← parse arguments
  let changes ← Settings.changesAt disk (← options.document) Settings.sectionName
  return Report.render (← review disk { path := ← options.projectPath, changes, language, runtime })

/-- The end of a run: what is printed, what is said of a failure, and the exit code. -/
structure Ending where
  printed : String := ""
  complaint : String := ""
  code : UInt8 := 0

def Ending.ofOutcome : Outcome String → Ending
  | .ok printed => { printed }
  | .error .help => { printed := helpText }
  | .error .usage => { complaint := usageLine, code := 2 }
  | .error failure => { complaint := failure.message?.getD "" ++ "\n", code := 1 }

end Scrutiny.CommandLine
