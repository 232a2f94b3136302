import Scrutiny.Code.Kind
import Scrutiny.Ini.Fault
import Scrutiny.Value

/-! Why a review cannot be carried out.

A finding is a result; a `Failure` ends the work. Each cause carries what its message names. A few
causes have no message of their own. -/
namespace Scrutiny

inductive Failure where
  /-- The path given for a project is not a folder. -/
  | notAFolder (path : String)
  /-- A project path that is asked for and has no value. -/
  | noPath
  /-- A project without sources. -/
  | noSources
  | missing (path : String)
  | isFolder (path : String)
  /-- A path that goes on below a file. -/
  | belowFile (path : String)
  /-- A path, or a name in it, that is longer than paths and names may be. -/
  | tooLong (path : String)
  /-- A NUL in a text for the system. -/
  | nul
  /-- A file that is not UTF-8. -/
  | undecodable
  /-- A file that is not Python. -/
  | unparsable
  /-- No readme to judge. -/
  | noReadme
  /-- A question about the syntax tree of a file that has none. -/
  | noTree
  /-- An assigned thing without a plain name. -/
  | unnamed (kind : Code.Kind)
  /-- A node whose surroundings are asked for and not known. -/
  | unplaced (kind : Code.Kind)
  /-- A line that the text does not have. -/
  | noSuchLine
  | noSuchStatement
  /-- A tab size that is out of range. -/
  | tabSize
  /-- A question to a repository that is not there. -/
  | noRepository (question : String)
  | noCommits (branch : String)
  /-- The repository does not know what it is asked about. -/
  | unknownRevision
  | outsideRepository
  | conflictingMarks
  | value (fault : Value.Fault)
  | document (fault : Ini.Fault)
  | notInteger (text : String)
  | tooManyDigits (digits : Nat)
  /-- A check that is run without something it has to be given. -/
  | lacking (check : String) (absent : List String)
  /-- The command line cannot be understood. -/
  | usage
  /-- The command line asks for help. -/
  | help
  deriving DecidableEq, Repr

/-- Names one after the other, the last one after `and`. -/
def enumerated : List String → String
  | [] => ""
  | [a] => a
  | [a, b] => a ++ " and " ++ b
  | names => ", ".intercalate names.dropLast ++ ", and " ++ names.getLast?.getD ""

open Text (quoted) in
def Failure.message? : Failure → Option String
  | notAFolder path => s!"Path \"{path}\" not found or is not a directory."
  | noPath => "expected str, bytes or os.PathLike object, not list"
  | noSources => "not enough values to unpack (expected 2, got 0)"
  | missing path => s!"[Errno 2] No such file or directory: {quoted path}"
  | isFolder path => s!"[Errno 21] Is a directory: {quoted path}"
  | belowFile path => s!"[Errno 20] Not a directory: {quoted path}"
  | tooLong path => s!"[Errno 36] File name too long: {quoted path}"
  | nul => "embedded null byte"
  | undecodable => none
  | unparsable => none
  | noReadme => "expected string or bytes-like object, got 'NoneType'"
  | noTree => "'NoneType' object has no attribute '_fields'"
  | unnamed kind => s!"'{kind.name}' object has no attribute 'id'"
  | unplaced kind => s!"'{kind.name}' object has no attribute 'parent'"
  | noSuchLine => "list index out of range"
  | noSuchStatement => "list index out of range"
  | tabSize => "Python int too large to convert to C int"
  | noRepository question => s!"'NoneType' object has no attribute '{question}'"
  | noCommits branch => s!"Reference at 'refs/heads/{branch}' does not exist"
  | unknownRevision => none
  | outsideRepository => none
  | conflictingMarks => "Please specify either 'token' or 'tokens'"
  | value fault => fault.message
  | document fault => fault.message
  | notInteger text =>
    String.ofList ("invalid literal for int() with base 10: ".toList ++ (quoted text).toList.take 200)
  | tooManyDigits digits =>
    s!"Exceeds the limit ({Text.digitLimit} digits) for integer string conversion: value has " ++
      s!"{digits} digits; use sys.set_int_max_str_digits() to increase the limit"
  | lacking check absent =>
    let amount := absent.length
    let arguments := if amount = 1 then "argument" else "arguments"
    let names := enumerated (absent.map fun name => s!"'{name}'")
    s!"{check}() missing {amount} required positional {arguments}: {names}"
  | usage => "2"
  | help => "0"

/-- The outcome of work that may fail. -/
abbrev Outcome := Except Failure

end Scrutiny
