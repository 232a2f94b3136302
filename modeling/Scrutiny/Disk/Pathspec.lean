import Scrutiny.Text.Search
import Scrutiny.Text.Wildcard

/-! Paths of a work tree that are asked for.

A request names a path, which stands for what is at it and below it, or is a wildcard pattern. It may start with a
colon and options: marks directly after the colon, as in `:!path`, or names in parentheses, as in `:(icase,glob)path`. A
request that leads out of the work tree is refused. Paths are compared byte by byte. -/
namespace Scrutiny

/-- The bytes of a text, each as a character. -/
def octets (text : String) : List Char :=
  (text.toList.flatMap String.utf8EncodeChar).map fun b => Char.ofNat b.toNat

structure Pathspec where
  /-- What is asked for is everything else. -/
  exclude : Bool := false
  ignoreCase : Bool := false
  /-- No character is a wildcard. -/
  literal : Bool := false
  /-- Wildcards do not match slashes. -/
  glob : Bool := false
  /-- The path is taken as it is written. -/
  top : Bool := false
  pattern : List Char := []
  deriving DecidableEq, Repr

namespace Pathspec

/-! ### Options -/

/-- The marks that may be options. Those without a meaning are refused. -/
def marks : List Char :=
  "!\"#%&',-/:;<=>@_`~".toList

def readMark? (s : Pathspec) (mark : Char) : Option Pathspec :=
  if mark = '/' then some { s with top := true }
  else if mark = '!' || mark = '^' then some { s with exclude := true }
  else none

/-- Reads marks up to a colon or the path. -/
def readMarks? (s : Pathspec) : List Char → Option (Pathspec × List Char)
  | [] => some (s, [])
  | ':' :: rest => some (s, rest)
  | c :: rest => if c = '^' || marks.contains c then do (← s.readMark? c).readMarks? rest else some (s, c :: rest)

def readName? (s : Pathspec) : String → Option Pathspec
  | "" => some s
  | "top" => some { s with top := true }
  | "literal" => some { s with literal := true }
  | "glob" => some { s with glob := true }
  | "icase" => some { s with ignoreCase := true }
  | "exclude" => some { s with exclude := true }
  | "attr" => some s
  | _ => none

/-- Reads names up to the closing parenthesis. -/
def readNames? (text : List Char) : Option (Pathspec × List Char) := do
  match text.dropWhile (· ≠ ')') with
  | [] => none
  | _ :: rest =>
    let names := Text.cut ',' (String.ofList (text.takeWhile (· ≠ ')')))
    return (← names.foldlM readName? {}, rest)

def readOptions? : List Char → Option (Pathspec × List Char)
  | ':' :: '(' :: rest => readNames? rest
  | ':' :: rest => readMarks? {} rest
  | text => some ({}, text)

/-! ### Paths -/

/-- Takes one component after those found, nearest first; `none` when it leads out. -/
def follow? (found : List String) (part : String) : Option (List String) :=
  if part = "" || part = "." then some found
  else if part = ".." then found.tail?
  else some (part :: found)

/-- The shortest form of a path inside the work tree. A slash at the end is kept, and what ends in a dot component
ends in a slash. -/
def shorten? (path : String) : Option String := do
  let parts := Text.cut '/' path
  let found := (← parts.foldlM follow? []).reverse
  let isOpen := parts.getLast?.any fun part => part = "" || part = "." || part = ".."
  return "/".intercalate found ++ if isOpen && !found.isEmpty then "/" else ""

/-- Reads a request; `none` when it is refused. -/
def parse? (text : String) : Option Pathspec := do
  let (s, rest) ← readOptions? text.toList
  let path := String.ofList rest
  if text = "" || (s.literal && s.glob) then none
  else if s.top then return { s with pattern := octets path }
  else if Text.startsWith "/" path then none
  else return { s with pattern := octets (← shorten? path) }

/-! ### Matching -/

def rules (s : Pathspec) : Text.WildcardRules :=
  { ignoreCase := s.ignoreCase, byFolder := s.glob }

/-- Whether a text starts with another one, as far as case counts. -/
def isStart (s : Pathspec) (start text : List Char) : Bool :=
  (start.map (Text.Wildcard.fold s.rules)).isPrefixOf (text.map (Text.Wildcard.fold s.rules))

/-- Whether a path is the one named, or below it. -/
def isWithin (s : Pathspec) (path : List Char) : Bool :=
  s.isStart s.pattern path &&
    (s.pattern.getLast?.all (· = '/') || (path.drop s.pattern.length).head?.all (· = '/'))

/-- Whether a path matches the pattern: its start up to the first wildcard as it is, the rest as wildcards. -/
def isLike (s : Pathspec) (path : List Char) : Bool :=
  let start := s.pattern.takeWhile (!Text.isWild ·)
  let wild := s.pattern.drop start.length
  !s.literal && !wild.isEmpty && s.isStart start path &&
    Text.isWildcardMatch s.rules wild (path.drop start.length)

/-- Whether a path is asked for. -/
def covers (s : Pathspec) (path : String) : Bool :=
  (s.isWithin (octets path) || s.isLike (octets path)) ≠ s.exclude

end Pathspec
end Scrutiny
