import Scrutiny.Text.Search

/-! Names of commits, in a history of one branch.

Commits are numbered from the newest on, which is commit zero, and every commit but the last has the next one as its
only parent. A commit is named by the branch or `HEAD`, followed by steps towards its ancestors: `~n` goes back
`n` commits, `^n` to the parent of that number. A request names one commit and means it with all its ancestors, or
names two, as in `a..b`, and leaves out what both have in common. -/
namespace Scrutiny

/-- The commits from one number on up to another one, which is left out. -/
structure Span where
  first : Nat
  stop : Nat
  deriving DecidableEq, Repr

def Span.select {α : Type} (s : Span) (commits : List α) : List α :=
  (commits.take s.stop).drop s.first

/-- What names of commits are about. -/
structure History where
  branch : String
  /-- The number of commits. -/
  size : Nat

namespace History

/-- The names of the newest commit. -/
def names (h : History) : List String :=
  ["HEAD", "@", h.branch, "heads/" ++ h.branch, "refs/heads/" ++ h.branch]

def isMark (c : Char) : Bool :=
  c = '~' || c = '^'

/-- The steps in a text, each with its mark and what follows it. -/
def steps (text : List Char) : List (Char × List Char) :=
  (text.foldl add []).reverse
where
  add (found : List (Char × List Char)) (c : Char) : List (Char × List Char) :=
    if isMark c then (c, []) :: found else found.modifyHead fun s => (s.1, s.2 ++ [c])

/-- The number that digits mean; one if there are none. -/
def number? (digits : List Char) : Option Nat :=
  if digits.all Char.isDigit then
    some (if digits.isEmpty then 1 else digits.foldl (fun n c => 10 * n + (c.toNat - '0'.toNat)) 0)
  else none

/-- Notes in braces that a commit meets as it is. -/
def notes : List String :=
  ["\x7b\x7d", "\x7bcommit\x7d", "\x7bobject\x7d"]

/-- How many commits a step goes back. -/
def distance? : Char × List Char → Option Nat
  | ('~', digits) => number? digits
  | (_, rest) =>
    if notes.contains (String.ofList rest) then some 0 else (number? rest).filter (· ≤ 1)

/-- The number of the commit of a name. -/
def commit? (h : History) (text : List Char) : Option Nat := do
  let name := String.ofList (text.takeWhile (!isMark ·))
  let distances ← (steps (text.dropWhile (!isMark ·))).mapM distance?
  let distance := distances.foldr (· + ·) 0
  if h.names.contains name && distance < h.size then some distance else none

/-- A text up to the first two dots, and what follows them. -/
def splitRange? : List Char → Option (List Char × List Char)
  | '.' :: '.' :: rest => some ([], rest)
  | c :: rest => do
    let (before, after) ← splitRange? rest
    return (c :: before, after)
  | [] => none

/-- One side of a range. A side that is left out is the newest commit. -/
def side? (h : History) (text : List Char) : Option Nat :=
  h.commit? (if text.isEmpty then "HEAD".toList else text)

/-- The commits of `b` that are not of `a`, for `a..b`; with three dots those of one side alone. -/
def range? (h : History) (before after : List Char) : Option Span := do
  let a ← h.side? before
  match after with
  | '.' :: after => do
    let b ← h.side? after
    return ⟨min a b, max a b⟩
  | after => return ⟨← h.side? after, a⟩

/-- A text without its last two characters. -/
def stem (text : List Char) : List Char :=
  text.take (text.length - 2)

/-- A commit with its ancestors, its ancestors alone, or the commit alone. -/
def plain? (h : History) (text : List Char) : Option Span := do
  if "^@".toList.isSuffixOf text then return ⟨(← h.commit? (stem text)) + 1, h.size⟩
  else if "^!".toList.isSuffixOf text then
    let n ← h.commit? (stem text)
    return ⟨n, n + 1⟩
  else if "^-".toList.isSuffixOf text then
    let n ← h.commit? (stem text)
    if n + 1 < h.size then return ⟨n, n + 1⟩ else none
  else return ⟨← h.commit? text, h.size⟩

/-- What one name asks for. With the mark of an exclusion it asks for nothing. -/
def single? (h : History) (text : List Char) : Option Span := do
  match text with
  | '^' :: rest =>
    let _ ← h.plain? rest
    return ⟨0, 0⟩
  | _ => h.plain? text

/-- The commits that a request asks for; `none` when it names a commit that is not there. -/
def span? (h : History) (request : String) : Option Span :=
  if request = "--all" || request = "--branches" then some ⟨0, h.size⟩
  else if request = "--tags" || request = "--remotes" then some ⟨0, 0⟩
  else
    match splitRange? request.toList with
    | some (before, after) => h.range? before after
    | none => h.single? request.toList

end History
end Scrutiny
