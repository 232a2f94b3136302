import Scrutiny.Disk.Pathspec
import Scrutiny.Disk.Revision
import Scrutiny.Failure

/-! The history of a work tree.

One branch with its commit messages, newest first, and the paths that are tracked. -/
namespace Scrutiny

structure Repository where
  branch : String
  /-- Newest first. -/
  messages : List String
  tracked : List String

namespace Repository

def commit (r : Repository) (message : String) : Repository :=
  { r with messages := message :: r.messages }

def countCommits (r : Repository) : Outcome Nat :=
  if r.messages.isEmpty then .error (.noCommits r.branch) else .ok r.messages.length

/-- A limit on the number of commits, as it is stored: at most 64 bits are read, and the lowest 32 of them kept. -/
def storedLimit (limit : Int) : Int :=
  (max (-0x8000000000000000) (min limit 0x7FFFFFFFFFFFFFFF)).bmod 0x100000000

/-- The first so many of a list; all of it for a negative limit. -/
def upTo {α : Type} (limit : Int) (xs : List α) : List α :=
  if limit < 0 then xs else xs.take limit.toNat

/-- A text that can be handed to a command. -/
def argument (text : String) : Outcome String :=
  if text.toList.contains '\x00' then .error .nul else .ok text

/-- The messages that a request asks for, newest first. -/
def messagesOn (r : Repository) (request : String) (limit : Int) : Outcome (List String) := do
  match (History.mk r.branch r.messages.length).span? (← argument request) with
  | some span => .ok (upTo (storedLimit limit) (span.select r.messages))
  | none => .error .unknownRevision

/-- Whether letters are flags that leave the listing of tracked paths as it is: those that change how a line is
written, and `x` with a pattern for paths that are not tracked. -/
def areListingFlags : List Char → Bool
  | [] => true
  | 'x' :: pattern => !pattern.isEmpty
  | c :: rest => "ztvfcs".toList.contains c && areListingFlags rest

/-- Whether an argument is nothing but such flags, or the end of all flags. -/
def isListingFlag (argument : String) : Bool :=
  argument = "--" || areListingFlags (argument.toList.drop 1)

/-- Whether something that a path asks for is tracked. What starts with a dash is a flag for the listing. -/
def tracks (r : Repository) (path : String) : Outcome Bool := do
  let path ← argument path
  if Text.startsWith "-" path && path ≠ "-" then
    if isListingFlag path then .ok (!r.tracked.isEmpty) else .error .outsideRepository
  else
    match Pathspec.parse? path with
    | some s => .ok (r.tracked.any s.covers)
    | none => .error .outsideRepository

end Repository
end Scrutiny
