import Scrutiny.Check.Basic
import Scrutiny.Text.Case

/-! Checks of the history. -/
namespace Scrutiny.Commits

/-- The project has no more commits than the one it started from. -/
def noMoreThanBefore (c : Context) (p : Project) : Outcome (Option String) :=
  match c.base with
  | none => .ok none
  | some base =>
    match p.repository? c.disk, base.repository? c.disk with
    | some mine, some theirs => do
      let now ← mine.countCommits
      let before ← theirs.countCommits
      return if now ≤ before then some "" else none
    | _, _ => .ok none

/-- A commit message without its decoration: in lower case, first without the white space around it,
then without the periods and quotes around it. -/
def undecorated (message : String) : String :=
  String.ofList
    (Text.trim (fun c => c = '.' || c = '\'' || c = '"') (Text.strip (Text.lower message).toList))

/-- The branch whose messages are judged. -/
def mainBranch : String := "master"

/-- The newest message, of those looked at, that says nothing. -/
def emptyMessage (c : Context) (p : Project) : Outcome (Option String) :=
  match p.repository? c.disk with
  | none => .ok none
  | some repository => do
    let messages ← repository.messagesOn mainBranch c.settings.lastCommitsToCheckAmount
    return (messages.map undecorated).find? c.settings.badCommitMessages.has

end Scrutiny.Commits
