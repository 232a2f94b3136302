import Scrutiny.Review

/-! A project kept under review while its disk changes.

Steps change the disk, load the project anew, or ask something. The sources stay those of the last loading that
succeeded; everything else is asked of the disk as it is. -/
namespace Scrutiny

structure Session where
  disk : Disk
  /-- Where the files of the project are. -/
  root : String
  /-- How the project is called. -/
  path : String
  settings : Settings
  language : Language
  runtime : Runtime
  project : Project

inductive Step where
  | write (path : String) (file : File)
  | delete (path : String)
  | makeFolder (path : String)
  | commit (message : String)
  | reload (skip : Words)
  | check (check : Check)
  | sources (ignored : Words)
  | folders
  | texts (extensions skip : Words)
  | hasRepository
  | countCommits
  | messages (revision : String) (limit : Int)
  | tracks (path : String)
  | hasFile (name : String)
  | fileNamed (name : String)
  | hasFolder (name : String)

/-- What a step answers. -/
inductive Answer where
  | done
  | verdict (verdict : Verdict)
  | sources (sources : List Source)
  | names (names : List String)
  | texts (texts : List (String × String))
  | truth (value : Bool)
  | count (value : Nat)
  | text (value : Option String)

namespace Session

/-- Starts with a project that can be loaded. -/
def start (disk : Disk) (root path : String) (settings : Settings) (language : Language) (runtime : Runtime)
    (skip : Words) : Outcome Session := do
  return { disk, root, path, settings, language, runtime, project := ← Project.load disk path skip }

def context (s : Session) : Context :=
  { disk := s.disk, path := s.path, settings := s.settings, language := s.language, runtime := s.runtime,
    project := some s.project }

/-- A path below the root. -/
def below (s : Session) (path : String) : String :=
  s.root ++ "/" ++ path

/-- What a question answers; the session stays as it is. -/
def answer (s : Session) : Step → Outcome Answer
  | .check check => do return .verdict (← check.run s.context)
  | .sources ignored => .ok (.sources (s.project.sourcesOutside ignored))
  | .folders => .ok (.names (s.project.folders s.disk))
  | .texts extensions skip => do return .texts (← s.disk.textsWith extensions skip s.path)
  | .hasRepository => .ok (.truth (s.project.repository? s.disk).isSome)
  | .countCommits => do
    return .count (← (← s.project.repository s.disk "count_commits").countCommits)
  | .messages revision limit => do
    return .names (← (← s.project.repository s.disk "iter_commits").messagesOn revision limit)
  | .tracks path => do
    return .truth (← (← s.project.repository s.disk "is_tracked_directory").tracks path)
  | .hasFile name => .ok (.truth (s.project.hasFile s.disk name))
  | .fileNamed name => do return .text (← s.project.fileNamed s.disk name)
  | .hasFolder name => .ok (.truth (s.project.hasFolder s.disk name))
  | _ => .ok .done

/-- Takes one step. -/
def step (s : Session) : Step → Session × Outcome Answer
  | .write path file => ({ s with disk := s.disk.write (s.below path) file }, .ok .done)
  | .delete path => ({ s with disk := s.disk.delete (s.below path) }, .ok .done)
  | .makeFolder path => ({ s with disk := s.disk.makeFolder (s.below path) }, .ok .done)
  | .commit message =>
    ({ s with disk := s.disk.changeRepository s.root (·.map (·.commit message)) }, .ok .done)
  | .reload skip =>
    match Project.load s.disk s.path skip with
    | .ok project => ({ s with project }, .ok .done)
    | .error failure => (s, .error failure)
  | question => (s, s.answer question)

/-- Takes steps in order and gathers what they answer. -/
def steps (s : Session) : List Step → List (Outcome Answer)
  | [] => []
  | step :: rest => (s.step step).2 :: (s.step step).1.steps rest

end Session
end Scrutiny
