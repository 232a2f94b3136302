import Scrutiny.CommandLine
import Scrutiny.Disk.Snapshot
import Scrutiny.Language.Locale

/-! The command. It reads a snapshot of the disk from standard input and prints the report. -/
namespace Scrutiny

/-- The language that the environment asks for. -/
def wantedLanguage : IO Language := do
  let setting := fun name => do return (← IO.getEnv name).getD ""
  return .ofEnvironment
    ⟨← setting "LANGUAGE", ← setting "LC_ALL", ← setting "LC_MESSAGES", ← setting "LANG"⟩

/-- Runs the command and gives its exit code. -/
def runCommand (arguments : List String) : IO UInt32 := do
  let input ← (← IO.getStdin).readToEnd
  match Snapshot.read? input with
  | none =>
    (← IO.getStderr).putStr "the snapshot cannot be read\n"
    return 1
  | some disk =>
    let ending := CommandLine.Ending.ofOutcome (CommandLine.run disk (← wantedLanguage) {} arguments)
    (← IO.getStdout).putStr ending.printed
    (← IO.getStderr).putStr ending.complaint
    return ending.code.toUInt32

end Scrutiny

def main (arguments : List String) : IO UInt32 :=
  Scrutiny.runCommand arguments
