import Scrutiny.Text.Quoted

/-! What can be wrong with a settings document. -/
namespace Scrutiny.Ini

inductive Fault where
  /-- A line before the first section header. -/
  | noHeader (file : String) (line : Nat) (text : String)
  /-- Lines that are neither headers nor options. -/
  | badLines (file : String) (lines : List (Nat × String))
  | repeatedSection (file : String) (line : Nat) (title : String)
  | repeatedOption (file : String) (line : Nat) (title option : String)
  /-- A percent sign that starts neither a reference nor a doubled percent sign. -/
  | lonePercent (rest : String)
  /-- A reference that is not closed. -/
  | badReference (rest : String)
  | unknownReference (title option key raw : String)
  /-- References that do not end after `depthLimit` steps. -/
  | tooDeep (title option raw : String)
  deriving DecidableEq, Repr

/-- How deep references may be nested. -/
def depthLimit : Nat := 10

/-- A line number in two columns at least. -/
def twoColumns (n : Nat) : String :=
  if n < 10 then s!" {n}" else s!"{n}"

open Text (quoted) in
def Fault.message : Fault → String
  | noHeader file line text =>
    s!"File contains no section headers.\nfile: {quoted file}, line: {line}\n{quoted text}"
  | badLines file lines =>
    s!"Source contains parsing errors: {quoted file}" ++
      String.join (lines.map fun l => s!"\n\t[line {twoColumns l.1}]: {quoted l.2}")
  | repeatedSection file line name =>
    s!"While reading from {quoted file} [line {twoColumns line}]: section {quoted name} already exists"
  | repeatedOption file line name option =>
    s!"While reading from {quoted file} [line {twoColumns line}]: option {quoted option} in section " ++
      s!"{quoted name} already exists"
  | lonePercent rest => s!"'%' must be followed by '%' or '(', found: {quoted rest}"
  | badReference rest => s!"bad interpolation variable reference {quoted rest}"
  | unknownReference name option key raw =>
    s!"Bad value substitution: option {quoted option} in section {quoted name} contains an " ++
      s!"interpolation key {quoted key} which is not a valid option name. Raw value: {quoted raw}"
  | tooDeep name option raw =>
    s!"Recursion limit exceeded in value substitution: option {quoted option} in section " ++
      s!"{quoted name} contains an interpolation key which cannot be substituted in {depthLimit} " ++
      s!"steps. Raw value: {quoted raw}"

end Scrutiny.Ini
