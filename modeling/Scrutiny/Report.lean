import Scrutiny.Check.Groups

/-! The printed report: a line for each finding, a rule and the total.

The name of a check stands in a column of its own, divided from the message by a tab; a name wider than
the column pushes the tab out. -/
namespace Scrutiny.Report

/-- The width of the column of names. -/
def nameWidth : Nat := 40

def ruleWidth : Nat := 50

/-- A text with spaces after it, up to a width. -/
def padded (width : Nat) (text : String) : String :=
  text ++ String.ofList (List.replicate (width - text.length) ' ')

def line (f : Finding) : String :=
  s!"{padded nameWidth f.check}\t{f.message}"

def rule : String :=
  String.ofList (List.replicate ruleWidth '=')

def lines (findings : List Finding) : List String :=
  findings.map line ++ [rule, s!"Total {findings.length} violations"]

def render (findings : List Finding) : String :=
  String.join ((lines findings).map (· ++ "\n"))

end Scrutiny.Report
