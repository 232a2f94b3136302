import Scrutiny.Value

/-! Marks on a project and gates on checks.

A project carries one mark, a collection of marks, or none. A gate names the marks a check asks for:
one mark, any of several, or exactly those. Without marks every gate stays shut. -/
namespace Scrutiny

/-- The marks given for a project: one alone, or several. -/
structure Marking where
  one : Option Value := none
  several : Option Value := none

namespace Marking

/-- Both ways of marking at once. -/
def isConflicting (m : Marking) : Bool :=
  m.one.isSome && m.several.isSome

/-- The marks as one collection, if there are any. -/
def marks? (m : Marking) : Option Value :=
  match m.one with
  | some v => match v with
    | .nothing => given m.several
    | v => some (.list [v])
  | none => given m.several
where
  given : Option Value → Option Value
    | some v => if v.isGiven then some v else none
    | none => none

end Marking

inductive Gate where
  | one (mark : Value)
  | any (marks : Value)
  | all (marks : Value)

namespace Gate

/-- Whether one of the wanted marks is in the collection, the first decisive one counting. -/
def anyIn (marks : Value) : List Value → Except Value.Fault Bool
  | [] => .ok false
  | w :: rest => do
    if ← w.isIn marks then return true
    anyIn marks rest

/-- Whether a gate is open to a project with these marks. -/
def opens (gate : Gate) (marks : Value) : Except Value.Fault Bool :=
  match gate with
  | one mark => mark.isIn marks
  | any wanted => do anyIn marks (← wanted.items)
  | all wanted => do
    let xs ← wanted.members
    let ys ← marks.members
    return Value.sameMembers xs ys

/-- Whether a gate lets a project pass. -/
def admits (gate : Gate) (marking : Marking) : Except Value.Fault Bool :=
  match marking.marks? with
  | some marks => gate.opens marks
  | none => .ok false

end Gate
end Scrutiny
