import Scrutiny.Number.Binary
import Scrutiny.Number.Decimal
import Scrutiny.Text.Search

/-! Plain values as they come from outside: nothing, truth, numbers, text, and lists and tables of them.

Equality is by meaning: truth counts as zero and one, and a real number, which has 53 significant binary digits, equals
a whole one of the same size. A text holds the texts that stand in it and consists of its characters; a table holds and
consists of its keys. Every other value is neither searched nor gone through, which is a `Fault`. -/
namespace Scrutiny

inductive Value where
  | nothing
  | truth (value : Bool)
  | integer (value : Int)
  | real (value : Number.Decimal)
  | text (value : String)
  | list (items : List Value)
  /-- The keys are in order, and none is there twice. -/
  | table (entries : List (String × Value))

namespace Value

/-- Why a value cannot be used as a collection; `kind` is the name of the kind of value. -/
inductive Fault where
  | notIterable (kind : String)
  | notSearchable (kind : String)
  | notText (kind : String)
  | unhashable (kind : String)
  deriving DecidableEq, Repr

def Fault.message : Fault → String
  | notIterable kind => s!"'{kind}' object is not iterable"
  | notSearchable kind => s!"argument of type '{kind}' is not iterable"
  | notText kind => s!"'in <string>' requires string as left operand, not {kind}"
  | unhashable kind => s!"unhashable type: '{kind}'"

def kindName : Value → String
  | nothing => "NoneType"
  | truth _ => "bool"
  | integer _ => "int"
  | real _ => "float"
  | text _ => "str"
  | list _ => "list"
  | table _ => "dict"

def number? : Value → Option Rat
  | truth b => some (if b then 1 else 0)
  | integer z => some z
  | real d => some (Number.nearest d.value)
  | _ => none

mutual

/-- Equality by meaning. -/
def same : Value → Value → Bool
  | nothing, nothing => true
  | text s, text t => s = t
  | list xs, list ys => sameAll xs ys
  | table xs, table ys => sameEntries xs ys
  | x, y =>
    match x.number?, y.number? with
    | some a, some b => a = b
    | _, _ => false

def sameAll : List Value → List Value → Bool
  | [], [] => true
  | x :: xs, y :: ys => same x y && sameAll xs ys
  | _, _ => false

def sameEntries : List (String × Value) → List (String × Value) → Bool
  | [], [] => true
  | (k, x) :: xs, (l, y) :: ys => k = l && same x y && sameEntries xs ys
  | _, _ => false

end

/-- Whether a value counts as given: not nothing, not zero, not empty. -/
def isGiven : Value → Bool
  | nothing => false
  | truth b => b
  | integer z => z ≠ 0
  | real d => d.mantissa ≠ 0
  | text s => s ≠ ""
  | list xs => !xs.isEmpty
  | table xs => !xs.isEmpty

/-- Whether a value can be a member of a set or a key. -/
def isHashable : Value → Bool
  | list _ | table _ => false
  | _ => true

def items : Value → Except Fault (List Value)
  | list xs => .ok xs
  | text s => .ok (s.toList.map fun c => text (String.ofList [c]))
  | table xs => .ok (xs.map fun e => text e.1)
  | v => .error (.notIterable v.kindName)

/-- Whether `x` is in the collection `whole`. -/
def isIn (x whole : Value) : Except Fault Bool :=
  match whole with
  | list xs => .ok (xs.any (same x))
  | text t =>
    match x with
    | text s => .ok (Text.hasText s t)
    | _ => .error (.notText x.kindName)
  | table xs =>
    if x.isHashable then .ok (xs.any fun e => same x (text e.1)) else .error (.unhashable x.kindName)
  | v => .error (.notSearchable v.kindName)

/-- The items of a collection that can be a set. -/
def members (v : Value) : Except Fault (List Value) := do
  let xs ← v.items
  match xs.find? (!·.isHashable) with
  | some x => .error (.unhashable x.kindName)
  | none => .ok xs

/-- Whether two lists have the same members. -/
def sameMembers (xs ys : List Value) : Bool :=
  xs.all (fun x => ys.any (same x)) && ys.all (fun y => xs.any (same y))

/-- A list of collections as one list. -/
def joined (v : Value) : Except Fault (List Value) := do
  let parts ← (← v.items).mapM items
  return parts.flatten

end Value
end Scrutiny
