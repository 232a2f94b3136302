import Scrutiny.Code.Kind
import Scrutiny.Number.Decimal
import Scrutiny.Tree

/-! Syntax trees.

A node is labelled with its kind, the part it plays in the node above it, its position and its
facts: names, numbers and literals that are not nodes themselves. Its children stand in the order
of the parts of its kind, so the breadth-first walk of `Tree` is the walk of the program text by levels. A
`Walk` is a list of places; a reader that knows only the nodes walks detached places. -/
namespace Scrutiny.Code

/-- The value of a constant. Real and imaginary numbers without a decimal form (infinite ones) carry
no value. -/
inductive Literal where
  | nothing
  | ellipsis
  | truth (value : Bool)
  | text (value : String)
  | bytes (digits : String)
  | integer (value : Int)
  | real (value : Option Number.Decimal)
  | imaginary (value : Option Number.Decimal)
  deriving DecidableEq, Repr

namespace Literal

def isNumber : Literal → Bool
  | integer _ | real _ | imaginary _ => true
  | _ => false

/-- Whether a literal is a number equal to `n`. -/
def isNat (n : Nat) : Literal → Bool
  | integer z => z = n
  | real (some d) => d.value = n
  | imaginary (some d) => n = 0 && d.value = 0
  | _ => false

end Literal

/-- A line, counted from one, and a column, counted from zero in bytes. -/
structure Position where
  line : Nat
  column : Nat
  deriving DecidableEq, Repr

/-- What a node says of itself in one of its parts. -/
inductive Fact where
  | word (value : String)
  | number (value : Int)
  | words (values : List String)
  | literal (value : Literal)
  deriving DecidableEq, Repr

structure Label where
  kind : Kind
  role : Slot
  position : Option Position
  facts : List (Slot × Fact)
  deriving DecidableEq, Repr

abbrev Node := Tree Label

abbrev Place := Tree.Place Label

abbrev Walk := List Place

end Scrutiny.Code

namespace Scrutiny.Tree
open Code

def kind (n : Node) : Kind :=
  n.label.kind

def role (n : Node) : Slot :=
  n.label.role

def line? (n : Node) : Option Nat :=
  n.label.position.map (·.line)

/-- The column of a node; zero for a node without a position. -/
def column (n : Node) : Nat :=
  (n.label.position.map (·.column)).getD 0

/-- The line of a node; zero for a node without a position. -/
def line (n : Node) : Nat :=
  n.line?.getD 0

/-- The children that play a part, in order. -/
def parts (n : Node) (slot : Slot) : List Node :=
  n.children.filter (·.role = slot)

def part? (n : Node) (slot : Slot) : Option Node :=
  n.children.find? (·.role = slot)

def fact? (n : Node) (slot : Slot) : Option Fact :=
  n.label.facts.lookup slot

def word? (n : Node) (slot : Slot) : Option String :=
  match n.fact? slot with
  | some (.word w) => some w
  | _ => none

/-- The name an identifier node stands for. -/
def identifier? (n : Node) : Option String :=
  n.word? .id

def literal? (n : Node) : Option Literal :=
  match n.kind, n.fact? .value with
  | .constant, some (.literal v) => some v
  | _, _ => none

/-- Whether a node is a number. -/
def isNumber (n : Node) : Bool :=
  match n.literal? with
  | some v => v.isNumber
  | none => false

/-- Whether a node is a number equal to `k`. -/
def isNat (n : Node) (k : Nat) : Bool :=
  match n.literal? with
  | some v => v.isNat k
  | none => false

/-- The text of a string literal. -/
def text? (n : Node) : Option String :=
  match n.literal? with
  | some (.text s) => some s
  | _ => none

/-- Whether a node calls a function by a plain name. -/
def callsName (n : Node) (name : String) : Bool :=
  (n.part? .func).bind identifier? = some name

namespace Place

def kind (p : Code.Place) : Kind :=
  p.here.kind

/-- The places of the children that play a part. -/
def parts (p : Code.Place) (slot : Slot) : List Code.Place :=
  p.below.filter (·.here.role = slot)

end Place
end Scrutiny.Tree

namespace Scrutiny.Code

/-- The places of a walk whose node is of one of the kinds. -/
def Walk.ofKinds (walk : Walk) (kinds : List Kind) : List Place :=
  walk.filter fun p => kinds.contains p.kind

/-- The nodes of a walk of one kind. -/
def Walk.nodes (walk : Walk) (kind : Kind) : List Node :=
  (walk.filter (·.kind = kind)).map (·.here)

/-- A statement in the body of a node; a negative number counts from the end. -/
def statement? (n : Node) (number : Int) : Option Node :=
  let body := n.parts .body
  match number with
  | .ofNat k => body[k]?
  | .negSucc k => body.reverse[k]?

/-- The walk of a tree in which no node knows what is above it. -/
def detachedWalk (n : Node) : Walk :=
  n.places.map (·.detached)

end Scrutiny.Code
