import Scrutiny.Code.Definition

/-! Links from nodes to their parents.

One walk of a program writes down, at each node it meets, that the node is the parent of its children; the programs of a
project are walked one after another. A node is an object of its own, but for operators and usages: all nodes of one
such kind, in whatever program, are one object, and of the parents that are written down for it the last one stays.

A climb follows the links until it finds a definition. It ends at an object without a parent. -/
namespace Scrutiny.Code

/-- Whether nodes of a kind are one object. -/
def Kind.isShared : Kind → Bool
  | operator _ | usage _ => true
  | _ => false

/-- Whether a node is an object that it shares with others. A node that has children is one of its own. -/
def isShared (n : Node) : Bool :=
  n.kind.isShared && n.children.isEmpty

/-- An object: a node of its own, known by the number of its program and its address there, or the nodes of a kind. -/
inductive Object where
  | own (program : Nat) (address : List Nat)
  | shared (kind : Kind)
  deriving DecidableEq, Repr

/-- The object of a node that stands at an address of a program. -/
def objectOf (program : Nat) (address : List Nat) (n : Node) : Object :=
  if isShared n then .shared n.kind else .own program address

/-- The place of a node of its own. -/
def Object.place? (programs : List Node) : Object → Option Place
  | own program address => programs[program]?.bind (·.placeAt? address)
  | shared _ => none

/-- The parent that is written down for an object. -/
abbrev Links := Object → Option Object

namespace Links

/-- Writes down the parent of a child. -/
def write (links : Links) (child parent : Object) : Links :=
  fun object => if object = child then some parent else links object

/-- What is written down at the node of an address: each child of it, and that it is the parent. -/
def adoptions (program : Nat) (t : Node) (address : List Nat) : List (Object × Object) :=
  match t.placeAt? address with
  | some p =>
    p.here.children.zipIdx.map fun child =>
      (objectOf program (address ++ [child.2]) child.1, .own program address)
  | none => []

/-- What is written down in the walks of some programs. The walk meets the addresses of a program level by level. -/
def adopted (programs : List Node) : List (Object × Object) :=
  programs.zipIdx.flatMap fun program => program.1.addresses.flatMap (adoptions program.2 program.1)

/-- The links that are there once all is written down. -/
def ofPrograms (programs : List Node) : Links :=
  (adopted programs).foldl (fun links adoption => links.write adoption.1 adoption.2) fun _ => none

/-- The object that is reached from another by following the links so many times, if they lead that far. -/
def follow (links : Links) : Nat → Object → Option Object
  | 0, object => some object
  | steps + 1, object => (links object).bind (links.follow steps)

end Links

/-- A climb from an object, which ends with what is found, or with nothing. -/
inductive Climb where
  | under (object : Object)
  | ended (found : Option Object)
  deriving DecidableEq, Repr

/-- One turn of the climb: at an object without a parent nothing is found, a definition is found, and from any other the
climb goes on to its parent. What is shared is no definition. -/
def Climb.turn (programs : List Node) : Climb → Climb
  | under object =>
    match Links.ofPrograms programs object with
    | none => ended none
    | some parent =>
      if (object.place? programs).any (isDefinition ·.here) then ended (some object) else under parent
  | ended found => ended found

end Scrutiny.Code
