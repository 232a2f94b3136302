/-! Ordered trees and their breadth-first walk.

A tree is a label over a list of trees. A `Place` is a subtree together with the trees above it, nearest first, so its
parent, its ancestors and its depth are read off it; its address is made of the numbers of the children that lead to it
from the root. `places` visits a tree level by level, each level from left to right: level `k + 1` is made of the
children of level `k` in order, and there are as many levels as the tree is high. -/
namespace Scrutiny

inductive Tree (α : Type) where
  | node (label : α) (children : List (Tree α))

namespace Tree
variable {α : Type}

def label : Tree α → α
  | node a _ => a

def children : Tree α → List (Tree α)
  | node _ ts => ts

mutual

/-- The number of levels. -/
def height : Tree α → Nat
  | node _ ts => heights ts + 1

/-- The number of levels of the highest tree. -/
def heights : List (Tree α) → Nat
  | [] => 0
  | t :: ts => max t.height (heights ts)

end

mutual

/-- The number of nodes. -/
def size : Tree α → Nat
  | node _ ts => sizes ts + 1

def sizes : List (Tree α) → Nat
  | [] => 0
  | t :: ts => t.size + sizes ts

end

/-- A subtree and the trees above it, nearest first. -/
structure Place (α : Type) where
  here : Tree α
  above : List (Tree α)

namespace Place

/-- The places of the children, in order. -/
def below (p : Place α) : List (Place α) :=
  p.here.children.map fun t => ⟨t, p.here :: p.above⟩

def parent? (p : Place α) : Option (Tree α) :=
  p.above.head?

def depth (p : Place α) : Nat :=
  p.above.length

/-- The same subtree with nothing above it. -/
def detached (p : Place α) : Place α :=
  ⟨p.here, []⟩

end Place

/-- The place that an address leads to from another place: each number is that of a child. -/
def Place.follow? (p : Place α) : List Nat → Option (Place α)
  | [] => some p
  | i :: rest => p.below[i]?.bind (·.follow? rest)

/-- The place of a tree at an address. -/
def placeAt? (t : Tree α) (address : List Nat) : Option (Place α) :=
  Place.follow? ⟨t, []⟩ address

/-- The addresses of one depth, from left to right. -/
def addressesAt : Nat → Tree α → List (List Nat)
  | 0, _ => [[]]
  | depth + 1, t => t.children.zipIdx.flatMap fun child => (addressesAt depth child.1).map (child.2 :: ·)

/-- All addresses, level by level. -/
def addresses (t : Tree α) : List (List Nat) :=
  (List.range t.height).flatMap fun depth => t.addressesAt depth

/-- A level and the levels below it, as many as are asked for. -/
def sweep : Nat → List (Place α) → List (Place α)
  | 0, _ => []
  | levels + 1, level => level ++ sweep levels (level.flatMap Place.below)

/-- Every place of a tree, level by level and from left to right. -/
def places (t : Tree α) : List (Place α) :=
  sweep t.height [⟨t, []⟩]

/-- Every subtree, level by level and from left to right. -/
def walk (t : Tree α) : List (Tree α) :=
  t.places.map Place.here

@[simp] theorem label_node (a : α) (ts : List (Tree α)) : (node a ts).label = a := rfl

@[simp] theorem children_node (a : α) (ts : List (Tree α)) : (node a ts).children = ts := rfl

@[simp] theorem Place.here_detached (p : Place α) : p.detached.here = p.here := rfl

end Tree
end Scrutiny
