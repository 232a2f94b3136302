/-! Names in order.

A set of names is gone through in some order, each name once; which order it is, is not said. An `Enumeration` is any
one of them, and sorting by code point is the usual one. -/
namespace Scrutiny.Text

/-- Sorted by code point; equal names stay. -/
def sorted (names : List String) : List String :=
  names.mergeSort fun a b => decide (a ≤ b)

/-- Sorted by code point, each name once. -/
def sortedOnce (names : List String) : List String :=
  (sorted names).eraseDups

/-- How sets of names are gone through: each name once, in an order that may depend on the order in which the names were
put in. -/
structure Enumeration where
  list : List String → List String
  mem_list_iff : ∀ {names : List String} {name : String}, name ∈ list names ↔ name ∈ names
  nodup_list : ∀ names : List String, (list names).Nodup

theorem mem_sortedOnce {name : String} {names : List String} : name ∈ sortedOnce names ↔ name ∈ names := by
  simp [sortedOnce, sorted]

theorem nodup_eraseDups (names : List String) : names.eraseDups.Nodup := by
  match names with
  | [] => simp
  | name :: rest =>
    rw [List.eraseDups_cons, List.nodup_cons]
    exact ⟨by simp, nodup_eraseDups (rest.filter fun other => !other == name)⟩
termination_by names.length
decreasing_by
  have := List.length_filter_le (fun other => !other == name) rest
  simp only [List.length_cons]
  omega

/-- By code point. -/
def Enumeration.sorted : Enumeration where
  list := sortedOnce
  mem_list_iff := mem_sortedOnce
  nodup_list _ := nodup_eraseDups _

end Scrutiny.Text
