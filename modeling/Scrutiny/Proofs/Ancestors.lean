import Scrutiny.Proofs.TreeWalk

/-! What stands above a place.

A place of a tree is the root, or it lies directly below another place of the tree, its parent
(`mem_places_iff_parent`). So what stands above a place are the nodes of the places that lead to it. A walk from the top
asks each node what lies below it, and a climb asks each place what stands above it: the two come to the same pairs
(`exists_above_iff`). -/
namespace Scrutiny.Tree
variable {α : Type} {t : Tree α}

theorem Place.LeadsTo.trans {p q r : Place α} (hpq : p.LeadsTo q) (hqr : q.LeadsTo r) : p.LeadsTo r := by
  induction hpq with
  | here => exact hqr
  | child hbelow _ ih => exact .child hbelow (ih hqr)

/-! ### Parents -/

theorem Place.above_of_below {p q : Place α} (h : q ∈ p.below) : q.above = p.here :: p.above := by
  obtain ⟨child, _, rfl⟩ := List.mem_map.mp h
  rfl

/-- The last step on the way to a place, where `leadsTo_iff` takes the first. -/
theorem Place.leadsTo_iff_last {p r : Place α} : p.LeadsTo r ↔ r = p ∨ ∃ q, p.LeadsTo q ∧ r ∈ q.below := by
  refine ⟨fun h => ?_, fun h => ?_⟩
  · induction h with
    | here => exact .inl rfl
    | child hbelow _ ih =>
      right
      rcases ih with rfl | ⟨q, hq, hr⟩
      · exact ⟨_, .here _, hbelow⟩
      · exact ⟨q, .child hbelow hq, hr⟩
  · rcases h with rfl | ⟨q, hq, hr⟩
    · exact .here _
    · exact hq.trans (.child hr (.here r))

theorem mem_places_iff_parent {r : Place α} : r ∈ t.places ↔ r = ⟨t, []⟩ ∨ ∃ q ∈ t.places, r ∈ q.below := by
  simp only [mem_places_iff]
  exact Place.leadsTo_iff_last

/-- The nearest node above a place is at a place too, with the others above it. -/
theorem parent_mem_places {r : Place α} (hr : r ∈ t.places) {owner : Tree α} {rest : List (Tree α)}
    (habove : r.above = owner :: rest) : ⟨owner, rest⟩ ∈ t.places ∧ r ∈ Place.below ⟨owner, rest⟩ := by
  rcases mem_places_iff_parent.mp hr with rfl | ⟨q, hq, hbelow⟩
  · cases habove
  · rw [Place.above_of_below hbelow] at habove
    obtain ⟨rfl, rfl⟩ := List.cons.inj habove
    exact ⟨hq, hbelow⟩

/-- Only the root has nothing above it. -/
theorem eq_root_of_above {r : Place α} (hr : r ∈ t.places) (habove : r.above = []) : r.here = t := by
  rcases mem_places_iff_parent.mp hr with rfl | ⟨q, _, hbelow⟩
  · rfl
  · rw [Place.above_of_below hbelow] at habove
    cases habove

/-! ### Above and below -/

/-- A way down takes what it passes along. -/
theorem Place.LeadsTo.mem_above {p r : Place α} (h : p.LeadsTo r) {n : Tree α} (hn : n ∈ p.above) : n ∈ r.above := by
  induction h with
  | here => exact hn
  | child hbelow _ ih =>
    apply ih
    rw [Place.above_of_below hbelow]
    exact List.mem_cons_of_mem _ hn

/-- Every node above a place is at a place that leads there. The induction is on what stands above, from the place up.
-/
theorem exists_place_of_above {r : Place α} (hr : r ∈ t.places) {n : Tree α} (hn : n ∈ r.above) :
    ∃ q ∈ t.places, q.here = n ∧ ∃ k ∈ q.below, k.LeadsTo r := by
  obtain ⟨here, above⟩ := r
  induction above generalizing here with
  | nil => cases hn
  | cons owner rest ih =>
    obtain ⟨howner, hbelow⟩ := parent_mem_places hr rfl
    by_cases hfirst : n = owner
    · exact ⟨_, howner, hfirst.symm, _, hbelow, .here _⟩
    · obtain ⟨q, hq, hhere, k, hk, hleads⟩ := ih owner howner (List.mem_of_ne_of_mem hfirst hn)
      exact ⟨q, hq, hhere, k, hk, hleads.trans (.child hbelow (.here _))⟩

theorem occurs_iff {s : Tree α} : Occurs s t ↔ s = t ∨ ∃ first ∈ t.children, Occurs s first := by
  refine ⟨fun h => ?_, fun h => ?_⟩
  · cases h with
    | here => exact .inl rfl
    | child hfirst hrest => exact .inr ⟨_, hfirst, hrest⟩
  · rcases h with rfl | ⟨first, hfirst, hrest⟩
    · exact .here
    · exact .child hfirst hrest

/-- A node stands above a place of some kind just when a node of that kind occurs in one of its children. -/
theorem exists_above_iff {n : Tree α} {P : Tree α → Prop} :
    (∃ r ∈ t.places, P r.here ∧ n ∈ r.above) ↔ Occurs n t ∧ ∃ first ∈ n.children, ∃ s, Occurs s first ∧ P s := by
  refine ⟨fun ⟨r, hr, hP, hn⟩ => ?_, fun ⟨hn, first, hfirst, s, hs, hP⟩ => ?_⟩
  · obtain ⟨q, hq, rfl, k, hk, hleads⟩ := exists_place_of_above hr hn
    obtain ⟨first, hfirst, rfl⟩ := List.mem_map.mp hk
    exact ⟨occurs_of_leadsTo (mem_places_iff.mp hq), first, hfirst, r.here, occurs_of_leadsTo hleads, hP⟩
  · obtain ⟨q, hq, rfl⟩ := leadsTo_of_occurs hn []
    obtain ⟨r, hr, rfl⟩ := leadsTo_of_occurs hs (q.here :: q.above)
    have hbelow : ⟨first, q.here :: q.above⟩ ∈ q.below := List.mem_map.mpr ⟨first, hfirst, rfl⟩
    exact ⟨r, mem_places_iff.mpr (hq.trans (.child hbelow hr)), hP, hr.mem_above List.mem_cons_self⟩

end Scrutiny.Tree
