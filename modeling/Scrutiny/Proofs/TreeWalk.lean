import Scrutiny.Tree

/-! The walk of a tree comes everywhere.

A walk goes through as many levels as the tree is high. A child is lower than its parent, so no level is left when the
walk ends, and its places are those that can be reached from the root by going to children (`mem_places_iff`). Where
only the subtrees count, they are those that occur in the tree (`mem_walk_iff`). -/
namespace Scrutiny.Tree
variable {α : Type}

/-! ### Heights -/

theorem height_pos (t : Tree α) : 0 < t.height := by
  cases t
  simp [height]

theorem height_le_heights {t : Tree α} {ts : List (Tree α)} (h : t ∈ ts) : t.height ≤ heights ts := by
  induction ts with
  | nil => cases h
  | cons first rest ih =>
    rw [heights]
    rcases List.mem_cons.mp h with rfl | h
    · omega
    · have := ih h
      omega

theorem height_lt_of_mem {child t : Tree α} (h : child ∈ t.children) : child.height < t.height := by
  obtain ⟨label, children⟩ := t
  rw [height]
  exact Nat.lt_succ_of_le (height_le_heights h)

/-! ### Places -/

/-- A place that is reached by going to children, any number of times. -/
inductive Place.LeadsTo : Place α → Place α → Prop
  | here (p : Place α) : LeadsTo p p
  | child {p q r : Place α} : q ∈ p.below → LeadsTo q r → LeadsTo p r

theorem Place.leadsTo_iff {p r : Place α} : p.LeadsTo r ↔ r = p ∨ ∃ q ∈ p.below, q.LeadsTo r := by
  constructor
  · intro h
    cases h with
    | here => exact .inl rfl
    | child hq hrest => exact .inr ⟨_, hq, hrest⟩
  · rintro (rfl | ⟨q, hq, hrest⟩)
    · exact .here _
    · exact .child hq hrest

theorem Place.height_lt_of_below {p q : Place α} (h : q ∈ p.below) : q.here.height < p.here.height := by
  obtain ⟨child, hchild, rfl⟩ := List.mem_map.mp h
  exact height_lt_of_mem hchild

/-- Enough levels reach everything below a level. -/
theorem mem_sweep_iff {levels : Nat} {level : List (Place α)} (h : ∀ p ∈ level, p.here.height ≤ levels) {r : Place α} :
    r ∈ sweep levels level ↔ ∃ p ∈ level, p.LeadsTo r := by
  induction levels generalizing level with
  | zero =>
    have hnone : level = [] := List.eq_nil_iff_forall_not_mem.mpr fun p hp =>
      absurd (h p hp) (Nat.not_le_of_lt p.here.height_pos)
    simp [sweep, hnone]
  | succ levels ih =>
    have hnext : ∀ q ∈ level.flatMap Place.below, q.here.height ≤ levels := by
      intro q hq
      obtain ⟨p, hp, hbelow⟩ := List.mem_flatMap.mp hq
      have hless := Place.height_lt_of_below hbelow
      have hheight := h p hp
      omega
    rw [sweep, List.mem_append, ih hnext]
    constructor
    · rintro (hr | ⟨q, hq, hrest⟩)
      · exact ⟨r, hr, .here r⟩
      · obtain ⟨p, hp, hbelow⟩ := List.mem_flatMap.mp hq
        exact ⟨p, hp, .child hbelow hrest⟩
    · rintro ⟨p, hp, hr⟩
      rcases Place.leadsTo_iff.mp hr with rfl | ⟨q, hq, hrest⟩
      · exact .inl hp
      · exact .inr ⟨q, List.mem_flatMap.mpr ⟨p, hp, hq⟩, hrest⟩

/-- The places of a tree are those that the root leads to. -/
theorem mem_places_iff {t : Tree α} {r : Place α} : r ∈ t.places ↔ Place.LeadsTo ⟨t, []⟩ r := by
  have hroot : ∀ p ∈ [(⟨t, []⟩ : Place α)], p.here.height ≤ t.height := by
    intro p hp
    exact Nat.le_of_eq (by rw [List.mem_singleton.mp hp])
  rw [places, mem_sweep_iff hroot]
  simp

/-! ### Subtrees -/

/-- A tree is part of itself and of every tree that has a child of which it is part. -/
inductive Occurs (s : Tree α) : Tree α → Prop
  | here : Occurs s s
  | child {t first : Tree α} : first ∈ t.children → Occurs s first → Occurs s t

theorem occurs_of_leadsTo {p r : Place α} (h : p.LeadsTo r) : Occurs r.here p.here := by
  induction h with
  | here p => exact .here
  | child hbelow _ ih =>
    obtain ⟨first, hfirst, rfl⟩ := List.mem_map.mp hbelow
    exact .child hfirst ih

theorem leadsTo_of_occurs {s t : Tree α} (h : Occurs s t) (above : List (Tree α)) :
    ∃ r, Place.LeadsTo ⟨t, above⟩ r ∧ r.here = s := by
  induction h generalizing above with
  | here => exact ⟨_, .here _, rfl⟩
  | child hfirst _ ih =>
    obtain ⟨r, hr, hhere⟩ := ih (_ :: above)
    exact ⟨r, .child (List.mem_map.mpr ⟨_, hfirst, rfl⟩) hr, hhere⟩

theorem mem_walk_iff {s t : Tree α} : s ∈ t.walk ↔ Occurs s t := by
  rw [walk, List.mem_map]
  constructor
  · rintro ⟨r, hr, rfl⟩
    exact occurs_of_leadsTo (mem_places_iff.mp hr)
  · intro h
    obtain ⟨r, hr, hhere⟩ := leadsTo_of_occurs h []
    exact ⟨r, mem_places_iff.mpr hr, hhere⟩

/-- What some place of the walk holds, some subtree is. -/
theorem exists_place_iff {t : Tree α} {P : Tree α → Prop} : (∃ p ∈ t.places, P p.here) ↔ ∃ s, Occurs s t ∧ P s := by
  simp only [← mem_walk_iff, walk, List.mem_map]
  constructor
  · rintro ⟨p, hp, h⟩
    exact ⟨p.here, ⟨p, hp, rfl⟩, h⟩
  · rintro ⟨_, ⟨p, hp, rfl⟩, h⟩
    exact ⟨p, hp, h⟩

end Scrutiny.Tree
