import Mathlib.Data.List.DropRight
import Mathlib.Logic.Function.Iterate
import Scrutiny.Code.Links
import Scrutiny.Proofs.LevelOrder

/-! Where links to parents lead.

Of the parents that are written down for an object the last one stays (`ofPrograms_eq_some_iff`). For a node of its own
only one is written down, the one of which it is a child (`ofPrograms_concat`), whatever else is written in its program
or in others. So a climb from there drops the last number of an address with each step and comes to the root in as many
steps as the node is deep (`follow_eq`), a loop that climbs until it finds something ends (`turns_under`), and what a
place carries above it is what the links lead to (`ancestor?_eq`).

An object that nodes share goes with the node that was met last (`shared_node_is_where_it_was_last`): from elsewhere, a
climb through it leads away. -/
namespace Scrutiny.Tree
variable {α : Type}

/-! ### Addresses of parents and children -/

theorem Place.follow?_append (p : Place α) (address rest : List Nat) :
    p.follow? (address ++ rest) = (p.follow? address).bind (·.follow? rest) := by
  induction address generalizing p with
  | nil => rfl
  | cons i address ih =>
    rw [List.cons_append, follow?, follow?, Option.bind_assoc]
    exact Option.bind_congr fun child _ => ih child

theorem placeAt?_concat (t : Tree α) (parent : List Nat) (i : Nat) :
    t.placeAt? (parent ++ [i]) = (t.placeAt? parent).bind (·.below[i]?) := by
  rw [placeAt?, Place.follow?_append]
  refine Option.bind_congr fun q _ => ?_
  cases hbelow : q.below[i]? with
  | none => rw [Place.follow?, hbelow, Option.bind_none]
  | some child => rw [Place.follow?, hbelow, Option.bind_some, Place.follow?]

/-- A place other than the root lies below the place at the rest of its address. -/
theorem exists_parent {t : Tree α} {parent : List Nat} {i : Nat} {p : Place α}
    (h : t.placeAt? (parent ++ [i]) = some p) :
    ∃ q, t.placeAt? parent = some q ∧ q.below[i]? = some p ∧ p.above = q.here :: q.above := by
  rw [placeAt?_concat] at h
  obtain ⟨q, hq, hbelow⟩ := Option.bind_eq_some_iff.mp h
  exact ⟨q, hq, hbelow, Place.above_of_below (List.mem_of_getElem? hbelow)⟩

theorem depth_of_placeAt? {t : Tree α} {address : List Nat} {p : Place α} (h : t.placeAt? address = some p) :
    p.depth = address.length := by
  have hdepth := Place.depth_of_follow? h
  rwa [show Place.depth (⟨t, []⟩ : Place α) = 0 from rfl, Nat.zero_add] at hdepth

/-! ### Ancestors -/

/-- The place that lies so many steps above the one at an address. -/
def ancestor? (t : Tree α) (address : List Nat) (steps : Nat) : Option (Place α) :=
  if steps ≤ address.length then t.placeAt? (address.rdrop steps) else none

theorem ancestor?_zero (t : Tree α) (address : List Nat) : t.ancestor? address 0 = t.placeAt? address := by
  rw [ancestor?, if_pos (Nat.zero_le _), List.rdrop_zero]

theorem ancestor?_concat_succ (t : Tree α) (parent : List Nat) (i steps : Nat) :
    t.ancestor? (parent ++ [i]) (steps + 1) = t.ancestor? parent steps := by
  rw [ancestor?, ancestor?, List.rdrop_concat_succ, List.length_append, List.length_singleton]
  simp only [Nat.add_le_add_iff_right]

/-- What a place carries above it lies above its address. The induction is on the address, from its end. -/
theorem ancestor?_eq {t : Tree α} {address : List Nat} {p : Place α} (h : t.placeAt? address = some p) (steps : Nat) :
    (t.ancestor? address steps).map Place.here = (p.here :: p.above)[steps]? := by
  induction address using List.reverseRecOn generalizing p steps with
  | nil =>
    cases h
    cases steps with
    | zero => rfl
    | succ steps => rfl
  | append_singleton parent i ih =>
    cases steps with
    | zero =>
      rw [ancestor?_zero, h]
      rfl
    | succ steps =>
      obtain ⟨q, hq, _, habove⟩ := exists_parent h
      rw [ancestor?_concat_succ, List.getElem?_cons_succ, habove]
      exact ih hq steps

/-- The nearest wanted node of those that lie `first` steps or more above an address. -/
structure IsNearest (t : Tree α) (wanted : Tree α → Prop) (address : List Nat) (first steps : Nat) (n : Tree α) :
    Prop where
  first_le : first ≤ steps
  reached : (t.ancestor? address steps).map Place.here = some n
  is_wanted : wanted n
  nearer : ∀ k, first ≤ k → k < steps → ∀ m, (t.ancestor? address k).map Place.here = some m → ¬ wanted m

section Nearest
variable {t : Tree α} {wanted : Tree α → Bool} {address : List Nat} {p : Place α}

end Nearest

end Scrutiny.Tree

namespace Scrutiny.Code
open Scrutiny.Tree

/-! ### What is written down -/

/-- A node that has children is an object of its own. -/
theorem isShared_of_below {q p : Place} {i : Nat} (h : q.below[i]? = some p) : isShared q.here = false := by
  have hchildren : q.here.children ≠ [] := by
    intro hnone
    rw [Place.below, hnone] at h
    cases h
  simp [isShared, hchildren]

theorem isDefinition_of_isShared {n : Node} (h : isShared n = true) : isDefinition n = false := by
  rw [Bool.eq_false_iff]
  intro hdefinition
  rw [isDefinition, Bool.or_eq_true, decide_eq_true_eq, decide_eq_true_eq] at hdefinition
  rcases hdefinition with hkind | hkind
  · simp [isShared, hkind, Kind.isShared] at h
  · simp [isShared, hkind, Kind.isShared] at h

theorem objectOf_eq_own_iff {program k : Nat} {address other : List Nat} {n : Node} :
    objectOf k other n = .own program address ↔ isShared n = false ∧ k = program ∧ other = address := by
  unfold objectOf
  split
  · next hshared => simp [hshared]
  · next hshared => simp [hshared]

theorem objectOf_eq_shared_iff {kind : Kind} {k : Nat} {address : List Nat} {n : Node} :
    objectOf k address n = .shared kind ↔ isShared n = true ∧ n.kind = kind := by
  unfold objectOf
  split
  · next hshared => simp [hshared]
  · next hshared => simp [hshared]

namespace Links

theorem mem_adoptions_iff {k : Nat} {t : Node} {address : List Nat} {child parent : Object} :
    (child, parent) ∈ adoptions k t address ↔
      ∃ i p, t.placeAt? (address ++ [i]) = some p ∧ child = objectOf k (address ++ [i]) p.here ∧
        parent = .own k address := by
  rw [adoptions]
  constructor
  · intro hmem
    cases hq : t.placeAt? address with
    | none =>
      rw [hq] at hmem
      cases hmem
    | some q =>
      rw [hq] at hmem
      obtain ⟨⟨n, i⟩, hn, hpair⟩ := List.mem_map.mp hmem
      cases hpair
      refine ⟨i, ⟨n, q.here :: q.above⟩, ?_, rfl, rfl⟩
      rw [placeAt?_concat, hq, Option.bind_some, Place.below, List.getElem?_map, List.mem_zipIdx_iff_getElem?.mp hn]
      rfl
  · intro hplace
    obtain ⟨i, p, hp, hchild, hparent⟩ := hplace
    obtain ⟨q, hq, hbelow, _⟩ := exists_parent hp
    rw [Place.below, List.getElem?_map] at hbelow
    obtain ⟨n, hn, rfl⟩ := Option.map_eq_some_iff.mp hbelow
    rw [hq, hchild, hparent]
    exact List.mem_map.mpr ⟨(n, i), List.mem_zipIdx_iff_getElem?.mpr hn, rfl⟩

theorem mem_adopted_iff {programs : List Node} {child parent : Object} :
    (child, parent) ∈ adopted programs ↔
      ∃ k t address i p, programs[k]? = some t ∧ t.placeAt? (address ++ [i]) = some p ∧
        child = objectOf k (address ++ [i]) p.here ∧ parent = .own k address := by
  rw [adopted, List.mem_flatMap]
  constructor
  · intro ⟨⟨t, k⟩, ht, hmem⟩
    obtain ⟨address, _, hadoption⟩ := List.mem_flatMap.mp hmem
    obtain ⟨i, p, hp, hchild, hparent⟩ := mem_adoptions_iff.mp hadoption
    exact ⟨k, t, address, i, p, List.mem_zipIdx_iff_getElem?.mp ht, hp, hchild, hparent⟩
  · intro ⟨k, t, address, i, p, ht, hp, hchild, hparent⟩
    obtain ⟨q, hq, _⟩ := exists_parent hp
    refine ⟨(t, k), List.mem_zipIdx_iff_getElem?.mpr ht,
      List.mem_flatMap.mpr ⟨address, mem_addresses_iff.mpr ⟨q, hq⟩, ?_⟩⟩
    exact mem_adoptions_iff.mpr ⟨i, p, hp, hchild, hparent⟩

/-! ### What stays -/

/-- The induction is on what was written down before. -/
theorem written_eq (written : List (Object × Object)) (links : Links) (object : Object) :
    written.foldl (fun links adoption => links.write adoption.1 adoption.2) links object =
      ((written.reverse.find? (·.1 = object)).map (·.2)).or (links object) := by
  induction written using List.reverseRecOn with
  | nil => rfl
  | append_singleton before last ih =>
    rw [List.foldl_append, List.reverse_append, List.foldl_cons, List.foldl_nil, List.reverse_singleton,
      List.singleton_append, List.find?_cons, write]
    by_cases hlast : last.1 = object
    · rw [if_pos hlast.symm]
      simp [hlast]
    · rw [if_neg (Ne.symm hlast), ih]
      simp [hlast]

theorem ofPrograms_eq (programs : List Node) (object : Object) :
    ofPrograms programs object = ((adopted programs).reverse.find? (·.1 = object)).map (·.2) := by
  rw [ofPrograms, written_eq, Option.or_none]

/-- The parent of an object is the one that was written down last. -/
theorem ofPrograms_eq_some_iff {programs : List Node} {object parent : Object} :
    ofPrograms programs object = some parent ↔
      ∃ before after, adopted programs = before ++ (object, parent) :: after ∧ ∀ later ∈ after, later.1 ≠ object := by
  rw [ofPrograms_eq, Option.map_eq_some_iff]
  constructor
  · intro ⟨⟨child, written⟩, hfind, hparent⟩
    obtain ⟨hchild, after, before, hsplit, hafter⟩ := List.find?_eq_some_iff_append.mp hfind
    have hchild : child = object := of_decide_eq_true hchild
    cases hparent
    refine ⟨before.reverse, after.reverse, ?_, fun later hlater => ?_⟩
    · rw [← List.reverse_inj, hsplit, hchild]
      simp
    · simpa using hafter later (List.mem_reverse.mp hlater)
  · intro ⟨before, after, hsplit, hafter⟩
    refine ⟨(object, parent), List.find?_eq_some_iff_append.mpr ⟨by simp, after.reverse, before.reverse, ?_, ?_⟩, rfl⟩
    · rw [hsplit]
      simp
    · intro later hlater
      simpa using hafter later (List.mem_reverse.mp hlater)

theorem mem_adopted_of_ofPrograms {programs : List Node} {object parent : Object}
    (h : ofPrograms programs object = some parent) : (object, parent) ∈ adopted programs := by
  obtain ⟨before, after, hsplit, _⟩ := ofPrograms_eq_some_iff.mp h
  rw [hsplit]
  exact List.mem_append_right _ List.mem_cons_self

theorem ofPrograms_root (programs : List Node) (k : Nat) : ofPrograms programs (.own k []) = none := by
  rw [Option.eq_none_iff_forall_ne_some]
  intro parent hparent
  obtain ⟨k', t, address, i, p, _, _, hchild, _⟩ := mem_adopted_iff.mp (mem_adopted_of_ofPrograms hparent)
  exact absurd (objectOf_eq_own_iff.mp hchild.symm).2.2 (by simp)

/-- A node of its own is linked to the one of which it is a child. -/
theorem ofPrograms_concat {programs : List Node} {k : Nat} {t : Node} {address : List Nat} {i : Nat} {p : Place}
    (ht : programs[k]? = some t) (hp : t.placeAt? (address ++ [i]) = some p) (hown : isShared p.here = false) :
    ofPrograms programs (.own k (address ++ [i])) = some (.own k address) := by
  have hobject : objectOf k (address ++ [i]) p.here = .own k (address ++ [i]) :=
    objectOf_eq_own_iff.mpr ⟨hown, rfl, rfl⟩
  have hmem : (Object.own k (address ++ [i]), Object.own k address) ∈ adopted programs :=
    mem_adopted_iff.mpr ⟨k, t, address, i, p, ht, hp, hobject.symm, rfl⟩
  cases hlink : ofPrograms programs (.own k (address ++ [i])) with
  | none =>
    rw [ofPrograms_eq, Option.map_eq_none_iff, List.find?_eq_none] at hlink
    exact absurd (hlink _ (List.mem_reverse.mpr hmem)) (by simp)
  | some parent =>
    obtain ⟨k', _, address', i', _, _, _, hchild, hparent⟩ := mem_adopted_iff.mp (mem_adopted_of_ofPrograms hlink)
    obtain ⟨_, hprogram, haddress⟩ := objectOf_eq_own_iff.mp hchild.symm
    rw [hparent, hprogram, (List.append_inj' haddress rfl).1]

end Links

/-! ### Following the links -/

section Own
variable {programs : List Node} {k : Nat} {t : Node} {address : List Nat} {p : Place}

theorem Object.place?_own (ht : programs[k]? = some t) (address : List Nat) :
    (Object.own k address).place? programs = t.placeAt? address := by
  rw [place?, ht, Option.bind_some]

/-- Each step drops the last number of the address. -/
theorem follow_eq (ht : programs[k]? = some t) (hp : t.placeAt? address = some p) (hown : isShared p.here = false)
    (steps : Nat) :
    (Links.ofPrograms programs).follow steps (.own k address) =
      if steps ≤ address.length then some (.own k (address.rdrop steps)) else none := by
  induction address using List.reverseRecOn generalizing p steps with
  | nil =>
    cases steps with
    | zero => rfl
    | succ steps =>
      have hlong : ¬ steps + 1 ≤ ([] : List Nat).length := Nat.not_succ_le_zero steps
      rw [Links.follow, Links.ofPrograms_root, Option.bind_none, if_neg hlong]
  | append_singleton parent i ih =>
    cases steps with
    | zero => rw [if_pos (Nat.zero_le _), List.rdrop_zero]; rfl
    | succ steps =>
      obtain ⟨q, hq, hbelow, _⟩ := exists_parent hp
      rw [Links.follow, Links.ofPrograms_concat ht hp hown, Option.bind_some, ih hq (isShared_of_below hbelow),
        List.rdrop_concat_succ, List.length_append, List.length_singleton]
      simp only [Nat.add_le_add_iff_right]

end Own

/-! ### Climbing by a loop -/

/-- A climb that has ended stays where it is. -/
theorem Climb.turns_of_ended {programs : List Node} {climb : Climb} {found : Option Object}
    (h : climb.turn programs = .ended found) {n : Nat} (hn : 0 < n) :
    (Climb.turn programs)^[n] climb = .ended found := by
  obtain ⟨more, rfl⟩ := Nat.exists_eq_add_one_of_ne_zero (Nat.ne_of_gt hn)
  rw [Function.iterate_succ_apply, h]
  exact Function.iterate_fixed rfl more

/-- A climb that goes on to another one ends a turn after it, with the same. -/
theorem Climb.turns_of_turn {programs : List Node} {climb next : Climb} {found : Option Object} {turns n : Nat}
    (h : climb.turn programs = next) (hends : ∀ n, turns < n → (Climb.turn programs)^[n] next = .ended found)
    (hn : turns + 1 < n) : (Climb.turn programs)^[n] climb = .ended found := by
  obtain ⟨more, rfl⟩ := Nat.exists_eq_add_one_of_ne_zero (Nat.ne_zero_of_lt hn)
  rw [Function.iterate_succ_apply, h, hends more (Nat.lt_of_succ_lt_succ hn)]

/-- The nearest definition is that of the parent, unless the node is one itself. -/
theorem closestDefinition?_of_above {p q : Place} (h : p.above = q.here :: q.above) :
    closestDefinition? p = if isDefinition p.here then some p.here else closestDefinition? q := by
  rw [closestDefinition?, h, List.dropLast_cons_of_ne_nil (List.cons_ne_nil _ _), List.find?_cons]
  cases isDefinition p.here <;> rfl

/-- The loop ends after as many turns as the node is deep, and one more. It finds the first definition among the node
and what is above it, the root left out. -/
theorem turns_under {programs : List Node} {k : Nat} {t : Node} {address : List Nat} {p : Place}
    (ht : programs[k]? = some t) (hp : t.placeAt? address = some p) (hown : isShared p.here = false) :
    ∃ found, (∀ n, address.length < n → (Climb.turn programs)^[n] (.under (.own k address)) = .ended found) ∧
      (found.bind (·.place? programs)).map Place.here = closestDefinition? p := by
  induction address using List.reverseRecOn generalizing p with
  | nil =>
    cases hp
    have hturn : Climb.turn programs (.under (.own k [])) = .ended none := by
      rw [Climb.turn, Links.ofPrograms_root]
    exact ⟨none, fun n hn => Climb.turns_of_ended hturn hn, rfl⟩
  | append_singleton parent i ih =>
    obtain ⟨q, hq, hbelow, habove⟩ := exists_parent hp
    have hturn : Climb.turn programs (.under (.own k (parent ++ [i]))) =
        if isDefinition p.here then .ended (some (.own k (parent ++ [i]))) else .under (.own k parent) := by
      rw [Climb.turn, Links.ofPrograms_concat ht hp hown, Object.place?_own ht, hp, Option.any_some]
    rw [closestDefinition?_of_above habove]
    by_cases hwanted : isDefinition p.here = true
    · rw [if_pos hwanted] at hturn ⊢
      refine ⟨some (.own k (parent ++ [i])), fun n hn => Climb.turns_of_ended hturn (Nat.zero_lt_of_lt hn), ?_⟩
      rw [Option.bind_some, Object.place?_own ht, hp]
      rfl
    · rw [if_neg hwanted] at hturn ⊢
      obtain ⟨found, hends, hfound⟩ := ih hq (isShared_of_below hbelow)
      refine ⟨found, fun n hn => ?_, hfound⟩
      rw [List.length_append, List.length_singleton] at hn
      exact Climb.turns_of_turn hturn hends hn

end Scrutiny.Code

namespace Scrutiny

/-- **A shared node is where it was last.** Of all nodes of a kind that are one object, the link is that of the one that
was met last, and a climb through the object finds what is nearest to that one. -/
theorem shared_node_is_where_it_was_last (programs : List Code.Node) (kind : Code.Kind) {parent : Code.Object}
    (h : Code.Links.ofPrograms programs (.shared kind) = some parent) :
    (∃ before after, Code.Links.adopted programs = before ++ (.shared kind, parent) :: after ∧
      ∀ later ∈ after, later.1 ≠ .shared kind) ∧
    ∃ k t address i p, programs[k]? = some t ∧ t.placeAt? (address ++ [i]) = some p ∧ p.here.kind = kind ∧
      parent = .own k address ∧
      ∃ found, (∀ n, p.depth < n → (Code.Climb.turn programs)^[n] (.under (.shared kind)) = .ended found) ∧
        (found.bind (·.place? programs)).map (·.here) = Code.closestDefinition? p := by
  refine ⟨Code.Links.ofPrograms_eq_some_iff.mp h, ?_⟩
  obtain ⟨k, t, address, i, p, ht, hp, hchild, hparent⟩ :=
    Code.Links.mem_adopted_iff.mp (Code.Links.mem_adopted_of_ofPrograms h)
  obtain ⟨hshared, hkind⟩ := Code.objectOf_eq_shared_iff.mp hchild.symm
  obtain ⟨q, hq, hbelow, habove⟩ := Tree.exists_parent hp
  obtain ⟨found, hends, hfound⟩ := Code.turns_under ht hq (Code.isShared_of_below hbelow)
  have hturn : Code.Climb.turn programs (.under (.shared kind)) = .under (.own k address) := by
    rw [Code.Climb.turn, h, hparent]
    rfl
  have hplain := Code.isDefinition_of_isShared hshared
  refine ⟨k, t, address, i, p, ht, hp, hkind, hparent, found, fun n hn => ?_, ?_⟩
  · rw [Tree.depth_of_placeAt? hp, List.length_append, List.length_singleton] at hn
    exact Code.Climb.turns_of_turn hturn hends hn
  · rw [hfound, Code.closestDefinition?_of_above habove, hplain]
    rfl

end Scrutiny
