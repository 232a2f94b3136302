import Mathlib.Data.List.Shortlex
import Mathlib.Logic.Function.Iterate
import Scrutiny.Check.Idioms
import Scrutiny.Code.Family
import Scrutiny.Proofs.Ancestors
import Scrutiny.Proofs.Outcome

/-! The order of a walk.

A place of a tree has an address: the numbers of the children that lead to it from the root. Its depth is the length of
the address, and of two places at one depth the one further to the left has the smaller number where their addresses
part. So the order by levels is the order of addresses by length, then number by number (`List.Shortlex`). The walk
meets every address once, in this order (`InLevelOrder`), and a search along it ends at the first address of those that
it looks for.

The walk is also what comes of a queue: the first in it is taken and its children are put at the end. The nodes that
wait become one less with each turn, so the queue runs dry after as many turns as the tree has nodes. -/
namespace Scrutiny.Tree
variable {α : Type}

/-! ### Addresses -/

theorem Place.follow?_below {p : Place α} {child : Tree α} {i : Nat} (h : (child, i) ∈ p.here.children.zipIdx)
    (rest : List Nat) : p.follow? (i :: rest) = Place.follow? ⟨child, p.here :: p.above⟩ rest := by
  have hchild : p.here.children[i]? = some child := List.mem_zipIdx_iff_getElem?.mp h
  rw [follow?, below, List.getElem?_map, hchild]
  rfl

theorem Place.depth_of_below {p q : Place α} (h : q ∈ p.below) : q.depth = p.depth + 1 := by
  rw [depth, above_of_below h, List.length_cons]
  rfl

theorem Place.depth_of_follow? {p q : Place α} {address : List Nat} (h : p.follow? address = some q) :
    q.depth = p.depth + address.length := by
  induction address generalizing p with
  | nil =>
    cases h
    rfl
  | cons i rest ih =>
    obtain ⟨child, hchild, hrest⟩ := Option.bind_eq_some_iff.mp h
    have hdepth := depth_of_below (List.mem_of_getElem? hchild)
    rw [ih hrest, hdepth, List.length_cons]
    omega

/-- An address is shorter than the tree is high: each number takes a level. -/
theorem Place.length_lt_height {p q : Place α} {address : List Nat} (h : p.follow? address = some q) :
    address.length < p.here.height := by
  induction address generalizing p with
  | nil => exact p.here.height_pos
  | cons i rest ih =>
    obtain ⟨child, hchild, hrest⟩ := Option.bind_eq_some_iff.mp h
    have hless := height_lt_of_below (List.mem_of_getElem? hchild)
    have hlength := ih hrest
    rw [List.length_cons]
    omega

theorem mem_addressesAt_iff {depth : Nat} {p : Place α} {address : List Nat} :
    address ∈ p.here.addressesAt depth ↔ address.length = depth ∧ ∃ q, p.follow? address = some q := by
  induction depth generalizing p address with
  | zero =>
    rw [addressesAt, List.mem_singleton, List.length_eq_zero_iff]
    constructor
    · intro h
      exact ⟨h, p, by rw [h]; rfl⟩
    · intro h
      exact h.1
  | succ depth ih =>
    rw [addressesAt, List.mem_flatMap]
    constructor
    · intro ⟨⟨child, i⟩, hchild, haddress⟩
      obtain ⟨rest, hrest, rfl⟩ := List.mem_map.mp haddress
      obtain ⟨hlength, q, hq⟩ := (ih (p := ⟨child, p.here :: p.above⟩)).mp hrest
      exact ⟨by rw [List.length_cons, hlength], q, by rw [Place.follow?_below hchild, hq]⟩
    · intro ⟨hlength, q, hq⟩
      cases address with
      | nil => cases hlength
      | cons i rest =>
        obtain ⟨next, hnext, hrest⟩ := Option.bind_eq_some_iff.mp hq
        rw [Place.below, List.getElem?_map] at hnext
        obtain ⟨child, hchild, rfl⟩ := Option.map_eq_some_iff.mp hnext
        refine ⟨(child, i), List.mem_zipIdx_iff_getElem?.mpr hchild, List.mem_map.mpr ⟨rest, ?_, rfl⟩⟩
        exact ih.mpr ⟨Nat.succ.inj hlength, q, hrest⟩

theorem mem_addresses_iff {t : Tree α} {address : List Nat} :
    address ∈ t.addresses ↔ ∃ p, t.placeAt? address = some p := by
  rw [addresses, List.mem_flatMap]
  constructor
  · intro ⟨depth, _, haddress⟩
    exact (mem_addressesAt_iff (p := ⟨t, []⟩)).mp haddress |>.2
  · intro ⟨p, hp⟩
    exact ⟨address.length, List.mem_range.mpr (Place.length_lt_height hp), mem_addressesAt_iff.mpr ⟨rfl, p, hp⟩⟩

/-! ### The order of addresses -/

theorem pairwise_addressesAt (depth : Nat) (t : Tree α) : (t.addressesAt depth).Pairwise (List.Lex (· < ·)) := by
  induction depth generalizing t with
  | zero => exact List.pairwise_singleton _ _
  | succ depth ih =>
    have hnumbers : t.children.zipIdx.Pairwise fun first second => first.2 < second.2 := by
      rw [← List.pairwise_map (f := Prod.snd) (R := (· < ·)), List.zipIdx_map_snd]
      exact List.pairwise_lt_range'
    rw [addressesAt, List.pairwise_flatMap]
    constructor
    · intro child _
      rw [List.pairwise_map]
      exact (ih child.1).imp fun h => .cons h
    · refine hnumbers.imp fun hless address haddress other hother => ?_
      obtain ⟨_, _, rfl⟩ := List.mem_map.mp haddress
      obtain ⟨_, _, rfl⟩ := List.mem_map.mp hother
      exact .rel hless

theorem pairwise_addresses (t : Tree α) : t.addresses.Pairwise (List.Shortlex (· < ·)) := by
  have hlength {depth : Nat} {address : List Nat} (h : address ∈ t.addressesAt depth) : address.length = depth :=
    (mem_addressesAt_iff (p := ⟨t, []⟩)).mp h |>.1
  rw [addresses, List.pairwise_flatMap]
  constructor
  · intro depth _
    refine (t.pairwise_addressesAt depth).imp_of_mem fun haddress hother hless => ?_
    exact .of_lex ((hlength haddress).trans (hlength hother).symm) hless
  · refine List.pairwise_lt_range.imp fun hless address haddress other hother => ?_
    apply List.Shortlex.of_length_lt
    rwa [hlength haddress, hlength hother]

/-! ### The walk by addresses -/

/-- The level so many levels below another. -/
def descend : Nat → List (Place α) → List (Place α)
  | 0, level => level
  | depth + 1, level => descend depth (level.flatMap Place.below)

theorem sweep_eq_flatMap (levels : Nat) (level : List (Place α)) :
    sweep levels level = (List.range levels).flatMap fun depth => descend depth level := by
  induction levels generalizing level with
  | zero => rfl
  | succ levels ih =>
    rw [sweep, ih, List.range_succ_eq_map, List.flatMap_cons, List.flatMap_map]
    rfl

theorem descend_eq_flatMap (depth : Nat) (level : List (Place α)) :
    descend depth level = level.flatMap fun p => descend depth [p] := by
  induction depth generalizing level with
  | zero => simp [descend]
  | succ depth ih =>
    rw [descend, ih, List.flatMap_assoc]
    refine List.flatMap_congr fun p _ => ?_
    rw [descend, List.flatMap_singleton, ih p.below]

/-- A level below a place holds what the addresses of its depth lead to. -/
theorem map_descend (depth : Nat) (p : Place α) :
    (descend depth [p]).map some = (p.here.addressesAt depth).map p.follow? := by
  induction depth generalizing p with
  | zero => rfl
  | succ depth ih =>
    have hchild (child : Tree α × Nat) (h : child ∈ p.here.children.zipIdx) :
        ((addressesAt depth child.1).map (child.2 :: ·)).map p.follow? =
          (descend depth [⟨child.1, p.here :: p.above⟩]).map some := by
      rw [ih, List.map_map]
      exact List.map_congr_left fun rest _ => Place.follow?_below h rest
    rw [descend, List.flatMap_singleton, descend_eq_flatMap, addressesAt, List.map_flatMap, List.map_flatMap,
      List.flatMap_congr hchild, Place.below, List.flatMap_map]
    conv_lhs => rw [← List.zipIdx_map_fst 0 p.here.children]
    rw [List.flatMap_map]

theorem map_places (t : Tree α) : t.places.map some = t.addresses.map t.placeAt? := by
  rw [places, sweep_eq_flatMap, addresses, List.map_flatMap, List.map_flatMap]
  exact List.flatMap_congr fun depth _ => map_descend depth ⟨t, []⟩

theorem mem_places_iff_address {t : Tree α} {p : Place α} : p ∈ t.places ↔ ∃ address, t.placeAt? address = some p := by
  have hmem : p ∈ t.places ↔ some p ∈ t.addresses.map t.placeAt? := by
    rw [← map_places]
    simp
  rw [hmem, List.mem_map]
  constructor
  · intro ⟨address, _, hp⟩
    exact ⟨address, hp⟩
  · intro ⟨address, hp⟩
    exact ⟨address, mem_addresses_iff.mpr ⟨p, hp⟩, hp⟩

/-- A list holds the wanted places of a tree, each of them once, by levels and from left to right. -/
def InLevelOrder (t : Tree α) (wanted : Place α → Bool) (found : List (Place α)) : Prop :=
  ∃ addresses : List (List Nat), addresses.Pairwise (List.Shortlex (· < ·)) ∧
    (∀ address, address ∈ addresses ↔ ∃ p, t.placeAt? address = some p ∧ wanted p = true) ∧
    addresses.map t.placeAt? = found.map some

theorem inLevelOrder_filter (t : Tree α) (wanted : Place α → Bool) :
    InLevelOrder t wanted (t.places.filter wanted) := by
  refine ⟨t.addresses.filter fun address => (t.placeAt? address).any wanted, t.pairwise_addresses.filter _, ?_, ?_⟩
  · intro address
    rw [List.mem_filter, mem_addresses_iff, Option.any_eq_true]
    constructor
    · intro ⟨_, h⟩
      exact h
    · intro ⟨p, hp, hwanted⟩
      exact ⟨⟨p, hp⟩, p, hp, hwanted⟩
  · have hplaces := congrArg (List.filter (Option.any wanted)) t.map_places
    rw [List.filter_map, List.filter_map] at hplaces
    exact hplaces.symm

theorem InLevelOrder.pairwise_depth {t : Tree α} {wanted : Place α → Bool} {found : List (Place α)}
    (h : InLevelOrder t wanted found) : found.Pairwise fun p q => p.depth ≤ q.depth := by
  obtain ⟨addresses, hsorted, hmem, hfound⟩ := h
  have hdepth : ∀ address ∈ addresses, (t.placeAt? address).map Place.depth = some address.length := by
    intro address haddress
    obtain ⟨p, hp, _⟩ := (hmem address).mp haddress
    rw [hp, Option.map_some, Place.depth_of_follow? hp, show Place.depth (⟨t, []⟩ : Place α) = 0 from rfl, Nat.zero_add]
  have hdepths : (addresses.map List.length).map some = (found.map Place.depth).map some := by
    calc (addresses.map List.length).map some
        = addresses.map (fun address => (t.placeAt? address).map Place.depth) := by
          rw [List.map_map, List.map_congr_left hdepth]
          rfl
      _ = (addresses.map t.placeAt?).map (Option.map Place.depth) := by
          rw [List.map_map]
          rfl
      _ = (found.map Place.depth).map some := by
          rw [hfound, List.map_map, List.map_map]
          rfl
  have hlengths := List.map_injective_iff.mpr (Option.some_injective Nat) hdepths
  rw [← List.pairwise_map (f := Place.depth) (R := (· ≤ ·)), ← hlengths, List.pairwise_map]
  refine hsorted.imp fun hless => ?_
  rcases List.shortlex_def.mp hless with hshorter | ⟨hsame, _⟩
  · exact Nat.le_of_lt hshorter
  · exact Nat.le_of_eq hsame

/-! ### The first place -/

/-- A wanted place whose address comes before those of all others that are wanted. -/
def IsFirst (t : Tree α) (wanted : Place α → Bool) (address : List Nat) (p : Place α) : Prop :=
  t.placeAt? address = some p ∧ wanted p = true ∧
    ∀ other q, t.placeAt? other = some q → wanted q = true → other ≠ address → List.Shortlex (· < ·) address other

theorem find?_places_eq_some_iff {t : Tree α} {wanted : Place α → Bool} {p : Place α} :
    t.places.find? wanted = some p ↔ ∃ address, IsFirst t wanted address p := by
  obtain ⟨addresses, hsorted, hmem, hfound⟩ := inLevelOrder_filter t wanted
  rw [← List.head?_filter]
  cases addresses with
  | nil =>
    have hnone : t.places.filter wanted = [] := List.map_eq_nil_iff.mp hfound.symm
    rw [hnone]
    constructor
    · intro h
      cases h
    · intro ⟨address, hp, hwanted, _⟩
      cases (hmem address).mpr ⟨p, hp, hwanted⟩
  | cons first rest =>
    obtain ⟨met, later, hplaces, hmet, _⟩ := List.map_eq_cons_iff.mp hfound.symm
    obtain ⟨hbefore, _⟩ := List.pairwise_cons.mp hsorted
    rw [hplaces, List.head?_cons, Option.some.injEq]
    constructor
    · intro hp
      obtain ⟨q, hq, hwanted⟩ := (hmem first).mp List.mem_cons_self
      have hsame : q = p := Option.some.inj (hq.symm.trans (hmet.symm.trans (congrArg some hp)))
      refine ⟨first, hsame ▸ hq, hsame ▸ hwanted, fun other r hr hother hne => ?_⟩
      exact hbefore other (List.mem_of_ne_of_mem hne ((hmem other).mpr ⟨r, hr, hother⟩))
    · intro ⟨address, hp, hwanted, hfirst⟩
      by_cases hne : first = address
      · rw [← hne, ← hmet] at hp
        exact Option.some.inj hp
      · -- Two different addresses cannot both come before the other.
        have hafter := hbefore address (List.mem_of_ne_of_mem (Ne.symm hne) ((hmem address).mpr ⟨p, hp, hwanted⟩))
        obtain ⟨q, hq, hother⟩ := (hmem first).mp List.mem_cons_self
        exact absurd (hfirst first q hq hother hne) (Std.Asymm.asymm _ _ hafter)

/-! ### The queue -/

theorem sizes_append (ts us : List (Tree α)) : sizes (ts ++ us) = sizes ts + sizes us := by
  induction ts with
  | nil => rw [List.nil_append, sizes, Nat.zero_add]
  | cons t ts ih => rw [List.cons_append, sizes, sizes, ih, Nat.add_assoc]

theorem size_eq (t : Tree α) : t.size = sizes t.children + 1 := by
  cases t
  rw [size, children_node]

/-- A walk under way: the places that wait, and those that have been taken. -/
structure Queue (α : Type) where
  waiting : List (Place α)
  taken : List (Place α)

namespace Queue

/-- The root waits. -/
def start (t : Tree α) : Queue α :=
  ⟨[⟨t, []⟩], []⟩

/-- Takes the first place and puts its children at the end. -/
def turn (q : Queue α) : Queue α :=
  match q.waiting with
  | [] => q
  | p :: rest => ⟨rest ++ p.below, q.taken ++ [p]⟩

/-- The number of nodes at the places that wait and below them. -/
def load (q : Queue α) : Nat :=
  sizes (q.waiting.map Place.here)

theorem load_turn (q : Queue α) : q.turn.load = q.load - 1 := by
  obtain ⟨waiting, taken⟩ := q
  cases waiting with
  | nil => rfl
  | cons p rest =>
    have hbelow : p.below.map Place.here = p.here.children := by
      simp [Place.below, Function.comp_def]
    simp only [turn, load, List.map_append, List.map_cons, hbelow, sizes_append, sizes, size_eq]
    omega

theorem load_turns (n : Nat) (q : Queue α) : (turn^[n] q).load = q.load - n := by
  induction n with
  | zero => rfl
  | succ n ih =>
    rw [Function.iterate_succ_apply', load_turn, ih]
    omega

theorem waiting_eq_nil_iff {q : Queue α} : q.waiting = [] ↔ q.load = 0 := by
  rw [load]
  cases q.waiting with
  | nil => simp [sizes]
  | cons p rest =>
    rw [List.map_cons, sizes, size_eq]
    simp

/-- The queue runs dry after as many turns as the tree has nodes, and not before. -/
theorem waiting_turns_eq_nil_iff {t : Tree α} {n : Nat} : (turn^[n] (start t)).waiting = [] ↔ t.size ≤ n := by
  have hload : (start t).load = t.size := by
    simp [start, load, sizes]
  rw [waiting_eq_nil_iff, load_turns, hload]
  omega

/-- While a level is taken, the next one is put behind it. -/
theorem turns_level (level next taken : List (Place α)) :
    turn^[level.length] ⟨level ++ next, taken⟩ = ⟨next ++ level.flatMap Place.below, taken ++ level⟩ := by
  induction level generalizing next taken with
  | nil => simp
  | cons p rest ih =>
    have hturn : turn ⟨p :: rest ++ next, taken⟩ = ⟨rest ++ (next ++ p.below), taken ++ [p]⟩ := by
      simp [turn]
    rw [List.length_cons, Function.iterate_succ_apply, hturn, ih]
    simp

theorem turns_sweep (levels : Nat) (level taken : List (Place α)) :
    turn^[(sweep levels level).length] ⟨level, taken⟩ = ⟨descend levels level, taken ++ sweep levels level⟩ := by
  induction levels generalizing level taken with
  | zero => simp [sweep, descend]
  | succ levels ih =>
    have hlevel := turns_level level [] taken
    rw [List.append_nil, List.nil_append] at hlevel
    rw [sweep, List.length_append, Nat.add_comm, Function.iterate_add_apply, hlevel, ih, descend, List.append_assoc]

theorem descend_height (t : Tree α) : descend t.height [⟨t, []⟩] = [] := by
  have hnone : t.addressesAt t.height = [] := by
    refine List.eq_nil_iff_forall_not_mem.mpr fun address haddress => ?_
    obtain ⟨hlength, q, hq⟩ := (mem_addressesAt_iff (p := ⟨t, []⟩)).mp haddress
    have hless := Place.length_lt_height hq
    exact absurd hlength (Nat.ne_of_lt hless)
  have hmap := map_descend t.height ⟨t, []⟩
  rw [hnone] at hmap
  exact List.map_eq_nil_iff.mp hmap

/-- Once the queue is dry, further turns change nothing. -/
theorem turns_eq_of_size_le {t : Tree α} {n : Nat} (h : t.size ≤ n) : turn^[n] (start t) = turn^[t.size] (start t) := by
  have hdry : turn (turn^[t.size] (start t)) = turn^[t.size] (start t) := by
    rw [turn, waiting_turns_eq_nil_iff.mpr (Nat.le_refl _)]
  obtain ⟨more, rfl⟩ := Nat.exists_eq_add_of_le' h
  rw [Function.iterate_add_apply, Function.iterate_fixed hdry]

theorem taken_turns {t : Tree α} {n : Nat} (h : t.size ≤ n) : (turn^[n] (start t)).taken = t.places := by
  have hend : turn^[t.places.length] (start t) = ⟨[], t.places⟩ := by
    have hsweep := turns_sweep t.height [⟨t, []⟩] []
    rwa [descend_height] at hsweep
  have hlength : t.size ≤ t.places.length := by
    rw [← waiting_turns_eq_nil_iff, hend]
  rw [turns_eq_of_size_le h, ← turns_eq_of_size_le hlength, hend]

end Queue
end Scrutiny.Tree

namespace Scrutiny

namespace Idioms

/-- What a source contributes to a check that looks for a first place. -/
theorem walk_find?_eq_ok_iff {s : Source} {isFault : Code.Place → Bool} {report : Code.Place → String}
    {found : Option String} :
    (do return ((← s.walk).find? isFault).map report : Outcome (Option String)) = .ok found ↔
      ∃ root, s.tree = some root ∧ (root.places.find? isFault).map report = found := by
  rw [Outcome.walk_bind_eq_ok_iff]
  simp [pure, Except.pure]

/-- A check of places reports the first one of the first source that has any; all sources before it are parsed. -/
theorem firstPlace_eq_some_iff {p : Project} {isFault : Code.Place → Bool} {message : String} :
    firstPlace p isFault = .ok (some message) ↔
      ∃ before s after, p.sources = before ++ s :: after ∧
        (∀ other ∈ before, ∃ tree, other.tree = some tree ∧
          ∀ address q, tree.placeAt? address = some q → isFault q = false) ∧
        ∃ root address place, s.tree = some root ∧ root.IsFirst isFault address place ∧
          message = s.atLine place.here.line := by
  have hclear (other : Source) :
      (do return ((← other.walk).find? isFault).map fun i => other.atLine i.here.line : Outcome (Option String)) =
        .ok none ↔
        ∃ tree, other.tree = some tree ∧ ∀ address q, tree.placeAt? address = some q → isFault q = false := by
    rw [walk_find?_eq_ok_iff]
    refine exists_congr fun tree => and_congr_right fun _ => ?_
    rw [Option.map_eq_none_iff, List.find?_eq_none]
    constructor
    · intro h address q hq
      simpa using h q (Tree.mem_places_iff_address.mpr ⟨address, hq⟩)
    · intro h q hq
      obtain ⟨address, haddress⟩ := Tree.mem_places_iff_address.mp hq
      simp [h address q haddress]
  have hhit (s : Source) :
      (do return ((← s.walk).find? isFault).map fun i => s.atLine i.here.line : Outcome (Option String)) =
        .ok (some message) ↔
        ∃ root address place, s.tree = some root ∧ root.IsFirst isFault address place ∧
          message = s.atLine place.here.line := by
    rw [walk_find?_eq_ok_iff]
    constructor
    · intro ⟨root, htree, hfound⟩
      obtain ⟨place, hplace, hmessage⟩ := Option.map_eq_some_iff.mp hfound
      obtain ⟨address, hfirst⟩ := Tree.find?_places_eq_some_iff.mp hplace
      exact ⟨root, address, place, htree, hfirst, hmessage.symm⟩
    · intro ⟨root, address, place, htree, hfirst, hmessage⟩
      exact ⟨root, htree, by rw [Tree.find?_places_eq_some_iff.mpr ⟨address, hfirst⟩, hmessage, Option.map_some]⟩
  unfold firstPlace
  simp only [Outcome.firstFinding_eq_some_iff, hclear, hhit]
  constructor
  · intro ⟨before, s, after, hsources, hfirst, hbefore⟩
    exact ⟨before, s, after, hsources, hbefore, hfirst⟩
  · intro ⟨before, s, after, hsources, hbefore, hfirst⟩
    exact ⟨before, s, after, hsources, hfirst, hbefore⟩

end Idioms

/-- **A walk goes by levels.** The nodes of the kinds and families asked for are those at the addresses of the tree that
have them, each once, ordered by depth and then from left to right. They are found by a queue, which runs dry after as
many turns as the tree has nodes. A check that looks for a first place reports the one with the first address of all
that are at fault, in the first source with any. -/
theorem walk_is_in_level_order (t : Code.Node) (names : List String) :
    t.InLevelOrder (fun p => names.any (Code.isNamed p.here)) (Code.Walk.ofNames t.places names) ∧
    (Code.Walk.ofNames t.places names).Pairwise (fun p q => p.depth ≤ q.depth) ∧
    (∀ n, ((Tree.Queue.turn^[n] (.start t)).waiting = [] ↔ t.size ≤ n) ∧
      (t.size ≤ n → (Tree.Queue.turn^[n] (.start t)).taken = t.places)) ∧
    ∀ (p : Project) (isFault : Code.Place → Bool) (message : String),
      Idioms.firstPlace p isFault = .ok (some message) ↔
        ∃ before s after, p.sources = before ++ s :: after ∧
          (∀ other ∈ before, ∃ tree, other.tree = some tree ∧
            ∀ address q, tree.placeAt? address = some q → isFault q = false) ∧
          ∃ root address place, s.tree = some root ∧ root.IsFirst isFault address place ∧
            message = s.atLine place.here.line := by
  have horder := Tree.inLevelOrder_filter t fun p => names.any (Code.isNamed p.here)
  refine ⟨horder, horder.pairwise_depth, ?_, fun p isFault message => Idioms.firstPlace_eq_some_iff⟩
  intro n
  exact ⟨Tree.Queue.waiting_turns_eq_nil_iff, Tree.Queue.taken_turns⟩

/-- Of two ranges that start from zero, the one on the second line is met first and reported: the other lies a level
deeper. -/
theorem shallow_range_is_reported :
    let name : String → Code.Node := fun word => .node ⟨.identifier, .func, none, [(.id, .word word)]⟩ []
    let number : Int → Code.Node := fun n => .node ⟨.constant, .args, none, [(.value, .literal (.integer n))]⟩ []
    let range : Nat → Code.Slot → Code.Node := fun line role =>
      .node ⟨.call, role, some ⟨line, 0⟩, []⟩ [name "range", number 0, number 5]
    let outer : Code.Node := .node ⟨.call, .value, some ⟨1, 0⟩, []⟩ [name "list", range 1 .args]
    let statement : Code.Node → Code.Node := fun call => .node ⟨.expr, .body, none, []⟩ [call]
    let program : Code.Node := .node ⟨.module, .body, none, []⟩ [statement outer, statement (range 2 .value)]
    let isFault : Code.Place → Bool := fun i => i.kind = .call && Code.isRangeFromZero i.here
    let c : Context := { disk := { top := .node { name := "" } [] }, path := "p" }
    let p : Project := { path := "p", sources := [⟨"p/m.py", "", some program⟩] }
    (Code.Walk.ofNames program.places ["Call"]).map (·.here.line) = [1, 2, 1] ∧
      (Tree.Queue.turn^[program.size] (.start program)).taken = program.places ∧
      Idioms.rangeFromZero c p = .ok (some "m.py:2") ∧ ∃ address place, program.IsFirst isFault address place := by
  intro name number range outer statement program isFault c p
  have hrange : Idioms.rangeFromZero c p = .ok (some "m.py:2") := by decide +kernel
  obtain ⟨_, _, hqueue, hcheck⟩ := walk_is_in_level_order program ["Call"]
  refine ⟨by decide +kernel, (hqueue program.size).2 (Nat.le_refl _), hrange, ?_⟩
  obtain ⟨before, s, after, hsources, _, root, address, place, htree, hfirst, _⟩ := (hcheck p isFault _).mp hrange
  have hs : s ∈ p.sources := hsources ▸ List.mem_append_right _ List.mem_cons_self
  rw [List.mem_singleton.mp hs] at htree
  cases htree
  exact ⟨address, place, hfirst⟩

end Scrutiny
