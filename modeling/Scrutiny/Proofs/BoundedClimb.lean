import Scrutiny.Proofs.LocalConstants
import Scrutiny.Proofs.ParentLinks

/-! How far a climb goes.

The climb from an assigned name goes through classes, assignments and conditions, for no more steps than it is given.
Said by the links to parents, it finds something just when the nearest node that is none of these is not the module and
lies within the bound (`isLocal_iff`); the node that lies exactly at the bound is still found. So a greater bound finds
no less, and since nothing lies further up than a node is deep, a bound of its depth finds all. What holds of the climb
from each name holds of the names that are reported. -/
namespace Scrutiny

namespace Code

theorem isTransparent_iff {kind : Kind} : isTransparent kind = true ↔ kind ∈ [.classDef, .assign, .ifStmt] := by
  simp [isTransparent, or_assoc]

/-- The climb by numbers of steps: `k` nodes are passed before the one that counts. -/
theorem climb_eq_true_iff_getElem? {steps : Nat} {above : List Node} :
    climb steps above = true ↔
      ∃ k n, k < steps ∧ above[k]? = some n ∧ isTransparent n.kind = false ∧ n.kind ≠ .module ∧
        ∀ j, j < k → ∀ m, above[j]? = some m → isTransparent m.kind = true := by
  rw [climb_eq_true_iff]
  constructor
  · intro ⟨inner, stop, outer, habove, hnear, hinner, hstop, hmodule⟩
    refine ⟨inner.length, stop, hnear, ?_, hstop, hmodule, fun j hj m hm => ?_⟩
    · rw [habove, List.getElem?_append_right (Nat.le_refl _), Nat.sub_self, List.getElem?_cons_zero]
    · rw [habove, List.getElem?_append_left hj] at hm
      exact hinner m (List.mem_of_getElem? hm)
  · intro ⟨k, n, hnear, hn, hstop, hmodule, hbefore⟩
    obtain ⟨hk, hn⟩ := List.getElem?_eq_some_iff.mp hn
    have hsplit : above = above.take k ++ n :: above.drop (k + 1) := by
      rw [← hn, List.getElem_cons_drop, List.take_append_drop]
    have hlength : (above.take k).length = k := List.length_take_of_le (Nat.le_of_lt hk)
    refine ⟨above.take k, n, above.drop (k + 1), hsplit, hlength.symm ▸ hnear, fun m hm => ?_, hstop, hmodule⟩
    obtain ⟨j, hj⟩ := List.getElem?_of_mem hm
    have hless : j < k := hlength ▸ (List.getElem?_eq_some_iff.mp hj).1
    rw [List.getElem?_take_of_lt hless] at hj
    exact hbefore j hless m hj

section Climb
variable {t : Node} {address : List Nat} {p : Place}

/-- The nearest node above a place that the climb does not go through. -/
abbrev Stops (t : Node) (address : List Nat) (steps : Nat) (n : Node) : Prop :=
  t.IsNearest (fun m => m.kind ∉ [.classDef, .assign, .ifStmt]) address 1 steps n

theorem stops_iff (h : t.placeAt? address = some p) {k : Nat} {n : Node} :
    Stops t address (k + 1) n ↔
      p.above[k]? = some n ∧ isTransparent n.kind = false ∧
        ∀ j, j < k → ∀ m, p.above[j]? = some m → isTransparent m.kind = true := by
  have hpasses (m : Node) : m.kind ∉ [Kind.classDef, .assign, .ifStmt] ↔ isTransparent m.kind = false := by
    rw [← isTransparent_iff, Bool.not_eq_true]
  have hreached (j : Nat) : (t.ancestor? address (j + 1)).map (·.here) = p.above[j]? := by
    rw [Tree.ancestor?_eq h, List.getElem?_cons_succ]
  constructor
  · intro hstops
    refine ⟨hreached k ▸ hstops.reached, (hpasses n).mp hstops.is_wanted, fun j hj m hm => ?_⟩
    have hnear := hstops.nearer (j + 1) (Nat.le_add_left 1 j) (Nat.add_lt_add_right hj 1) m (hreached j ▸ hm)
    rwa [hpasses, Bool.not_eq_false] at hnear
  · intro ⟨hn, hstop, hbefore⟩
    refine ⟨Nat.le_add_left 1 k, hreached k ▸ hn, (hpasses n).mpr hstop, fun i hfirst hi m hm => ?_⟩
    obtain ⟨j, rfl⟩ := Nat.exists_eq_add_of_le' hfirst
    rw [hpasses, Bool.not_eq_false]
    exact hbefore j (Nat.lt_of_add_lt_add_right hi) m (hreached j ▸ hm)

/-- A climb finds something just when what stops it is not the module and lies within the bound. -/
theorem isLocal_iff (h : t.placeAt? address = some p) {bound : Int} :
    isLocal p bound = true ↔ ∃ steps n, Stops t address steps n ∧ n.kind ≠ .module ∧ steps ≤ bound := by
  rw [isLocal, climb_eq_true_iff_getElem?]
  constructor
  · intro ⟨k, n, hnear, hn, hstop, hmodule, hbefore⟩
    exact ⟨k + 1, n, (stops_iff h).mpr ⟨hn, hstop, hbefore⟩, hmodule, by omega⟩
  · intro ⟨steps, n, hstops, hmodule, hnear⟩
    obtain ⟨k, rfl⟩ := Nat.exists_eq_add_of_le' hstops.first_le
    obtain ⟨hn, hstop, hbefore⟩ := (stops_iff h).mp hstops
    exact ⟨k, n, by omega, hn, hstop, hmodule, hbefore⟩

/-- Nothing that stops a climb lies further up than the place is deep. -/
theorem Stops.le_depth (h : t.placeAt? address = some p) {steps : Nat} {n : Node} (hstops : Stops t address steps n) :
    steps ≤ p.depth := by
  obtain ⟨k, rfl⟩ := Nat.exists_eq_add_of_le' hstops.first_le
  exact (List.getElem?_eq_some_iff.mp ((stops_iff h).mp hstops).1).1

theorem isLocal_mono {bound greater : Int} (hle : bound ≤ greater) (hlocal : isLocal p bound = true) :
    isLocal p greater = true := by
  rw [isLocal, climb_eq_true_iff_getElem?] at hlocal ⊢
  obtain ⟨k, n, hnear, hstop⟩ := hlocal
  exact ⟨k, n, by omega, hstop⟩

theorem isLocal_of_depth_le (h : t.placeAt? address = some p) {bound : Int} (hle : p.depth ≤ bound) :
    isLocal p bound = isLocal p p.depth := by
  rw [Bool.eq_iff_iff]
  constructor
  · intro hlocal
    obtain ⟨steps, n, hstops, hmodule, _⟩ := (isLocal_iff h).mp hlocal
    exact (isLocal_iff h).mpr ⟨steps, n, hstops, hmodule, Int.ofNat_le.mpr (hstops.le_depth h)⟩
  · exact isLocal_mono hle

end Climb

/-! ### The names that are reported -/

/-- The reported names are those of the local targets; what is asked of a name does not depend on the bound. -/
theorem localConstants_eq (walk : Walk) (bound : Int) :
    localConstants walk bound =
      ((targets walk).filter (isLocal · bound)).filterMap fun p =>
        p.here.identifier?.filter
          (((indentedNames (targets walk)).filterMap id).filter isConstantName).contains := by
  rw [localConstants, List.filterMap_filter]
  refine List.filterMap_congr fun p _ => ?_
  cases p.here.identifier? with
  | none => simp
  | some name => by_cases hlocal : isLocal p bound = true <;> simp [hlocal, Option.filter]

theorem localConstants_sublist (walk : Walk) {bound greater : Int} (hle : bound ≤ greater) :
    (localConstants walk bound).Sublist (localConstants walk greater) := by
  rw [localConstants_eq, localConstants_eq]
  exact (List.monotone_filter_right _ fun _ => isLocal_mono hle).filterMap _

theorem exists_address_of_mem_targets {t : Node} {p : Place} (h : p ∈ targets t.places) :
    ∃ address, t.placeAt? address = some p := by
  obtain ⟨q, hq, _, n, hn, rfl⟩ := mem_targets_iff.mp h
  have hbelow : (⟨n, q.here :: q.above⟩ : Place) ∈ q.below := List.mem_map.mpr ⟨n, (List.mem_filter.mp hn).1, rfl⟩
  exact Tree.mem_places_iff_address.mp (Tree.mem_places_iff_parent.mpr (.inr ⟨q, hq, hbelow⟩))

/-- No target is as deep as the tree is high. -/
theorem localConstants_of_height_le {t : Node} {bound : Int} (hle : t.height ≤ bound) :
    localConstants t.places bound = localConstants t.places t.height := by
  rw [localConstants_eq, localConstants_eq]
  congr 1
  refine List.filter_congr fun p hp => ?_
  obtain ⟨address, haddress⟩ := exists_address_of_mem_targets hp
  have hheight : p.depth < t.height := by
    rw [Tree.depth_of_placeAt? haddress]
    exact Tree.Place.length_lt_height haddress
  rw [isLocal_of_depth_le haddress (by omega), isLocal_of_depth_le haddress (Int.ofNat_le.mpr (Nat.le_of_lt hheight))]

end Code

/-- **The bounded climb is exact.** It finds something from a place just when the nearest node above it that is no
class, no assignment and no condition is not the module and lies no more steps up than the bound. A greater bound finds
no less, and from the depth of the place on the bound does not matter. So the reported names become no fewer with the
bound, and from the height of the program on they stay the same. -/
theorem bounded_climb_is_exact (t : Code.Node) :
    (∀ address p, t.placeAt? address = some p →
      (∀ bound : Int, Code.isLocal p bound = true ↔
        ∃ steps n, t.IsNearest (fun m => m.kind ∉ [.classDef, .assign, .ifStmt]) address 1 steps n ∧
          n.kind ≠ .module ∧ steps ≤ bound) ∧
      (∀ bound greater : Int, bound ≤ greater → Code.isLocal p bound = true → Code.isLocal p greater = true) ∧
      ∀ bound : Int, p.depth ≤ bound → Code.isLocal p bound = Code.isLocal p p.depth) ∧
    (∀ bound greater : Int, bound ≤ greater →
      (Code.localConstants t.places bound).Sublist (Code.localConstants t.places greater)) ∧
    ∀ bound : Int, t.height ≤ bound → Code.localConstants t.places bound = Code.localConstants t.places t.height := by
  refine ⟨fun address p hp => ⟨fun _ => Code.isLocal_iff hp, fun _ _ => Code.isLocal_mono,
    fun _ => Code.isLocal_of_depth_le hp⟩, fun _ _ => Code.localConstants_sublist t.places, fun _ =>
    Code.localConstants_of_height_le⟩

/-- A function three steps up, with a class between, is found with a bound of three and with any greater one, and not
with a bound of two. -/
theorem function_at_bound_is_found :
    let name : Code.Node := .node ⟨.identifier, .targets, some ⟨3, 8⟩, [(.id, .word "LIMIT")]⟩ []
    let assignment : Code.Node := .node ⟨.assign, .body, some ⟨3, 8⟩, []⟩ [name]
    let owner : Code.Node := .node ⟨.classDef, .body, some ⟨2, 4⟩, []⟩ [assignment]
    let function : Code.Node := .node ⟨.functionDef, .body, some ⟨1, 0⟩, []⟩ [owner]
    let program : Code.Node := .node ⟨.module, .body, none, []⟩ [function]
    let p : Code.Place := ⟨name, [assignment, owner, function, program]⟩
    program.placeAt? [0, 0, 0, 0] = some p ∧ Code.isLocal p 2 = false ∧ Code.isLocal p 3 = true ∧
      Code.isLocal p 1000 = true ∧
      ∃ steps n, program.IsNearest (fun m => m.kind ∉ [.classDef, .assign, .ifStmt]) [0, 0, 0, 0] 1 steps n ∧
        n.kind ≠ .module ∧ (steps : Int) ≤ 3 := by
  intro name assignment owner function program p
  have hp : program.placeAt? [0, 0, 0, 0] = some p := rfl
  obtain ⟨hexact, hmono, _⟩ := (bounded_climb_is_exact program).1 [0, 0, 0, 0] p hp
  have hthree : Code.isLocal p 3 = true := by decide
  exact ⟨hp, by decide, hthree, hmono 3 1000 (by decide) hthree, (hexact 3).mp hthree⟩

end Scrutiny
