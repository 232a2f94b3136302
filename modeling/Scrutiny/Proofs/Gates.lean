import Scrutiny.Check.Basic

/-! When a gate lets a check run.

A project carries marks, one or several, and a gate compares them with those that it wants. For one mark and for any of
several, only the wanted marks are looked for. A gate that wants all of several compares both sides as sets, so it asks
as well that the project carries nothing else (`admits_all`). -/
namespace Scrutiny

/-- One of the values means the same. -/
def Value.IsAmong (x : Value) (values : List Value) : Prop :=
  ∃ y ∈ values, x.same y = true

instance (x : Value) (values : List Value) : Decidable (x.IsAmong values) :=
  inferInstanceAs (Decidable (∃ y ∈ values, x.same y = true))

namespace Marking

/-- The project carries marks: one alone, which may be anything but nothing, or a list of at least one. -/
inductive Carries (m : Marking) : List Value → Prop
  | one {mark : Value} : m.one = some mark → mark ≠ .nothing → Carries m [mark]
  | several {marks : List Value} : m.one = none ∨ m.one = some .nothing → m.several = some (.list marks) → marks ≠ [] →
      Carries m marks

/-- The project carries no marks: neither way of marking gives any. -/
def IsBlank (m : Marking) : Prop :=
  (m.one = none ∨ m.one = some .nothing) ∧ ∀ marks, m.several = some marks → marks.isGiven = false

variable {m : Marking} {marks : List Value}

theorem marks?_of_no_one (h : m.one = none ∨ m.one = some .nothing) : m.marks? = marks?.given m.several := by
  unfold marks?
  rcases h with h | h <;> rw [h]

theorem marks?_of_carries (h : m.Carries marks) : m.marks? = some (.list marks) := by
  cases h with
  | one hone hmark =>
    rename_i mark
    unfold marks?
    rw [hone]
    cases mark with
    | nothing => exact absurd rfl hmark
    | _ => rfl
  | several hone hseveral hne =>
    rw [marks?_of_no_one hone, hseveral]
    simp [marks?.given, Value.isGiven, hne]

theorem marks?_of_isBlank (h : m.IsBlank) : m.marks? = none := by
  rw [marks?_of_no_one h.1]
  cases hseveral : m.several with
  | none => rfl
  | some marks => simp [marks?.given, h.2 marks hseveral]

end Marking

namespace Gate
variable {m : Marking} {marks wanted : List Value}

theorem isIn_list (x : Value) (values : List Value) : x.isIn (.list values) = .ok (decide (x.IsAmong values)) := by
  rw [Value.isIn, Except.ok.injEq, Bool.eq_iff_iff, decide_eq_true_eq, List.any_eq_true]
  rfl

theorem anyIn_list (marks wanted : List Value) :
    anyIn (.list marks) wanted = .ok (decide (∃ x ∈ wanted, x.IsAmong marks)) := by
  induction wanted with
  | nil => simp [anyIn]
  | cons x rest ih =>
    rw [anyIn, isIn_list, ih]
    by_cases hx : x.IsAmong marks
    · simp [hx, bind, Except.bind, pure, Except.pure]
    · simp [hx, bind, Except.bind]

/-- A list of values that can all be members of a set. -/
def AllHashable (values : List Value) : Prop :=
  ∀ x ∈ values, x.isHashable = true

instance (values : List Value) : Decidable (AllHashable values) :=
  inferInstanceAs (Decidable (∀ x ∈ values, x.isHashable = true))

theorem members_list (values : List Value) :
    (Value.list values).members =
      match values.find? (!·.isHashable) with
      | some x => .error (.unhashable x.kindName)
      | none => .ok values := rfl

theorem members_of_allHashable {values : List Value} (h : AllHashable values) :
    (Value.list values).members = .ok values := by
  have hnone : values.find? (!·.isHashable) = none := by
    rw [List.find?_eq_none]
    intro x hx
    simp [h x hx]
  rw [members_list, hnone]

theorem members_of_not_allHashable {values : List Value} (h : ¬ AllHashable values) :
    ∃ fault, (Value.list values).members = .error fault := by
  obtain ⟨x, hx⟩ : ∃ x, values.find? (!·.isHashable) = some x := by
    rw [← Option.isSome_iff_exists, List.find?_isSome]
    simpa [AllHashable] using h
  exact ⟨.unhashable x.kindName, by rw [members_list, hx]⟩

theorem sameMembers_eq (xs ys : List Value) :
    Value.sameMembers xs ys = decide ((∀ x ∈ xs, x.IsAmong ys) ∧ ∀ y ∈ ys, y.IsAmong xs) := by
  rw [Bool.eq_iff_iff, decide_eq_true_eq, Value.sameMembers, Bool.and_eq_true, List.all_eq_true, List.all_eq_true]
  simp only [List.any_eq_true, Value.IsAmong]

theorem admits_of_carries (h : m.Carries marks) (gate : Gate) : gate.admits m = gate.opens (.list marks) := by
  rw [admits, m.marks?_of_carries h]

theorem admits_one (h : m.Carries marks) (mark : Value) : (one mark).admits m = .ok (decide (mark.IsAmong marks)) := by
  rw [admits_of_carries h, opens, isIn_list]

theorem admits_any (h : m.Carries marks) (wanted : List Value) :
    (any (.list wanted)).admits m = .ok (decide (∃ x ∈ wanted, x.IsAmong marks)) := by
  rw [admits_of_carries h]
  exact anyIn_list marks wanted

theorem admits_all (h : m.Carries marks) (hwanted : AllHashable wanted) (hmarks : AllHashable marks) :
    (all (.list wanted)).admits m =
      .ok (decide ((∀ x ∈ wanted, x.IsAmong marks) ∧ ∀ y ∈ marks, y.IsAmong wanted)) := by
  rw [admits_of_carries h, opens, members_of_allHashable hwanted, members_of_allHashable hmarks, ← sameMembers_eq]
  rfl

theorem admits_all_of_not_allHashable (h : m.Carries marks) (hnot : ¬ (AllHashable wanted ∧ AllHashable marks)) :
    ∃ fault, (all (.list wanted)).admits m = .error fault := by
  rw [admits_of_carries h, opens]
  by_cases hwanted : AllHashable wanted
  · obtain ⟨fault, hfault⟩ := members_of_not_allHashable fun hmarks => hnot ⟨hwanted, hmarks⟩
    refine ⟨fault, ?_⟩
    rw [members_of_allHashable hwanted, hfault]
    rfl
  · obtain ⟨fault, hfault⟩ := members_of_not_allHashable hwanted
    refine ⟨fault, ?_⟩
    rw [hfault]
    rfl

/-! ### Checks behind gates -/

/-- Behind the gate, a check of a project with the marking is run if the condition holds, and is skipped otherwise. -/
def RunsIf (gate : Gate) (m : Marking) (condition : Prop) [Decidable condition] : Prop :=
  ∀ (check : Check) (c : Context), c.marking = m →
    (check.behind gate).run c = if condition then check.run c else .ok .skipped

/-- A check that always finds something tells whether it was run. -/
theorem runsIf_iff {gate : Gate} {condition : Prop} [Decidable condition] :
    gate.RunsIf m condition ↔ gate.admits m = .ok (decide condition) := by
  constructor
  · intro h
    -- The gate sees only the marking, so one check that is told apart from a skipped one is enough.
    have hrun := h (.constant "" (some "")) { disk := { top := .node { name := "" } [] }, path := "", marking := m } rfl
    simp only [Check.behind, Check.constant] at hrun
    by_cases hcondition : condition
    · rw [if_pos hcondition] at hrun
      rw [decide_eq_true hcondition]
      split at hrun
      · assumption
      · cases hrun
      · cases hrun
    · rw [if_neg hcondition] at hrun
      rw [decide_eq_false hcondition]
      split at hrun
      · cases hrun
      · assumption
      · cases hrun
  · rintro h check c rfl
    simp only [Check.behind, h]
    by_cases hcondition : condition
    · simp [hcondition]
    · simp [hcondition]

theorem runsIf_all_iff (h : m.Carries marks) :
    (all (.list wanted)).RunsIf m (∀ x ∈ wanted, x.IsAmong marks) ↔
      (AllHashable wanted ∧ AllHashable marks) ∧
        ((∀ x ∈ wanted, x.IsAmong marks) → ∀ y ∈ marks, y.IsAmong wanted) := by
  rw [runsIf_iff]
  by_cases hhashable : AllHashable wanted ∧ AllHashable marks
  · rw [admits_all h hhashable.1 hhashable.2, Except.ok.injEq, decide_eq_decide, and_iff_left_iff_imp]
    exact (and_iff_right hhashable).symm
  · obtain ⟨fault, hfault⟩ := admits_all_of_not_allHashable h hhashable
    rw [hfault]
    simp [hhashable]

end Gate

/-- **A gate for one mark or for any of several runs a check just when a wanted mark is carried, and without marks no
gate does. A gate for all of several runs it just when they are carried and no other mark is.** So it asks for no more
than the wanted marks just when no other mark is carried with all of them, and marks that cannot be members of a set end
it in a failure. -/
theorem gates_run_marked_checks_iff {m : Marking} {marks : List Value} (h : m.Carries marks) (wanted : List Value) :
    (∀ mark, (Gate.one mark).RunsIf m (mark.IsAmong marks)) ∧
    (Gate.any (.list wanted)).RunsIf m (∃ x ∈ wanted, x.IsAmong marks) ∧
    (Gate.AllHashable wanted → Gate.AllHashable marks →
      (Gate.all (.list wanted)).RunsIf m ((∀ x ∈ wanted, x.IsAmong marks) ∧ ∀ y ∈ marks, y.IsAmong wanted)) ∧
    ((Gate.all (.list wanted)).RunsIf m (∀ x ∈ wanted, x.IsAmong marks) ↔
      (Gate.AllHashable wanted ∧ Gate.AllHashable marks) ∧
        ((∀ x ∈ wanted, x.IsAmong marks) → ∀ y ∈ marks, y.IsAmong wanted)) ∧
    ∀ blank : Marking, blank.IsBlank → ∀ gate : Gate, gate.RunsIf blank False := by
  refine ⟨fun mark => ?_, ?_, fun hwanted hmarks => ?_, Gate.runsIf_all_iff h, fun blank hblank gate => ?_⟩
  · exact Gate.runsIf_iff.mpr (Gate.admits_one h mark)
  · exact Gate.runsIf_iff.mpr (Gate.admits_any h wanted)
  · exact Gate.runsIf_iff.mpr (Gate.admits_all h hwanted hmarks)
  · rw [Gate.runsIf_iff, Gate.admits, Marking.marks?_of_isBlank hblank]
    rfl

/-- The wanted marks in another order and one of them twice, and a single mark that is zero. -/
theorem marked_checks_are_run :
    let m : Marking := { several := some (.list [.text "twisted", .text "django", .text "django"]) }
    let zero : Marking := { one := some (.integer 0) }
    let check : Check := .constant "own" (some "")
    let c : Marking → Context := fun marking => { disk := { top := .node { name := "" } [] }, path := "p", marking }
    (check.behind (.all (.list [.text "django", .text "twisted"]))).run (c m) = check.run (c m) ∧
      (check.behind (.any (.list [.text "celery", .text "flask"]))).run (c m) = .ok .skipped ∧
      (check.behind (.one (.truth false))).run (c zero) = check.run (c zero) := by
  intro m zero check c
  have hm : m.Carries [.text "twisted", .text "django", .text "django"] := .several (.inl rfl) rfl (by simp)
  have hzero : zero.Carries [.integer 0] := .one rfl (by simp)
  obtain ⟨_, _, _, hall, _⟩ := gates_run_marked_checks_iff hm [.text "django", .text "twisted"]
  obtain ⟨_, hany, _⟩ := gates_run_marked_checks_iff hm [.text "celery", .text "flask"]
  obtain ⟨hone, _⟩ := gates_run_marked_checks_iff hzero []
  refine ⟨?_, ?_, ?_⟩
  · rw [hall.mpr (by decide) check (c m) rfl, if_pos (by decide)]
  · rw [hany check (c m) rfl, if_neg (by decide)]
  · rw [hone (.truth false) check (c zero) rfl, if_pos (by decide)]

/-- A project that carries both wanted marks and a third one. -/
theorem third_mark_shuts_gate :
    let wanted : List Value := [.text "django", .text "twisted"]
    let marks : List Value := [.text "django", .text "twisted", .text "celery"]
    let m : Marking := { several := some (.list marks) }
    let check : Check := .constant "own" (some "")
    let c : Context := { disk := { top := .node { name := "" } [] }, path := "p", marking := m }
    (m.Carries marks ∧ ∀ x ∈ wanted, x.IsAmong marks) ∧
      check.run c = .ok (.failed "") ∧ (check.behind (.all (.list wanted))).run c = .ok .skipped := by
  intro wanted marks m check c
  have hm : m.Carries marks := .several (.inl rfl) rfl (by simp [marks])
  exact ⟨⟨hm, by decide⟩, rfl, rfl⟩

end Scrutiny
