import Scrutiny.Check.Basic

/-! Work that may fail, taken apart.

A failure of work in several steps is the failure of one of them. The lemmas say so for two steps, for a list of things
that are all worked on, for a list that is gone through up to the first finding, and for the walk of a source. -/
namespace Scrutiny.Outcome
variable {α β : Type}

theorem bind_eq_error {x : Outcome α} {f : α → Outcome β} {failure : Failure} :
    (x >>= f) = .error failure ↔ x = .error failure ∨ ∃ a, x = .ok a ∧ f a = .error failure := by
  cases x <;> simp [bind, Except.bind]

theorem bind_eq_ok {x : Outcome α} {f : α → Outcome β} {b : β} :
    (x >>= f) = .ok b ↔ ∃ a, x = .ok a ∧ f a = .ok b := by
  cases x <;> simp [bind, Except.bind]

theorem bind_isOk_iff {x : Outcome α} {f : α → Outcome β} :
    (∃ b, (x >>= f) = .ok b) ↔ ∃ a, x = .ok a ∧ ∃ b, f a = .ok b := by
  cases x <;> simp [bind, Except.bind]

/-- Work on all members of a list fails with what fails on the first of them that does. -/
theorem mapM_eq_error_iff_split {f : α → Outcome β} {as : List α} {failure : Failure} :
    as.mapM f = .error failure ↔
      ∃ before a after, as = before ++ a :: after ∧ (∀ k ∈ before, ∃ b, f k = .ok b) ∧ f a = .error failure := by
  induction as with
  | nil => simp [pure, Except.pure]
  | cons first rest ih =>
    rw [List.mapM_cons]
    cases hfirst : f first with
    | error other =>
      constructor
      · intro h
        cases h
        exact ⟨[], first, rest, rfl, by simp, hfirst⟩
      · rintro ⟨_ | ⟨k, before⟩, a, after, hsplit, hbefore, ha⟩
        · cases hsplit
          rw [hfirst] at ha
          cases ha
          rfl
        · cases hsplit
          obtain ⟨b, hb⟩ := hbefore first List.mem_cons_self
          rw [hfirst] at hb
          cases hb
    | ok b =>
      have hrest : (do return b :: (← rest.mapM f)) = (.error failure : Outcome (List β)) ↔
          rest.mapM f = .error failure := by
        cases rest.mapM f <;> simp [bind, Except.bind, pure, Except.pure]
      refine hrest.trans (ih.trans ⟨?_, ?_⟩)
      · rintro ⟨before, a, after, rfl, hbefore, ha⟩
        exact ⟨first :: before, a, after, rfl, List.forall_mem_cons.mpr ⟨⟨b, hfirst⟩, hbefore⟩, ha⟩
      · rintro ⟨_ | ⟨k, before⟩, a, after, hsplit, hbefore, ha⟩
        · cases hsplit
          rw [hfirst] at ha
          cases ha
        · cases hsplit
          exact ⟨before, a, after, rfl, (List.forall_mem_cons.mp hbefore).2, ha⟩

theorem mapM_eq_error {f : α → Outcome β} {as : List α} {failure : Failure}
    (h : as.mapM f = .error failure) : ∃ a ∈ as, f a = .error failure := by
  obtain ⟨before, a, after, rfl, _, ha⟩ := mapM_eq_error_iff_split.mp h
  exact ⟨a, List.mem_append_right _ List.mem_cons_self, ha⟩

/-- Going through a list finds nothing where every member is judged and nothing is found on it, and only there. -/
theorem firstFinding_eq_none_iff {judge : α → Outcome (Option β)} {as : List α} :
    firstFinding judge as = .ok none ↔ ∀ a ∈ as, judge a = .ok none := by
  induction as with
  | nil => simp [firstFinding]
  | cons a rest ih =>
    rw [firstFinding, List.forall_mem_cons, ← ih]
    cases judge a with
    | error failure => simp [bind, Except.bind]
    | ok found => cases found <;> simp [bind, Except.bind, pure, Except.pure]

theorem firstFinding_cons_of_none {judge : α → Outcome (Option β)} {a : α} {rest : List α}
    (h : judge a = .ok none) : firstFinding judge (a :: rest) = firstFinding judge rest := by
  rw [firstFinding, h]
  rfl

theorem firstFinding_cons_of_ne {judge : α → Outcome (Option β)} {a : α} {rest : List α}
    (h : judge a ≠ .ok none) : firstFinding judge (a :: rest) = judge a := by
  rw [firstFinding]
  match hjudge : judge a with
  | .error failure => rfl
  | .ok (some b) => rfl
  | .ok none => exact absurd hjudge h

/-- What ends the way through a list, a finding or a failure, comes of a member before which nothing is found. -/
theorem firstFinding_eq_iff {judge : α → Outcome (Option β)} {as : List α} {result : Outcome (Option β)}
    (hresult : result ≠ .ok none) :
    firstFinding judge as = result ↔
      ∃ before a after, as = before ++ a :: after ∧ judge a = result ∧ ∀ k ∈ before, judge k = .ok none := by
  induction as with
  | nil => simp [firstFinding, Ne.symm hresult]
  | cons first rest ih =>
    by_cases hfirst : judge first = .ok none
    · rw [firstFinding_cons_of_none hfirst, ih]
      constructor
      · rintro ⟨before, a, after, rfl, ha, hbefore⟩
        exact ⟨first :: before, a, after, rfl, ha, List.forall_mem_cons.mpr ⟨hfirst, hbefore⟩⟩
      · rintro ⟨before, a, after, hsplit, ha, hbefore⟩
        cases before with
        | nil =>
          obtain ⟨rfl, rfl⟩ := List.cons.inj hsplit
          exact absurd (ha.symm.trans hfirst) hresult
        | cons k before =>
          obtain ⟨rfl, rfl⟩ := List.cons.inj hsplit
          exact ⟨before, a, after, rfl, ha, (List.forall_mem_cons.mp hbefore).2⟩
    · rw [firstFinding_cons_of_ne hfirst]
      constructor
      · intro h
        exact ⟨[], first, rest, rfl, h, by simp⟩
      · rintro ⟨before, a, after, hsplit, ha, hbefore⟩
        cases before with
        | nil =>
          obtain ⟨rfl, rfl⟩ := List.cons.inj hsplit
          exact ha
        | cons k before =>
          obtain ⟨rfl, rfl⟩ := List.cons.inj hsplit
          exact absurd (hbefore _ List.mem_cons_self) hfirst

/-- A finding on a list is made on a member before which nothing is found. -/
theorem firstFinding_eq_some_iff {judge : α → Outcome (Option β)} {as : List α} {b : β} :
    firstFinding judge as = .ok (some b) ↔
      ∃ before a after, as = before ++ a :: after ∧ judge a = .ok (some b) ∧ ∀ k ∈ before, judge k = .ok none :=
  firstFinding_eq_iff (by simp)

/-- Where everything up to a finding is judged, the way through a list ends there or before. -/
theorem firstFinding_of_split {judge : α → Outcome (Option β)} {before : List α} {a : α} {b : β}
    (hbefore : ∀ k ∈ before, ∃ found, judge k = .ok found) (ha : judge a = .ok (some b)) (after : List α) :
    ∃ k ∈ before ++ [a], ∃ found, judge k = .ok (some found) ∧
      firstFinding judge (before ++ a :: after) = .ok (some found) := by
  induction before with
  | nil =>
    refine ⟨a, List.mem_singleton.mpr rfl, b, ha, ?_⟩
    rw [List.nil_append, firstFinding_cons_of_ne (by rw [ha]; simp), ha]
  | cons first rest ih =>
    obtain ⟨⟨found, hfound⟩, hrest⟩ := List.forall_mem_cons.mp hbefore
    cases found with
    | none =>
      obtain ⟨k, hk, message, hjudge, hfirst⟩ := ih hrest
      refine ⟨k, List.mem_cons_of_mem _ hk, message, hjudge, ?_⟩
      rw [List.cons_append, firstFinding_cons_of_none hfound, hfirst]
    | some message =>
      refine ⟨first, List.mem_cons_self, message, hfound, ?_⟩
      rw [List.cons_append, firstFinding_cons_of_ne (by rw [hfound]; simp), hfound]

/-- Going through a list fails with what fails on one of its members. -/
theorem firstFinding_eq_error {judge : α → Outcome (Option β)} {as : List α} {failure : Failure}
    (h : firstFinding judge as = .error failure) : ∃ a ∈ as, judge a = .error failure := by
  obtain ⟨before, a, after, rfl, ha, _⟩ := (firstFinding_eq_iff (by simp)).mp h
  exact ⟨a, List.mem_append_right _ List.mem_cons_self, ha⟩

/-- The way through a list comes to an end where each member that is reached is judged, and only there. -/
theorem firstFinding_isOk_iff {judge : α → Outcome (Option β)} {as : List α} :
    (∃ found, firstFinding judge as = .ok found) ↔
      ∀ before a after, as = before ++ a :: after → (∀ k ∈ before, judge k = .ok none) →
        ∃ found, judge a = .ok found := by
  constructor
  · rintro ⟨found, hfound⟩ before a after hsplit hbefore
    cases hjudge : judge a with
    | ok result => exact ⟨result, rfl⟩
    | error failure =>
      have hfail : firstFinding judge as = .error failure :=
        (firstFinding_eq_iff (by simp)).mpr ⟨before, a, after, hsplit, hjudge, hbefore⟩
      rw [hfail] at hfound
      cases hfound
  · intro hall
    cases hfound : firstFinding judge as with
    | ok found => exact ⟨found, rfl⟩
    | error failure =>
      obtain ⟨before, a, after, hsplit, hjudge, hbefore⟩ := (firstFinding_eq_iff (by simp)).mp hfound
      obtain ⟨result, hresult⟩ := hall before a after hsplit hbefore
      rw [hresult] at hjudge
      cases hjudge

theorem firstFinding_isOk_of_forall {judge : α → Outcome (Option β)} {as : List α}
    (h : ∀ a ∈ as, ∃ found, judge a = .ok found) : ∃ found, firstFinding judge as = .ok found := by
  refine firstFinding_isOk_iff.mpr fun before a after hsplit _ => h a ?_
  rw [hsplit]
  exact List.mem_append_right _ List.mem_cons_self

/-- Where every member is judged, the first finding is the first thing that is found on one of them. -/
theorem firstFinding_eq_findSome? {judge : α → Outcome (Option β)} {found : α → Option β} {as : List α}
    (h : ∀ a ∈ as, judge a = .ok (found a)) : firstFinding judge as = .ok (as.findSome? found) := by
  induction as with
  | nil => rfl
  | cons a rest ih =>
    obtain ⟨ha, hrest⟩ := List.forall_mem_cons.mp h
    rw [firstFinding, ha, ih hrest, List.findSome?_cons]
    cases found a with
    | some b => rfl
    | none => rfl

theorem firstFinding_congr {judge judge' : α → Outcome (Option β)} {as : List α}
    (h : ∀ a ∈ as, judge' a = judge a) : firstFinding judge' as = firstFinding judge as := by
  induction as with
  | nil => rfl
  | cons a rest ih =>
    unfold firstFinding
    rw [h a List.mem_cons_self, ih fun k hk => h k (List.mem_cons_of_mem _ hk)]

/-- What comes of work on all members of a list is what comes of one of them. -/
theorem mem_mapM_iff {f : α → Outcome β} {as : List α} {bs : List β} (h : as.mapM f = .ok bs) {b : β} :
    b ∈ bs ↔ ∃ a ∈ as, f a = .ok b := by
  induction as generalizing bs with
  | nil => cases h; simp
  | cons a rest ih =>
    rw [List.mapM_cons] at h
    obtain ⟨first, hfirst, htail⟩ := bind_eq_ok.mp h
    obtain ⟨others, hothers, hdone⟩ := bind_eq_ok.mp htail
    cases hdone
    simp only [List.mem_cons, ih hothers, exists_eq_or_imp, hfirst, Except.ok.injEq]
    rw [eq_comm]

theorem mem_of_mapM {f : α → Outcome β} {as : List α} {bs : List β} (h : as.mapM f = .ok bs) {b : β}
    (hb : b ∈ bs) : ∃ a ∈ as, f a = .ok b :=
  (mem_mapM_iff h).mp hb

/-- Work on all members of a list ends only where it ends on each of them. -/
theorem ok_of_mapM {f : α → Outcome β} {as : List α} {bs : List β} (h : as.mapM f = .ok bs) {a : α}
    (ha : a ∈ as) : ∃ b, f a = .ok b := by
  induction as generalizing bs with
  | nil => cases ha
  | cons first rest ih =>
    rw [List.mapM_cons] at h
    obtain ⟨b, hb, htail⟩ := bind_eq_ok.mp h
    obtain ⟨others, hothers, _⟩ := bind_eq_ok.mp htail
    rcases List.mem_cons.mp ha with rfl | ha
    · exact ⟨b, hb⟩
    · exact ih hothers ha

theorem mapM_isOk_iff {f : α → Outcome β} {as : List α} :
    (∃ bs, as.mapM f = .ok bs) ↔ ∀ a ∈ as, ∃ b, f a = .ok b := by
  constructor
  · rintro ⟨bs, hbs⟩ a ha
    exact ok_of_mapM hbs ha
  · intro hall
    cases hbs : as.mapM f with
    | ok bs => exact ⟨bs, rfl⟩
    | error failure =>
      obtain ⟨a, ha, hfail⟩ := mapM_eq_error hbs
      obtain ⟨b, hb⟩ := hall a ha
      rw [hfail] at hb
      cases hb

/-- Where there is only one way to fail, work on all members of a list fails in that way, and where one of them does. -/
theorem mapM_eq_error_iff {f : α → Outcome β} {as : List α} {only failure : Failure}
    (honly : ∀ a other, f a = .error other → other = only) :
    as.mapM f = .error failure ↔ failure = only ∧ ∃ a ∈ as, f a = .error only := by
  constructor
  · intro h
    obtain ⟨a, ha, hfail⟩ := mapM_eq_error h
    obtain rfl := honly a failure hfail
    exact ⟨rfl, a, ha, hfail⟩
  · rintro ⟨rfl, a, ha, hfail⟩
    cases hall : as.mapM f with
    | error other =>
      obtain ⟨k, _, hk⟩ := mapM_eq_error hall
      rw [honly k other hk]
    | ok bs =>
      obtain ⟨b, hb⟩ := ok_of_mapM hall ha
      rw [hfail] at hb
      cases hb

/-- Work on all members of a list leaves nothing where it leaves nothing of each, and only there. -/
theorem mapM_flatten_eq_nil_iff {f : α → Outcome (List β)} {as : List α} :
    (∃ lists, as.mapM f = .ok lists ∧ lists.flatten = []) ↔ ∀ a ∈ as, f a = .ok [] := by
  induction as with
  | nil => simp [pure, Except.pure]
  | cons a rest ih =>
    rw [List.forall_mem_cons, ← ih, List.mapM_cons]
    cases f a with
    | error failure => simp [bind, Except.bind]
    | ok first => cases rest.mapM f <;> simp [bind, Except.bind, pure, Except.pure]

theorem mapM_congr {f g : α → Outcome β} {as : List α} (h : ∀ a ∈ as, f a = g a) : as.mapM f = as.mapM g := by
  induction as with
  | nil => rfl
  | cons a rest ih =>
    rw [List.mapM_cons, List.mapM_cons, h a List.mem_cons_self, ih fun k hk => h k (List.mem_cons_of_mem _ hk)]

/-! ### The walk of a source -/

theorem walk_bind_eq_ok_iff {s : Source} {judge : Code.Walk → Outcome α} {a : α} :
    (s.walk >>= judge) = .ok a ↔ ∃ root, s.tree = some root ∧ judge root.places = .ok a := by
  rw [bind_eq_ok, Source.walk]
  cases s.tree with
  | none => simp
  | some root => simp

/-- Where the walk of a tree is judged, only the tree can be wanting. -/
theorem walk_bind_eq_error {s : Source} {judge : Code.Walk → Outcome α} {failure : Failure}
    (hjudge : ∀ root, s.tree = some root → ∃ a, judge root.places = .ok a) (h : (s.walk >>= judge) = .error failure) :
    failure = .noTree ∧ s.tree = none := by
  cases htree : s.tree with
  | none =>
    rw [Source.walk, htree] at h
    cases h
    exact ⟨rfl, rfl⟩
  | some root =>
    obtain ⟨a, ha⟩ := hjudge root htree
    rw [walk_bind_eq_ok_iff.mpr ⟨root, htree, ha⟩] at h
    cases h

end Scrutiny.Outcome
