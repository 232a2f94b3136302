import Scrutiny.Proofs.Outcome
import Scrutiny.Proofs.Requests
import Scrutiny.Review
import Scrutiny.Settings.Document

/-! Settings that are written down and read.

A document can set thirteen parameters. Each has its own values (`Entry.Choice`) and its own way of writing them
(`Entry.written`): a whole number in decimal, names of folders with commas between them, the name of the readme as it
is. What is written is read back as the change it stands for (`Entry.changeOf_written`), so a section gives the changes
chosen and no other. A change sets its own parameter and leaves every other (`Parameter.read_apply`), so that applied to
the defaults the changes set what was chosen and leave all else. -/
namespace Scrutiny

/-! ### Numbers in decimal -/

namespace Text

/-- The number that a digit of the decimal form stands for. -/
def digitValue (c : Char) : Nat :=
  c.toNat - '0'.toNat

theorem digit?_of_isDigit {c : Char} (h : c.isDigit = true) : digit? c = some (digitValue c) := by
  obtain ⟨hlow, hhigh⟩ := Char.isDigit_iff_toNat.mp h
  have hrange : (decide (0x30 ≤ c.toNat) && decide (c.toNat < 0x30 + 10)) = true := by
    simp only [Bool.and_eq_true, decide_eq_true_eq]
    exact ⟨hlow, Nat.lt_succ_of_le hhigh⟩
  have hfirst : digitZeros = 0x30 :: digitZeros.tail := rfl
  rw [digit?, hfirst, List.find?_cons_of_pos
    (p := fun start => decide (start ≤ c.toNat) && decide (c.toNat < start + 10)) hrange]
  rfl

theorem moreDigits_of_isDigit {text : List Char} (h : ∀ c ∈ text, c.isDigit = true) :
    moreDigits text = some (text.map digitValue, []) := by
  induction text with
  | nil => rfl
  | cons c rest ih =>
    obtain ⟨hc, hrest⟩ := List.forall_mem_cons.mp h
    have hunderscore : c ≠ '_' := by
      intro heq
      rw [heq] at hc
      cases hc
    rw [moreDigits]
    · simp only [digit?_of_isDigit hc, ih hrest]
      rfl
    · intro _ _ heq
      exact absurd heq hunderscore

theorem digitRun_of_isDigit {text : List Char} (hne : text ≠ []) (h : ∀ c ∈ text, c.isDigit = true) :
    digitRun text = some (text.map digitValue, []) := by
  cases text with
  | nil => exact absurd rfl hne
  | cons c rest =>
    obtain ⟨hc, hrest⟩ := List.forall_mem_cons.mp h
    simp only [digitRun, digit?_of_isDigit hc, moreDigits_of_isDigit hrest]
    rfl

theorem ofDigits_toDigits (n : Nat) : ofDigits ((Nat.toDigits 10 n).map digitValue) = n := by
  rw [ofDigits, List.foldl_map]
  exact Nat.ofDigitChars_eq_foldl.symm.trans Nat.ofDigitChars_ten_toDigits

theorem isNumberBlank_of_isDigit {c : Char} (h : c.isDigit = true) : isNumberBlank c = false := by
  obtain ⟨hlow, hhigh⟩ := Char.isDigit_iff_toNat.mp h
  have hzero : '0'.toNat = 48 := rfl
  have hnine : '9'.toNat = 57 := rfl
  have hspace : c ≠ ' ' := by
    intro heq
    rw [heq] at h
    cases h
  have hcontrol : ¬ c.toNat ≤ 13 := by omega
  rw [isNumberBlank, if_pos (by omega)]
  simp [hspace, hcontrol]

theorem signed_of_isDigit {c : Char} (h : c.isDigit = true) (rest : List Char) :
    signed (c :: rest) = (false, c :: rest) := by
  unfold signed
  split
  · rename_i heq
    cases heq
    cases h
  · rename_i heq
    cases heq
    cases h
  · rfl

theorem isDigit_of_mem_toDigits {n : Nat} {c : Char} (h : c ∈ Nat.toDigits 10 n) : c.isDigit = true :=
  Nat.isDigit_of_mem_toDigits (by decide) (by decide) h

theorem signed_toDigits (n : Nat) :
    signed ((Nat.toDigits 10 n).dropWhile isNumberBlank) = (false, Nat.toDigits 10 n) := by
  cases hdigits : Nat.toDigits 10 n with
  | nil => exact absurd hdigits Nat.toDigits_ne_nil
  | cons c rest =>
    have hc : c.isDigit = true := isDigit_of_mem_toDigits (hdigits ▸ List.mem_cons_self)
    rw [List.dropWhile_cons_of_neg (by simp [isNumberBlank_of_isDigit hc]), signed_of_isDigit hc]

/-- Reading takes the sign off and counts the digits. -/
theorem readInteger_of_signed {text : String} {negative : Bool} {n : Nat}
    (hsigned : signed (text.toList.dropWhile isNumberBlank) = (negative, Nat.toDigits 10 n))
    (hlimit : (Nat.toDigits 10 n).length ≤ digitLimit) :
    readInteger text = .ok (if negative then -(n : Int) else (n : Int)) := by
  have hrun := digitRun_of_isDigit Nat.toDigits_ne_nil fun c hc => isDigit_of_mem_toDigits (n := n) hc
  have hlength : ¬ ((Nat.toDigits 10 n).map digitValue).length > digitLimit := by
    rw [List.length_map]
    exact Nat.not_lt_of_le hlimit
  unfold readInteger
  simp only [hsigned, hrun, if_neg hlength, List.all_nil, if_true, ofDigits_toDigits]

/-- A number in decimal is read as itself, as long as its digits are not too many. -/
theorem readInteger_toString {n : Int} (h : (Nat.toDigits 10 n.natAbs).length ≤ digitLimit) :
    readInteger (toString n) = .ok n := by
  rw [Int.toString_eq_repr, Int.repr_eq_if]
  by_cases hn : 0 ≤ n
  · have habs : n.natAbs = n.toNat := by omega
    have hsigned : signed (n.toNat.repr.toList.dropWhile isNumberBlank) = (false, Nat.toDigits 10 n.toNat) := by
      rw [Nat.repr_eq_ofList_toDigits, String.toList_ofList, signed_toDigits]
    rw [if_pos hn, readInteger_of_signed hsigned (habs ▸ h), if_neg Bool.false_ne_true, Int.toNat_of_nonneg hn]
  · have habs : n.natAbs = (-n).toNat := by omega
    have hvalue : -((-n).toNat : Int) = n := by omega
    have htext : ("-" ++ (-n).toNat.repr).toList = '-' :: Nat.toDigits 10 (-n).toNat := by
      simp [Nat.repr_eq_ofList_toDigits]
    have hsigned : signed (("-" ++ (-n).toNat.repr).toList.dropWhile isNumberBlank) =
        (true, Nat.toDigits 10 (-n).toNat) := by
      rw [htext]
      rfl
    rw [if_neg hn, readInteger_of_signed hsigned (habs ▸ h), if_pos rfl, hvalue]

end Text

/-! ### Parameters as they are written -/

namespace Settings

/-- A whole number with no more digits than can be read. -/
structure WholeNumber where
  value : Int
  in_limit : (Nat.toDigits 10 value.natAbs).length ≤ Text.digitLimit

/-- Names of folders that are told apart when commas stand between them. -/
structure FolderNames where
  names : List String
  ne_nil : names ≠ []
  no_comma : ∀ name ∈ names, ',' ∉ name.toList

namespace Entry

/-- The values that a document can give to a parameter. -/
abbrev Choice : Entry → Type
  | readme => String
  | amount _ => WholeNumber
  | percentage _ => WholeNumber
  | skip => FolderNames

/-- A value as it is written down. -/
def written : (entry : Entry) → entry.Choice → String
  | readme, name => name
  | amount _, number => toString number.value
  | percentage _, number => toString number.value
  | skip, folders => ",".intercalate folders.names

/-- The change that a value stands for. -/
def change : (entry : Entry) → entry.Choice → Change
  | readme, name => .readme name
  | amount parameter, number => .amount parameter number.value
  | percentage parameter, number => .percentage parameter number.value
  | skip, folders => .vocabulary .directoriesToSkip (.list folders.names)

theorem mem_all (entry : Entry) : entry ∈ all := by
  cases entry with
  | readme => decide
  | amount parameter => cases parameter <;> decide
  | percentage parameter => cases parameter <;> decide
  | skip => decide

theorem key_change (entry : Entry) (choice : entry.Choice) : (entry.change choice).key = entry.key := by
  cases entry <;> rfl

theorem changeOf_written (entry : Entry) (choice : entry.Choice) :
    changeOf (entry.written choice) entry = .ok (entry.change choice) := by
  have hinteger (number : WholeNumber) : integer (toString number.value) = .ok number.value := by
    rw [integer, Text.readInteger_toString number.in_limit]
  cases entry with
  | readme => rfl
  | amount parameter =>
    rw [written, changeOf, hinteger]
    rfl
  | percentage parameter =>
    rw [written, changeOf, hinteger]
    rfl
  | skip => rw [written, changeOf, Text.cut_join rfl choice.ne_nil choice.no_comma, change]

end Entry

/-- A choice of values, for some of the parameters or for all. -/
abbrev Chosen : Type :=
  (entry : Entry) → Option entry.Choice

namespace Chosen

/-- What is chosen for one parameter, as a change if it is chosen at all. -/
def changesOf (chosen : Chosen) (entry : Entry) : List Change :=
  ((chosen entry).map entry.change).toList

/-- The changes chosen, in the order in which they are read. -/
def changes (chosen : Chosen) : List Change :=
  Entry.all.flatMap chosen.changesOf

theorem mem_changesOf_iff {chosen : Chosen} {entry : Entry} {change : Change} :
    change ∈ chosen.changesOf entry ↔ ∃ choice, chosen entry = some choice ∧ entry.change choice = change := by
  rw [changesOf, Option.mem_toList, Option.map_eq_some_iff]

theorem mem_changes_iff {chosen : Chosen} {change : Change} :
    change ∈ chosen.changes ↔ ∃ entry choice, chosen entry = some choice ∧ entry.change choice = change := by
  simp only [changes, List.mem_flatMap, Entry.mem_all, true_and, mem_changesOf_iff]

/-- No two changes are of one parameter. -/
theorem nodup_keys_changes (chosen : Chosen) : (chosen.changes.map Change.key).Nodup := by
  have hsublist (entries : List Entry) :
      ((entries.flatMap chosen.changesOf).map Change.key).Sublist (entries.map Entry.key) := by
    induction entries with
    | nil => exact List.Sublist.slnil
    | cons entry rest ih =>
      rw [List.flatMap_cons, List.map_append, List.map_cons]
      cases hchoice : chosen entry with
      | none =>
        have hnone : chosen.changesOf entry = [] := by rw [changesOf, hchoice]; rfl
        rw [hnone]
        exact ih.cons _
      | some choice =>
        have hsome : chosen.changesOf entry = [entry.change choice] := by rw [changesOf, hchoice]; rfl
        rw [hsome, List.map_singleton, entry.key_change]
        exact ih.cons_cons _
  have hkeys : (Entry.all.map Entry.key).Nodup := by decide
  exact hkeys.sublist (hsublist Entry.all)

end Chosen

/-- Whatever else is known, where each parameter has what was written of it, the changes chosen are read. -/
theorem changesFrom_of_written (chosen : Chosen) {value? : String → Outcome (Option String)}
    (h : ∀ entry : Entry, value? entry.key = .ok ((chosen entry).map entry.written)) :
    changesFrom value? = .ok chosen.changes := by
  refine Outcome.bind_eq_ok.mpr ⟨Entry.all.map chosen.changesOf, ?_, rfl⟩
  refine (Outcome.mapM_congr fun entry _ => ?_).trans List.mapM_pure
  rw [h entry, Chosen.changesOf]
  cases chosen entry with
  | none => rfl
  | some choice =>
    refine Outcome.bind_eq_ok.mpr ⟨_, rfl, ?_⟩
    simp only [Option.map_some, entry.changeOf_written choice]
    rfl

end Settings

/-! ### Values in a document -/

namespace Ini

/-- A text with every percent sign written twice, so that it refers to nothing. -/
def escaped (text : List Char) : List Char :=
  text.flatMap fun c => if c = '%' then ['%', '%'] else [c]

theorem expandWith_of_ne (e : Expansion) (nested : List Char → Except Fault (List Char)) (fuel : Nat) {c : Char}
    (hc : c ≠ '%') (rest : List Char) :
    expandWith e nested (fuel + 1) (c :: rest) = (c :: ·) <$> expandWith e nested fuel rest := by
  rw [expandWith]
  · rfl
  · intro hpercent
    exact hc hpercent

/-- Nothing is looked up for a doubled percent sign, so a text with all of them doubled is what was meant. -/
theorem expandWith_escaped (e : Expansion) (nested : List Char → Except Fault (List Char)) (text : List Char)
    {fuel : Nat} (h : (escaped text).length ≤ fuel) : expandWith e nested fuel (escaped text) = .ok text := by
  induction text generalizing fuel with
  | nil => cases fuel <;> rfl
  | cons c rest ih =>
    by_cases hc : c = '%'
    · have hescaped : escaped (c :: rest) = '%' :: '%' :: escaped rest := by
        simp [escaped, hc]
      rw [hescaped, List.length_cons, List.length_cons] at h
      obtain ⟨left, rfl⟩ : ∃ left, fuel = left + 1 := Nat.exists_eq_add_one.mpr (by omega)
      have hrest : expandWith e nested left (escaped rest) = .ok rest := ih (by omega)
      rw [hescaped, expandWith, hrest, hc]
      rfl
    · have hescaped : escaped (c :: rest) = c :: escaped rest := by
        simp [escaped, hc]
      rw [hescaped, List.length_cons] at h
      obtain ⟨left, rfl⟩ : ∃ left, fuel = left + 1 := Nat.exists_eq_add_one.mpr (by omega)
      rw [hescaped, expandWith_of_ne e nested left hc, ih (by omega)]
      rfl

/-- A value with its percent signs doubled is the text that was meant. -/
theorem Document.value?_of_escaped {d : Document} {s : Section} {option : String} {text : Option String}
    (h : d.raw? s option = text.map fun meant => String.ofList (escaped meant.toList)) :
    d.value? s option = .ok text := by
  unfold Document.value?
  rw [h]
  cases text with
  | none => rfl
  | some meant =>
    simp only [Option.map_some, String.toList_ofList]
    rw [depthLimit, expand, expandWith_escaped _ _ _ le_rfl]
    show Except.ok (some (String.ofList meant.toList)) = _
    rw [String.ofList_toList]

end Ini

/-! ### The settings of a review -/

namespace Settings

def amountOf (s : Settings) : Amount → Int
  | .allowedMaxPep8Violations => s.allowedMaxPep8Violations
  | .maxComplexity => s.maxComplexity
  | .minimumNameLength => s.minimumNameLength
  | .lastCommitsToCheckAmount => s.lastCommitsToCheckAmount
  | .tabSize => s.tabSize
  | .maxPep8LineLength => s.maxPep8LineLength
  | .maxNumberOfLines => s.maxNumberOfLines
  | .maxIndentationLevel => s.maxIndentationLevel
  | .maxNumOfPyFiles => s.maxNumOfPyFiles

def percentageOf (s : Settings) : Percentage → Rat
  | .minPercentOfAnotherLanguage => s.minPercentOfAnotherLanguage
  | .functionsWithDocstringsPercentLimit => s.functionsWithDocstringsPercentLimit

def vocabularyOf (s : Settings) : Vocabulary → Words
  | .directoriesToSkip => s.directoriesToSkip
  | .badVariableNames => s.badVariableNames
  | .badCommitMessages => s.badCommitMessages
  | .dataDirectories => s.dataDirectories
  | .validShortVariableNames => s.validShortVariableNames
  | .validCallsWithConstants => s.validCallsWithConstants
  | .validNonSnakeCaseLeftHandValues => s.validNonSnakeCaseLeftHandValues
  | .validNonSnakeCaseRightHandValues => s.validNonSnakeCaseRightHandValues
  | .functionsAllowedToHaveExitCalls => s.functionsAllowedToHaveExitCalls
  | .pep8PathsToIgnore => s.pep8PathsToIgnore
  | .encodingDeclarationsPathsToIgnore => s.encodingDeclarationsPathsToIgnore
  | .localImportsPathsToIgnore => s.localImportsPathsToIgnore
  | .localVarNamedAsGlobalPathsToIgnore => s.localVarNamedAsGlobalPathsToIgnore
  | .badVariablesPathsToIgnore => s.badVariablesPathsToIgnore
  | .extraDocstringsPathsToIgnore => s.extraDocstringsPathsToIgnore
  | .deepNestingPathsToIgnore => s.deepNestingPathsToIgnore

/-- Any of the parameters. -/
inductive Parameter where
  | readme
  | amount (name : Amount)
  | percentage (name : Percentage)
  | vocabulary (name : Vocabulary)

namespace Parameter

/-- What a parameter can be set to. -/
abbrev Value : Parameter → Type
  | readme => String
  | amount _ => Int
  | percentage _ => Rat
  | vocabulary _ => Words

def read (s : Settings) : (p : Parameter) → p.Value
  | readme => s.readmeFilename
  | amount name => s.amountOf name
  | percentage name => s.percentageOf name
  | vocabulary name => s.vocabularyOf name

/-- What a change sets a parameter to, if it is a change of that one. -/
def set? : (p : Parameter) → Change → Option p.Value
  | readme, .readme text => some text
  | amount name, .amount changed value => if changed = name then some value else none
  | percentage name, .percentage changed value => if changed = name then some value else none
  | vocabulary name, .vocabulary changed words => if changed = name then some words else none
  | _, _ => none

/-- A change sets its own parameter and leaves every other. -/
theorem read_apply (p : Parameter) (s : Settings) (change : Change) :
    p.read (s.apply change) = (p.set? change).getD (p.read s) := by
  cases change with
  | readme text => rcases p with _ | ⟨⟨⟩⟩ | ⟨⟨⟩⟩ | ⟨⟨⟩⟩ <;> rfl
  | amount changed value => cases changed <;> rcases p with _ | ⟨⟨⟩⟩ | ⟨⟨⟩⟩ | ⟨⟨⟩⟩ <;> rfl
  | percentage changed value => cases changed <;> rcases p with _ | ⟨⟨⟩⟩ | ⟨⟨⟩⟩ | ⟨⟨⟩⟩ <;> rfl
  | vocabulary changed words => cases changed <;> rcases p with _ | ⟨⟨⟩⟩ | ⟨⟨⟩⟩ | ⟨⟨⟩⟩ <;> rfl

theorem read_changesOf (p : Parameter) (chosen : Chosen) (entry : Entry) (s : Settings) :
    p.read ((chosen.changesOf entry).foldl apply s) =
      ((chosen entry).bind fun choice => p.set? (entry.change choice)).getD (p.read s) := by
  rw [Chosen.changesOf]
  cases chosen entry with
  | none => rfl
  | some choice => exact p.read_apply s (entry.change choice)

/-- A parameter that only one entry sets has, after the changes of some entries, what that entry sets if it is one
of them. -/
theorem read_changesOf_all (p : Parameter) (chosen : Chosen) {entry : Entry}
    (honly : ∀ other, other ≠ entry → ∀ choice, p.set? (other.change choice) = none) {entries : List Entry}
    (hnodup : entries.Nodup) (s : Settings) :
    p.read ((entries.flatMap chosen.changesOf).foldl apply s) =
      if entry ∈ entries then ((chosen entry).bind fun choice => p.set? (entry.change choice)).getD (p.read s)
      else p.read s := by
  induction entries generalizing s with
  | nil => rfl
  | cons first rest ih =>
    obtain ⟨hfirst, hrest⟩ := List.nodup_cons.mp hnodup
    rw [List.flatMap_cons, List.foldl_append, ih hrest, p.read_changesOf]
    by_cases heq : first = entry
    · subst heq
      rw [if_neg hfirst, if_pos List.mem_cons_self]
    · have hnone : ((chosen first).bind fun choice => p.set? (first.change choice)) = none := by
        simp only [honly first heq, Option.bind_fun_none]
      have hmem : entry ∈ first :: rest ↔ entry ∈ rest := by
        simp [Ne.symm heq]
      rw [hnone, Option.getD_none]
      simp only [hmem]

theorem read_ofChanges (p : Parameter) (chosen : Chosen) (entry : Entry)
    (honly : ∀ other, other ≠ entry → ∀ choice, p.set? (other.change choice) = none) :
    p.read (ofChanges chosen.changes) =
      ((chosen entry).bind fun choice => p.set? (entry.change choice)).getD (p.read {}) := by
  rw [ofChanges, Chosen.changes, p.read_changesOf_all chosen honly (by decide), if_pos entry.mem_all]

/-- A parameter of no entry keeps its default. -/
theorem read_of_unset (p : Parameter) (chosen : Chosen)
    (hunset : ∀ (entry : Entry) (choice : entry.Choice), p.set? (entry.change choice) = none) :
    p.read (ofChanges chosen.changes) = p.read {} := by
  -- No entry sets it, so any will do as the only one.
  rw [p.read_ofChanges chosen .readme fun other _ => hunset other]
  simp only [hunset, Option.bind_fun_none, Option.getD_none]

end Parameter

namespace Entry

/-- The parameter that an entry is of. -/
def parameter : Entry → Parameter
  | readme => .readme
  | amount name => .amount name
  | percentage name => .percentage name
  | skip => .vocabulary .directoriesToSkip

/-- What a choice sets the parameter to. -/
def value : (entry : Entry) → entry.Choice → entry.parameter.Value
  | readme, name => name
  | amount _, number => number.value
  | percentage _, number => (number.value : Rat)
  | skip, folders => .list folders.names

theorem set?_change (entry : Entry) (choice : entry.Choice) :
    entry.parameter.set? (entry.change choice) = some (entry.value choice) := by
  cases entry with
  | readme => rfl
  | amount name => exact if_pos rfl
  | percentage name => exact if_pos rfl
  | skip => rfl

theorem set?_change_of_ne {entry other : Entry} (hne : other ≠ entry) (choice : other.Choice) :
    entry.parameter.set? (other.change choice) = none := by
  cases entry with
  | readme =>
    cases other with
    | readme => exact absurd rfl hne
    | _ => rfl
  | amount name =>
    cases other with
    | amount changed => exact if_neg fun heq => hne (congrArg Entry.amount heq)
    | _ => rfl
  | percentage name =>
    cases other with
    | percentage changed => exact if_neg fun heq => hne (congrArg Entry.percentage heq)
    | _ => rfl
  | skip =>
    cases other with
    | skip => exact absurd rfl hne
    | _ => rfl

/-- The parameter of an entry has what is chosen for that entry. -/
theorem read_parameter (entry : Entry) (chosen : Chosen) :
    entry.parameter.read (ofChanges chosen.changes) =
      ((chosen entry).map entry.value).getD (entry.parameter.read {}) := by
  rw [entry.parameter.read_ofChanges chosen entry fun _ hne => set?_change_of_ne hne]
  cases chosen entry with
  | none => rfl
  | some choice => rw [Option.bind_some, set?_change, Option.map_some]

end Entry

/-- Settings with what is chosen and, for everything that is not, the default. -/
structure Chosen.IsHeldBy (chosen : Chosen) (s : Settings) : Prop where
  readme : s.readmeFilename = (chosen .readme).getD ({} : Settings).readmeFilename
  amount (parameter : Amount) : s.amountOf parameter =
    ((chosen (.amount parameter)).map WholeNumber.value).getD (amountOf {} parameter)
  percentage (parameter : Percentage) : s.percentageOf parameter =
    ((chosen (.percentage parameter)).map fun number => (number.value : Rat)).getD (percentageOf {} parameter)
  skip : s.directoriesToSkip =
    ((chosen .skip).map fun folders => Words.list folders.names).getD ({} : Settings).directoriesToSkip
  vocabulary (parameter : Vocabulary) (h : parameter ≠ .directoriesToSkip) :
    s.vocabularyOf parameter = vocabularyOf {} parameter

theorem Chosen.isHeldBy_ofChanges (chosen : Chosen) : chosen.IsHeldBy (ofChanges chosen.changes) where
  readme := by
    have hread : (ofChanges chosen.changes).readmeFilename =
        ((chosen .readme).map id).getD ({} : Settings).readmeFilename := Entry.readme.read_parameter chosen
    rwa [Option.map_id] at hread
  amount parameter := (Entry.amount parameter).read_parameter chosen
  percentage parameter := (Entry.percentage parameter).read_parameter chosen
  skip := Entry.skip.read_parameter chosen
  vocabulary parameter h := by
    refine (Parameter.vocabulary parameter).read_of_unset chosen fun entry choice => ?_
    cases entry with
    | skip => exact if_neg h.symm
    | _ => rfl

end Settings

/-- **Settings survive being written down.** Whatever is chosen for some of the thirteen parameters, options that hold
it as it is written, among any others, give the changes chosen: exactly one for each parameter that is chosen. So does
a section of a document, where percent signs are doubled. In the context of a review with these changes the settings
are what was chosen and otherwise the defaults, and the paths are those asked for. -/
theorem written_settings_are_read_back (chosen : Settings.Chosen) :
    (∀ value? : String → Outcome (Option String),
      (∀ entry : Settings.Entry, value? entry.key = .ok ((chosen entry).map entry.written)) →
        Settings.changesFrom value? = .ok chosen.changes) ∧
    (∀ (d : Ini.Document) (s : Ini.Section),
      (∀ entry : Settings.Entry, d.raw? s entry.key =
        (chosen entry).map fun choice => String.ofList (Ini.escaped (entry.written choice).toList)) →
          Settings.changesFrom (fun key => Settings.ofFault (d.value? s key)) = .ok chosen.changes) ∧
    (∀ change, change ∈ chosen.changes ↔
      ∃ entry choice, chosen entry = some choice ∧ entry.change choice = change) ∧
    (chosen.changes.map Change.key).Nodup ∧
    ∀ (disk : Disk) (r : Request), r.changes = chosen.changes →
      (r.context disk).path = r.path ∧ (r.context disk).basePath = r.basePath ∧
        chosen.IsHeldBy (r.context disk).settings := by
  refine ⟨fun value? h => Settings.changesFrom_of_written chosen h, ?_, fun _ => Settings.Chosen.mem_changes_iff,
    chosen.nodup_keys_changes, ?_⟩
  · intro d s h
    refine Settings.changesFrom_of_written chosen fun entry => ?_
    have hvalue : d.value? s entry.key = .ok ((chosen entry).map entry.written) := by
      apply Ini.Document.value?_of_escaped
      rw [h entry, Option.map_map]
      rfl
    rw [hvalue]
    rfl
  · intro disk r hchanges
    refine ⟨rfl, rfl, ?_⟩
    show chosen.IsHeldBy (Settings.ofChanges r.changes)
    rw [hchanges]
    exact chosen.isHeldBy_ofChanges

/-- A percent sign, a negative number and an empty name beside one with a blank, with an option that is not known. -/
theorem percent_sign_and_empty_name_are_read_back :
    let changes : List Change :=
      [.readme "100%", .amount .tabSize (-12), .vocabulary .directoriesToSkip (.list ["", "a b"])]
    let s : Ini.Section := ⟨"fiasko_bro",
      [("tab_size", "-12"), ("colour", "%(x"), ("directories_to_skip", ",a b"), ("readme_filename", "100%%")]⟩
    Settings.changesFrom (fun key => Settings.ofFault (Ini.Document.value? ⟨[], [s]⟩ s key)) = .ok changes ∧
      ∀ disk : Disk, (Request.context { path := "p", changes } disk).settings.tabSize = -12 ∧
        (Request.context { path := "p", changes } disk).settings.maxComplexity = 7 := by
  intro changes s
  let chosen : Settings.Chosen
    | .readme => some "100%"
    | .amount .tabSize => some ⟨-12, by decide⟩
    | .skip => some ⟨["", "a b"], by decide, by decide⟩
    | _ => none
  have hchanges : chosen.changes = changes := rfl
  obtain ⟨_, hread, _, _, hheld⟩ := written_settings_are_read_back chosen
  refine ⟨hchanges ▸ hread ⟨[], [s]⟩ s fun entry => ?_, fun disk => ?_⟩
  · cases entry with
    | readme => decide
    | amount parameter => cases parameter <;> decide
    | percentage parameter => cases parameter <;> decide
    | skip => decide
  · obtain ⟨_, _, hsettings⟩ := hheld disk { path := "p", changes } hchanges.symm
    exact ⟨hsettings.amount .tabSize, hsettings.amount .maxComplexity⟩

end Scrutiny
