import Scrutiny.Proofs.Reading
import Scrutiny.Proofs.SkippedFolders

/-! Decoding after the preflight.

The preflight decodes files named like sources and plain texts, and takes them for UTF-8. Two checks read more: the one
of tabs reads pages, styles and scripts, and the one of the languages reads the first file that is named like the
readme. A third, the one of branches, reads the sources otherwise: by the encoding that they declare. But for the checks
that are supplied, no other check can fail to decode a file (`Registry.decodes_of_usual`). So a review that has passed
the preflight still meets a file that it cannot decode just when one of those that only the first two read is not UTF-8,
or a source is not in the encoding that it declares (`decoding_safe_iff`). -/
namespace Scrutiny

/-! ### Work that does not fail in a certain way -/

namespace Outcome
variable {α β : Type} {failure : Failure}

theorem ok_of_isOk {x : Outcome α} (h : x.isOk = true) : ∃ a, x = .ok a := by
  cases x with
  | ok a => exact ⟨a, rfl⟩
  | error _ => cases h

/-- Work that does not fail in the given way. -/
def Avoids (failure : Failure) (x : Outcome α) : Prop :=
  x ≠ .error failure

@[simp] theorem avoids_ok (a : α) : Avoids failure (.ok a) := by
  simp [Avoids]

@[simp] theorem avoids_error_iff {other : Failure} :
    Avoids failure (.error other : Outcome α) ↔ other ≠ failure := by
  simp [Avoids]

theorem Avoids.bind {x : Outcome α} {f : α → Outcome β} (hx : Avoids failure x) (hf : ∀ a, Avoids failure (f a)) :
    Avoids failure (x >>= f) := by
  intro h
  obtain hfail | ⟨a, _, hfail⟩ := bind_eq_error.mp h
  · exact hx hfail
  · exact hf a hfail

/-- Nothing fails in working on a result. -/
theorem avoids_return_iff {x : Outcome α} {f : α → β} :
    Avoids failure (do return f (← x)) ↔ Avoids failure x := by
  cases x <;> simp [bind, Except.bind, pure, Except.pure]

theorem avoids_mapM {f : α → Outcome β} {as : List α} (h : ∀ a, Avoids failure (f a)) :
    Avoids failure (as.mapM f) := by
  intro hfail
  obtain ⟨a, _, ha⟩ := mapM_eq_error hfail
  exact h a ha

/-- Where there is only one way to fail, work on a list fails when it does on one of its members. -/
theorem avoids_mapM_iff {f : α → Outcome β} {as : List α} (honly : ∀ a other, f a = .error other → other = failure) :
    Avoids failure (as.mapM f) ↔ ∀ a ∈ as, Avoids failure (f a) := by
  simp only [Avoids, ne_eq, mapM_eq_error_iff honly, true_and, not_exists, not_and]

theorem avoids_firstFinding {judge : α → Outcome (Option β)} {as : List α} (h : ∀ a, Avoids failure (judge a)) :
    Avoids failure (firstFinding judge as) := by
  intro hfail
  obtain ⟨a, _, ha⟩ := firstFinding_eq_error hfail
  exact h a ha

end Outcome

open Outcome

/-! ### Checks that decode nothing -/

section Blind
variable {c : Context} {p : Project}

theorem Source.walk_decodes (s : Source) : Avoids .undecodable s.walk := by
  unfold walk
  split <;> simp

/-- Most checks look at the walks of sources. -/
theorem walks_decode {β : Type} {judge : Source → Code.Walk → Option β} {sources : List Source} :
    Avoids .undecodable (firstFinding (fun s => do return judge s (← s.walk)) sources) :=
  avoids_firstFinding fun s => avoids_return_iff.mpr s.walk_decodes

theorem Naming.short_decodes : Avoids .undecodable (short c p) := by
  refine avoids_return_iff.mpr (avoids_mapM fun s => ?_)
  exact avoids_return_iff.mpr s.walk_decodes

theorem Code.targetName_decodes (n : Code.Node) : Avoids .undecodable (targetName n) := by
  unfold targetName
  split <;> simp

theorem Code.namesAssignedFrom_decodes (walk : Code.Walk) (sources : Words) :
    Avoids .undecodable (namesAssignedFrom walk sources) := by
  have hamong (name : Option String) : Avoids .undecodable (namedAmong sources name) := by
    unfold namedAmong
    split
    · simp
    · split <;> simp
  refine avoids_return_iff.mpr (avoids_mapM fun assignment => ?_)
  refine (hamong _).bind fun isAmong => ?_
  split
  · exact avoids_mapM targetName_decodes
  · exact avoids_ok _

theorem Naming.camelCase_decodes : Avoids .undecodable (camelCase c p) := by
  refine avoids_firstFinding fun s => avoids_return_iff.mpr ?_
  refine s.walk_decodes.bind fun walk => (Code.namesAssignedFrom_decodes walk _).bind fun excused => ?_
  exact avoids_return_iff.mpr (avoids_mapM Code.targetName_decodes)

theorem Disk.openFile_decodes (disk : Disk) (path : String) : Avoids .undecodable (disk.openFile path) := by
  unfold openFile
  split <;> simp

theorem Repository.tracks_decodes (r : Repository) (path : String) : Avoids .undecodable (r.tracks path) := by
  have hargument : Avoids .undecodable (argument path) := by
    unfold argument
    split <;> simp
  refine hargument.bind fun path => ?_
  split
  · split <;> simp
  · split <;> simp

theorem Layout.trackedData_decodes : Avoids .undecodable (trackedData c p) := by
  unfold trackedData
  split
  · exact avoids_ok _
  · rename_i repository _
    refine avoids_firstFinding fun folder => avoids_firstFinding fun data => ?_
    exact avoids_return_iff.mpr (repository.tracks_decodes folder)

theorem Code.anyLocal_decodes (places : List Code.Place) : Avoids .undecodable (anyLocal places) := by
  induction places with
  | nil => exact avoids_ok _
  | cons i rest ih =>
    have hone : Avoids .undecodable (isLocalImport i) := by
      unfold isLocalImport
      split
      · simp
      · split <;> simp
    refine hone.bind fun isLocal => ?_
    split
    · exact avoids_ok _
    · exact ih

theorem Imports.inner_decodes : Avoids .undecodable (inner c p) :=
  avoids_firstFinding fun s => s.walk_decodes.bind fun _ => avoids_return_iff.mpr (Code.anyLocal_decodes _)

theorem Layout.nested_decodes : Avoids .undecodable (nested c p) := by
  refine avoids_firstFinding fun s => avoids_return_iff.mpr ?_
  unfold tabSize
  split <;> simp

theorem Layout.parenthesizedReturn_decodes : Avoids .undecodable (parenthesizedReturn c p) := by
  refine avoids_firstFinding fun s => s.walk_decodes.bind fun _ => avoids_firstFinding fun n => ?_
  refine avoids_return_iff.mpr ?_
  unfold lineAt
  split <;> simp

theorem Code.isAligned_decodes (i : Code.Place) (offsets : List (Option Nat)) (tabSize : Int) :
    Avoids .undecodable (isAligned i offsets tabSize) := by
  have hoffset (line : Nat) : Avoids .undecodable (offsetOf offsets line) := by
    unfold offsetOf
    split <;> simp
  unfold isAligned
  split
  · exact avoids_ok _
  · split
    · exact (hoffset _).bind fun _ => avoids_return_iff.mpr (hoffset _)
    · exact avoids_ok _

theorem Layout.misaligned_decodes : Avoids .undecodable (misaligned c p) := by
  refine avoids_firstFinding fun s => s.walk_decodes.bind fun _ => avoids_firstFinding fun i => ?_
  exact avoids_return_iff.mpr (Code.isAligned_decodes i _ _)

theorem Commits.emptyMessage_decodes : Avoids .undecodable (emptyMessage c p) := by
  intro hfail
  cases failure_of_emptyMessage hfail

end Blind

/-- A check that, without a project to start from, never fails to decode a file. -/
def Check.Decodes (check : Check) : Prop :=
  ∀ c : Context, c.base = none → Avoids .undecodable (check.run c)

theorem Check.decodes_onProject {name : String} {judge : Context → Project → Outcome (Option String)}
    (h : ∀ (c : Context) (p : Project), c.base = none → Avoids .undecodable (judge c p)) :
    (onProject name judge).Decodes := by
  intro c hbase
  refine avoids_return_iff.mpr ?_
  beta_reduce
  split
  · exact h c _ hbase
  · simp

namespace Registry
open Check (onProject decodes_onProject)

def tabsCheck : Check := onProject "tabs_used_for_indentation" Layout.tabs

def languageCheck : Check := onProject "bilingual_readme" Readme.bilingual

def branchesCheck : Check := onProject "too_difficult_by_mccabe" Layout.tangled

/-- The checks that read texts as UTF-8. -/
def textReaders : List Check := [tabsCheck, languageCheck]

/-- The checks that decode files, and those that are supplied, which may do so. -/
def decoders : List Check := textReaders ++ branchesCheck :: supplied

theorem general_decodes : ∀ check ∈ general, check ∈ decoders ∨ check.Decodes := by
  have other {name : String} {judge : Context → Project → Outcome (Option String)}
      (h : ∀ (c : Context) (p : Project), c.base = none → Avoids .undecodable (judge c p)) :
      onProject name judge ∈ decoders ∨ (onProject name judge).Decodes := .inr (decodes_onProject h)
  have hunchanged (c : Context) (p : Project) (hbase : c.base = none) :
      Avoids .undecodable (Readme.unchanged c p) := by
    unfold Readme.unchanged
    rw [hbase]
    exact avoids_ok _
  simp only [general, List.forall_mem_cons]
  exact ⟨other fun _ _ _ => Layout.trackedData_decodes, other fun _ _ _ => avoids_ok _, other hunchanged,
    other fun _ _ _ => Naming.camelCase_decodes, .inl (by simp [decoders, branchesCheck]),
    other fun _ _ _ => avoids_ok _, other fun _ _ _ => walks_decode, other fun _ _ _ => Imports.inner_decodes,
    other fun _ _ _ => walks_decode, other fun _ _ _ => walks_decode, other fun _ _ _ => Naming.short_decodes,
    other fun _ _ _ => walks_decode, .inl (by simp [decoders, textReaders, tabsCheck]), other fun _ _ _ => walks_decode,
    .inl (by simp [decoders, supplied]), other fun _ _ _ => walks_decode, other fun _ _ _ => walks_decode,
    .inl (by simp [decoders, textReaders, languageCheck]), other fun _ _ _ => walks_decode,
    other fun _ _ _ => walks_decode, other fun _ _ _ => walks_decode, other fun _ _ _ => walks_decode,
    .inl (by simp [decoders, supplied]), other fun _ _ _ => walks_decode, other fun _ _ _ => walks_decode,
    other fun _ _ _ => walks_decode, other fun _ _ _ => walks_decode, other fun _ _ _ => walks_decode,
    other fun _ _ _ => Layout.parenthesizedReturn_decodes, other fun _ _ _ => Layout.nested_decodes,
    other fun _ _ _ => walks_decode, other fun _ _ _ => walks_decode, other fun _ _ _ => walks_decode, by simp⟩

theorem early_decode : ∀ check ∈ [commitsCheck, readmeCheck, parseCheck], check.Decodes := by
  have hcommits (c : Context) (p : Project) (hbase : c.base = none) :
      Avoids .undecodable (Commits.noMoreThanBefore c p) := by
    unfold Commits.noMoreThanBefore
    rw [hbase]
    exact avoids_ok _
  simp only [List.forall_mem_cons]
  exact ⟨decodes_onProject hcommits, decodes_onProject fun _ _ _ => avoids_ok _,
    decodes_onProject fun _ _ _ => avoids_ok _, by simp⟩

theorem warnings_decode : ∀ check ∈ warnings.flatMap (·.checks), check.Decodes := by
  simp only [warnings, List.flatMap_cons, List.flatMap_nil, List.cons_append, List.nil_append,
    List.forall_mem_cons]
  exact ⟨decodes_onProject fun _ _ _ => Commits.emptyMessage_decodes,
    decodes_onProject fun _ _ _ => Layout.misaligned_decodes, decodes_onProject fun _ _ _ => walks_decode, by simp⟩

/-- Of the usual groups only these can fail to decode a file. -/
theorem decodes_of_usual {check : Check} (h : check ∈ (errors ++ warnings).flatMap (·.checks)) :
    check ∈ decoders ∨ check.Decodes := by
  rw [List.flatMap_append, List.mem_append, errors_eq] at h
  simp only [List.flatMap_cons, List.flatMap_nil, List.append_nil, ← List.append_assoc, List.mem_append] at h
  rcases h with (h | h) | h
  · exact .inr (early_decode check (by simpa [or_assoc] using h))
  · exact general_decodes check h
  · exact .inr (warnings_decode check h)

theorem decoders_usual : ∀ check ∈ decoders, check ∈ (errors ++ warnings).flatMap (·.checks) := by
  have hgeneral : ∀ check ∈ decoders, check ∈ general := by
    simp only [decoders, textReaders, supplied, List.cons_append, List.nil_append, List.forall_mem_cons]
    exact ⟨List.mem_of_getElem? (i := 12) rfl, List.mem_of_getElem? (i := 17) rfl, List.mem_of_getElem? (i := 4) rfl,
      List.mem_of_getElem? (i := 14) rfl, List.mem_of_getElem? (i := 22) rfl, by simp⟩
  intro check hcheck
  simp [errors_eq, hgeneral check hcheck]

end Registry

/-! ### Checks that read texts -/

theorem File.text_decodes_iff {file : File} : Avoids .undecodable file.text ↔ file.isUtf8 = true := by
  unfold text isUtf8
  cases Text.Utf8.decode file.bytes <;> simp

theorem File.failure_of_text {file : File} {failure : Failure} (h : file.text = .error failure) :
    failure = .undecodable := by
  unfold text at h
  split at h
  · cases h
  · cases h
    rfl

/-- Texts are read without a failure where all files with one of the extensions are UTF-8, and only there. -/
theorem Disk.textsWith_decodes_iff {disk : Disk} {extensions skip : Words} {path : String} :
    Avoids .undecodable (disk.textsWith extensions skip path) ↔
      ∀ f ∈ Disk.filesOf (disk.visitsOutside skip path),
        extensions.has (Path.extension f.2.1) = true → f.2.2.isUtf8 = true := by
  unfold textsWith
  rw [avoids_mapM_iff]
  · simp only [avoids_return_iff, File.text_decodes_iff, filesWith, List.forall_mem_map, List.mem_filter, and_imp]
  · intro f other hfail
    obtain htext | ⟨_, _, hdone⟩ := bind_eq_error.mp hfail
    · exact File.failure_of_text htext
    · cases hdone

theorem Layout.tabs_decodes_iff {c : Context} {p : Project} :
    Avoids .undecodable (tabs c p) ↔
      ∀ f ∈ Disk.filesOf (c.disk.visitsOutside c.settings.directoriesToSkip p.path),
        (Words.list (frontendExtensions ++ [".py"])).has (Path.extension f.2.1) = true → f.2.2.isUtf8 = true := by
  rw [← Disk.textsWith_decodes_iff]
  exact avoids_return_iff

/-- The first file of a name below a path. -/
def Disk.firstNamed? (disk : Disk) (name path : String) : Option File :=
  (disk.visitsFrom path).findSome? fun v => v.files.lookup name

theorem Readme.bilingual_decodes_iff {c : Context} {p : Project} :
    Avoids .undecodable (bilingual c p) ↔
      ∀ file, c.disk.firstNamed? c.settings.readmeFilename p.path = some file → file.isUtf8 = true := by
  unfold bilingual Project.fileNamed Disk.firstNamed?
  cases (c.disk.visitsFrom p.path).findSome? fun v => v.files.lookup c.settings.readmeFilename with
  | none => simp [bind, Except.bind]
  | some file =>
    simp only [Option.some.injEq, forall_eq', ← File.text_decodes_iff]
    cases file.text <;> simp [bind, Except.bind, pure, Except.pure]

/-! ### Sources by the encoding that they declare -/

namespace Text

theorem utf8Codec_eq_error_iff {bytes : List UInt8} {failure : Failure} :
    utf8Codec bytes = .error failure ↔ failure = .undecodable ∧ Utf8.decode bytes = none := by
  unfold utf8Codec
  cases Utf8.decode bytes with
  | none => simp [eq_comm]
  | some text => simp

/-- What follows a byte order mark in UTF-8 is UTF-8. -/
theorem Utf8.decode_of_mark {bytes : List UInt8} (hmark : mark.isPrefixOf bytes = true)
    (h : Utf8.decode bytes ≠ none) : Utf8.decode (bytes.drop mark.length) ≠ none := by
  obtain ⟨rest, rfl⟩ := List.isPrefixOf_iff_prefix.mp hmark
  rw [List.drop_left]
  intro hrest
  refine h ?_
  simp [mark, Utf8.decode, hrest, following, secondOfThree]

/-- No declaration asks for a byte order mark. -/
theorem declaredBy?_ne_marked (codecs : Codecs) (line : List Char) : declaredBy? codecs line ≠ some (some .marked) := by
  have hnamed (name : List Char) : Charset.named? codecs name ≠ some .marked := by
    unfold Charset.named?
    split
    · simp
    · split
      · simp
      · cases codecs (String.ofList name) <;> simp
  unfold declaredBy?
  split
  · simp
  · simp [hnamed]

theorem declared?_ne_marked (codecs : Codecs) (bytes : List UInt8) : declared? codecs bytes ≠ some (some .marked) := by
  unfold declared?
  intro h
  obtain ⟨first, _, hfirst⟩ := Option.bind_eq_some_iff.mp h
  obtain ⟨by_first, hby, hsecond⟩ := Option.bind_eq_some_iff.mp hfirst
  split at hsecond
  · cases hsecond
    exact declaredBy?_ne_marked codecs first hby
  · split at hsecond
    · obtain ⟨second, _, hdone⟩ := Option.bind_eq_some_iff.mp hsecond
      exact declaredBy?_ne_marked codecs second hdone
    · cases hsecond

theorem Charset.isPrefixOf_of_marked {codecs : Codecs} {bytes : List UInt8} (h : of? codecs bytes = some .marked) :
    Utf8.mark.isPrefixOf bytes = true := by
  unfold of? at h
  split at h
  · next hmark => exact hmark
  · obtain ⟨declaration, hdeclared, hcharset⟩ := Option.map_eq_some_iff.mp h
    cases declaration with
    | none => cases hcharset
    | some charset =>
      cases hcharset
      exact absurd hdeclared (declared?_ne_marked codecs bytes)

/-- Bytes in UTF-8 cannot be decoded just when they declare an encoding of another kind that does not decode them. -/
theorem readDeclared_eq_undecodable_iff {codecs : Codecs} {bytes : List UInt8} (h : Utf8.decode bytes ≠ none) :
    readDeclared codecs bytes = .error .undecodable ↔
      ∃ codec, Charset.of? codecs bytes = some (.other codec) ∧ codec bytes = .error .undecodable := by
  rw [readDeclared]
  cases hcharset : Charset.of? codecs bytes with
  | none => simp [Charset.codec, latinCodec]
  | some charset =>
    cases charset with
    | utf8 => simp [Charset.codec, utf8Codec_eq_error_iff, h]
    | marked =>
      have hrest := Utf8.decode_of_mark (Charset.isPrefixOf_of_marked hcharset) h
      simp [Charset.codec, utf8Codec_eq_error_iff, hrest]
    | latin => simp [Charset.codec, latinCodec]
    | other codec => simp [Charset.codec]

end Text

theorem File.declaredText_eq_error_iff {codecs : Text.Codecs} {file : File} {failure : Failure} :
    file.declaredText codecs = .error failure ↔ Text.readDeclared codecs file.bytes = .error failure := by
  unfold declaredText
  cases Text.readDeclared codecs file.bytes <;> simp [bind, Except.bind, pure, Except.pure]

theorem Layout.reparsed_eq_undecodable_iff {codecs : Text.Codecs} {file : File} :
    reparsed codecs file = .error .undecodable ↔ file.declaredText codecs = .error .undecodable := by
  rw [reparsed, bind_eq_error]
  constructor
  · rintro (hfail | ⟨text, _, hparse⟩)
    · exact hfail
    · split at hparse <;> cases hparse
  · intro hfail
    exact .inl hfail

/-- Reads a source anew. -/
def Context.reread (c : Context) (s : Source) : Outcome Code.Node := do
  Layout.reparsed c.runtime.codecs (← c.disk.openFile s.path)

/-- The files that are read anew: those of the sources up to the first that cannot be read, or parsed, once more. -/
def Context.Rereads (c : Context) (file : File) : Prop :=
  ∃ p before s after, c.project = some p ∧ p.sources = before ++ s :: after ∧
    (∀ k ∈ before, ∃ root, c.reread k = .ok root) ∧ c.disk.openFile s.path = .ok file

theorem Context.reread_eq_undecodable_iff {c : Context} {s : Source} :
    c.reread s = .error .undecodable ↔
      ∃ file, c.disk.openFile s.path = .ok file ∧ file.declaredText c.runtime.codecs = .error .undecodable := by
  have hopens : c.disk.openFile s.path ≠ .error .undecodable := Disk.openFile_decodes c.disk s.path
  simp only [reread, bind_eq_error, hopens, false_or, Layout.reparsed_eq_undecodable_iff]

theorem Layout.tangledIn_eq_reread (c : Context) (s : Source) :
    (do tangledIn c.runtime.codecs (← c.disk.openFile s.path) c.settings.maxComplexity) =
      (c.reread s).map (Code.tangled · c.settings.maxComplexity) := by
  rw [Context.reread]
  cases c.disk.openFile s.path with
  | error failure => rfl
  | ok file =>
    simp only [bind, Except.bind, tangledIn]
    cases reparsed c.runtime.codecs file <;> rfl

theorem Layout.tangled_decodes_iff {c : Context} {p : Project} (hp : c.project = some p) :
    Avoids .undecodable (tangled c p) ↔
      ∀ file, c.Rereads file → file.declaredText c.runtime.codecs ≠ .error .undecodable := by
  have hok (s : Source) : (∃ blocks, (c.reread s).map (Code.tangled · c.settings.maxComplexity) = .ok blocks) ↔
      ∃ root, c.reread s = .ok root := by
    cases c.reread s <;> simp [Except.map]
  have hfails (s : Source) : (c.reread s).map (Code.tangled · c.settings.maxComplexity) = .error .undecodable ↔
      c.reread s = .error .undecodable := by
    cases c.reread s <;> simp [Except.map]
  rw [tangled, avoids_return_iff, Avoids, ne_eq, mapM_eq_error_iff_split]
  simp only [tangledIn_eq_reread, hok, hfails, Context.reread_eq_undecodable_iff]
  constructor
  · rintro h file ⟨q, before, s, after, hq, hsplit, hbefore, hfile⟩ hfail
    obtain rfl : p = q := Option.some.inj (hp.symm.trans hq)
    exact h ⟨before, s, after, hsplit, hbefore, file, hfile, hfail⟩
  · rintro h ⟨before, s, after, hsplit, hbefore, file, hfile, hfail⟩
    exact h file ⟨p, before, s, after, hp, hsplit, hbefore, hfile⟩ hfail

/-! ### What the preflight leaves out -/

/-- The files besides the sources that checks decode: pages, styles and scripts outside of the folders to skip, and the
first file that is named like the readme. -/
def Context.furtherTexts (c : Context) : List File :=
  ((Disk.filesOf (c.disk.visitsOutside c.settings.directoriesToSkip c.path)).filter fun f =>
      Layout.frontendExtensions.contains (Path.extension f.2.1)).map (·.2.2) ++
    (c.disk.firstNamed? c.settings.readmeFilename c.path).toList

theorem Check.avoids_onProject_iff {c : Context} {p : Project} (hp : c.project = some p) {name : String}
    {judge : Context → Project → Outcome (Option String)} {failure : Failure} :
    Avoids failure ((onProject name judge).run c) ↔ Avoids failure (judge c p) := by
  rw [run_onProject hp]
  cases judge c p <;> simp [Except.map]

open Registry in
/-- After a preflight without findings, the readers of texts meet what they cannot decode among the further texts, and
nowhere else: the preflight has decoded the sources. -/
theorem textReaders_decode_iff {c : Context} {p : Project} (hclear : Registry.preflight.outcome c [] = .ok [])
    (hpath : p.path = c.path) :
    (∀ check ∈ textReaders, Avoids .undecodable (check.run { c with project := some p })) ↔
      ∀ file ∈ c.furtherTexts, file.isUtf8 = true := by
  have hp : ({ c with project := some p } : Context).project = some p := rfl
  simp only [textReaders, tabsCheck, languageCheck, List.forall_mem_cons, Check.avoids_onProject_iff hp,
    Layout.tabs_decodes_iff, Readme.bilingual_decodes_iff, hpath, Context.furtherTexts, List.forall_mem_append,
    List.forall_mem_map, List.mem_filter, Option.mem_toList]
  refine and_congr ⟨fun h f hf => ?_, fun h f hf hextension => ?_⟩ (by simp)
  · exact h f hf.1 (by simpa [Words.has] using .inl (List.contains_iff_mem.mp hf.2))
  · by_cases hsource : Path.extension f.2.1 = ".py"
    · exact isUtf8_of_preflight hclear hf (endsWith_of_extension hsource)
    · refine h f ⟨hf, ?_⟩
      simpa [Words.has, hsource] using hextension

open Registry in
theorem decoders_decode_iff {c : Context} {p : Project} (hclear : Registry.preflight.outcome c [] = .ok [])
    (hpath : p.path = c.path) :
    (∀ check ∈ decoders, Avoids .undecodable (check.run { c with project := some p })) ↔
      (∀ file ∈ c.furtherTexts, file.isUtf8 = true) ∧
      (∀ file, Context.Rereads { c with project := some p } file →
        file.declaredText c.runtime.codecs ≠ .error .undecodable) ∧
      ∀ check ∈ supplied, Avoids .undecodable (check.run { c with project := some p }) := by
  rw [decoders, List.forall_mem_append, List.forall_mem_cons, textReaders_decode_iff hclear hpath, branchesCheck,
    Check.avoids_onProject_iff rfl, Layout.tangled_decodes_iff rfl]

/-- **Decoding.** A project that starts from no other has passed the preflight and is loaded. Then no check of the usual
groups fails to decode a file just when the pages, styles and scripts outside of the folders to skip and the first file
named like the readme are UTF-8, the sources that are read anew are in the encodings that they declare, and the checks
of requirements, which are supplied, do not fail so. A file in UTF-8 is not in the encoding that it declares just when
this is another one than UTF-8 and Latin-1 and does not decode it. -/
theorem decoding_safe_iff (disk : Disk) (r : Request) (loaded : Context) (hbase : r.basePath = none)
    (hclear : Registry.preflight.outcome (r.context disk) [] = .ok [])
    (hload : (r.context disk).load = .ok loaded) :
    ((∀ check ∈ (Registry.errors ++ Registry.warnings).flatMap (·.checks),
        check.run loaded ≠ .error .undecodable) ↔
      (∀ file ∈ (r.context disk).furtherTexts, file.isUtf8 = true) ∧
      (∀ file, loaded.Rereads file → file.declaredText r.runtime.codecs ≠ .error .undecodable) ∧
      ∀ check ∈ Registry.supplied, check.run loaded ≠ .error .undecodable) ∧
    ∀ file : File, file.isUtf8 = true →
      (file.declaredText r.runtime.codecs = .error .undecodable ↔
        ∃ codec, Text.Charset.of? r.runtime.codecs file.bytes = some (.other codec) ∧
          codec file.bytes = .error .undecodable) := by
  obtain ⟨p, base, hp, rfl, hbases⟩ := Request.of_load hload
  obtain rfl : base = none := by
    cases base with
    | none => rfl
    | some b =>
      obtain ⟨path, hpath, _⟩ := hbases b rfl
      rw [hbase] at hpath
      cases hpath
  constructor
  · refine Iff.trans ⟨fun h check hcheck => ?_, fun h check hcheck => ?_⟩
      (decoders_decode_iff hclear (Project.of_load hp).1)
    · exact h check (Registry.decoders_usual check hcheck)
    · rcases Registry.decodes_of_usual hcheck with hdecoder | hdecodes
      · exact h check hdecoder
      · exact hdecodes _ rfl
  · intro file hutf8
    have hdecodes : Text.Utf8.decode file.bytes ≠ none := by
      simpa [File.isUtf8, Option.isSome_iff_ne_none] using hutf8
    rw [File.declaredText_eq_error_iff, Text.readDeclared_eq_undecodable_iff hdecodes]

/-- A page and a readme in UTF-8 beyond ASCII, a source in ASCII that declares it, and bytes that are no text where no
check looks. -/
theorem decoded_page_is_safe :
    let source : File :=
      { bytes := "#coding:ascii\nx".toUTF8.data.toList, tree := some (.node ⟨.module, .body, none, []⟩ []) }
    let disk : Disk := { top := .node { name := "" } [.node
      { name := "p", files := [("README.md", { bytes := [0xC3, 0xA9] }), ("a.py", source),
        ("page.html", { bytes := [0xD0, 0xB6] }), ("page.png", { bytes := [0xFF] })] } []] }
    let r : Request := { path := "p" }
    Registry.preflight.outcome (r.context disk) [] = .ok [] ∧
      ∃ loaded, (r.context disk).load = .ok loaded ∧
        ∀ check ∈ (Registry.errors ++ Registry.warnings).flatMap (·.checks),
          check.run loaded ≠ .error .undecodable := by
  intro source disk r
  have hclear : Registry.preflight.outcome (r.context disk) [] = .ok [] := by decide +kernel
  have hok : (r.context disk).load.isOk = true := by decide +kernel
  obtain ⟨loaded, hload⟩ := ok_of_isOk hok
  refine ⟨hclear, loaded, hload, (decoding_safe_iff disk r loaded rfl hclear hload).1.mpr ⟨by decide +kernel, ?_, ?_⟩⟩
  · rintro file ⟨q, before, s, after, hq, hsplit, _, hfile⟩
    have hpaths : (r.context disk).load.map (fun c => c.project.map fun q => q.sources.map (·.path)) =
        .ok (some ["p/a.py"]) := by decide +kernel
    have hread : (disk.openFile "p/a.py" >>= File.declaredText .usual).isOk = true := by decide +kernel
    have hs : s.path = "p/a.py" := by
      have hsources : q.sources.map (·.path) = ["p/a.py"] := by
        simpa [hload, hq, Except.map] using hpaths
      have hmem : s.path ∈ q.sources.map (·.path) := List.mem_map_of_mem (by simp [hsplit])
      simpa [hsources] using hmem
    have hopen : disk.openFile "p/a.py" = .ok file := by
      obtain ⟨_, _, _, rfl, _⟩ := Request.of_load hload
      rw [← hs]
      exact hfile
    rw [hopen] at hread
    intro hfail
    have hdone : (file.declaredText .usual).isOk = true := hread
    rw [show file.declaredText .usual = _ from hfail] at hdone
    cases hdone
  · obtain ⟨_, _, _, rfl, _⟩ := Request.of_load hload
    exact List.forall_mem_cons.mpr ⟨by rintro ⟨⟩, List.forall_mem_singleton.mpr (by rintro ⟨⟩)⟩

/-- A page that is no text passes the preflight with its project, and stops the review. -/
theorem undecodable_page_stops_review :
    let source : String × File := ("a.py", { bytes := [0x78], tree := some (.node ⟨.module, .body, none, []⟩ []) })
    let disk : Disk := { top := .node { name := "" } [.node
      { name := "p", files := [("README.md", { bytes := [0x61] }), source, ("page.html", { bytes := [0xFF] })] } []] }
    let r : Request := { path := "p" }
    disk.repositoryAt? r.path = none ∧
      Registry.preflight.outcome (r.context disk) [] = .ok [] ∧
      (∃ loaded, (r.context disk).load = .ok loaded ∧
        ∃ check ∈ (Registry.errors ++ Registry.warnings).flatMap (·.checks),
          check.run loaded = .error .undecodable) ∧
      review disk r = .error .undecodable := by
  intro source disk r
  have hok : (r.context disk).load.isOk = true := by decide +kernel
  have htabs : ((r.context disk).load >>= Registry.tabsCheck.run) = .error .undecodable := by decide +kernel
  obtain ⟨loaded, hload⟩ := ok_of_isOk hok
  rw [hload] at htabs
  refine ⟨by decide +kernel, by decide +kernel, ⟨loaded, hload, Registry.tabsCheck, ?_, htabs⟩, by decide +kernel⟩
  exact Registry.decoders_usual _ List.mem_cons_self

/-- So does a source in UTF-8 that declares ASCII and has another letter in a comment. -/
theorem misdeclared_source_stops_review :
    let source : File :=
      { bytes := "#coding:ascii\n#я\nx".toUTF8.data.toList, tree := some (.node ⟨.module, .body, none, []⟩ []) }
    let disk : Disk := { top := .node { name := "" } [.node
      { name := "p", files := [("README.md", { bytes := [0x61] }), ("a.py", source)] } []] }
    let r : Request := { path := "p" }
    Registry.preflight.outcome (r.context disk) [] = .ok [] ∧ source.isUtf8 = true ∧
      (∀ file ∈ (r.context disk).furtherTexts, file.isUtf8 = true) ∧ review disk r = .error .undecodable := by
  intro source disk r
  exact ⟨by decide +kernel, by decide +kernel, by decide +kernel, by decide +kernel⟩

end Scrutiny
