import Scrutiny.Proofs.Paths
import Scrutiny.Proofs.Phases

/-! Reading after the preflight.

Three choices of files nest: the sources that a project loads have the extension `.py`, so they are named like sources,
and all files named like sources have to be UTF-8. The group that looks at the encoding comes before the group that
counts lines and before the loading, so neither of them meets a file that it cannot decode. -/
namespace Scrutiny

/-! ### Which files have to be UTF-8 -/

/-- A file named like a source has to be UTF-8, in whatever folder it is. -/
theorem isTextName_join {name : String} (h : Text.endsWith ".py" name = true) (path : String) :
    isTextName (Path.join path name) = true := by
  have hjoin : Text.endsWith ".py" (Path.join path name) = true :=
    Text.endsWith_iff.mpr ((Text.endsWith_iff.mp h).trans (Path.toList_suffix_join path name))
  unfold isTextName
  rw [hjoin, Bool.true_or]

theorem endsWith_of_extension {name : String} (h : Path.extension name = ".py") :
    Text.endsWith ".py" name = true := by
  rw [Text.endsWith_iff, ← h]
  exact Path.extension_suffix name

namespace File

theorem text_of_isUtf8 {file : File} (h : file.isUtf8 = true) : ∃ text, file.text = .ok text := by
  unfold isUtf8 at h
  obtain ⟨chars, hchars⟩ := Option.isSome_iff_exists.mp h
  unfold text
  rw [hchars]
  exact ⟨_, rfl⟩

/-- Counting lines fails only on a file that is not UTF-8. -/
theorem hasLines_of_isUtf8 {file : File} (h : file.isUtf8 = true) (limit : Int) :
    ∃ answer, file.hasLines limit = .ok answer := by
  obtain ⟨text, htext⟩ := text_of_isUtf8 h
  unfold hasLines
  rw [htext]
  split
  · exact ⟨_, rfl⟩
  · exact ⟨_, rfl⟩

end File

/-! ### The preflight checks -/

namespace Preflight

theorem failure_of_visitable {path : String} {failure : Failure}
    (h : Disk.visitable path = .error failure) : failure = .nul := by
  unfold Disk.visitable at h
  split at h
  · cases h; rfl
  · cases h

theorem failure_of_files {c : Context} {failure : Failure} (h : files c = .error failure) : failure = .nul := by
  obtain hpath | ⟨_, _, hdone⟩ := Outcome.bind_eq_error.mp h
  · exact failure_of_visitable hpath
  · cases hdone

theorem failure_of_tooLarge {c : Context} {failure : Failure} (h : tooLarge c = .error failure) :
    failure = .nul := by
  obtain ⟨path, _, hpath⟩ := Outcome.firstFinding_eq_error h
  obtain hlarge | ⟨_, _, hdone⟩ := Outcome.bind_eq_error.mp hpath
  · obtain hvisit | ⟨_, _, hdone⟩ := Outcome.bind_eq_error.mp hlarge
    · exact failure_of_visitable hvisit
    · cases hdone
  · cases hdone

/-- A check that has only to choose among the files fails where they cannot be asked for. -/
theorem failure_of_choice {c : Context} {choose : List (String × String × File) → Option String} {failure : Failure}
    (h : (do return choose (← files c) : Outcome (Option String)) = .error failure) : failure = .nul := by
  obtain hfiles | ⟨_, _, hdone⟩ := Outcome.bind_eq_error.mp h
  · exact failure_of_files hfiles
  · cases hdone

/-- If the check of the encoding finds nothing, all files named like sources are UTF-8. -/
theorem isUtf8_of_notUtf8 {c : Context} {fs : List (String × String × File)} (hfiles : files c = .ok fs)
    (h : notUtf8 c = .ok none) {f : String × String × File} (hf : f ∈ fs)
    (hname : Text.endsWith ".py" f.2.1 = true) : f.2.2.isUtf8 = true := by
  unfold notUtf8 at h
  rw [hfiles] at h
  have hnone : fs.find? (fun f => isTextName (Path.join f.1 f.2.1) && !f.2.2.isUtf8) = none := by
    simpa [bind, Except.bind, pure, Except.pure] using h
  have hnot := List.find?_eq_none.mp hnone f hf
  rw [isTextName_join hname] at hnot
  simpa using hnot

/-- Behind the check of the encoding, counting lines fails on no file. -/
theorem failure_of_tooLong {c : Context} {failure : Failure} (hutf8 : ∀ message, notUtf8 c ≠ .ok (some message))
    (h : tooLong c = .error failure) : failure = .nul := by
  obtain hfiles | ⟨fs, hfiles, hfirst⟩ := Outcome.bind_eq_error.mp h
  · exact failure_of_files hfiles
  · obtain ⟨f, hf, hlines⟩ := Outcome.firstFinding_eq_error hfirst
    obtain ⟨hmem, hname⟩ := List.mem_filter.mp hf
    have hnone : notUtf8 c = .ok none := by
      cases hn : notUtf8 c with
      | error other =>
        obtain hother | ⟨_, _, hdone⟩ := Outcome.bind_eq_error.mp hn
        · rw [hfiles] at hother; cases hother
        · cases hdone
      | ok found =>
        cases found with
        | none => rfl
        | some message => exact absurd hn (hutf8 message)
    obtain ⟨answer, hanswer⟩ :=
      File.hasLines_of_isUtf8 (isUtf8_of_notUtf8 hfiles hnone hmem hname) c.settings.maxNumberOfLines
    rw [hanswer] at hlines
    cases hlines

end Preflight

/-! ### The preflight as a whole -/

namespace Registry
open Check (onContext)

def sizeCheck : Check := onContext "repo_is_too_large" Preflight.tooLarge

def encodingCheck : Check := onContext "file_not_in_utf8" Preflight.notUtf8

def markCheck : Check := onContext "file_has_bom" Preflight.marked

def lengthCheck : Check := onContext "file_too_long" Preflight.tooLong

theorem preflight_eq : preflight =
    [⟨"repo_size", [sizeCheck]⟩, ⟨"encoding", [encodingCheck]⟩, ⟨"bom", [markCheck]⟩,
     ⟨"file_size", [lengthCheck]⟩] := rfl

end Registry

section Preflight
open Registry
variable {c : Context}

/-- The preflight fails on a path that cannot be asked for, and on nothing else. -/
theorem failure_of_preflight {failure : Failure} (h : Registry.preflight.outcome c [] = .error failure) :
    failure = .nul := by
  obtain ⟨check, hcheck, hfailure⟩ := List.exists_of_findSome?_eq_some (Groups.failure_of_outcome h)
  have hsize (hf : sizeCheck.failure? c = some failure) : failure = .nul :=
    Preflight.failure_of_tooLarge (Check.failure?_onContext.mp hf)
  have hencoding (hf : encodingCheck.failure? c = some failure) : failure = .nul :=
    Preflight.failure_of_choice (Check.failure?_onContext.mp hf)
  have hmark (hf : markCheck.failure? c = some failure) : failure = .nul :=
    Preflight.failure_of_choice (Check.failure?_onContext.mp hf)
  cases he : encodingCheck.finding? c with
  | some found =>
    -- The run ends with the encoding: what failed is one of the first two checks.
    have hfinds : (Group.mk "encoding" [encodingCheck]).finds c = true := by
      rw [Group.finds_singleton, he]
      rfl
    have hmem := Groups.mem_executed_of_finds ⟨_, List.mem_cons_of_mem _ List.mem_cons_self, hfinds⟩
      (show check ∈ Groups.executed c ([⟨"repo_size", [sizeCheck]⟩, ⟨"encoding", [encodingCheck]⟩] ++
        [⟨"bom", [markCheck]⟩, ⟨"file_size", [lengthCheck]⟩]) [] from hcheck)
    rw [Groups.notes_nil] at hmem
    simp only [List.flatMap_cons, List.flatMap_nil, List.append_nil, List.cons_append, List.nil_append,
      List.mem_cons, List.not_mem_nil, or_false] at hmem
    rcases hmem with rfl | rfl
    · exact hsize hfailure
    · exact hencoding hfailure
  | none =>
    have hutf8 : ∀ message, Preflight.notUtf8 c ≠ .ok (some message) := by
      intro message hm
      rw [encodingCheck, Check.finding?_onContext.mpr ⟨message, hm, rfl⟩] at he
      cases he
    have hmem := Groups.mem_executed hcheck
    rw [Groups.notes_nil, preflight_eq] at hmem
    simp only [List.flatMap_cons, List.flatMap_nil, List.append_nil, List.cons_append, List.nil_append,
      List.mem_cons, List.not_mem_nil, or_false] at hmem
    rcases hmem with rfl | rfl | rfl | rfl
    · exact hsize hfailure
    · exact hencoding hfailure
    · exact hmark hfailure
    · exact Preflight.failure_of_tooLong hutf8 (Check.failure?_onContext.mp hfailure)

/-- After a preflight without findings, all files named like sources are UTF-8. -/
theorem isUtf8_of_preflight (h : Registry.preflight.outcome c [] = .ok [])
    {f : String × String × File} (hf : f ∈ Disk.filesOf (c.disk.visitsOutside c.settings.directoriesToSkip c.path))
    (hname : Text.endsWith ".py" f.2.1 = true) : f.2.2.isUtf8 = true := by
  have hgroup : (⟨"encoding", [encodingCheck]⟩ : Group) ∈ Registry.preflight := by
    rw [preflight_eq]
    simp
  obtain ⟨hfailure, hfinding⟩ := Groups.clear_of_outcome h hgroup (List.mem_singleton.mpr rfl)
  have hnone := Check.judge_of_clear hfailure hfinding
  obtain ⟨fs, hfiles, _⟩ := Outcome.bind_eq_ok.mp hnone
  obtain ⟨_, _, hfs⟩ := Outcome.bind_eq_ok.mp hfiles
  cases hfs
  exact Preflight.isUtf8_of_notUtf8 hfiles hnone hf hname

/-- Where all files named like sources are UTF-8, loading fails only for want of a folder or of sources. -/
theorem Project.failure_of_load {disk : Disk} {path : String} {skip : Words} {failure : Failure}
    (hutf8 : ∀ f ∈ Disk.filesOf (disk.visitsOutside skip path),
      Text.endsWith ".py" f.2.1 = true → f.2.2.isUtf8 = true)
    (h : Project.load disk path skip = .error failure) :
    failure = .notAFolder path ∨ failure = .noSources := by
  unfold Project.load at h
  split at h
  · cases h
    exact .inl rfl
  · obtain hmap | ⟨sources, _, hdone⟩ := Outcome.bind_eq_error.mp h
    · obtain ⟨entry, hentry, hread⟩ := Outcome.mapM_eq_error hmap
      obtain ⟨f, hf, rfl⟩ := List.mem_map.mp hentry
      obtain ⟨hmem, hextension⟩ := List.mem_filter.mp hf
      have hname : Path.extension f.2.1 = ".py" := by simpa [Words.has] using hextension
      obtain ⟨text, htext⟩ := File.text_of_isUtf8 (hutf8 f hmem (endsWith_of_extension hname))
      obtain hfail | ⟨_, _, hdone⟩ := Outcome.bind_eq_error.mp hread
      · rw [htext] at hfail
        cases hfail
      · cases hdone
    · split at hdone
      · cases hdone
        exact .inr rfl
      · cases hdone

/-- **Reading is safe.** The preflight never meets a file that it cannot decode, whatever the bytes on the disk; and
where it finds nothing, loading the project meets none either. -/
theorem preflight_makes_reading_safe (c : Context) :
    Registry.preflight.outcome c [] ≠ .error .undecodable ∧
    (Registry.preflight.outcome c [] = .ok [] →
      Project.load c.disk c.path c.settings.directoriesToSkip ≠ .error .undecodable) := by
  constructor
  · intro h
    cases failure_of_preflight h
  · intro hclear h
    obtain hfolder | hsources := Project.failure_of_load (fun f hf hname => isUtf8_of_preflight hclear hf hname) h
    · cases hfolder
    · cases hsources

/-- A hidden source and bytes that are no text pass the preflight, and the project is loaded. -/
theorem preflight_passes_bytes :
    let disk : Disk := { top := .node { name := "" } [.node
      { name := "p", files := [(".py", { bytes := [0x61] }), ("a.py", { bytes := [0xC3, 0xA9] }),
        ("b.bin", { bytes := [0xFF] })] } []] }
    let c : Context := { disk, path := "p" }
    Registry.preflight.outcome c [] = .ok [] ∧
      Project.load c.disk c.path c.settings.directoriesToSkip ≠ .error .undecodable := by
  intro disk c
  have hclear : Registry.preflight.outcome c [] = .ok [] := by decide +kernel
  exact ⟨hclear, (preflight_makes_reading_safe c).2 hclear⟩

end Preflight
end Scrutiny
