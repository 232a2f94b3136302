import Mathlib.Data.List.Infix
import Scrutiny.Disk.Repository
import Scrutiny.Proofs.Contents
import Scrutiny.Proofs.Encoding

/-! What a plain path asks of a repository.

A path of proper names, with a dot before it or not, stands for itself (`shorten?_of_cut`). If none of its characters
means anything to the repository, it asks whether one of the tracked paths starts with its names (`tracks_of_plain`).
Paths are compared byte by byte, which for whole names is name by name. -/
namespace Scrutiny

/-! ### Components -/

namespace Text

/-- Cutting undoes joining, where no separator stands in a piece. -/
theorem pieces_intercalate {separator : Char} {texts : List (List Char)} (hne : texts ≠ [])
    (h : ∀ text ∈ texts, separator ∉ text) : pieces separator ([separator].intercalate texts) = texts := by
  induction texts with
  | nil => exact absurd rfl hne
  | cons text rest ih =>
    obtain ⟨htext, hrest⟩ := List.forall_mem_cons.mp h
    by_cases hlast : rest = []
    · rw [hlast, List.intercalate_singleton, pieces_of_not_mem htext]
    · rw [List.intercalate_cons_of_ne_nil hlast, List.append_assoc, List.singleton_append, pieces_append,
        pieces_of_not_mem htext, ih hlast hrest]
      rfl

theorem cut_join {separator : Char} {mark : String} (hmark : mark.toList = [separator]) {names : List String}
    (hne : names ≠ []) (h : ∀ name ∈ names, separator ∉ name.toList) :
    cut separator (mark.intercalate names) = names := by
  have hpieces := pieces_intercalate (mt List.map_eq_nil_iff.mp hne) (List.forall_mem_map.mpr h)
  rw [cut, String.toList_intercalate, hmark, hpieces, List.map_map]
  simp [Function.comp_def]

theorem cut_intercalate {names : List String} (hne : names ≠ []) (h : ∀ name ∈ names, '/' ∉ name.toList) :
    cut '/' ("/".intercalate names) = names :=
  cut_join rfl hne h

theorem intercalate_pieces (separator : Char) (text : List Char) :
    [separator].intercalate (pieces separator text) = text := by
  induction text with
  | nil => rfl
  | cons c rest ih =>
    have hne := pieces_ne_nil separator rest
    rw [pieces]
    split
    · next heq => rw [List.intercalate_cons_of_ne_nil hne, ih, heq]; rfl
    · cases hp : pieces separator rest with
      | nil => exact absurd hp hne
      | cons piece more =>
        rw [hp] at ih
        rw [List.modifyHead_cons, List.intercalate_cons_cons_left, ih]

/-- A path is made of its components. -/
theorem intercalate_cut (path : String) : "/".intercalate (cut '/' path) = path := by
  rw [← String.toList_inj, String.toList_intercalate, cut, List.map_map]
  simpa [Function.comp_def] using intercalate_pieces '/' path.toList

/-- A path starts with names if it is made of them alone, or goes on with a slash. -/
theorem prefix_cut_iff {names : List String} (hne : names ≠ []) (h : ∀ name ∈ names, '/' ∉ name.toList)
    {path : String} : names <+: cut '/' path ↔
      path = "/".intercalate names ∨ ("/".intercalate names ++ "/").toList <+: path.toList := by
  constructor
  · rintro ⟨rest, hcut⟩
    cases rest with
    | nil =>
      rw [List.append_nil] at hcut
      exact .inl (by rw [hcut, intercalate_cut])
    | cons next rest =>
      refine .inr ⟨("/".intercalate (next :: rest)).toList, ?_⟩
      rw [← String.toList_append, ← String.intercalate_append_of_ne_nil hne (List.cons_ne_nil _ _), hcut,
        intercalate_cut]
  · rintro (rfl | ⟨rest, hrest⟩)
    · rw [cut_intercalate hne h]
    · have hpath : path = "/".intercalate names ++ "/" ++ String.ofList rest := by
        rw [← String.toList_inj, String.toList_append, String.toList_ofList, hrest]
      rw [hpath, cut_append_slash, cut_intercalate hne h]
      exact List.prefix_append _ _

end Text

theorem Text.head?_cut_of_startsWith {text : String} (h : startsWith "/" text = true) :
    (cut '/' text).head? = some "" := by
  obtain ⟨rest, hrest⟩ := startsWith_iff.mp h
  rw [cut, ← hrest]
  rfl

theorem Text.exists_intercalate_eq_append {names : List String} (hne : names ≠ []) :
    ∃ before, ∃ last ∈ names, "/".intercalate names = before ++ last := by
  obtain rfl | ⟨init, last, rfl⟩ := List.eq_nil_or_concat names
  · exact absurd rfl hne
  rw [List.concat_eq_append]
  cases init with
  | nil => exact ⟨"", last, by simp⟩
  | cons name init =>
    refine ⟨"/".intercalate (name :: init) ++ "/", last, by simp, ?_⟩
    rw [String.intercalate_append_of_ne_nil (List.cons_ne_nil _ _) (List.cons_ne_nil _ _),
      String.intercalate_singleton]

/-- A text for a path below the work tree: its names with slashes between them, after a dot or not. -/
def Spells (names : List String) (text : String) : Prop :=
  text = "/".intercalate names ∨ text = "./" ++ "/".intercalate names

theorem Text.forall_mem_intercalate {P : Char → Prop} {names : List String} (hslash : P '/')
    (h : ∀ name ∈ names, ∀ c ∈ name.toList, P c) : ∀ c ∈ ("/".intercalate names).toList, P c := by
  induction names with
  | nil => simp
  | cons name rest ih =>
    obtain ⟨hname, hrest⟩ := List.forall_mem_cons.mp h
    cases rest with
    | nil => rwa [String.intercalate_singleton]
    | cons next rest =>
      have hbelow := ih hrest
      intro c hc
      simp only [String.intercalate_cons_cons, String.toList_append, List.mem_append] at hc
      rcases hc with (hc | hc) | hc
      · exact hname c hc
      · exact List.mem_singleton.mp hc ▸ hslash
      · exact hbelow c hc

namespace Spells
variable {names : List String} {text : String}

theorem forall_mem (h : Spells names text) {P : Char → Prop} (hdot : P '.') (hslash : P '/')
    (hnames : ∀ name ∈ names, ∀ c ∈ name.toList, P c) : ∀ c ∈ text.toList, P c := by
  have hbare := Text.forall_mem_intercalate hslash hnames
  rcases h with rfl | rfl
  · exact hbare
  · intro c hc
    rw [String.toList_append, List.mem_append] at hc
    rcases hc with hc | hc
    · rcases List.mem_pair.mp hc with rfl | rfl
      · exact hdot
      · exact hslash
    · exact hbare c hc

theorem cut_eq (h : Spells names text) (hne : names ≠ []) (hnames : ∀ name ∈ names, Path.isName name = true) :
    Text.cut '/' text = names ∨ Text.cut '/' text = "." :: names := by
  have hbare := Text.cut_intercalate hne fun name hname => (Path.isName_iff.mp (hnames name hname)).2.2.2.1
  rcases h with rfl | rfl
  · exact .inl hbare
  · right
    have hdot : Text.cut '/' "." = ["."] := by decide
    show Text.cut '/' ("." ++ "/" ++ "/".intercalate names) = _
    rw [Text.cut_append_slash, hbare, hdot]
    rfl

theorem head?_cut_ne (h : Spells names text) (hne : names ≠ []) (hnames : ∀ name ∈ names, Path.isName name = true) :
    (Text.cut '/' text).head? ≠ some "" := by
  rcases h.cut_eq hne hnames with hcut | hcut
  · rw [hcut]
    intro hhead
    exact (Path.isName_iff.mp (hnames "" (List.mem_of_head? hhead))).1 rfl
  · rw [hcut]
    simp

theorem ne_empty (h : Spells names text) (hne : names ≠ []) (hnames : ∀ name ∈ names, Path.isName name = true) :
    text ≠ "" := by
  rintro rfl
  exact h.head?_cut_ne hne hnames rfl

end Spells

/-! ### Bytes -/

theorem octets_eq (text : String) :
    octets text = (Text.Utf8.encode text.toList).map fun b => Char.ofNat b.toNat := rfl

theorem octet_injective : Function.Injective fun b : UInt8 => Char.ofNat b.toNat := by
  intro a b h
  have hval := congrArg (fun c : Char => c.val.toNat) h
  simp only [Text.Utf8.val_ofNat (.inl (by have := a.toNat_lt; omega) : a.toNat.isValidChar),
    Text.Utf8.val_ofNat (.inl (by have := b.toNat_lt; omega) : b.toNat.isValidChar)] at hval
  exact UInt8.toNat_inj.mp hval

theorem octets_prefix_iff {first whole : String} : octets first <+: octets whole ↔ first.toList <+: whole.toList := by
  rw [octets_eq, octets_eq, List.prefix_map_iff_of_injective octet_injective, Text.Utf8.encode_prefix_iff]

theorem octets_inj {first second : String} : octets first = octets second ↔ first = second := by
  rw [octets_eq, octets_eq, (List.map_injective_iff.mpr octet_injective).eq_iff, ← String.toList_inj]
  exact ⟨Text.Utf8.encode_injective, congrArg _⟩

theorem octets_append (first second : String) : octets (first ++ second) = octets first ++ octets second := by
  rw [octets_eq, octets_eq, octets_eq, String.toList_append, ← List.map_append]
  exact congrArg _ List.flatMap_append

/-- A byte that is a character by itself is in the bytes of no other one. -/
theorem mem_of_mem_octets {c : Char} (h : c.toNat < 0x80) {text : String} (hc : c ∈ octets text) : c ∈ text.toList := by
  rw [octets_eq] at hc
  obtain ⟨b, hb, rfl⟩ := List.mem_map.mp hc
  obtain ⟨d, hd, hmem⟩ := List.mem_flatMap.mp hb
  have hval : (Char.ofNat b.toNat).toNat = b.toNat :=
    Text.Utf8.val_ofNat (.inl (by have := b.toNat_lt; omega))
  have hsame : d = Char.ofNat b.toNat := by
    rw [← Text.Utf8.toNat_of_mem_encodeChar (hval ▸ h) hmem, Char.ofNat_toNat]
  exact hsame ▸ hd

theorem octets_ne_nil {text : String} (h : text ≠ "") : octets text ≠ [] := fun hnil =>
  h (octets_inj.mp (hnil.trans (octets_eq "").symm))

theorem getLast?_octets_append (path : String) {name : String} (hne : name ≠ "") (h : '/' ∉ name.toList) :
    (octets (path ++ name)).getLast?.all (· = '/') = false := by
  have hbytes := octets_ne_nil hne
  rw [octets_append, List.getLast?_append_of_ne_nil _ hbytes, List.getLast?_eq_some_getLast hbytes]
  exact decide_eq_false fun hlast => h (mem_of_mem_octets (by decide) (hlast ▸ List.getLast_mem hbytes))

/-! ### Requests -/

namespace Pathspec

/-- What is asked for without options is the path, if it does not end in a slash, or what is below it. -/
theorem isWithin_iff {pattern path : List Char} (hend : pattern.getLast?.all (· = '/') = false) :
    ({ pattern } : Pathspec).isWithin path = true ↔ path = pattern ∨ pattern ++ ['/'] <+: path := by
  have hfold : ∀ text : List Char, text.map (Text.Wildcard.fold ({ pattern } : Pathspec).rules) = text := fun text =>
    List.map_id' text
  simp only [isWithin, isStart, hfold, hend, Bool.false_or, Bool.and_eq_true, List.isPrefixOf_iff_prefix]
  constructor
  · rintro ⟨⟨rest, rfl⟩, hnext⟩
    rw [List.drop_left] at hnext
    cases rest with
    | nil => exact .inl (List.append_nil _)
    | cons c rest =>
      have hslash : c = '/' := by simpa using hnext
      exact .inr ⟨rest, by simp [hslash]⟩
  · rintro (rfl | ⟨rest, rfl⟩)
    · simp
    · rw [List.append_assoc, List.drop_left]
      exact ⟨List.prefix_append _ _, by simp⟩

theorem follow?_name {name : String} (h : Path.isName name = true) (found : List String) :
    follow? found name = some (name :: found) := by
  obtain ⟨hempty, hdot, hup, _⟩ := Path.isName_iff.mp h
  simp [follow?, hempty, hdot, hup]

theorem foldlM_follow? {names : List String} (h : ∀ name ∈ names, Path.isName name = true) (found : List String) :
    names.foldlM follow? found = some (names.reverse ++ found) := by
  induction names generalizing found with
  | nil => rfl
  | cons name rest ih =>
    obtain ⟨hname, hrest⟩ := List.forall_mem_cons.mp h
    rw [List.foldlM_cons, follow?_name hname]
    show rest.foldlM follow? (name :: found) = _
    rw [ih hrest]
    simp

/-- A path whose components are proper names, after dots, is as short as can be without them. -/
theorem shorten?_of_cut {path : String} {names : List String} (hne : names ≠ [])
    (h : ∀ name ∈ names, Path.isName name = true)
    (hcut : Text.cut '/' path = names ∨ Text.cut '/' path = "." :: names) :
    shorten? path = some ("/".intercalate names) := by
  obtain ⟨last, hlast⟩ : ∃ last, names.getLast? = some last := ⟨_, List.getLast?_eq_some_getLast hne⟩
  obtain ⟨hempty, hdot, hup, _⟩ := Path.isName_iff.mp (h last (List.mem_of_getLast? hlast))
  have hfound : (Text.cut '/' path).foldlM follow? [] = some names.reverse := by
    rcases hcut with hcut | hcut
    · rw [hcut, foldlM_follow? h, List.append_nil]
    · rw [hcut, List.foldlM_cons]
      show names.foldlM follow? [] = _
      rw [foldlM_follow? h, List.append_nil]
  have hend : (Text.cut '/' path).getLast? = some last := by
    rcases hcut with hcut | hcut
    · rw [hcut, hlast]
    · rw [hcut, List.getLast?_cons, hlast]
      rfl
  simp [shorten?, hfound, hend, hempty, hdot, hup]

/-- A path that starts with no mark for options and leads on from the work tree is read as it is. -/
theorem parse?_of_shorten? {path short : String} (hne : path ≠ "") (hcolon : Text.startsWith ":" path = false)
    (hslash : Text.startsWith "/" path = false) (hshort : shorten? path = some short) :
    parse? path = some { pattern := octets short } := by
  have hoptions : readOptions? path.toList = some ({}, path.toList) := by
    unfold readOptions?
    split
    · next heq => simp [Text.startsWith, heq] at hcolon
    · next heq => simp [Text.startsWith, heq] at hcolon
    · rfl
  simp [parse?, hoptions, hne, hslash, hshort]

/-- A plain path covers the paths that start with its names. -/
theorem covers_iff {names : List String} (hne : names ≠ []) (hnames : ∀ name ∈ names, Path.isName name = true)
    (hwild : ∀ name ∈ names, ∀ c ∈ name.toList, Text.isWild c = false) {path : String} :
    ({ pattern := octets ("/".intercalate names) } : Pathspec).covers path = true ↔ names <+: Text.cut '/' path := by
  have hnoslash : ∀ name ∈ names, '/' ∉ name.toList := fun name hname =>
    (Path.isName_iff.mp (hnames name hname)).2.2.2.1
  have hchars : ∀ c ∈ octets ("/".intercalate names), Text.isWild c = false := by
    intro c hc
    cases hw : Text.isWild c with
    | false => rfl
    | true =>
      have hlow : c.toNat < 0x80 := by
        simp only [Text.isWild, Bool.or_eq_true, decide_eq_true_eq] at hw
        rcases hw with ((rfl | rfl) | rfl) | rfl <;> decide
      rw [← hw]
      exact Text.forall_mem_intercalate (by decide) hwild c (mem_of_mem_octets hlow hc)
  have hlike : ({ pattern := octets ("/".intercalate names) } : Pathspec).isLike (octets path) = false := by
    have hall : ∀ c ∈ octets ("/".intercalate names), (!Text.isWild c) = true := fun c hc => by simp [hchars c hc]
    simp [isLike, List.takeWhile_eq_self_iff.mpr hall]
  have hend : (octets ("/".intercalate names)).getLast?.all (· = '/') = false := by
    obtain ⟨before, last, hlast, htext⟩ := Text.exists_intercalate_eq_append hne
    rw [htext]
    exact getLast?_octets_append before (Path.isName_iff.mp (hnames last hlast)).1 (hnoslash last hlast)
  have hslash : octets "/" = ['/'] := by rw [octets_eq]; decide
  have hbelow : octets ("/".intercalate names) ++ ['/'] = octets ("/".intercalate names ++ "/") := by
    rw [octets_append, hslash]
  rw [covers, hlike, Bool.or_false, Text.prefix_cut_iff hne hnoslash, ← octets_prefix_iff, ← hbelow, ← octets_inj,
    ← isWithin_iff hend]
  simp

end Pathspec

namespace Repository

/-- Whether something is tracked at the path of the names, or below it. -/
def holds (r : Repository) (names : List String) : Bool :=
  r.tracked.any fun path => names.isPrefixOf (Text.cut '/' path)

/-- A plain path asks whether a tracked path starts with its names. Plain is one that is not read as a flag, and has no
options or wildcards in it. -/
theorem tracks_of_plain (r : Repository) {names : List String} {text : String} (h : Spells names text)
    (hne : names ≠ []) (hnames : ∀ name ∈ names, Path.isName name = true)
    (hdash : Text.startsWith "-" text = false) (hcolon : Text.startsWith ":" text = false)
    (hwild : ∀ name ∈ names, ∀ c ∈ name.toList, Text.isWild c = false) : r.tracks text = .ok (r.holds names) := by
  have hnul : '\x00' ∉ text.toList := fun hmem =>
    h.forall_mem (P := (· ≠ '\x00')) (by decide) (by decide)
      (fun name hname c hc heq => (Path.isName_iff.mp (hnames name hname)).2.2.2.2.1 (heq ▸ hc)) _ hmem rfl
  have hslash : Text.startsWith "/" text = false :=
    Bool.eq_false_iff.mpr fun hstart => h.head?_cut_ne hne hnames (Text.head?_cut_of_startsWith hstart)
  have hparse := Pathspec.parse?_of_shorten? (h.ne_empty hne hnames) hcolon hslash
    (Pathspec.shorten?_of_cut hne hnames (h.cut_eq hne hnames))
  have hcovers : ∀ path, ({ pattern := octets ("/".intercalate names) } : Pathspec).covers path =
      names.isPrefixOf (Text.cut '/' path) := by
    intro path
    rw [Bool.eq_iff_iff, Pathspec.covers_iff hne hnames hwild, List.isPrefixOf_iff_prefix]
  have hargument : argument text = .ok text := by simp [argument, hnul]
  rw [tracks, hargument, holds, ← funext hcovers]
  simp only [Bind.bind, Except.bind, hdash, Bool.false_and, hparse]
  rfl

end Repository
end Scrutiny
