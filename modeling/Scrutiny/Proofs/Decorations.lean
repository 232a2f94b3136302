import Mathlib.Control.Monad.Basic
import Mathlib.Data.List.Forall2
import Mathlib.Data.List.TakeWhile
import Scrutiny.Check.Commits
import Scrutiny.Proofs.Outcome
import Scrutiny.Proofs.Paths

/-! Decoration around a commit message.

Trimming takes the characters of a class away from both ends, and what is left is told by its own ends (`trim_eq_iff`).
A message is trimmed twice, first of white space and then of periods and quotes, so it comes down to the words that
stand in it only if the marks lie inside of the white space (`undecorated_eq_iff`). Around words that are not empty,
this can be said of each side by itself (`isFramed_iff`). -/
namespace Scrutiny

namespace Text

/-! ### Trimming -/

section Trimming
variable {p : Char → Bool} {text core front back : List Char}

/-- No character of the class stands at either end. -/
def IsTrimmed (p : Char → Bool) (text : List Char) : Prop :=
  (∀ c, text.head? = some c → p c = false) ∧ ∀ c, text.getLast? = some c → p c = false

theorem isTrimmed_of_forall (h : ∀ c ∈ text, p c = false) : IsTrimmed p text :=
  ⟨fun c hc => h c (List.mem_of_mem_head? hc), fun c hc => h c (List.mem_of_getLast? hc)⟩

theorem IsTrimmed.append (hfront : IsTrimmed p front) (hback : IsTrimmed p back) : IsTrimmed p (front ++ back) := by
  refine ⟨fun c hc => ?_, fun c hc => ?_⟩
  · rw [List.head?_append, Option.or_eq_some_iff] at hc
    exact hc.elim (hfront.1 c) fun h => hback.1 c h.2
  · rw [List.getLast?_append, Option.or_eq_some_iff] at hc
    exact hc.elim (hback.2 c) fun h => hfront.2 c h.2

theorem dropWhile_of_head (h : ∀ c, text.head? = some c → p c = false) : text.dropWhile p = text := by
  cases text with
  | nil => rfl
  | cons c rest => exact List.dropWhile_cons_of_neg (by simp [h c rfl])

theorem dropTail_append (hfront : ∀ c, front.getLast? = some c → p c = false) (hback : ∀ c ∈ back, p c = true) :
    dropTail p (front ++ back) = front := by
  rw [dropTail, List.reverse_append, List.dropWhile_append_of_pos (by simpa using hback),
    dropWhile_of_head (by simpa using hfront), List.reverse_reverse]

theorem trim_append (hcore : IsTrimmed p core) (hfront : ∀ c ∈ front, p c = true) (hback : ∀ c ∈ back, p c = true) :
    trim p (front ++ core ++ back) = core := by
  rw [trim, List.append_assoc, List.dropWhile_append_of_pos hfront]
  cases core with
  | nil =>
    rw [List.nil_append, List.dropWhile_eq_nil_iff.mpr hback]
    rfl
  | cons c rest =>
    have hkept : (c :: rest ++ back).dropWhile p = c :: rest ++ back := dropWhile_of_head hcore.1
    rw [hkept, dropTail_append hcore.2 hback]

/-- What trimming takes away are characters of the class. -/
theorem eq_append_trim (p : Char → Bool) (text : List Char) :
    ∃ front back, text = front ++ trim p text ++ back ∧ (∀ c ∈ front, p c = true) ∧ ∀ c ∈ back, p c = true := by
  refine ⟨text.takeWhile p, ((text.dropWhile p).reverse.takeWhile p).reverse, ?_, ?_, ?_⟩
  · rw [trim, dropTail, List.append_assoc, ← List.reverse_append, List.takeWhile_append_dropWhile, List.reverse_reverse,
      List.takeWhile_append_dropWhile]
  · exact fun c hc => List.mem_takeWhile_imp hc
  · exact fun c hc => List.mem_takeWhile_imp (List.mem_reverse.mp hc)

theorem trim_eq_iff (hcore : IsTrimmed p core) :
    trim p text = core ↔
      ∃ front back, text = front ++ core ++ back ∧ (∀ c ∈ front, p c = true) ∧ ∀ c ∈ back, p c = true := by
  constructor
  · rintro rfl
    exact eq_append_trim p text
  · rintro ⟨front, back, rfl, hfront, hback⟩
    exact trim_append hcore hfront hback

/-- Where two texts go on without a character of the class, they start with the same ones. -/
theorem append_inj_of_head {front' rest rest' : List Char} (hfront : ∀ c ∈ front, p c = true)
    (hfront' : ∀ c ∈ front', p c = true) (hrest : ∀ c, rest.head? = some c → p c = false)
    (hrest' : ∀ c, rest'.head? = some c → p c = false) (h : front ++ rest = front' ++ rest') :
    front = front' ∧ rest = rest' := by
  have hdrop := congrArg (List.dropWhile p) h
  rw [List.dropWhile_append_of_pos hfront, List.dropWhile_append_of_pos hfront', dropWhile_of_head hrest,
    dropWhile_of_head hrest'] at hdrop
  rw [hdrop] at h
  exact ⟨List.append_cancel_right h, hdrop⟩

end Trimming

/-! ### Lower case -/

/-- A character has one other as its lower-case form, wherever it stands. -/
def LowersTo (c d : Char) : Prop :=
  c ≠ capitalSigma ∧ caseForm lowerRuns lowerLong c = [d]

instance (c d : Char) : Decidable (LowersTo c d) :=
  inferInstanceAs (Decidable (_ ∧ _))

theorem lowerFrom_of_lowersTo {text form : List Char} (h : List.Forall₂ LowersTo text form) (before : List Char) :
    lowerFrom before text = form := by
  induction h generalizing before with
  | nil => rfl
  | cons hc _ ih => rw [lowerFrom, if_neg hc.1, hc.2, ih, List.singleton_append]

theorem lowersTo_of_isSpace {c : Char} (h : isSpace c = true) : LowersTo c c := by
  have hall : ∀ r ∈ spaceRanges, ∀ k < r.2 + 1 - r.1, LowersTo (Char.ofNat (r.1 + k)) (Char.ofNat (r.1 + k)) := by
    decide +kernel
  obtain ⟨r, hr, hrange⟩ := List.any_eq_true.mp h
  rw [Bool.and_eq_true, decide_eq_true_eq, decide_eq_true_eq] at hrange
  have hc := hall r hr (c.toNat - r.1) (by omega)
  rwa [Nat.add_sub_cancel' hrange.1, Char.ofNat_toNat] at hc

theorem forall_ascii {P : Char → Prop} (h : ∀ code < 128, P (Char.ofNat code)) {c : Char} (hc : c.toNat < 128) :
    P c := by
  have hcode := h c.toNat hc
  rwa [Char.ofNat_toNat] at hcode

/-- An ASCII character that is no capital is the lower-case form of itself and of its capital. -/
theorem lowersTo_of_ascii {c : Char} (hascii : c.toNat < 128) (hlower : c.isUpper = false) :
    LowersTo c c ∧ LowersTo c.toUpper c := by
  revert hlower
  exact forall_ascii (P := fun c => c.isUpper = false → LowersTo c c ∧ LowersTo c.toUpper c) (by decide +kernel) hascii

end Text

/-! ### The history -/

namespace Repository
open Commits (mainBranch)

/-- On the branch that is asked for, the limit alone decides which commits are looked at. -/
theorem messagesOn_mainBranch {r : Repository} (hbranch : r.branch = mainBranch) (hne : r.messages ≠ []) (limit : Int) :
    r.messagesOn mainBranch limit = .ok (upTo (storedLimit limit) r.messages) := by
  have hspan : ∀ size, 0 < size → (History.mk mainBranch size).span? mainBranch = some ⟨0, size⟩ := by
    intro size hsize
    cases size with
    | zero => cases hsize
    | succ size => rfl
  have hselect : (Span.mk 0 r.messages.length).select r.messages = r.messages := by
    rw [Span.select, List.take_length, List.drop_zero]
  rw [messagesOn, hbranch]
  refine Outcome.bind_eq_ok.mpr ⟨mainBranch, rfl, ?_⟩
  simp only [hspan _ (List.length_pos_of_ne_nil hne), hselect]

/-- The largest limit that is stored as it is. -/
def largestLimit : Int := 0x7FFFFFFF

theorem storedLimit_le (limit : Int) : storedLimit limit ≤ largestLimit := by
  have hlt := Int.bmod_lt (x := max (-0x8000000000000000) (min limit 0x7FFFFFFFFFFFFFFF))
    (show 0 < 0x100000000 by decide)
  rw [storedLimit, largestLimit]
  omega

theorem storedLimit_of_le {limit : Int} (hpos : 0 ≤ limit) (h : limit ≤ largestLimit) : storedLimit limit = limit := by
  rw [largestLimit] at h
  have hclamped : max (-0x8000000000000000) (min limit 0x7FFFFFFFFFFFFFFF) = limit := by omega
  rw [storedLimit, hclamped]
  exact Int.bmod_eq_of_le (by omega) (by omega)

theorem mem_of_mem_upTo {limit : Int} {messages : List String} {m : String} (h : m ∈ upTo limit messages) :
    m ∈ messages := by
  unfold upTo at h
  split at h
  · exact h
  · exact List.mem_of_mem_take h

/-- All of the last commits that a limit names are looked at: it is small enough, or is taken for none. -/
def IsKept (limit : Int) : Prop :=
  limit ≤ largestLimit ∨ storedLimit limit < 0

theorem mem_upTo_of_isKept {limit : Int} (hpos : 1 ≤ limit) (h : IsKept limit) {messages : List String} {m : String}
    (hm : m ∈ messages.take limit.toNat) : m ∈ upTo (storedLimit limit) messages := by
  rcases h with hle | hnone
  · rwa [storedLimit_of_le (by omega) hle, upTo, if_neg (by omega)]
  · rw [upTo, if_pos hnone]
    exact List.mem_of_mem_take hm

end Repository

namespace Commits
open Text (isSpace IsTrimmed)
open Repository (upTo storedLimit)

theorem emptyMessage_eq {c : Context} {p : Project} {r : Repository} (hrepository : p.repository? c.disk = some r)
    (hbranch : r.branch = mainBranch) (hne : r.messages ≠ []) :
    emptyMessage c p = .ok (((upTo (storedLimit c.settings.lastCommitsToCheckAmount) r.messages).map undecorated).find?
      c.settings.badCommitMessages.has) := by
  rw [emptyMessage, hrepository]
  show (r.messagesOn mainBranch _ >>= _) = _
  rw [Repository.messagesOn_mainBranch hbranch hne]
  rfl

/-- Periods and quotes. -/
def isMark (c : Char) : Bool :=
  c = '.' || c = '\'' || c = '"'

theorem undecorated_eq (message : String) :
    undecorated message = String.ofList (Text.trim isMark (Text.trim isSpace (Text.lower message).toList)) := rfl

theorem isSpace_of_isMark {c : Char} (h : isMark c = true) : isSpace c = false := by
  simp only [isMark, Bool.or_eq_true, decide_eq_true_eq] at h
  rcases h with (rfl | rfl) | rfl <;> decide

theorem lowersTo_of_isMark {c : Char} (h : isMark c = true) : Text.LowersTo c c := by
  simp only [isMark, Bool.or_eq_true, decide_eq_true_eq] at h
  rcases h with (rfl | rfl) | rfl <;> exact ⟨by decide, by decide +kernel⟩

/-- White space, periods and quotes, in any order. -/
structure Decoration where
  text : List Char
  spelling : ∀ c ∈ text, isSpace c = true ∨ isMark c = true

/-- A message without capitals, and without decoration at either end. -/
structure Phrase where
  text : List Char
  ascii : ∀ c ∈ text, c.toNat < 128 ∧ c.isUpper = false
  no_space : IsTrimmed isSpace text
  no_mark : IsTrimmed isMark text

theorem of_letter {c : Char} (h : 'a' ≤ c ∧ c ≤ 'z') :
    (c.toNat < 128 ∧ c.isUpper = false) ∧ isSpace c = false ∧ isMark c = false := by
  have hascii : c.toNat < 128 := Nat.lt_of_le_of_lt (show c.toNat ≤ 122 from h.2) (by decide)
  revert h
  exact Text.forall_ascii (P := fun c => 'a' ≤ c ∧ c ≤ 'z' →
    (c.toNat < 128 ∧ c.isUpper = false) ∧ isSpace c = false ∧ isMark c = false) (by decide +kernel) hascii

/-- A word of lower-case letters. -/
def Phrase.ofWord (text : List Char) (h : ∀ c ∈ text, 'a' ≤ c ∧ c ≤ 'z') : Phrase where
  text
  ascii c hc := (of_letter (h c hc)).1
  no_space := Text.isTrimmed_of_forall fun c hc => (of_letter (h c hc)).2.1
  no_mark := Text.isTrimmed_of_forall fun c hc => (of_letter (h c hc)).2.2

/-- The phrase stands in the text with marks around it, and around these white space. -/
def IsFramed (b : Phrase) (text : List Char) : Prop :=
  ∃ spaces marks marks' spaces', text = spaces ++ (marks ++ b.text ++ marks') ++ spaces' ∧
    (∀ c ∈ spaces ++ spaces', isSpace c = true) ∧ ∀ c ∈ marks ++ marks', isMark c = true

theorem undecorated_eq_iff {message : String} {b : Phrase} :
    undecorated message = String.ofList b.text ↔ IsFramed b (Text.lower message).toList := by
  rw [undecorated_eq, String.ofList_inj, Text.trim_eq_iff b.no_mark]
  constructor
  · rintro ⟨marks, marks', hinner, hmarks, hmarks'⟩
    obtain ⟨spaces, spaces', houter, hspaces, hspaces'⟩ := Text.eq_append_trim isSpace (Text.lower message).toList
    rw [hinner] at houter
    exact ⟨spaces, marks, marks', spaces', houter, List.forall_mem_append.mpr ⟨hspaces, hspaces'⟩,
      List.forall_mem_append.mpr ⟨hmarks, hmarks'⟩⟩
  · rintro ⟨spaces, marks, marks', spaces', htext, hspaces, hmarks⟩
    rw [List.forall_mem_append] at hspaces hmarks
    have hinner : IsTrimmed isSpace (marks ++ b.text ++ marks') :=
      ((Text.isTrimmed_of_forall fun c hc => isSpace_of_isMark (hmarks.1 c hc)).append b.no_space).append
        (Text.isTrimmed_of_forall fun c hc => isSpace_of_isMark (hmarks.2 c hc))
    exact ⟨marks, marks', by rw [htext, Text.trim_append hinner hspaces.1 hspaces.2], hmarks.1, hmarks.2⟩

/-- White space with marks behind it. -/
def SpaceFirst (text : List Char) : Prop :=
  ∃ spaces marks, text = spaces ++ marks ∧ (∀ c ∈ spaces, isSpace c = true) ∧ ∀ c ∈ marks, isMark c = true

/-- Marks with white space behind them. -/
def SpaceLast (text : List Char) : Prop :=
  ∃ marks spaces, text = marks ++ spaces ∧ (∀ c ∈ marks, isMark c = true) ∧ ∀ c ∈ spaces, isSpace c = true

/-- Around a phrase that is not empty, each side is judged by itself. -/
theorem isFramed_iff {b : Phrase} (hne : b.text ≠ []) (u v : Decoration) :
    IsFramed b (u.text ++ b.text ++ v.text) ↔ SpaceFirst u.text ∧ SpaceLast v.text := by
  obtain ⟨first, rest, htext⟩ := List.exists_cons_of_ne_nil hne
  have hfirst : (isSpace first || isMark first) = false := by
    rw [b.no_space.1 first (by rw [htext]; rfl), b.no_mark.1 first (by rw [htext]; rfl)]
    rfl
  -- The phrase starts with a character of neither class, so both ways to write the text split in front of it.
  have hhead : ∀ more c, (b.text ++ more).head? = some c → (isSpace c || isMark c) = false := by
    intro more c hc
    rw [htext] at hc
    cases hc
    exact hfirst
  constructor
  · rintro ⟨spaces, marks, marks', spaces', htext, hspaces, hmarks⟩
    rw [List.forall_mem_append] at hspaces hmarks
    have hu : ∀ c ∈ u.text, (isSpace c || isMark c) = true := fun c hc => by
      simpa using u.spelling c hc
    have hfront : ∀ c ∈ spaces ++ marks, (isSpace c || isMark c) = true := by
      rw [List.forall_mem_append]
      exact ⟨fun c hc => by simp [hspaces.1 c hc], fun c hc => by simp [hmarks.1 c hc]⟩
    have hsplit : u.text ++ (b.text ++ v.text) = (spaces ++ marks) ++ (b.text ++ (marks' ++ spaces')) := by
      simpa using htext
    obtain ⟨hstart, hend⟩ := Text.append_inj_of_head hu hfront (hhead _) (hhead _) hsplit
    exact ⟨⟨spaces, marks, hstart, hspaces.1, hmarks.1⟩,
      ⟨marks', spaces', List.append_cancel_left hend, hmarks.2, hspaces.2⟩⟩
  · rintro ⟨⟨spaces, marks, hu, hspaces, hmarks⟩, marks', spaces', hv, hmarks', hspaces'⟩
    exact ⟨spaces, marks, marks', spaces', by simp [hu, hv], List.forall_mem_append.mpr ⟨hspaces, hspaces'⟩,
      List.forall_mem_append.mpr ⟨hmarks, hmarks'⟩⟩

/-- A message is the phrase in any letter case, between the decorations. -/
def IsDecorated (u : Decoration) (b : Phrase) (v : Decoration) (message : String) : Prop :=
  ∃ letters, List.Forall₂ (fun c d => c = d ∨ c = d.toUpper) letters b.text ∧
    message = String.ofList (u.text ++ letters ++ v.text)

theorem Decoration.lowersTo (u : Decoration) : List.Forall₂ Text.LowersTo u.text u.text :=
  List.forall₂_same.mpr fun c hc => (u.spelling c hc).elim Text.lowersTo_of_isSpace lowersTo_of_isMark

theorem Phrase.lowersTo (b : Phrase) {letters : List Char}
    (h : List.Forall₂ (fun c d => c = d ∨ c = d.toUpper) letters b.text) :
    List.Forall₂ Text.LowersTo letters b.text := by
  obtain ⟨hlength, hzip⟩ := List.forall₂_iff_zip.mp h
  refine List.forall₂_iff_zip.mpr ⟨hlength, fun hmem => ?_⟩
  obtain ⟨hascii, hlower⟩ := b.ascii _ (List.of_mem_zip hmem).2
  obtain ⟨hself, hcapital⟩ := Text.lowersTo_of_ascii hascii hlower
  rcases hzip hmem with rfl | rfl
  · exact hself
  · exact hcapital

theorem lower_of_isDecorated {u v : Decoration} {b : Phrase} {message : String} (h : IsDecorated u b v message) :
    (Text.lower message).toList = u.text ++ b.text ++ v.text := by
  obtain ⟨letters, hletters, rfl⟩ := h
  rw [Text.lower, String.toList_ofList, String.toList_ofList]
  exact Text.lowerFrom_of_lowersTo
    (List.rel_append (List.rel_append u.lowersTo (b.lowersTo hletters)) v.lowersTo) []

/-- The phrase as it is, between the decorations. -/
theorem isDecorated_ofList (u : Decoration) (b : Phrase) (v : Decoration) :
    IsDecorated u b v (String.ofList (u.text ++ b.text ++ v.text)) :=
  ⟨b.text, List.forall₂_same.mpr fun _ _ => .inl rfl, rfl⟩

theorem undecorated_of_isDecorated {u v : Decoration} {b : Phrase} {message : String} (h : IsDecorated u b v message) :
    undecorated message = String.ofList b.text ↔ IsFramed b (u.text ++ b.text ++ v.text) := by
  rw [undecorated_eq_iff, lower_of_isDecorated h]

/-! ### The check -/

/-- A message is reported just when one of those looked at is on the blacklist, its decoration left out. -/
theorem emptyMessage_isSome_iff {c : Context} {p : Project} {r : Repository}
    (hrepository : p.repository? c.disk = some r) (hbranch : r.branch = mainBranch) (hne : r.messages ≠ []) :
    (∃ found, emptyMessage c p = .ok (some found)) ↔
      ∃ message ∈ upTo (storedLimit c.settings.lastCommitsToCheckAmount) r.messages,
        c.settings.badCommitMessages.has (undecorated message) = true := by
  simp only [emptyMessage_eq hrepository hbranch hne, Except.ok.injEq]
  rw [← Option.isSome_iff_exists, List.find?_isSome]
  simp only [List.mem_map, exists_exists_and_eq_and]

/-- Whatever project on the branch it is, and whatever the blacklist with the phrase on it: where the decorated phrase
is the message of one of the last commits, so many as the limit says, the check reports something. -/
def IsSeenThrough (u : Decoration) (b : Phrase) (v : Decoration) (limit : Int) : Prop :=
  ∀ (c : Context) (p : Project) (r : Repository) (message : String),
    p.repository? c.disk = some r → r.branch = mainBranch → c.settings.lastCommitsToCheckAmount = limit →
    c.settings.badCommitMessages.has (String.ofList b.text) = true → message ∈ r.messages.take limit.toNat →
    IsDecorated u b v message → ∃ found, emptyMessage c p = .ok (some found)

variable {u v : Decoration} {b : Phrase} {limit : Int}

theorem isSeenThrough_of_isFramed (hpos : 1 ≤ limit) (hkept : Repository.IsKept limit)
    (hframed : IsFramed b (u.text ++ b.text ++ v.text)) : IsSeenThrough u b v limit := by
  rintro c p r message hrepository hbranch rfl hbad hmessage hdecorated
  have hne : r.messages ≠ [] := List.ne_nil_of_mem (List.mem_of_mem_take hmessage)
  refine (emptyMessage_isSome_iff hrepository hbranch hne).mpr
    ⟨message, Repository.mem_upTo_of_isKept hpos hkept hmessage, ?_⟩
  rwa [(undecorated_of_isDecorated hdecorated).mpr hframed]

/-- A project with a history, judged by a blacklist of one phrase. -/
def trial (b : Phrase) (limit : Int) (messages : List String) : Context :=
  { path := "p"
    disk := { top := .node { name := "" } [.node { name := "p", repository := some ⟨mainBranch, messages, []⟩ } []] }
    settings := { badCommitMessages := .list [String.ofList b.text], lastCommitsToCheckAmount := limit } }

theorem repository?_trial (b : Phrase) (limit : Int) (messages : List String) :
    (Project.mk "p" []).repository? (trial b limit messages).disk = some ⟨mainBranch, messages, []⟩ := by
  rw [Project.repository?, Disk.repositoryAt?, Disk.folderAt?_of_isName rfl (by decide)]
  rfl

/-- Of a history that starts with the decorated phrase, a message that is looked at comes down to the phrase. -/
theorem exists_of_isSeenThrough (h : IsSeenThrough u b v limit) {later : List String}
    (hlater : later.length < limit.toNat) :
    ∃ message ∈ upTo (storedLimit limit) (later ++ [String.ofList (u.text ++ b.text ++ v.text)]),
      undecorated message = String.ofList b.text := by
  have hreported :=
    h _ _ _ _ (repository?_trial b limit (later ++ [String.ofList (u.text ++ b.text ++ v.text)])) rfl rfl
    (by simp [trial, Words.has])
    (by rw [List.take_of_length_le (by rw [List.length_append, List.length_singleton]; omega)]
        exact List.mem_append_right _ List.mem_cons_self)
    (isDecorated_ofList u b v)
  obtain ⟨message, hmessage, hbad⟩ := (emptyMessage_isSome_iff (repository?_trial b limit _) rfl (by simp)).mp hreported
  exact ⟨message, hmessage, by simpa [trial, Words.has] using hbad⟩

theorem isFramed_of_isSeenThrough (hpos : 1 ≤ limit) (h : IsSeenThrough u b v limit) :
    IsFramed b (u.text ++ b.text ++ v.text) := by
  obtain ⟨message, hmessage, hfound⟩ := exists_of_isSeenThrough h (show [].length < limit.toNat by simp; omega)
  rw [List.mem_singleton.mp (Repository.mem_of_mem_upTo hmessage)] at hfound
  exact (undecorated_of_isDecorated (isDecorated_ofList u b v)).mp hfound

theorem exists_undecorated_ne (text : String) : ∃ message, undecorated message ≠ text := by
  by_cases h : undecorated "" = text
  · exact ⟨"x", fun hx => absurd (h.trans hx.symm) (by decide +kernel)⟩
  · exact ⟨"", h⟩

/-- A limit that is stored as a smaller one leaves the phrase out where it stands right behind the last commit that is
looked at. -/
theorem isKept_of_isSeenThrough (h : IsSeenThrough u b v limit) : Repository.IsKept limit := by
  by_contra hkept
  obtain ⟨hlarge, hsome⟩ := not_or.mp hkept
  have hstored := Repository.storedLimit_le limit
  obtain ⟨other, hother⟩ := exists_undecorated_ne (String.ofList b.text)
  have hlater : (List.replicate (storedLimit limit).toNat other).length < limit.toNat := by
    rw [List.length_replicate]
    omega
  obtain ⟨message, hmessage, hfound⟩ := exists_of_isSeenThrough h hlater
  rw [upTo, if_neg hsome, List.take_left' List.length_replicate] at hmessage
  rw [List.eq_of_mem_replicate hmessage] at hfound
  exact hother hfound

end Commits

/-- **Decoration hides a blacklisted message just when white space stands between its marks and the words, or the limit
on commits is too large to be kept.** The white space around a message is taken away once and the marks after it, so
white space inside of the marks is left over and the message is another one. -/
theorem decoration_is_seen_through_iff (u : Commits.Decoration) (b : Commits.Phrase) (v : Commits.Decoration)
    {limit : Int}
    (hpos : 1 ≤ limit) :
    (Commits.IsSeenThrough u b v limit ↔
      Commits.IsFramed b (u.text ++ b.text ++ v.text) ∧ Repository.IsKept limit) ∧
    (b.text ≠ [] → (Commits.IsFramed b (u.text ++ b.text ++ v.text) ↔
      Commits.SpaceFirst u.text ∧ Commits.SpaceLast v.text)) := by
  refine ⟨⟨fun h => ?_, fun h => ?_⟩, fun hne => Commits.isFramed_iff hne u v⟩
  · exact ⟨Commits.isFramed_of_isSeenThrough hpos h, Commits.isKept_of_isSeenThrough h⟩
  · exact Commits.isSeenThrough_of_isFramed hpos h.2 h.1

/-- Quotes of both kinds and a period around the word, and white space around them. -/
theorem quoted_message_is_reported :
    let u : Commits.Decoration := ⟨[' ', '.', '"'], by simp; decide⟩
    let b := Commits.Phrase.ofWord ['w', 'i', 'n'] (by simp)
    let v : Commits.Decoration := ⟨['\'', '\n'], by simp; decide⟩
    let message := String.ofList [' ', '.', '"', 'W', 'i', 'N', '\'', '\n']
    let r : Repository := ⟨"master", ["Adds m", message], []⟩
    let project : Folder := .node { name := "p", repository := some r } []
    let c : Context := { disk := { top := .node { name := "" } [project] }, path := "p" }
    (Commits.SpaceFirst u.text ∧ Commits.SpaceLast v.text ∧ Commits.IsDecorated u b v message) ∧
      ∃ found, Commits.emptyMessage c ⟨"p", []⟩ = .ok (some found) := by
  intro u b v message r project c
  have hu : Commits.SpaceFirst u.text := ⟨[' '], ['.', '"'], rfl, by simp; decide, by simp; decide⟩
  have hv : Commits.SpaceLast v.text := ⟨['\''], ['\n'], rfl, by simp; decide, by simp; decide⟩
  have hmessage : Commits.IsDecorated u b v message :=
    ⟨['W', 'i', 'N'], .cons (.inr rfl) (.cons (.inl rfl) (.cons (.inr rfl) .nil)), rfl⟩
  obtain ⟨hiff, hsides⟩ := decoration_is_seen_through_iff u b v (show (1 : Int) ≤ 5 by decide)
  have hseen := hiff.mpr ⟨(hsides (List.cons_ne_nil _ _)).mpr ⟨hu, hv⟩, .inl (by decide)⟩
  refine ⟨⟨hu, hv, hmessage⟩, hseen c ⟨"p", []⟩ r message rfl rfl rfl ?_ ?_ hmessage⟩
  · decide +kernel
  · decide +kernel

/-- A space between the word and the quote behind it hides the word. -/
theorem space_inside_of_quotes_hides_message :
    let u : Commits.Decoration := ⟨['"'], by simp; decide⟩
    let b := Commits.Phrase.ofWord ['w', 'i', 'n'] (by simp)
    let v : Commits.Decoration := ⟨[' ', '"'], by simp; decide⟩
    let message := String.ofList ['"', 'w', 'i', 'n', ' ', '"']
    let r : Repository := ⟨"master", [message], []⟩
    let project : Folder := .node { name := "p", repository := some r } []
    let c : Context := { disk := { top := .node { name := "" } [project] }, path := "p" }
    ((Project.mk "p" []).repository? c.disk = some r ∧ r.branch = Commits.mainBranch ∧
      c.settings.lastCommitsToCheckAmount = 5 ∧
      c.settings.badCommitMessages.has (String.ofList b.text) = true ∧ message ∈ r.messages.take 5 ∧
      Commits.IsDecorated u b v message) ∧ Commits.emptyMessage c ⟨"p", []⟩ = .ok none := by
  intro u b v message r project c
  have hblacklisted : c.settings.badCommitMessages.has (String.ofList b.text) = true := by decide +kernel
  refine ⟨⟨rfl, rfl, rfl, hblacklisted, List.mem_cons_self, Commits.isDecorated_ofList u b v⟩, ?_⟩
  decide +kernel

end Scrutiny
