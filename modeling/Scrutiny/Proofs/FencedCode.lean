import Mathlib.Control.Monad.Basic
import Mathlib.Data.List.TakeWhile
import Scrutiny.Check.Readme
import Scrutiny.Proofs.Encoding
import Scrutiny.Proofs.Paths

/-! Fenced code is no prose.

A readme is prose with blocks of code between. Removing the blocks goes through the text from left to right, and each
block has to come out as one match: it starts at the line end before its opening fence, since prose has no backticks,
and ends at the first line that starts with a fence, since the code has no such line. What is left is the prose, put
together as if there had been no code (`withoutCode_written`). -/
namespace Scrutiny

namespace Text

def fence : List Char := ['`', '`', '`']

/-- A line end and a fence, as they stand before a block of code and behind it. -/
def fenceLine : List Char := '\n' :: fence

/-- A block of code. The tag says what language it is in; no line of the code but the first can start with a fence. -/
structure Block where
  tag : List Char
  code : List Char
  tag_spelling : ∀ c ∈ tag, c = '#' ∨ c = '!' ∨ ('A' ≤ c ∧ c ≤ 'Z') ∨ ('a' ≤ c ∧ c ≤ 'z')
  code_open : ¬ fenceLine <:+: code

/-- Text in which nothing is set as code. -/
structure Passage where
  text : List Char
  plain : '`' ∉ text

/-- Passages with blocks of code between. -/
structure Manual where
  start : Passage
  parts : List (Block × Passage)

def Block.written (b : Block) : List Char :=
  fenceLine ++ b.tag ++ '\n' :: b.code ++ fenceLine ++ ['\n']

def writtenParts (parts : List (Block × Passage)) : List Char :=
  parts.flatMap fun part => part.1.written ++ part.2.text

/-- The whole text, code included. -/
def Manual.written (m : Manual) : List Char :=
  m.start.text ++ writtenParts m.parts

/-- The passages alone. -/
def Manual.passages (m : Manual) : List Char :=
  m.start.text ++ m.parts.flatMap (·.2.text)

/-! ### One block -/

theorem isTag_of_spelling {c : Char} (h : c = '#' ∨ c = '!' ∨ ('A' ≤ c ∧ c ≤ 'Z') ∨ ('a' ≤ c ∧ c ≤ 'z')) :
    isTag c = true := by
  rcases h with rfl | rfl | ⟨hlow, hhigh⟩ | ⟨hlow, hhigh⟩
  · rfl
  · rfl
  · have hupper : c.isUpper = true := decide_eq_true ⟨hlow, hhigh⟩
    show (_ || (c.isUpper || c.isLower)) = true
    rw [hupper, Bool.true_or, Bool.or_true]
  · have hlower : c.isLower = true := Bool.and_eq_true_iff.mpr ⟨decide_eq_true hlow, decide_eq_true hhigh⟩
    show (_ || (c.isUpper || c.isLower)) = true
    rw [hlower, Bool.or_true, Bool.or_true]

/-- Where no fence starts a line, the search for one goes on. -/
theorem afterFence?_cons {c : Char} {text : List Char} (h : ¬ fenceLine <+: c :: text) :
    afterFence? (c :: text) = afterFence? text := by
  rw [afterFence?.eq_def]
  split
  · rename_i heq
    cases heq
  · rename_i next rest heq
    rw [heq] at h
    exact absurd (List.prefix_append fenceLine (next :: rest)) h
  · rename_i heq
    rw [(List.cons.inj heq).2]

/-- A line end before a line that starts with a fence is not that of a line that started with a fence before. -/
theorem prefix_of_prefix_append {c : Char} {code : List Char} (more : List Char)
    (h : fenceLine <+: c :: code ++ '\n' :: more) : fenceLine <+: c :: code := by
  rcases List.prefix_or_prefix_of_prefix h (List.prefix_append (c :: code) ('\n' :: more)) with hcode | hcode
  · exact hcode
  · obtain ⟨rest, hrest⟩ := hcode
    rw [← hrest, List.prefix_append_right_inj] at h
    cases rest with
    | nil => exact ⟨[], by rw [List.append_nil, ← hrest, List.append_nil]⟩
    | cons d rest =>
      obtain ⟨rfl, _⟩ := List.cons_prefix_cons.mp h
      have hmem : '\n' ∈ fence := by
        rw [← (List.cons.inj hrest).2]
        exact List.mem_append_right _ List.mem_cons_self
      exact absurd hmem (by decide)

/-- The first closing fence is that of the block, however the code goes. -/
theorem afterFence?_code {code : List Char} (h : ¬ fenceLine <:+: code) (rest : List Char) :
    afterFence? (code ++ (fenceLine ++ '\n' :: rest)) = some rest := by
  induction code with
  | nil => rfl
  | cons c code ih =>
    have hfirst : ¬ fenceLine <+: c :: (code ++ (fenceLine ++ '\n' :: rest)) := fun hstart =>
      h (prefix_of_prefix_append (fence ++ '\n' :: rest) hstart).isInfix
    rw [List.cons_append, afterFence?_cons hfirst]
    exact ih fun hinfix => h (List.infix_cons hinfix)

theorem afterBlock?_written (b : Block) (rest : List Char) : afterBlock? (b.written ++ rest) = some rest := by
  have hwritten : b.written ++ rest =
      '\n' :: '`' :: '`' :: '`' :: (b.tag ++ '\n' :: (b.code ++ (fenceLine ++ '\n' :: rest))) := by
    simp [Block.written, fenceLine, fence]
  have htag : (b.tag ++ '\n' :: (b.code ++ (fenceLine ++ '\n' :: rest))).dropWhile isTag =
      '\n' :: (b.code ++ (fenceLine ++ '\n' :: rest)) := by
    rw [List.dropWhile_append_of_pos fun c hc => isTag_of_spelling (b.tag_spelling c hc)]
    exact List.dropWhile_cons_of_neg (by decide)
  rw [hwritten, afterBlock?, if_pos (by decide), htag]
  exact afterFence?_code b.code_open rest

/-- A block starts right before a backtick. -/
theorem afterBlock?_of_head {c : Char} {rest : List Char} (h : rest.head? ≠ some '`') :
    afterBlock? (c :: rest) = none := by
  rw [afterBlock?.eq_def]
  split
  · rename_i heq
    rw [(List.cons.inj heq).2] at h
    exact absurd rfl h
  · rfl

/-! ### All blocks -/

/-- A match is removed in one step. -/
theorem removeAll_of_match {match? : List Char → Option (List Char)} {text after : List Char} (hne : text ≠ [])
    (h : match? text = some after) (fuel : Nat) : removeAll match? (fuel + 1) text = removeAll match? fuel after := by
  cases text with
  | nil => exact absurd rfl hne
  | cons c rest => rw [removeAll, h]

/-- A passage is kept, one step for each character. -/
theorem removeAll_passage {text rest : List Char} (hplain : '`' ∉ text) (hrest : rest.head? ≠ some '`') (fuel : Nat) :
    removeAll afterBlock? (text.length + fuel) (text ++ rest) = text ++ removeAll afterBlock? fuel rest := by
  induction text with
  | nil => simp
  | cons c text ih =>
    obtain ⟨_, htext⟩ := not_or.mp (mt List.mem_cons.mpr hplain)
    have hhead : (text ++ rest).head? ≠ some '`' := by
      cases text with
      | nil => exact hrest
      | cons d text => exact fun heq => htext (Option.some.inj heq ▸ List.mem_cons_self)
    rw [List.length_cons, Nat.add_right_comm, List.cons_append, removeAll, afterBlock?_of_head hhead, ih htext]
    rfl

theorem head?_writtenParts (parts : List (Block × Passage)) : (writtenParts parts).head? ≠ some '`' := by
  cases parts with
  | nil => simp [writtenParts]
  | cons part rest => simp [writtenParts, Block.written, fenceLine]

/-- Every block is removed and nothing else, however many steps are left over. The induction is on the blocks. -/
theorem removeAll_writtenParts (parts : List (Block × Passage)) {fuel : Nat} (h : (writtenParts parts).length ≤ fuel) :
    removeAll afterBlock? fuel (writtenParts parts) = parts.flatMap (·.2.text) := by
  induction parts generalizing fuel with
  | nil => cases fuel <;> rfl
  | cons part rest ih =>
    obtain ⟨b, p⟩ := part
    have hsplit : writtenParts ((b, p) :: rest) = b.written ++ (p.text ++ writtenParts rest) := by
      simp [writtenParts]
    have hlength : 0 < b.written.length := by simp [Block.written, fenceLine]
    rw [hsplit, List.length_append, List.length_append] at h
    obtain ⟨left, rfl⟩ : ∃ left, fuel = p.text.length + left + 1 := ⟨fuel - p.text.length - 1, by omega⟩
    have hleft : (writtenParts rest).length ≤ left := by omega
    rw [hsplit, removeAll_of_match (by simp [Block.written, fenceLine]) (afterBlock?_written b _),
      removeAll_passage p.plain (head?_writtenParts rest), ih hleft]
    rfl

theorem withoutCode_written (m : Manual) : withoutCode m.written = m.passages := by
  rw [withoutCode, Manual.written, List.length_append, removeAll_passage m.start.plain (head?_writtenParts m.parts),
    removeAll_writtenParts m.parts (Nat.le_refl _)]
  rfl

theorem withoutCode_passages (m : Manual) : withoutCode m.passages = m.passages := by
  have hplain : '`' ∉ m.passages := by
    simp only [Manual.passages, List.mem_append, List.mem_flatMap, not_or, not_exists, not_and]
    exact ⟨m.start.plain, fun part _ => part.2.plain⟩
  have hkept : removeAll afterBlock? (m.passages.length + 0) (m.passages ++ []) = m.passages ++ [] :=
    removeAll_passage hplain (by simp) 0
  rwa [List.append_nil, Nat.add_zero] at hkept

end Text

namespace Readme

theorem isBilingual_written (m : Text.Manual) (limit : Rat) :
    isBilingual (String.ofList m.written) limit = isBilingual (String.ofList m.passages) limit := by
  simp only [isBilingual, Text.prose, String.toList_ofList, Text.withoutCode_written, Text.withoutCode_passages]

theorem bilingual_of_fileNamed {c : Context} {p : Project} {text : String}
    (h : p.fileNamed c.disk c.settings.readmeFilename = .ok (some text)) :
    bilingual c p = .ok (if isBilingual text c.settings.minPercentOfAnotherLanguage then some "" else none) := by
  rw [bilingual, h]
  rfl

end Readme

/-- **Fenced code does not count.** A readme with blocks of code between its passages is judged, and as one of the
passages alone would be, under any limit. -/
theorem fenced_code_does_not_count {c c' : Context} {p p' : Project} (m : Text.Manual)
    (hwritten : p.fileNamed c.disk c.settings.readmeFilename = .ok (some (String.ofList m.written)))
    (hpassages : p'.fileNamed c'.disk c'.settings.readmeFilename = .ok (some (String.ofList m.passages)))
    (hlimit : c.settings.minPercentOfAnotherLanguage = c'.settings.minPercentOfAnotherLanguage) :
    Readme.bilingual c p = Readme.bilingual c' p' ∧ ∃ found, Readme.bilingual c p = .ok found := by
  have hjudged := Readme.bilingual_of_fileNamed hwritten
  refine ⟨?_, _, hjudged⟩
  rw [hjudged, Readme.bilingual_of_fileNamed hpassages, Readme.isBilingual_written, hlimit]

/-- Two blocks side by side, the first with a fence on the first line of its code, the second empty. All that is in
another language is code. -/
theorem readme_with_foreign_code_passes :
    let prose : Text.Passage := ⟨['R', 'e', 'a', 'd'], by decide⟩
    let gap : Text.Passage := ⟨[], by decide⟩
    let code : Text.Block := ⟨['#', '!'], ['`', '`', '`', 'д', 'а', '\n', '`', 'д', '`'], by simp,
      mt Text.contains_iff.mpr (by decide)⟩
    let empty : Text.Block := ⟨[], [], by simp, mt Text.contains_iff.mpr (by decide)⟩
    let m : Text.Manual := ⟨prose, [(code, gap), (empty, prose)]⟩
    let folder : List Char → Folder := fun text =>
      .node { name := "p", files := [("README.md", { bytes := Text.Utf8.encode text })] } []
    let c : List Char → Context := fun text => { path := "p", disk := { top := .node { name := "" } [folder text] } }
    let p : Project := ⟨"p", []⟩
    (p.fileNamed (c m.written).disk "README.md" = .ok (some (String.ofList m.written)) ∧
      p.fileNamed (c m.passages).disk "README.md" = .ok (some (String.ofList m.passages))) ∧
    Readme.bilingual (c m.written) p = Readme.bilingual (c m.passages) p ∧
      Readme.bilingual (c m.passages) p = .ok none ∧
      Readme.bilingual (c (prose.text ++ code.code)) p = .ok (some "") := by
  intro prose gap code empty m folder c p
  have hwritten : p.fileNamed (c m.written).disk "README.md" = .ok (some (String.ofList m.written)) := by
    decide +kernel
  have hpassages : p.fileNamed (c m.passages).disk "README.md" = .ok (some (String.ofList m.passages)) := by
    decide +kernel
  have hsame := (fenced_code_does_not_count m hwritten hpassages rfl).1
  exact ⟨⟨hwritten, hpassages⟩, hsame, by decide +kernel, by decide +kernel⟩

end Scrutiny
