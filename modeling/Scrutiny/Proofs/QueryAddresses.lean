import Scrutiny.Check.Idioms
import Scrutiny.Proofs.Nesting
import Scrutiny.Proofs.Requests
import Scrutiny.Proofs.TreeWalk

/-! Addresses with a query, and how they are recognised.

An address is written from its parts: the scheme, anything up to a question mark, and parameters with ampersands between
them. The recogniser goes the other way. It takes what stands after the last question mark and cuts it at the
ampersands, and since no parameter has either of the two, it meets the very parameters that were written. So it accepts
what can be written, and nothing else. -/
namespace Scrutiny

namespace Text

/-- What every address starts with. -/
def scheme : List Char := ['h', 't', 't', 'p']

/-- A parameter of a query. It goes up to the next ampersand, and all question marks stand before the query. -/
structure Parameter where
  text : List Char
  no_question_mark : '?' ∉ text
  no_ampersand : '&' ∉ text
  has_equals_sign : '=' ∈ text

/-- An address with a query. -/
structure QueryAddress where
  /-- All between the scheme and the query, further question marks included. -/
  middle : List Char
  parameters : List Parameter
  parameters_ne_nil : parameters ≠ []

namespace QueryAddress

def query (a : QueryAddress) : List Char :=
  ['&'].intercalate (a.parameters.map (·.text))

def written (a : QueryAddress) : List Char :=
  scheme ++ a.middle ++ '?' :: a.query

end QueryAddress

/-! ### Cutting -/

theorem not_mem_of_mem_pieces {separator : Char} {text piece : List Char} (h : piece ∈ pieces separator text) :
    separator ∉ piece := by
  induction text generalizing piece with
  | nil => simp [List.mem_singleton.mp h]
  | cons c rest ih =>
    rw [pieces] at h
    split at h
    · rcases List.mem_cons.mp h with rfl | h
      · exact List.not_mem_nil
      · exact ih h
    · rename_i hc
      cases hpieces : pieces separator rest with
      | nil => exact absurd hpieces (pieces_ne_nil separator rest)
      | cons head tail =>
        rw [hpieces] at h ih
        rcases List.mem_cons.mp h with rfl | h
        · exact List.not_mem_cons_of_ne_of_not_mem (Ne.symm hc) (ih List.mem_cons_self)
        · exact ih (List.mem_cons_of_mem _ h)

theorem mem_of_mem_intercalate {separator c : Char} {texts : List (List Char)} (hc : c ≠ separator)
    (h : c ∈ [separator].intercalate texts) : ∃ text ∈ texts, c ∈ text := by
  induction texts with
  | nil => cases h
  | cons text rest ih =>
    by_cases hlast : rest = []
    · rw [hlast, List.intercalate_singleton] at h
      exact ⟨text, List.mem_cons_self, h⟩
    · rw [List.intercalate_cons_of_ne_nil hlast, List.append_assoc, List.singleton_append] at h
      rcases List.mem_append.mp h with h | h
      · exact ⟨text, List.mem_cons_self, h⟩
      · obtain ⟨other, hother, hmem⟩ := ih (List.mem_of_ne_of_mem hc h)
        exact ⟨other, List.mem_cons_of_mem _ hother, hmem⟩

namespace QueryAddress

theorem no_question_mark (a : QueryAddress) : '?' ∉ a.query := by
  intro h
  obtain ⟨text, htext, hmem⟩ := mem_of_mem_intercalate (by decide) h
  obtain ⟨parameter, _, rfl⟩ := List.mem_map.mp htext
  exact parameter.no_question_mark hmem

theorem pieces_query (a : QueryAddress) : pieces '&' a.query = a.parameters.map (·.text) :=
  pieces_intercalate (mt List.map_eq_nil_iff.mp a.parameters_ne_nil)
    (List.forall_mem_map.mpr fun parameter _ => parameter.no_ampersand)

end QueryAddress

/-! ### Recognising -/

theorem isQueryAddress_iff {text : String} :
    isQueryAddress text = true ↔
      scheme <+: text.toList ∧ '?' ∈ text.toList ∧ ∀ piece ∈ pieces '&' (afterLast '?' text.toList), '=' ∈ piece := by
  simp [isQueryAddress, scheme, and_assoc]

theorem isQueryAddress_written (a : QueryAddress) : isQueryAddress (String.ofList a.written) = true := by
  rw [isQueryAddress_iff, String.toList_ofList, QueryAddress.written, afterLast_append a.no_question_mark,
    a.pieces_query, List.forall_mem_map]
  refine ⟨?_, by simp, fun parameter _ => parameter.has_equals_sign⟩
  rw [List.append_assoc]
  exact List.prefix_append _ _

theorem exists_parameters {texts : List (List Char)} (h : ∀ text ∈ texts, '?' ∉ text ∧ '&' ∉ text ∧ '=' ∈ text) :
    ∃ parameters : List Parameter, parameters.map (·.text) = texts := by
  induction texts with
  | nil => exact ⟨[], rfl⟩
  | cons text rest ih =>
    obtain ⟨⟨hquestion, hampersand, hequals⟩, hrest⟩ := List.forall_mem_cons.mp h
    obtain ⟨parameters, rfl⟩ := ih hrest
    exact ⟨⟨text, hquestion, hampersand, hequals⟩ :: parameters, rfl⟩

/-- A recognised text is taken apart at its last question mark, and behind it at the ampersands. -/
theorem exists_written {text : String} (h : isQueryAddress text = true) :
    ∃ a : QueryAddress, text = String.ofList a.written := by
  obtain ⟨⟨rest, htext⟩, hmark, hpieces⟩ := isQueryAddress_iff.mp h
  have hrest : '?' ∈ rest := by
    rw [← htext] at hmark
    exact (List.mem_append.mp hmark).resolve_left (by decide)
  obtain ⟨middle, hmiddle, hquery⟩ := eq_append_afterLast hrest
  have hlast : afterLast '?' text.toList = afterLast '?' rest := by
    rw [← htext, hmiddle, ← List.append_assoc, afterLast_append hquery, afterLast_append hquery]
  rw [hlast] at hpieces
  obtain ⟨parameters, hparameters⟩ := exists_parameters fun piece hpiece =>
    ⟨fun hmem => hquery (mem_of_mem_pieces hpiece hmem), not_mem_of_mem_pieces hpiece, hpieces piece hpiece⟩
  have hne : parameters ≠ [] := by
    rintro rfl
    exact pieces_ne_nil _ _ hparameters.symm
  refine ⟨⟨middle, parameters, hne⟩, ?_⟩
  rw [← String.toList_inj, String.toList_ofList, QueryAddress.written, QueryAddress.query, hparameters,
    intercalate_pieces, List.append_assoc, ← hmiddle, htext]

end Text

namespace Idioms
open Scrutiny.Tree (Occurs)

/-- Where every source is parsed, the check reports something just when it finds fault with a node of one of them. -/
theorem firstPlace_isSome_iff {p : Project} (hparsed : ∀ s ∈ p.sources, s.isParsed = true)
    (isFault : Code.Node → Bool) :
    (∃ message, firstPlace p (fun i => isFault i.here) = .ok (some message)) ↔
      ∃ s ∈ p.sources, ∃ root, s.tree = some root ∧ ∃ n, Occurs n root ∧ isFault n = true := by
  have hjudge : firstPlace p (fun i => isFault i.here) = .ok (p.sources.findSome? fun s =>
      s.tree.bind fun root => (root.places.find? (isFault ·.here)).map fun i => s.atLine i.here.line) := by
    refine Outcome.firstFinding_eq_findSome? fun s hs => ?_
    obtain ⟨root, htree⟩ := Option.isSome_iff_exists.mp (hparsed s hs)
    rw [Source.walk, htree]
    rfl
  simp only [hjudge, Except.ok.injEq]
  rw [← Option.isSome_iff_exists, List.findSome?_isSome_iff]
  refine exists_congr fun s => and_congr_right fun _ => ?_
  cases s.tree with
  | none => simp
  | some root =>
    rw [Option.bind_some, Option.isSome_map, List.find?_isSome]
    simp only [Option.some.injEq, exists_eq_left']
    exact Tree.exists_place_iff (P := fun n => isFault n = true)

end Idioms

/-- **A text is recognised as an address with a query just when it can be written as one.** Where every source is
parsed, the check reports something just when a literal of one of them is such an address. -/
theorem query_address_is_recognised_iff :
    (∀ text, Text.isQueryAddress text = true ↔ ∃ a : Text.QueryAddress, text = String.ofList a.written) ∧
    ∀ (c : Context) (p : Project), (∀ s ∈ p.sources, s.isParsed = true) →
      ((∃ message, Idioms.queryAddress c p = .ok (some message)) ↔
        ∃ s ∈ p.sources, ∃ root, s.tree = some root ∧ ∃ n, Tree.Occurs n root ∧
          ∃ a : Text.QueryAddress, n.text? = some (String.ofList a.written)) := by
  have hiff : ∀ text, Text.isQueryAddress text = true ↔ ∃ a : Text.QueryAddress, text = String.ofList a.written := by
    intro text
    refine ⟨Text.exists_written, ?_⟩
    rintro ⟨a, rfl⟩
    exact Text.isQueryAddress_written a
  have hliteral : ∀ n : Code.Node, n.text?.any Text.isQueryAddress = true ↔
      ∃ a : Text.QueryAddress, n.text? = some (String.ofList a.written) := by
    intro n
    simp only [Option.any_eq_true, hiff]
    constructor
    · rintro ⟨_, htext, a, rfl⟩
      exact ⟨a, htext⟩
    · rintro ⟨a, htext⟩
      exact ⟨_, htext, a, rfl⟩
  refine ⟨hiff, fun c p hparsed => ?_⟩
  rw [Idioms.queryAddress, Idioms.firstPlace_isSome_iff hparsed fun n => n.text?.any Text.isQueryAddress]
  simp only [hliteral]

/-- A question mark more before the query, and a parameter that is an equals sign alone; with an ampersand behind it the
text is no address any more. -/
theorem address_with_two_question_marks_is_reported :
    let sign : Text.Parameter := ⟨['='], by decide, by decide, by decide⟩
    let pair : Text.Parameter := ⟨['a', '=', 'b'], by decide, by decide, by decide⟩
    let a : Text.QueryAddress := ⟨['?', 'x'], [sign, pair], by simp⟩
    let program : List Char → Code.Node := fun text => .node ⟨.module, .body, none, []⟩
      [.node ⟨.constant, .value, some ⟨1, 0⟩, [(.value, .literal (.text (String.ofList text)))]⟩ []]
    let c : Context := { disk := { top := .node { name := "" } [] }, path := "p" }
    let p : Project := { path := "p", sources := [⟨"p/m.py", "", some (program a.written)⟩] }
    a.written = ['h', 't', 't', 'p', '?', 'x', '?', '=', '&', 'a', '=', 'b'] ∧
      (∃ message, Idioms.queryAddress c p = .ok (some message)) ∧
      ¬ ∃ b : Text.QueryAddress, String.ofList (a.written ++ ['&']) = String.ofList b.written := by
  intro sign pair a program c p
  have hoccurs : Tree.Occurs (program a.written).children[0] (program a.written) := .child List.mem_cons_self .here
  refine ⟨rfl, (query_address_is_recognised_iff.2 c p (by decide)).mpr ?_, ?_⟩
  · exact ⟨_, List.mem_cons_self, program a.written, rfl, _, hoccurs, a, rfl⟩
  · rw [← query_address_is_recognised_iff.1]
    decide

end Scrutiny
