import Scrutiny.Ini.Document

/-! References between options.

In a value, `%(name)s` stands for the value of another option and `%%` for a percent sign; every other percent
sign is a fault. The value referred to is expanded in turn, to a depth of `depthLimit`. -/
namespace Scrutiny.Ini

/-- The option whose value is expanded, and where references look. -/
structure Expansion where
  title : String
  option : String
  raw : String
  look : String → Option String

/-- Expands a text; `nested` expands the values referred to. `fuel` bounds the length of the text. -/
def expandWith (e : Expansion) (nested : List Char → Except Fault (List Char)) :
    Nat → List Char → Except Fault (List Char)
  | 0, text => .ok text
  | _ + 1, [] => .ok []
  | fuel + 1, '%' :: rest =>
    match rest with
    | '%' :: rest => do return '%' :: (← expandWith e nested fuel rest)
    | '(' :: reference =>
      let name := reference.takeWhile (· ≠ ')')
      match reference.dropWhile (· ≠ ')') with
      | ')' :: 's' :: rest =>
        if name.isEmpty then .error (.badReference (String.ofList ('%' :: '(' :: reference)))
        else
          let key := Text.lower (String.ofList name)
          match e.look key with
          | none => .error (.unknownReference e.title e.option key e.raw)
          | some value => do
            let expanded ←
              if value.toList.contains '%' then nested value.toList else .ok value.toList
            return expanded ++ (← expandWith e nested fuel rest)
      | _ => .error (.badReference (String.ofList ('%' :: '(' :: reference)))
    | _ => .error (.lonePercent (String.ofList ('%' :: rest)))
  | fuel + 1, c :: rest => do return c :: (← expandWith e nested fuel rest)

/-- Expands a text with so many levels of references left. -/
def expand (e : Expansion) : Nat → List Char → Except Fault (List Char)
  | 0, _ => .error (.tooDeep e.title e.option e.raw)
  | levels + 1, text => expandWith e (expand e levels) text.length text

/-- The value of an option of a section, with its references expanded. -/
def Document.value? (d : Document) (s : Section) (option : String) : Except Fault (Option String) :=
  match d.raw? s option with
  | none => .ok none
  | some raw => do
    let text ← expand ⟨s.name, option, raw, d.raw? s⟩ depthLimit raw.toList
    return some (String.ofList text)

end Scrutiny.Ini
