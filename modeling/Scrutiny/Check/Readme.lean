import Scrutiny.Check.Basic
import Scrutiny.Number.Binary
import Scrutiny.Text.Prose

/-! Checks of the readme. -/
namespace Scrutiny.Readme

def absent (c : Context) (p : Project) : Outcome (Option String) :=
  let name := c.settings.readmeFilename
  .ok (if p.hasFile c.disk name then none else some ((Message.noReadme name).render c.language))

/-- The readme is that of the project it started from. A missing readme there is no fault. -/
def unchanged (c : Context) (p : Project) : Outcome (Option String) :=
  match c.base with
  | none => .ok none
  | some base =>
    match c.disk.readText (Path.join base.path c.settings.readmeFilename) with
    | .error (.missing _) => .ok none
    | .error failure => .error failure
    | .ok before => do
      let now ← c.disk.readText (Path.join p.path c.settings.readmeFilename)
      return if now = before then some "" else none

/-- Whether the rarer of two languages has more than its share of the letters. -/
def isMixed (russian english : Nat) (limit : Rat) : Bool :=
  0 < russian + english && limit < Number.percent (min russian english) (russian + english)

/-- Whether the prose of a text is in two languages. -/
def isBilingual (text : String) (limit : Rat) : Bool :=
  let prose := Text.prose text.toList
  isMixed (prose.countP Text.isRussianLetter) (prose.countP Text.isEnglishLetter) limit

def bilingual (c : Context) (p : Project) : Outcome (Option String) := do
  match ← p.fileNamed c.disk c.settings.readmeFilename with
  | none => .error .noReadme
  | some text =>
    return if isBilingual text c.settings.minPercentOfAnotherLanguage then some "" else none

end Scrutiny.Readme
