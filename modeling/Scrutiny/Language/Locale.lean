import Scrutiny.Disk.Path
import Scrutiny.Language
import Scrutiny.Text.Case

/-! The language that an environment asks for.

The environment lists locales in one of four variables; the first that is not empty counts. A locale is
written `language_TERRITORY.codeset@modifier`, where everything but the language may be left out. Some spellings are
known to stand for another locale. Any other locale is tried as it is, and then without each of its
optional parts in turn. Texts are in the language of the first catalogue found in this way, and in English when
none is found or the locale `C`, which asks for no catalogue, comes first. -/
namespace Scrutiny

/-- The variables that list locales. -/
structure Environment where
  language : String := ""
  lcAll : String := ""
  lcMessages : String := ""
  lang : String := ""

/-- The locales in the first variable that is not empty. -/
def Environment.locales (e : Environment) : List String :=
  match [e.language, e.lcAll, e.lcMessages, e.lang].find? (· ≠ "") with
  | some value => Text.cut ':' value
  | none => []

/-- A locale in its parts. Each part but the language starts with its mark, or is empty. -/
structure Locale where
  language : String
  territory : String
  codeset : String
  modifier : String
  deriving DecidableEq, Repr

namespace Locale

/-- A text up to a mark, and the rest from the mark on. -/
def divide (mark : Char) (text : String) : String × String :=
  (String.ofList (text.toList.takeWhile (· ≠ mark)), String.ofList (text.toList.dropWhile (· ≠ mark)))

def parse (text : String) : Locale :=
  let (text, modifier) := divide '@' text
  let (text, codeset) := divide '.' text
  let (language, territory) := divide '_' text
  { language, territory, codeset, modifier }

/-- A part that is there, and then its absence. -/
def withAndWithout (part : String) : List String :=
  if part = "" then [""] else [part, ""]

/-- The names of a locale, from the full one to that of the language alone. The modifier is the last part to be left
out, and the codeset the first. -/
def names (l : Locale) : List String :=
  (withAndWithout l.modifier).flatMap fun modifier =>
    (withAndWithout l.territory).flatMap fun territory =>
      (withAndWithout l.codeset).map fun codeset => l.language ++ territory ++ codeset ++ modifier

/-- The locale that asks for texts as they are. -/
def plain : String := "C"

/-- Spellings, in lower case, that stand for the plain locale or for one of Russian, and those that
look like one of them and stand for something else. -/
def known : List (String × String) :=
  [("c", plain), ("c.ascii", plain), ("c.en", plain), ("c.iso88591", "en_US"), ("c.utf8", "en_US"),
   ("c_c", plain), ("c_c.c", plain), ("english_united-states.437", plain), ("posix", plain),
   ("posix-utf2", plain), ("ru", "ru_RU"), ("ru_ru", "ru_RU"), ("ru_ua", "ru_UA"), ("russian", "ru_RU")]

/-- What a spelling stands for, whatever its case and modifier: with its codeset, written without dashes and
underscores, or else without it. -/
def known? (text : String) : Option String :=
  let spelling := (divide '@' (Text.lower text)).1
  let locale := (divide '.' spelling).1
  let codeset := (Text.cut '.' spelling).getD 1 ""
  let dense := String.ofList (codeset.toList.filter fun c => c ≠ '-' && c ≠ '_')
  known.lookup (locale ++ "." ++ dense) <|> known.lookup locale

/-- The names under which a catalogue is looked for. -/
def candidates (text : String) : List String :=
  match known? text with
  | some name => [name]
  | none => (parse text).names

end Locale

namespace Language

/-- The catalogues: one, of Russian. -/
def catalogues : Disk where
  top := (Folder.empty "").write "locale/ru_RU/LC_MESSAGES/texts" { bytes := [] }

/-- Whether there is a catalogue under a name. The name is part of a path. -/
def hasCatalogue (name : String) : Bool :=
  catalogues.isFile (Path.join (Path.join "locale" name) "LC_MESSAGES/texts")

def ofEnvironment (e : Environment) : Language :=
  match (e.locales.flatMap Locale.candidates).find? fun name => name = Locale.plain || hasCatalogue name with
  | some name => if name = Locale.plain then english else russian
  | none => english

end Language
end Scrutiny
