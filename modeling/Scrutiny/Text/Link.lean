import Scrutiny.Text.Search

/-! Web addresses with a query, and the last component of a path. -/
namespace Scrutiny.Text

/-- Whether a text is an address with parameters: it starts with `http`, has a question mark, and every
piece between ampersands after the last question mark has an equals sign. -/
def isQueryAddress (text : String) : Bool :=
  let chars := text.toList
  "http".toList.isPrefixOf chars && chars.contains '?' &&
    (pieces '&' (afterLast '?' chars)).all (·.contains '=')

/-- What stands after the last slash. -/
def baseName (path : String) : String :=
  String.ofList (afterLast '/' path.toList)

/-- The part of a dotted name before its first dot. -/
def topPackage (name : String) : String :=
  String.ofList (name.toList.takeWhile (· ≠ '.'))

end Scrutiny.Text
