/-! Searching, cutting and trimming text.

Text is worked on as a list of characters. `pieces` cuts at every separator and keeps empty pieces,
so a text with `k` separators has `k + 1` pieces and joining them gives it back. `contains` is
substring search; the empty text stands in every text. `dropTail` and `trim` remove the characters of a
class from the end and from both ends. -/
namespace Scrutiny.Text

/-- Whether `part` stands somewhere in the text. -/
def contains (part : List Char) : List Char → Bool
  | [] => part.isEmpty
  | c :: rest => part.isPrefixOf (c :: rest) || contains part rest

/-- Whether `part` stands somewhere in `whole`. -/
def hasText (part whole : String) : Bool :=
  contains part.toList whole.toList

def startsWith (start whole : String) : Bool :=
  start.toList.isPrefixOf whole.toList

def endsWith (tail whole : String) : Bool :=
  tail.toList.isSuffixOf whole.toList

/-- The number of places where `part` starts. -/
def occurrences (part : List Char) : List Char → Nat
  | [] => 0
  | c :: rest => (if part.isPrefixOf (c :: rest) then 1 else 0) + occurrences part rest

/-- The text between separators, empty pieces included. -/
def pieces (separator : Char) : List Char → List (List Char)
  | [] => [[]]
  | c :: rest =>
    if c = separator then [] :: pieces separator rest
    else (pieces separator rest).modifyHead (c :: ·)

/-- `pieces` on strings. -/
def cut (separator : Char) (text : String) : List String :=
  (pieces separator text.toList).map String.ofList

/-- The text without the characters of a class at its end. -/
def dropTail (p : Char → Bool) (text : List Char) : List Char :=
  (text.reverse.dropWhile p).reverse

/-- The text without the characters of a class at either end. -/
def trim (p : Char → Bool) (text : List Char) : List Char :=
  dropTail p (text.dropWhile p)

/-- What stands after the last `mark`; the whole text if there is none. -/
def afterLast (mark : Char) (text : List Char) : List Char :=
  (text.reverse.takeWhile (· ≠ mark)).reverse

theorem pieces_ne_nil (separator : Char) (text : List Char) : pieces separator text ≠ [] := by
  induction text with
  | nil => simp [pieces]
  | cons c rest ih =>
    simp only [pieces]
    split
    · simp
    · cases h : pieces separator rest with
      | nil => exact absurd h ih
      | cons p ps => simp [List.modifyHead]

end Scrutiny.Text
