import Scrutiny.Text.Search

/-! Lines of a text.

Reading a file turns every line end (`\r\n`, a lone `\r`) into `\n`. `linesOf` are the pieces between line
ends, so a text that ends in one has an empty last line. `countLines` counts lines as a reader meets
them, without that empty last piece, and stops at a limit. -/
namespace Scrutiny.Text

/-- Every line end becomes `\n`. -/
def translateLineEnds : List Char → List Char
  | [] => []
  | '\r' :: '\n' :: rest => '\n' :: translateLineEnds rest
  | '\r' :: rest => '\n' :: translateLineEnds rest
  | c :: rest => c :: translateLineEnds rest

def linesOf (text : List Char) : List (List Char) :=
  pieces '\n' text

/-- What stands after the first line. -/
def afterLine (text : List Char) : List Char :=
  (text.dropWhile (· ≠ '\n')).drop 1

/-- The number of lines, counted no further than the limit. -/
def countLines : Nat → List Char → Nat
  | 0, _ => 0
  | _ + 1, [] => 0
  | limit + 1, c :: rest => countLines limit (afterLine (c :: rest)) + 1

/-- The number of spaces at the start of a line. -/
def leadingSpaces (line : List Char) : Nat :=
  (line.takeWhile (· = ' ')).length

/-- The leading spaces of every line, so that line `i`, counted from one, is entry `i`. Entry zero is
empty. -/
def lineOffsets (text : List Char) : List (Option Nat) :=
  none :: (linesOf text).map (some ∘ leadingSpaces)

end Scrutiny.Text
