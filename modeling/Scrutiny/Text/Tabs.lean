import Scrutiny.Text.Space

/-! Tabs and indentation.

A tab runs to the next multiple of the tab size; a size of zero or less removes it. Columns start
again after a line end. The indentation of a line is the difference between the length of the line as
written and the length of the line with its tabs expanded and its leading white space removed, so
a tab inside the line lowers it and it may be negative.

Lengths are computed without expanding anything, since a tab may be very wide; `indentation_eq` says that
they are those of the expanded line. -/
namespace Scrutiny.Text

/-- Whether tabs can have a size: it fits into 32 bits. -/
def isTabSize (size : Int) : Bool :=
  -0x80000000 ≤ size && size < 0x80000000

/-- The width of a character at a column. -/
def charWidth (size column : Nat) (c : Char) : Nat :=
  if c ≠ '\t' then 1 else if size = 0 then 0 else size - column % size

/-- The column after a character at a column. -/
def columnAfter (size column : Nat) (c : Char) : Nat :=
  if c = '\n' || c = '\r' then 0 else column + charWidth size column c

/-- Expands tabs in a text that starts at a column. -/
def expandTabsFrom (size : Nat) (column : Nat) : List Char → List Char
  | [] => []
  | c :: rest =>
    (if c = '\t' then List.replicate (charWidth size column c) ' ' else [c]) ++
      expandTabsFrom size (columnAfter size column c) rest

def expandTabs (size : Int) (text : List Char) : List Char :=
  expandTabsFrom size.toNat 0 text

/-- The length of a text that starts at a column, with its tabs expanded. -/
def lengthFrom (size : Nat) (column : Nat) : List Char → Nat
  | [] => 0
  | c :: rest => charWidth size column c + lengthFrom size (columnAfter size column c) rest

/-- The same without the white space that it starts with. -/
def bodyLengthFrom (size : Nat) (column : Nat) : List Char → Nat
  | [] => 0
  | c :: rest =>
    if isSpace c then bodyLengthFrom size (columnAfter size column c) rest
    else lengthFrom size column (c :: rest)

def indentation (tabSize : Int) (line : List Char) : Int :=
  line.length - bodyLengthFrom tabSize.toNat 0 line

theorem length_expandTabsFrom (size column : Nat) (text : List Char) :
    (expandTabsFrom size column text).length = lengthFrom size column text := by
  induction text generalizing column with
  | nil => rfl
  | cons c rest ih =>
    simp only [expandTabsFrom, lengthFrom, List.length_append, ih]
    split
    · simp
    · simp [charWidth, *]

theorem dropWhile_replicate_append (p : Char → Bool) (c : Char) (h : p c = true) (n : Nat) (rest : List Char) :
    (List.replicate n c ++ rest).dropWhile p = rest.dropWhile p := by
  induction n with
  | zero => simp
  | succ n ih => simp [List.replicate_succ, h, ih]

theorem length_body (size column : Nat) (text : List Char) :
    ((expandTabsFrom size column text).dropWhile isSpace).length = bodyLengthFrom size column text := by
  induction text generalizing column with
  | nil => rfl
  | cons c rest ih =>
    by_cases tab : c = '\t'
    · subst tab
      rw [expandTabsFrom, if_pos rfl, dropWhile_replicate_append _ _ (by decide), ih]
      simp [bodyLengthFrom, show isSpace '\t' = true by decide]
    · by_cases space : isSpace c = true
      · simp [expandTabsFrom, bodyLengthFrom, tab, space, ih]
      · simp only [bodyLengthFrom, space, ← length_expandTabsFrom]
        simp [expandTabsFrom, tab, space]

/-- The indentation counts in the expanded line. -/
theorem indentation_eq (tabSize : Int) (line : List Char) :
    indentation tabSize line = line.length - ((expandTabs tabSize line).dropWhile isSpace).length := by
  rw [indentation, expandTabs, length_body]

end Scrutiny.Text
