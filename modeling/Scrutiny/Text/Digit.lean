import Scrutiny.Text.Space

/-! Whole numbers in decimal, with the digits of any script.

A number may have white space around it, one sign, and single underscores between digits. Digits of
all scripts of Unicode 14 count by their value. A number of more than `digitLimit` digits is refused
before its value is looked at. -/
namespace Scrutiny.Text

/-- The zero of each run of ten decimal digits. -/
def digitZeros : List Nat :=
  [0x30, 0x660, 0x6F0, 0x7C0, 0x966, 0x9E6, 0xA66, 0xAE6, 0xB66, 0xBE6,
   0xC66, 0xCE6, 0xD66, 0xDE6, 0xE50, 0xED0, 0xF20, 0x1040, 0x1090, 0x17E0,
   0x1810, 0x1946, 0x19D0, 0x1A80, 0x1A90, 0x1B50, 0x1BB0, 0x1C40, 0x1C50, 0xA620,
   0xA8D0, 0xA900, 0xA9D0, 0xA9F0, 0xAA50, 0xABF0, 0xFF10, 0x104A0, 0x10D30, 0x11066,
   0x110F0, 0x11136, 0x111D0, 0x112F0, 0x11450, 0x114D0, 0x11650, 0x116C0, 0x11730, 0x118E0,
   0x11950, 0x11C50, 0x11D50, 0x11DA0, 0x16A60, 0x16AC0, 0x16B50, 0x1D7CE, 0x1D7D8, 0x1D7E2,
   0x1D7EC, 0x1D7F6, 0x1E140, 0x1E2F0, 0x1E950, 0x1FBF0]

def digit? (c : Char) : Option Nat :=
  (digitZeros.find? fun start => start ≤ c.toNat && c.toNat < start + 10).map (c.toNat - ·)

def digitLimit : Nat := 4300

inductive IntegerFault where
  | malformed
  /-- More digits than `digitLimit`. -/
  | tooLong (digits : Nat)
  deriving DecidableEq, Repr

/-- Blank around a number: in a text of ASCII characters only the ASCII blanks count, otherwise also
all other white space beyond ASCII. -/
def isNumberBlank (c : Char) : Bool :=
  if c.toNat < 127 then c = ' ' || (9 ≤ c.toNat && c.toNat ≤ 13) else isSpace c

/-- The digits that follow a first digit, and what stands after them; `none` when an underscore has no
digit after it. -/
def moreDigits : List Char → Option (List Nat × List Char)
  | [] => some ([], [])
  | '_' :: c :: rest =>
    match digit? c with
    | some d => (moreDigits rest).map fun r => (d :: r.1, r.2)
    | none => none
  | c :: rest =>
    match digit? c with
    | some d => (moreDigits rest).map fun r => (d :: r.1, r.2)
    | none => if c = '_' then none else some ([], c :: rest)

/-- An unsigned number and what stands after it. -/
def digitRun : List Char → Option (List Nat × List Char)
  | [] => none
  | c :: rest =>
    match digit? c with
    | some d => (moreDigits rest).map fun r => (d :: r.1, r.2)
    | none => none

def signed : List Char → Bool × List Char
  | '-' :: rest => (true, rest)
  | '+' :: rest => (false, rest)
  | rest => (false, rest)

/-- The number that digits stand for, the most significant first. -/
def ofDigits (digits : List Nat) : Nat :=
  digits.foldl (fun n d => 10 * n + d) 0

def readInteger (text : String) : Except IntegerFault Int :=
  let (negative, body) := signed (text.toList.dropWhile isNumberBlank)
  match digitRun body with
  | none => .error .malformed
  | some (digits, rest) =>
    if digits.length > digitLimit then .error (.tooLong digits.length)
    else if rest.all isNumberBlank then
      .ok (if negative then -(ofDigits digits : Int) else (ofDigits digits : Int))
    else .error .malformed

end Scrutiny.Text
