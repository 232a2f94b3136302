import Scrutiny.Text.ControlTable
import Scrutiny.Text.Space

/-! Text as a quoted literal.

Single quotes are used unless the text has a single quote and no double quote. The quote in use and
the backslash are escaped, as are tabs and line ends; every other character without a printed form is
written by its code in two, four or eight hexadecimal digits. -/
namespace Scrutiny.Text

def isPrintable (c : Char) : Bool :=
  !inRanges unprintableRanges c.toNat

/-- A number in hexadecimal, padded with zeros to a width. -/
def hex (width n : Nat) : List Char :=
  let digits := Nat.toDigits 16 n
  List.replicate (width - digits.length) '0' ++ digits

def escaped (quote c : Char) : List Char :=
  if c = quote || c = '\\' then ['\\', c]
  else if c = '\t' then ['\\', 't']
  else if c = '\n' then ['\\', 'n']
  else if c = '\r' then ['\\', 'r']
  else if isPrintable c then [c]
  else if c.toNat < 0x100 then '\\' :: 'x' :: hex 2 c.toNat
  else if c.toNat < 0x10000 then '\\' :: 'u' :: hex 4 c.toNat
  else '\\' :: 'U' :: hex 8 c.toNat

/-- The quote a text is put in. -/
def quoteFor (text : List Char) : Char :=
  if text.contains '\'' && !text.contains '"' then '"' else '\''

def quoted (text : String) : String :=
  let quote := quoteFor text.toList
  String.ofList (quote :: text.toList.flatMap (escaped quote) ++ [quote])

end Scrutiny.Text
