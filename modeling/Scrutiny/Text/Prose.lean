import Scrutiny.Text.Space

/-! The prose of a readme.

Code between fences and links are no prose. A fenced block starts with white space and three
backticks with a tag of letters, `#` and `!` to the end of the line, and goes on to the first line end
that is followed by three backticks and white space; the white space at both ends belongs to it. A link is
`[text](target)`, neither part empty. Both are removed from left to right. -/
namespace Scrutiny.Text

/-- Removes what `match?` finds, from left to right. A match returns what stands after it. -/
def removeAll (match? : List Char → Option (List Char)) : Nat → List Char → List Char
  | 0, text => text
  | _ + 1, [] => []
  | fuel + 1, c :: rest =>
    match match? (c :: rest) with
    | some after => removeAll match? fuel after
    | none => c :: removeAll match? fuel rest

def isTag (c : Char) : Bool :=
  c = '#' || c = '!' || c.isAlpha

/-- What stands after the first closing fence. -/
def afterFence? : List Char → Option (List Char)
  | [] => none
  | '\n' :: '`' :: '`' :: '`' :: c :: rest =>
    if isSpace c then some rest else afterFence? ('`' :: '`' :: '`' :: c :: rest)
  | _ :: rest => afterFence? rest

/-- What stands after a fenced block at the start of the text. -/
def afterBlock? : List Char → Option (List Char)
  | c :: '`' :: '`' :: '`' :: rest =>
    if isSpace c then
      match rest.dropWhile isTag with
      | '\n' :: code => afterFence? code
      | _ => none
    else none
  | _ => none

/-- A part that is not empty and ends before `close`, and what stands after `close`. -/
def afterPart? (close : Char) (text : List Char) : Option (List Char) :=
  if (text.takeWhile (· ≠ close)).isEmpty then none
  else
    match text.dropWhile (· ≠ close) with
    | _ :: rest => some rest
    | [] => none

/-- What stands after a link at the start of the text. -/
def afterLink? : List Char → Option (List Char)
  | '[' :: rest =>
    match afterPart? ']' rest with
    | some ('(' :: target) => afterPart? ')' target
    | _ => none
  | _ => none

def withoutCode (text : List Char) : List Char :=
  removeAll afterBlock? text.length text

def withoutLinks (text : List Char) : List Char :=
  removeAll afterLink? text.length text

def prose (text : List Char) : List Char :=
  withoutLinks (withoutCode text)

def isRussianLetter (c : Char) : Bool :=
  0x410 ≤ c.toNat && c.toNat ≤ 0x44F

def isEnglishLetter (c : Char) : Bool :=
  c.isAlpha

end Scrutiny.Text
