/-! Strict UTF-8.

No overlong forms, no surrogates, nothing above U+10FFFF: `decode` gives the characters of
a byte sequence, or `none` when it is not well formed. A byte order mark is an ordinary character.

A reader takes bytes in blocks and decodes each block when it comes, so what stands before the block of the first fault
is still read. -/
namespace Scrutiny.Text.Utf8

/-- The six bits of a following byte that lies between two bounds. -/
def following (low high : Nat) (b : UInt8) : Option Nat :=
  if low ≤ b.toNat && b.toNat ≤ high then some (b.toNat % 64) else none

/-- The bounds on the second byte after a first byte of three. -/
def secondOfThree (first : Nat) : Nat × Nat :=
  if first = 0xE0 then (0xA0, 0xBF) else if first = 0xED then (0x80, 0x9F) else (0x80, 0xBF)

/-- The bounds on the second byte after a first byte of four. -/
def secondOfFour (first : Nat) : Nat × Nat :=
  if first = 0xF0 then (0x90, 0xBF) else if first = 0xF4 then (0x80, 0x8F) else (0x80, 0xBF)

def decode : List UInt8 → Option (List Char)
  | [] => some []
  | a :: rest =>
    let first := a.toNat
    if first < 0x80 then (decode rest).map (Char.ofNat first :: ·)
    else if 0xC2 ≤ first && first ≤ 0xDF then
      match rest with
      | b :: rest => do
        let x ← following 0x80 0xBF b
        let text ← decode rest
        return Char.ofNat (first % 32 * 64 + x) :: text
      | [] => none
    else if 0xE0 ≤ first && first ≤ 0xEF then
      match rest with
      | b :: c :: rest => do
        let x ← following (secondOfThree first).1 (secondOfThree first).2 b
        let y ← following 0x80 0xBF c
        let text ← decode rest
        return Char.ofNat ((first % 16 * 64 + x) * 64 + y) :: text
      | _ => none
    else if 0xF0 ≤ first && first ≤ 0xF4 then
      match rest with
      | b :: c :: d :: rest => do
        let x ← following (secondOfFour first).1 (secondOfFour first).2 b
        let y ← following 0x80 0xBF c
        let z ← following 0x80 0xBF d
        let text ← decode rest
        return Char.ofNat (((first % 8 * 64 + x) * 64 + y) * 64 + z) :: text
      | _ => none
    else none

/-- The byte order mark. -/
def mark : List UInt8 :=
  [0xEF, 0xBB, 0xBF]

/-- The number of bytes in a block. -/
def blockSize : Nat := 8192

/-- Bytes that can end a character whose first bytes are already there. -/
def endings : List (List UInt8) :=
  [0x80, 0x90, 0xA0].flatMap fun b => [[b], [b, 0x80], [b, 0x80, 0x80]]

/-- Whether bytes are the first two of three that stand for a surrogate. -/
def isSurrogateBegun : List UInt8 → Bool
  | [a, b] => a = 0xED && 0xA0 ≤ b && b ≤ 0xBF
  | _ => false

/-- Whether bytes are the beginning of one character. Two bytes that begin a surrogate are no fault as yet. -/
def isBegun (bytes : List UInt8) : Bool :=
  isSurrogateBegun bytes || endings.any fun ending => ((decode (bytes ++ ending)).map List.length) = some 1

/-- The characters of bytes that may end in the midst of one. -/
def decodeBlocks (bytes : List UInt8) : Option (List Char) :=
  decode bytes <|> [1, 2, 3].findSome? fun k =>
    if isBegun (bytes.drop (bytes.length - k)) then decode (bytes.take (bytes.length - k)) else none

/-- The characters in the blocks before the first fault. A character that is cut off is a fault of the end only. -/
def readable (bytes : List UInt8) : List Char :=
  ((List.range (bytes.length / blockSize + 2)).reverse.findSome? fun k =>
    decodeBlocks (bytes.take (k * blockSize))).getD []

end Scrutiny.Text.Utf8
