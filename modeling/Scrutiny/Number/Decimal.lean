import Scrutiny.Text.Digit

/-! Decimal numbers as written, `mantissa · 10 ^ exponent`. -/
namespace Scrutiny.Number

structure Decimal where
  mantissa : Int
  exponent : Int
  deriving DecidableEq, Repr

namespace Decimal

/-- The number a decimal stands for. -/
def value (d : Decimal) : Rat :=
  match d.exponent with
  | .ofNat n => ((d.mantissa * Int.pow 10 n : Int) : Rat)
  | .negSucc n => mkRat d.mantissa (Nat.pow 10 (n + 1))

def digits? (text : List Char) : Option (List Nat) :=
  text.mapM Text.digit?

/-- A whole number with an optional sign. -/
def whole? (text : List Char) : Option Int :=
  let (negative, body) := Text.signed text
  if body.isEmpty then none
  else (digits? body).map fun ds => if negative then -(Text.ofDigits ds : Int) else Text.ofDigits ds

/-- Reads digits with an optional point and an optional exponent; `none` for anything else. -/
def read? (text : String) : Option Decimal := do
  let (negative, body) := Text.signed text.toList
  let isMark := fun c : Char => c = 'e' || c = 'E'
  let digits := body.takeWhile (!isMark ·)
  let exponent ←
    match body.dropWhile (!isMark ·) with
    | [] => some 0
    | _ :: rest => whole? rest
  let front := digits.takeWhile (· ≠ '.')
  let back := (digits.dropWhile (· ≠ '.')).drop 1
  if front.isEmpty && back.isEmpty then none
  else
    let ds ← digits? (front ++ back)
    let n : Int := Text.ofDigits ds
    return ⟨if negative then -n else n, exponent - back.length⟩

end Decimal
end Scrutiny.Number
