/-! Numbers of 53 significant binary digits.

`nearest` rounds a ratio to the closest number of that form, a tie going to the even one. Percentages
are computed in such numbers: a share rounds twice, once after the division and once after the
multiplication by a hundred, so that seven of twenty-five is a little more than 28 percent. Counts
never reach sizes at which the range of exponents would matter. -/
namespace Scrutiny.Number

/-- A power of two. -/
def twoTo : Int → Rat
  | .ofNat n => (Nat.pow 2 n : Nat)
  | .negSucc n => mkRat 1 (Nat.pow 2 (n + 1))

/-- The whole number nearest to a ratio, a tie going to the even one. -/
def roundEven (q : Rat) : Int :=
  let whole := q.floor
  let rest := q - whole
  if rest < mkRat 1 2 then whole
  else if mkRat 1 2 < rest then whole + 1
  else if whole % 2 = 0 then whole else whole + 1

/-- The exponent of the leading binary digit of a positive ratio. -/
def leading (q : Rat) : Int :=
  let guess : Int := (q.num.toNat.log2 : Int) - q.den.log2
  if twoTo guess ≤ q then guess else guess - 1

/-- A positive ratio rounded to 53 significant binary digits. -/
def nearestPositive (q : Rat) : Rat :=
  let unit := twoTo (leading q - 52)
  roundEven (q / unit) * unit

/-- A ratio rounded to 53 significant binary digits. -/
def nearest (q : Rat) : Rat :=
  if 0 < q then nearestPositive q
  else if q < 0 then -nearestPositive (-q)
  else 0

/-- How many percent `part` is of `whole`: the quotient is rounded, then its hundredfold. -/
def share (part whole : Nat) : Rat :=
  nearest (nearest (mkRat part whole) * 100)

/-- How many percent `part` is of `whole`, rounded once. -/
def percent (part whole : Nat) : Rat :=
  nearest (mkRat (part * 100) whole)

end Scrutiny.Number
