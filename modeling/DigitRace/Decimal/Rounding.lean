/-!
# Rounding to a whole number

`nearest` rounds a fraction to the nearest whole number; a fraction halfway between
two of them goes to the even one.
-/

namespace DigitRace.Decimal

/-- The whole number nearest to `q`, the even one of two that are equally near. -/
def nearest (q : Rat) : Int :=
  let low := q.num / (q.den : Int)
  let twice := 2 * (q.num % (q.den : Int))
  if twice < q.den then low
  else if twice = q.den ∧ low % 2 = 0 then low
  else low + 1

/-- The whole number that is left when the places behind the point are dropped. -/
def truncated (q : Rat) : Int :=
  q.num.tdiv q.den

/-- A whole number is nearest to itself. -/
theorem nearest_intCast (n : Int) : nearest (n : Rat) = n := by
  simp [nearest]

end DigitRace.Decimal
