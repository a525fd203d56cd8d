import DigitRace.Decimal.Rounding

/-!
# Doubles as fractions

A finite double is `± m * 2 ^ q`. Reading that off its bits makes every question about
the double one about whole numbers. Numbers too large for a double are told apart by
the value from which on rounding leaves the range.
-/

namespace DigitRace.Decimal

/-- The magnitude `m * 2 ^ q` of a finite double. -/
structure Magnitude where
  m : Nat
  q : Int
  /-- The next smaller double is half as far away as the next larger one. -/
  narrowBelow : Bool
  deriving DecidableEq

/-- The magnitude that the bits of a finite double stand for. -/
def Magnitude.ofBits (bits : UInt64) : Magnitude :=
  let exponent := ((bits >>> 52) &&& 0x7ff).toNat
  let fraction := (bits &&& 0xfffffffffffff).toNat
  if exponent = 0 then ⟨fraction, -1074, false⟩
  else ⟨1 <<< 52 + fraction, (exponent : Int) - 1075, fraction = 0 ∧ 1 < exponent⟩

/-- The magnitude as a fraction. -/
def Magnitude.toRat (x : Magnitude) : Rat :=
  if 0 ≤ x.q then ((x.m <<< x.q.toNat : Nat) : Rat) else mkRat x.m (1 <<< (-x.q).toNat)

/-- Whether the sign bit of a double is set. -/
def isNegative (x : Float) : Bool :=
  x.toBits >>> 63 == 1

/-- The exact value of a finite double. -/
def exact (x : Float) : Rat :=
  let magnitude := (Magnitude.ofBits x.toBits).toRat
  if isNegative x then -magnitude else magnitude

/-- The least magnitude that no finite double is nearest to. -/
def overflowBound : Nat :=
  1 <<< 1024 - 1 <<< 970

/-- The double nearest to a whole number, if its magnitude is in the range of doubles. -/
def ofInt? (n : Int) : Option Float :=
  if overflowBound ≤ n.natAbs then none
  else
    let magnitude := Float.ofScientific n.natAbs false 0
    some (if n < 0 then -magnitude else magnitude)

end DigitRace.Decimal
