import DigitRace.Decimal.Double

/-!
# The shortest decimal of a double

Among the decimals that are nearer to a double than to any other, `shortest` takes one
with the fewest digits, of these the one nearest to the double, and of two equally near
the one whose last digit is even. `Numeral.render` lays such a decimal out.
-/

namespace DigitRace.Decimal

/-- The decimal `digits * 10 ^ exponent`. -/
structure Numeral where
  digits : Nat
  exponent : Int
  deriving DecidableEq

/-- The power of ten with an exponent, 1 if that is negative. -/
def tens (exponent : Int) : Nat :=
  Nat.pow 10 exponent.toNat

/-- Compares `a * 10 ^ i` with `n * 2 ^ j`. -/
def compareScaled (a : Nat) (i : Int) (n : Nat) (j : Int) : Ordering :=
  compare ((a * tens i) <<< (-j).toNat) ((n * tens (-i)) <<< j.toNat)

/-- Whether a decimal is nearer to `x` than to any other double. The ends of that interval
belong to it when `m` is even. -/
def Magnitude.holds (x : Magnitude) (d : Numeral) : Bool :=
  let low := if x.narrowBelow then 4 * x.m - 1 else 4 * x.m - 2
  let fromLow := compareScaled d.digits d.exponent low (x.q - 2)
  let fromHigh := compareScaled d.digits d.exponent (4 * x.m + 2) (x.q - 2)
  let closed := x.m % 2 == 0
  (fromLow == .gt || (closed && fromLow == .eq)) && (fromHigh == .lt || (closed && fromHigh == .eq))

/-- The number of digits in front of the point, zero or less for a value below one. -/
def Magnitude.scale (x : Magnitude) : Int :=
  let guess := ((x.q + (Nat.log2 x.m : Int)) * 30103) / 100000
  let fits (k : Int) : Bool := compareScaled 1 k x.m x.q == .gt
  if fits (guess - 1) then guess - 1
  else if fits guess then guess
  else if fits (guess + 1) then guess + 1
  else guess + 2

/-- The multiple of `10 ^ exponent` just below `x`, or `x` itself. -/
def Magnitude.below (x : Magnitude) (exponent : Int) : Nat :=
  ((x.m * tens (-exponent)) <<< x.q.toNat) / (tens exponent <<< (-x.q).toNat)

/-- The better of the two neighbours of `x` on the grid of multiples of `10 ^ exponent`, if
one of them reads back as `x`. -/
def Magnitude.onGrid? (x : Magnitude) (exponent : Int) : Option Numeral :=
  let low : Numeral := ⟨x.below exponent, exponent⟩
  let high : Numeral := ⟨low.digits + 1, exponent⟩
  match x.holds low, x.holds high with
  | false, false => none
  | true, false => some low
  | false, true => some high
  | true, true =>
    match compareScaled (low.digits + high.digits) exponent (2 * x.m) x.q with
    | .gt => some low
    | .lt => some high
    | .eq => some (if low.digits % 2 == 0 then low else high)

/-- Moves zeros at the end of the digits into the exponent, `limit` of them at most. -/
def Numeral.strip : Nat → Numeral → Numeral
  | 0, d => d
  | limit + 1, d =>
    if d.digits ≠ 0 ∧ d.digits % 10 = 0 then strip limit ⟨d.digits / 10, d.exponent + 1⟩ else d

/-- The shortest decimal that reads back as `x`, and zero for zero. -/
def shortest (x : Magnitude) : Numeral :=
  if x.m = 0 then ⟨0, 0⟩
  else
    let found := (List.range 17).findSome? fun n => x.onGrid? (x.scale - (n + 1 : Nat))
    match found with
    | some d => d.strip 20
    | none => ⟨(x.m * Nat.pow 5 (-x.q).toNat) <<< x.q.toNat, -((-x.q).toNat : Int)⟩

/-- The digits of `n`, with a sign and at least two of them. -/
def exponentText (n : Int) : String :=
  let digits := toString n.natAbs
  (if n < 0 then "-" else "+") ++ (if digits.length < 2 then "0" ++ digits else digits)

/-- Lays a decimal out. Values from `10 ^ -4` up to `10 ^ 16` are positional and have a place
behind the point; others have one digit in front of it and a signed exponent. -/
def Numeral.render (d : Numeral) : String :=
  let digits := toString d.digits
  let point := (digits.length : Int) + d.exponent
  if d.digits = 0 then "0.0"
  else if -4 < point ∧ point ≤ 16 then
    if point ≤ 0 then "0." ++ String.ofList (List.replicate (-point).toNat '0') ++ digits
    else if digits.length ≤ point.toNat then
      digits ++ String.ofList (List.replicate (point.toNat - digits.length) '0') ++ ".0"
    else
      String.ofList (digits.toList.take point.toNat) ++ "."
        ++ String.ofList (digits.toList.drop point.toNat)
  else
    let rest := String.ofList (digits.toList.drop 1)
    String.ofList (digits.toList.take 1) ++ (if rest.isEmpty then "" else "." ++ rest)
      ++ "e" ++ exponentText (point - 1)

/-- A double as text: the shortest decimal that reads back, with its sign. -/
def text (x : Float) : String :=
  if x.isNaN then "nan"
  else
    let sign := if isNegative x then "-" else ""
    if x.isInf then sign ++ "inf"
    else sign ++ (shortest (Magnitude.ofBits x.toBits)).render

end DigitRace.Decimal
