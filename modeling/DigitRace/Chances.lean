/-!
# Chances

The demo steers by chance: it compares numbers between 0 and 1 with a bound. The numbers
are given beforehand, so that a game with the same numbers takes the same course.
-/

namespace DigitRace

/-- The numbers that the demo draws, by how many it drew before. -/
abbrev Chances := Nat → Float

/-- Numbers that come round again and again, and zeros if there are none. -/
def Chances.cyclic (values : Array Float) : Chances :=
  fun n => (values[n % values.size]?).getD 0

end DigitRace
