import DigitRace.Circuit.Instruction

/-!
# The track

The circuit of the game: three loops that overlap, joined at four junctions.

```text
 0 b --steer--> 7     3 e --steer--> 21
10 c --steer--> 17   13 f --steer--> 25
```
-/

namespace DigitRace.Circuit

/-- A light on the bar `segment` with a branch to `branch`. -/
def lit (segment : String) (branch : Int) : Instruction :=
  .light (.text segment) (.int branch)

/-- A jump to `target`. -/
def back (target : Int) : Instruction :=
  .jump (.int target)

/-- The circuit that the game is played on. -/
def track : Circuit :=
  [lit "b" 7, lit "c" 0, lit "d" 0, lit "e" 21, lit "f" 0, lit "a" 0, back 0,
   lit "g" 0, lit "e" 0, lit "d" 0,
   lit "c" 17, lit "b" 0, lit "a" 0, lit "f" 25, lit "e" 0, lit "d" 0, back 10,
   lit "g" 0, lit "f" 0, lit "a" 0, back 0,
   lit "g" 0, lit "b" 0, lit "a" 0, back 13,
   lit "g" 0, back 1]

end DigitRace.Circuit
