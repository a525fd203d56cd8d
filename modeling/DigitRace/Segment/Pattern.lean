import DigitRace.Value.Conversion

/-!
# Patterns of lit segments

The digit has seven bars, `a` to `g`, and a point `p`:

```text
 ---a---
|       |
f       b
|       |
 ---g---
|       |
e       c
|       |
 ---d---   . p
```

A pattern names the segments that are lit, in any order. Its canonical form lists the
known ones in alphabetical order, each once.
-/

namespace DigitRace.Segment

/-- The segments of the digit. -/
def ids : List Char := ['a', 'b', 'c', 'd', 'e', 'f', 'g', 'p']

/-- The bars of the digit, which a circuit can light. -/
def bars : List Char := ['a', 'b', 'c', 'd', 'e', 'f', 'g']

/-- Whether a pattern names a segment. A list names the segments that are among its items. -/
def lights (pattern : Value) (id : Char) : Except Fault Bool :=
  match pattern with
  | .text s => .ok (s.toList.contains id)
  | .list items => .ok (items.any fun item => item == .text id.toString)
  | other => .error (.unsuitable other)

/-- The canonical form of a pattern. -/
def canonical (pattern : String) : String :=
  String.ofList (ids.filter pattern.toList.contains)

/-- The canonical form of whatever is given as a pattern. -/
def canonical? (pattern : Value) : Except Fault String := do
  let lit ← ids.filterM (lights pattern)
  return String.ofList lit

/-- Whether a value names exactly one bar. -/
def isBar : Value → Bool
  | .text s => match s.toList with
    | [c] => bars.contains c
    | _ => false
  | _ => false

@[simp] theorem toList_canonical (pattern : String) :
    (canonical pattern).toList = ids.filter pattern.toList.contains := by
  simp [canonical]

end DigitRace.Segment
