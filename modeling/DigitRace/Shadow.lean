import DigitRace.Act
import DigitRace.Segment.Pattern

/-!
# The shadow of the digit

The digit is told of every pattern that is shown, also of the many that change nothing.
The shadow remembers what was drawn last and passes a pattern on only if it lights other
segments.
-/

namespace DigitRace

/-- The canonical pattern that was passed on last, if there was one. -/
abbrev Shadow := Option String

namespace Shadow

variable {σ : Type}

/-- Passes a canonical pattern on to `draw` if it differs from the last. The shadow takes the
pattern over before it is drawn. Tells whether the pattern was passed on. -/
def offer (shadow : Part σ Shadow) (draw : String → Act σ Unit) (pattern : String) :
    Act σ Bool := do
  if shadow.get (← get) = some pattern then return false
  shadow.update fun _ => some pattern
  draw pattern
  return true

/-- A shadow by itself, and the patterns that it has passed on. -/
structure Trace where
  shadow : Shadow := none
  frames : List String := []

/-- The shadow of a trace. -/
def ofTrace : Part Trace Shadow where
  get := Trace.shadow
  put shadow trace := { trace with shadow }

/-- Offers whatever is given as a pattern to a shadow, and notes what is passed on. -/
def write (pattern : Value) : Act Trace Bool := do
  modify fun trace => { trace with frames := [] }
  offer ofTrace (fun p => modify fun trace => { trace with frames := trace.frames ++ [p] })
    (← Segment.canonical? pattern)

end Shadow

end DigitRace
