import DigitRace.Act

/-!
# The display

The display holds the pattern that was shown last. One observer at most is told of every
pattern, after the display has taken it over.
-/

namespace DigitRace

/-- A display for patterns of type `π` with observers of type `υ`. -/
structure Display (π υ : Type) where
  pattern : π
  observer : Option υ := none

namespace Display

variable {σ π υ : Type}

/-- Shows a pattern and tells the observer, if there is one. -/
def showing (display : Part σ (Display π υ)) (tell : υ → π → Act σ Unit) (pattern : π) :
    Act σ Unit := do
  display.update fun d => { d with pattern }
  match (display.get (← get)).observer with
  | some observer => tell observer pattern
  | none => pure ()

end Display

end DigitRace
