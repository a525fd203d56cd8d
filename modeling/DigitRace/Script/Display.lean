import DigitRace.Display
import DigitRace.Script
import DigitRace.Segment.Glyph

/-!
# A display before scripted observers

The display tells whichever observer is registered last of every pattern, and what the
observer does in answer may be shown on the same display.
-/

namespace DigitRace.Script

/-- What can be done to a display. -/
inductive DisplayAction where
  | register (observer : String)
  | unregister
  | showPattern (pattern : Value)
  | showCharacter (character : Value)
  | off

/-- A display, and the patterns that its observers were told of. -/
abbrev DisplayRehearsal := Rehearsal (Display Value String) DisplayAction (String × Value)

namespace DisplayAction

/-- Does an action; `tell` calls an observer. -/
def perform (tell : String → Value → Act DisplayRehearsal Unit) :
    DisplayAction → Act DisplayRehearsal Unit
  | register observer => Rehearsal.deviceOf.update fun d => { d with observer := some observer }
  | unregister => Rehearsal.deviceOf.update fun d => { d with observer := none }
  | showPattern pattern => Display.showing Rehearsal.deviceOf tell pattern
  | showCharacter character => do
    let glyph ← Glyph.ofValue character
    Display.showing Rehearsal.deviceOf tell (.text glyph)
  | off => Display.showing Rehearsal.deviceOf tell (.text "")

end DisplayAction

/-- Plays steps on a dark display. -/
def playDisplay (scripts : List (Script DisplayAction)) (steps : List (List (Deed DisplayAction))) :
    List (Except Fault Unit × DisplayRehearsal) :=
  Rehearsal.outcomes (Rehearsal.step (fun observer pattern _ => (observer, pattern))
    DisplayAction.perform) { device := { pattern := .text "" }, scripts } steps

end DigitRace.Script
