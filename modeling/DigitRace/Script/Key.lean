import DigitRace.Key
import DigitRace.Script

/-!
# A key before scripted listeners

Listeners and the updater may be the same, and each may move the key again before the
edge that it is told of has reached the others.
-/

namespace DigitRace.Script

/-- What can be done to a key. -/
inductive KeyAction where
  | register (listener : String)
  | unregister (listener : String)
  | setUpdater (updater : String)
  | clearUpdater
  | move (pressed : Bool)

/-- A key, and the edges that its listeners were told of. -/
abbrev KeyRehearsal := Rehearsal (Key String String) KeyAction (String × Bool)

namespace KeyAction

/-- Does an action; `tell` calls a listener or the updater. -/
def perform (tell : String → Bool → Act KeyRehearsal Unit) : KeyAction → Act KeyRehearsal Unit
  | register listener => Rehearsal.deviceOf.update (Key.register listener)
  | unregister listener => Rehearsal.deviceOf.update (Key.unregister listener)
  | setUpdater updater => Rehearsal.deviceOf.update fun k => { k with updater := some updater }
  | clearUpdater => Rehearsal.deviceOf.update fun k => { k with updater := none }
  | move pressed => Key.edge Rehearsal.deviceOf tell tell pressed

end KeyAction

/-- Plays steps on a key that is up. -/
def playKey (scripts : List (Script KeyAction)) (steps : List (List (Deed KeyAction))) :
    List (Except Fault Unit × KeyRehearsal) :=
  Rehearsal.outcomes (Rehearsal.step (fun listener pressed _ => (listener, pressed))
    KeyAction.perform) { device := {}, scripts } steps

end DigitRace.Script
