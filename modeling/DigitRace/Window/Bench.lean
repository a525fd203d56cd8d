import DigitRace.Key
import DigitRace.Window.Basic

/-!
# A window on the bench

A window beside a key that has one listener, which notes the edges. The key may have the
switch of the window as its updater.
-/

namespace DigitRace

/-- A window and a key. -/
structure WindowBench where
  window : Window
  key : Key Unit Unit
  /-- The edges that the listener was told of. -/
  edges : List Bool := []

/-- What can be done to a window and its key. -/
inductive WindowAction where
  | start
  | stop
  | present
  | pattern (pattern : Value)
  | switch (pressed : Bool)
  /-- Asks whether a place is on the switch. -/
  | ask (x y : Value)
  | move (pressed : Bool)
  | poll (events : List Window.Event)

namespace WindowBench

/-- The window on the bench. -/
def windowOf : Part WindowBench Window where
  get := WindowBench.window
  put window bench := { bench with window }

/-- The key on the bench. -/
def keyOf : Part WindowBench (Key Unit Unit) where
  get := WindowBench.key
  put key bench := { bench with key }

/-- Moves the key. -/
def move (pressed : Bool) : Act WindowBench Unit :=
  Key.edge keyOf (fun _ down => windowOf.run (Window.showSwitch down))
    (fun _ down => modify fun bench => { bench with edges := bench.edges ++ [down] }) pressed

/-- Does an action. Some have an answer. -/
def perform : WindowAction → Act WindowBench (Option Bool)
  | .start => do
    windowOf.run Window.start
    return none
  | .stop => do
    windowOf.run Window.stop
    return none
  | .present => do
    let _ ← windowOf.run Window.present
    return none
  | .pattern pattern => do
    windowOf.run (Window.showPattern pattern)
    return none
  | .switch pressed => do
    windowOf.run (Window.showSwitch pressed)
    return none
  | .ask x y => do return some (← Window.onSwitch (← get).window.scale x y)
  | .move pressed => do
    move pressed
    return none
  | .poll events => do
    return some (← Window.poll windowOf (fun bench => bench.key.pressed) move events)

/-- The bench before its next step, with nothing noted yet. -/
def cleared (bench : WindowBench) : WindowBench :=
  { bench with edges := [], window := { bench.window with drawings := #[] } }

/-- What each of a list of actions comes to, and the bench after it. -/
def outcomes : WindowBench → List WindowAction → List (Except Fault (Option Bool) × WindowBench)
  | _, [] => []
  | bench, action :: rest =>
    let (outcome, after) := (perform action).result bench.cleared
    (outcome, after) :: outcomes after rest

/-- A new window with a key that is up; `updated` says whether the switch follows the key. -/
def new (scale : Value) (equipment : Window.Equipment) (updated : Bool) :
    Except Fault WindowBench := do
  return {
    window := ← Window.new scale equipment
    key := { listeners := [()], updater := if updated then some () else none } }

end WindowBench

end DigitRace
