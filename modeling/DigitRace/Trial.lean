import DigitRace.Cabinet.Reaction

/-!
# A race by hand

A trial drives a race without timer and key: the car is sent on, steered and set down by
hand, and every pattern that the digit shows is kept.
-/

namespace DigitRace

/-- What can be done in a trial. -/
inductive TrialAction where
  | reset (speed : Value)
  | tick
  | steer
  /-- Sets the address from which the next instruction is fetched. -/
  | setAddress (address : Value)
  /-- Puts another circuit under the car, checked or not, if one could be read. -/
  | setCircuit (circuit : Except Fault Circuit)
  /-- Steers at junctions and drives on elsewhere, until so many junctions were steered at. -/
  | auto (steers : Nat)
  | again (times : Nat) (actions : List TrialAction)

/-- A race on trial, with the patterns shown. -/
abbrev Trial := Cabinet (Array String)

namespace Trial

open Cabinet

/-- Patterns are kept, and nothing else happens. -/
def around : Surroundings (Array String) where
  observe pattern := modify fun trial => { trial with outside := trial.outside.push pattern }
  showEdge _ := pure ()
  clock trial := trial.agenda.now

/-- A trial on a circuit that passes the check. -/
def start (circuit : Circuit) : Except Fault Trial := do
  let race ← Race.start circuit
  return {
    race
    display := { pattern := "", observer := some () }
    timer := Timer.new ticksPerSecond 0
    chances := Chances.cyclic #[]
    outside := #[] }

/-- Steers at junctions and drives on elsewhere, at most `limit` times, until `steers` junctions
were steered at. -/
def drive : Nat → Nat → Act Trial Unit
  | 0, _ | _, 0 => pure ()
  | limit + 1, steers + 1 => do
    if (← get).race.atJunction then
      let _ ← steer around
      drive limit steers
    else
      tick around
      drive limit (steers + 1)

/-- More segments than any trial drives at one go. -/
def patience : Nat := 100000000

/-- Does the same so many times over, and gives all that it came to. -/
def repeated (act : Act Trial (List (Option Bool))) : Nat → Act Trial (List (Option Bool))
  | 0 => return []
  | times + 1 => do
    let first ← act
    return first ++ (← repeated act times)

mutual

/-- Does an action. Gives what each steering came to, and `none` for anything else. -/
def perform : TrialAction → Act Trial (List (Option Bool))
  | .reset speed => do
    resetRace speed
    return [none]
  | .tick => do
    tick around
    return [none]
  | .steer => do return [some (← steer around)]
  | .setAddress address => do
    raceOf.update fun race => { race with address }
    return [none]
  | .setCircuit circuit => do
    let circuit ← Act.ofExcept circuit
    raceOf.update fun race => { race with circuit }
    return [none]
  | .auto steers => do
    drive patience steers
    return [none]
  | .again times actions => repeated (performAll actions) times

/-- Does actions in turn. -/
def performAll : List TrialAction → Act Trial (List (Option Bool))
  | [] => return []
  | action :: rest => do
    let first ← perform action
    return first ++ (← performAll rest)

end

end Trial

end DigitRace
