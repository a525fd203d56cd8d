import DigitRace.Cabinet.Basic
import DigitRace.Segment.Glyph

/-!
# What the game does to its devices

The digit shows patterns, characters and single digits; the timer is armed; the car is
driven to the next segment or steered.
-/

namespace DigitRace.Cabinet

variable {ω : Type}

/-- Writes a record into the journal. -/
def note (record : Record) : Play ω Unit :=
  modify fun cabinet => { cabinet with journal := cabinet.journal.push record }

/-- Shows a pattern. -/
def showPattern (around : Surroundings ω) (pattern : String) : Play ω Unit :=
  Display.showing displayOf (fun _ => around.observe) pattern

/-- Shows the glyph of a character. -/
def showCharacter (around : Surroundings ω) (character : Value) : Play ω Unit := do
  showPattern around (← Glyph.ofValue character)

/-- The greatest number that one digit can show. -/
def greatestDigit : Nat := 9

/-- Shows a number from 0 to 9, and nothing for any other. -/
def showDigit (around : Surroundings ω) (value : Value) : Play ω Unit := do
  let q ← value.number
  showCharacter around
    (.text (if 0 ≤ q ∧ q ≤ (greatestDigit : Rat) then value.plain else ""))

/-- Darkens the digit. -/
def darken (around : Surroundings ω) : Play ω Unit :=
  showPattern around ""

/-- Arms the countdown. -/
def enable (around : Surroundings ω) (ticks : Value) : Play ω Unit := do
  let reading := around.clock (← get)
  tickingOf.run (Timer.enable true reading .countdownOver ticks)

/-- Changes the timer. -/
def updateTimer (change : Timer Rat Nat → Timer Rat Nat) : Play ω Unit :=
  modify fun cabinet => { cabinet with timer := change cabinet.timer }

/-- An address in a record, where only the whole part of a number is written. -/
def addressText (address : Value) : Except Fault String := do
  match address with
  | .text _ => throw (.unsuitable address)
  | other => return toString (← other.whole)

/-- Drives the car to the next segment and lights it. An instruction that lights nothing is written
down and holds the car where it is. -/
def tick (around : Surroundings ω) : Play ω Unit := do
  raceOf.run Race.arrive
  let race := (← get).race
  match race.bar? with
  | some bar =>
    showPattern around bar
    raceOf.update Race.pass
  | none =>
    let place ← addressText race.address
    note { level := .error, source := "game_vm",
           message := s!"Invalid VM instruction at {place}: {race.current.printed}" }

/-- Steers the car. Tells whether it took a junction; then the segment that the junction leads to is
lit already. -/
def steer (around : Surroundings ω) : Play ω Bool := do
  let taken ← raceOf.run Race.turn
  let race := (← get).race
  let place ← addressText race.address
  if taken then
    note { level := .debug, source := "game_vm",
           message := s!"steer to {place}, score {race.score}" }
    tick around
  else
    note { level := .debug, source := "game_vm",
           message := s!"crash at {place}, {race.cars} cars left" }
  return taken

/-- Begins a game of the race. -/
def resetRace (speed : Value) : Play ω Unit :=
  raceOf.run (Race.reset speed)

/-- Goes over to a stage. -/
def enter (stage : Stage) : Play ω Unit := do
  let last := match (← get).stage with
    | some stage => stage.name
    | none => "None"
  note { level := .debug, source := "game", message := s!"state {last} -> {stage.name}" }
  modify fun cabinet => { cabinet with stage := some stage }

/-- Draws a number between 0 and 1. -/
def draw : Play ω Float := do
  let cabinet ← get
  set { cabinet with draws := cabinet.draws + 1 }
  return cabinet.chances cabinet.draws

end DigitRace.Cabinet
