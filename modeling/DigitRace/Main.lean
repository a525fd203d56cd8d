import DigitRace.Terminal

/-!
# The command line

Plays one session with the settings of the environment. The standard input holds what the
user does, a line for each frame; the standard output shows the session.
-/

namespace DigitRace

/-- How many numbers the demo draws before they come round again. -/
def drawnChances : Nat := 1000

/-- Numbers between 0 and 1, drawn at random. -/
def drawChances : IO Chances := do
  let draws ← (List.range drawnChances).mapM fun _ => IO.rand 0 999999
  return Chances.cyclic (draws.map fun n => n.toFloat / 1000000).toArray

end DigitRace

open DigitRace

/-- Plays the session. The exit code tells whether it ended well. -/
def main : IO UInt32 := do
  let level ← IO.getEnv "SEG_RACER_LOG_LEVEL"
  let test ← IO.getEnv "SEG_RACER_SELFTEST"
  let lines ← (← IO.getStdin).lines
  let chances ← drawChances
  match Session.new {} (Terminal.events lines) chances with
  | .error fault =>
    IO.eprintln fault.summary
    return 1
  | .ok session =>
    let (after, rank) := Launch.settings.run (level.map .text) (test.map .text) session
    (Terminal.report after rank).forM fun line => IO.println line
    match after.outcome with
    | .ok () => return 0
    | .error fault =>
      IO.eprintln fault.summary
      return 1
