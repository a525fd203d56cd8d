import DigitRace.Cabinet.Basic

/-!
# Names of routines

Tests and diagnostics ask for a routine by name and give it arguments.
-/

namespace DigitRace

/-- The self test of a name. -/
def SelfTest.ofName? : String → Option SelfTest
  | "segments" => some .segments
  | "racing" => some .racing
  | "characters" => some .characters
  | "ticks" => some .ticks
  | "seconds" => some .seconds
  | "elapsed" => some .elapsed
  | "keys" => some .keys
  | _ => none

namespace Routine

/-- The one argument of a routine that takes exactly one. -/
def oneArgument (make : Value → Routine) : List Value → Except Fault Routine
  | [value] => .ok (make value)
  | _ => .error .wrongArguments

/-- A routine that takes no argument. -/
def noArgument (routine : Routine) : List Value → Except Fault Routine
  | [] => .ok routine
  | _ => .error .wrongArguments

/-- The argument of a routine that takes one or none. -/
def limitArgument (make : Value → Routine) : List Value → Except Fault Routine
  | [] => .ok (make .nothing)
  | [value] => .ok (make value)
  | _ => .error .wrongArguments

/-- A screen or a wait by its name. -/
def ofScreen (name : String) (arguments : List Value) : Except Fault Routine :=
  match name with
  | "for_ticks" => oneArgument .forTicks arguments
  | "key_released" => noArgument .keyReleased arguments
  | "key_pressed_or_timer_elapsed" => noArgument .pressOrEvent arguments
  | "display_countdown" => oneArgument .countdown arguments
  | "display_flashing_digit" => oneArgument .flashingDigit arguments
  | "display_char" => oneArgument .character arguments
  | "display_string" => oneArgument .text arguments
  | _ => .error (.lacksPart name)

/-- A part of the game by its name. -/
def ofGame (name : String) (arguments : List Value) : Except Fault Routine :=
  match name with
  | "demo_loop" => noArgument .demo arguments
  | "play_game" => noArgument .play arguments
  | "game_loop" => noArgument .game arguments
  | "score_loop" => noArgument .score arguments
  | "run" => limitArgument .run arguments
  | _ => .error (.lacksPart name)

/-- A self test by its name. -/
def ofTest (name : String) (arguments : List Value) : Except Fault Routine :=
  match SelfTest.ofName? name with
  | some test => limitArgument (.selfTest test) arguments
  | none => .error (.unknownName name)

/-- A routine by its group and its name within the group, with a point between them. -/
def ofPath (path : String) (arguments : List Value) : Except Fault Routine :=
  let (group, name) := (path.toList.takeWhile (· != '.'), (path.toList.dropWhile (· != '.')).drop 1)
  match String.ofList group with
  | "ui" => ofScreen (String.ofList name) arguments
  | "game" => ofGame (String.ofList name) arguments
  | "selftest" => ofTest (String.ofList name) arguments
  | _ => .error (.unknownName path)

end Routine

end DigitRace
