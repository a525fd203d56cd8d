import DigitRace.Front

/-!
# The terminal

A session in writing. Each line of the user's says what the user does before one frame,
and after the last line the user closes the window. The answer shows the frames that were
presented and then the journal.
-/

namespace DigitRace.Terminal

/-- What the user does, by its word. All other words mean nothing. -/
def event : String → Window.Event
  | "down" => .keyDown Window.spaceCode
  | "up" => .keyUp Window.spaceCode
  | "escape" => .keyDown Window.escapeCode
  | "expose" => .expose
  | "quit" => .quit
  | _ => .other

/-- What the user does before each frame, by the words of the lines. -/
def events (lines : Array String) (frame : Nat) : List Window.Event :=
  match lines[frame]? with
  | some line => ((Text.trimBlanks line).splitOn " ").map event
  | none => [.quit]

/-- The strokes of a segment if it is lit, and as many spaces if not. -/
def stroke (lit : List Bool) (place : Nat) (strokes : String) : String :=
  if lit.getD place false then strokes else String.ofList (strokes.toList.map fun _ => ' ')

/-- A frame in five lines: the digit, and the switch beside its foot. -/
def picture (frame : Window.Frame) : List String :=
  let bar := stroke frame.lit
  [" " ++ bar 0 "---",
   bar 5 "|" ++ "   " ++ bar 1 "|",
   " " ++ bar 6 "---",
   bar 4 "|" ++ "   " ++ bar 2 "|",
   " " ++ bar 3 "---" ++ " " ++ bar 7 "." ++ (if frame.pressed then " [_]" else " [-]")]

/-- A record of the journal in one line, and the fault that it tells of in another. -/
def recordLines (record : Record) : List String :=
  s!"{record.level.name} {record.source}: {record.message}"
    :: (record.fault.map Fault.summary).toList

/-- All that a session has shown and written down, but for records below the rank. -/
def report (session : Session) (rank : Int) : List String :=
  session.outside.flips.toList.flatMap (fun (_, frame) => (frame.map picture).getD [])
    ++ (session.journal.toList.filter fun record => rank ≤ record.level.rank).flatMap recordLines

end DigitRace.Terminal
