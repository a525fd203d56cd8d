import DigitRace.Front
import DigitRace.Proofs.Window.Redraw

/-!
# How a session opens

The front starts the window and wires it to the display and the key. Only then does it choose a
task, and with the task in its seat the window has its first turn.
-/

namespace DigitRace

open Act

namespace Window

/-- The calls that make a window. -/
def startCalls (window : Window) : List Drawing :=
  let silence : List Drawing :=
    if window.equipment.platform = .browser ∧ window.equipment.mixer then [.quitMixer] else []
  .init :: (silence ++ [.caption "Seg Racer",
    .setMode (windowWidth * window.scale) (windowHeight * window.scale)])

/-- The window once it is made, with nothing drawn on it yet. -/
def started (window : Window) : Window :=
  { window with
    attached := true
    hasScreen := true
    isOpen := true
    drawings := window.drawings ++ window.startCalls.toArray }

variable {window : Window}

theorem start_apply (hclosed : window.isOpen = false) (hlibrary : window.equipment.library = true) :
    start window = redraw window.started := by
  unfold started startCalls
  by_cases hbrowser : window.equipment.platform = .browser ∧ window.equipment.mixer = true
  · simp [start, hclosed, hlibrary, if_pos hbrowser, emit]
    rfl
  · simp [start, hclosed, hlibrary, if_neg hbrowser, emit]
    rfl

/-- Starting a window succeeds just if there is a library to draw with and the first redraw does not
fail. -/
theorem start_eq_ok_iff (hclosed : window.isOpen = false) {after : Window} :
    start window = .ok ⟨⟩ after ↔
      window.equipment.library = true ∧ redraw window.started = .ok ⟨⟩ after := by
  cases hlibrary : window.equipment.library with
  | false => simp [start, hclosed, hlibrary]
  | true => simp [start_apply hclosed hlibrary]

end Window

namespace Session

open Cabinet

/-- Starts the window and wires it to the display and the key. -/
def wire : Play Front Unit := do
  windowOf.run Window.start
  displayOf.update fun display => { display with observer := some () }
  keyOf.update fun key => { key with updater := some () }

/-- Makes the task that is asked for. -/
def seat (test : Value) : Play Front Unit := do
  match ← chosenTest test with
  | some chosen =>
    note { level := .info, source, message := s!"running self test {test.printed}" }
    modify (spawn (.selfTest chosen .nothing))
  | none =>
    if test.truthy then
      note { level := .error, source
             message := s!"unknown self test {test.printed}, starting the game" }
    modify (spawn (.run .nothing))

/-- Writes down that the session starts. -/
def announce : Play Front Unit := do
  let platform := (← get).outside.window.equipment.platform
  note { level := .info, source, message := s!"Seg Racer starting on {platform.name}" }

/-- All that is done before the first turn. -/
def prepare (test : Value) : Play Front Unit := do
  announce
  wire
  seat test

/-- The front wires the window up, then makes the task, and then takes its first turn. -/
theorem openFront_eq (test : Value) : openFront test = (do prepare test; turn) := by
  simp only [openFront, prepare, announce, wire, seat, bind_assoc]
  refine bind_congr fun _ => bind_congr fun _ => bind_congr fun _ => bind_congr fun _ =>
    bind_congr fun _ => bind_congr fun chosen => ?_
  cases chosen with
  | some chosen => simp only [bind_assoc]
  | none =>
    by_cases htruthy : test.truthy = true
    · simp only [if_pos htruthy, bind_assoc]
    · simp only [if_neg htruthy]

/-- The session with a window that is wired to the display and the key. -/
def wired (window : Window) (session : Session) : Session :=
  { session with
    display := { session.display with observer := some () }
    key := { session.key with updater := some () }
    outside := { session.outside with window } }

/-- Wiring succeeds just if the window starts. -/
theorem wire_eq_ok_iff {session opened : Session} :
    wire session = .ok ⟨⟩ opened ↔ ∃ window,
      Window.start session.outside.window = .ok ⟨⟩ window ∧ opened = wired window session := by
  cases hstart : Window.start session.outside.window with
  | error fault window => simp [wire, windowOf, hstart]
  | ok _ window => simpa [wire, windowOf, hstart, displayOf, keyOf, wired] using eq_comm

variable {equipment : Window.Equipment} {events : Nat → List Window.Event} {chances : Chances}
  {session : Session}

/-- In a new session nothing has happened. -/
theorem new_eq (hnew : Session.new equipment events chances = .ok session) :
    ∃ race, session = {
      race, timer := Timer.new ticksPerSecond 0, chances
      outside := { window := { scale := 1, equipment }, events } } := by
  cases hrace : Race.start Circuit.track with
  | error fault => simp [Session.new, hrace, bind, Except.bind] at hnew
  | ok race =>
    simp [Session.new, hrace, bind, Except.bind, Window.new, Value.whole, pure, Except.pure] at hnew
    exact ⟨race, hnew.symm⟩

/-- With a library to draw with, the window of a new session starts unless the first redraw fails.
-/
theorem start_new (hnew : Session.new equipment events chances = .ok session)
    (hlibrary : equipment.library = true) (hworks : equipment.failingRedraw ≠ some 1) :
    Window.start session.outside.window =
      .ok ⟨⟩ (({ equipment } : Window).started.redrawn "") := by
  obtain ⟨race, rfl⟩ := new_eq hnew
  exact (Window.start_eq_ok_iff rfl).mpr
    ⟨hlibrary, Window.redraw_apply rfl (rfl : _ = Value.text "") hworks⟩

end Session

end DigitRace
