import DigitRace.Cabinet.Names
import DigitRace.Cabinet.Run
import DigitRace.Shadow
import DigitRace.Window.Basic

/-!
# The front

The front opens the window, starts the game or a self test beside it, and keeps the
window going: sixty times a second it responds to the user and presents what was drawn.
When the user closes the window, when responding fails or when the task is over, it
cancels the task, waits for its end and takes the window down.
-/

namespace DigitRace

/-- What the front is about. -/
inductive Front.Phase where
  /-- The window is kept going. -/
  | open
  /-- The task was cancelled and its end is awaited; `fault` is what responding failed with. -/
  | closing (fault : Option Fault)
  /-- The end of the task is known, and the front was called to go on. -/
  | called (fault : Option Fault)
  | closed (outcome : Except Fault Unit)

/-- The window with what the user will do, and what was presented. -/
structure Front where
  window : Window
  shadow : Shadow := none
  /-- What the user does before each response, by its number. -/
  events : Nat → List Window.Event
  /-- How often the front responded to the user. -/
  polls : Nat := 0
  /-- What was presented, and after how many responses. -/
  flips : Array (Nat × Option Window.Frame) := #[]
  phase : Front.Phase := .open

/-- The game with its front. -/
abbrev Session := Cabinet Front

namespace Session

open Cabinet

/-- The name under which the front writes into the journal. -/
def source : String := "seg_racer_app"

/-- The pause between two frames in seconds. -/
def framePause : Rat := 1 / 60

/-- The window of the session. -/
def windowOf : Part Session Window where
  get session := session.outside.window
  put window session := { session with outside := { session.outside with window } }

/-- The shadow of the session. -/
def shadowOf : Part Session Shadow where
  get session := session.outside.shadow
  put shadow session := { session with outside := { session.outside with shadow } }

/-- Patterns go to the window by way of the shadow, edges go to its switch, and the clock shows the
time of the loop. -/
def around : Surroundings Front where
  observe pattern := do
    let _ ← Shadow.offer shadowOf (fun p => windowOf.run (Window.showPattern (.text p)))
      (Segment.canonical pattern)
  showEdge pressed := windowOf.run (Window.showSwitch pressed)
  clock session := session.agenda.now

/-- Changes the front. -/
def updateFront (change : Front → Front) : Play Front Unit :=
  modify fun session => { session with outside := change session.outside }

/-- What the task of the session has come to, if it is over. -/
def taskEnding? (session : Session) : Option Task.Ending :=
  match (session.tasks[0]?).map Task.state with
  | some (.ended ending) => some ending
  | _ => none

/-- Takes everything down after the end of the task. -/
def takeDown (ending : Task.Ending) (fault : Option Fault) : Play Front Unit := do
  match ending with
  | .failed failure =>
    note { level := .error, source, message := "game task failed", fault := some failure }
  | .returned _ | .cancelled => pure ()
  keyOf.update fun key => { key with updater := none }
  displayOf.update fun display => { display with observer := none }
  windowOf.run Window.stop
  updateFront fun front => { front with phase := .closed (fault.elim (.ok ()) .error) }

/-- Cancels the task and takes everything down, as soon as the task is over. -/
def close (fault : Option Fault) : Play Front Unit := do
  modify (cancel 0)
  match taskEnding? (← get) with
  | some ending => takeDown ending fault
  | none => updateFront fun front => { front with phase := .closing fault }

/-- Responds to what the user did meanwhile. -/
def respond : Play Front Bool := do
  let front := (← get).outside
  updateFront fun front => { front with polls := front.polls + 1 }
  Window.poll windowOf (fun session => session.key.pressed) (move around)
    (front.events front.polls)

/-- Notes what was presented. -/
def noteFlip : Play Front Unit :=
  updateFront fun front =>
    { front with flips := front.flips.push (front.polls, front.window.drawn) }

/-- One turn of the window: respond to the user, present what was drawn, pause. The front closes if
the task is over, if the user closes the window, or if responding fails. -/
def turn : Play Front Unit := do
  match taskEnding? (← get) with
  | some ending => takeDown ending none
  | none =>
    let responded ← tryCatch (do return Except.ok (← respond)) fun fault => return .error fault
    match responded with
    | .error fault => close (some fault)
    | .ok false => close none
    | .ok true =>
      if ← windowOf.run Window.present then noteFlip
      modify fun session =>
        { session with agenda := (session.agenda.callLater framePause .pauseOver) }

/-- The front is called to go on. -/
def goOn : Play Front Unit := do
  let session ← get
  match session.outside.phase, taskEnding? session with
  | .open, _ => turn
  | .called fault, some ending => takeDown ending fault
  | _, _ => pure ()

/-- The self test that is asked for, if there is one of that name. A list is no name at all. -/
def chosenTest (test : Value) : Except Fault (Option SelfTest) :=
  match test with
  | .text name => .ok (SelfTest.ofName? name)
  | .list _ => .error (.unsuitable test)
  | _ => .ok none

/-- Opens the window and starts the self test that is asked for, or the game. -/
def openFront (test : Value) : Play Front Unit := do
  let platform := (← get).outside.window.equipment.platform
  note { level := .info, source, message := s!"Seg Racer starting on {platform.name}" }
  windowOf.run Window.start
  displayOf.update fun display => { display with observer := some () }
  keyOf.update fun key => { key with updater := some () }
  match ← chosenTest test with
  | some chosen =>
    note { level := .info, source, message := s!"running self test {test.printed}" }
    modify (spawn (.selfTest chosen .nothing))
  | none =>
    if test.truthy then
      note { level := .error, source
             message := s!"unknown self test {test.printed}, starting the game" }
    modify (spawn (.run .nothing))
  turn

/-- Calls the front once the end that it awaits has come. -/
def callFront (session : Session) : Session :=
  match session.outside.phase, taskEnding? session with
  | .closing fault, some _ =>
    { session with
      agenda := session.agenda.callSoon .window
      outside := { session.outside with phase := .called fault } }
  | _, _ => session

/-- Makes a call, of the front or of the cabinet. -/
def perform (call : Call) (session : Session) : Session :=
  match call with
  | .pauseOver => { session with agenda := session.agenda.callSoon .window }
  | .window => (goOn.result session).2
  | other => Cabinet.perform around other session

/-- The time of the next deadline, or now if there is none. -/
def soonest (session : Session) : Rat :=
  match session.agenda.deadlines with
  | deadline :: _ => deadline.due
  | [] => session.agenda.now

/-- One step, unless the front is closed. -/
def step? (session : Session) : Option Session :=
  match session.outside.phase with
  | .closed _ => none
  | _ => match session.active with
    | some number => some (callFront (carryOn around number session))
    | none => match session.agenda.next? (soonest session) with
      | some (call, agenda) => some (callFront (perform call { session with agenda }))
      | none => none

/-- Takes steps until the front is closed, at most `limit`. -/
def run : Nat → Session → Session
  | 0, session => session
  | limit + 1, session =>
    match step? session with
    | some after => run limit after
    | none => session

/-- A session that was ended by a fault. -/
def failed (fault : Fault) (session : Session) : Session :=
  { session with outside := { session.outside with phase := .closed (.error fault) } }

/-- Opens the front and keeps it going until it is closed. -/
def play (test : Value) (session : Session) : Session :=
  match (openFront test).result session with
  | (.ok (), after) => run patience after
  | (.error fault, after) => failed fault after

/-- How a session ended. -/
def outcome (session : Session) : Except Fault Unit :=
  match session.outside.phase with
  | .closed outcome => outcome
  | _ => .ok ()

/-- A session on the track that has not begun. -/
def new (equipment : Window.Equipment) (events : Nat → List Window.Event)
    (chances : Chances) : Except Fault Session := do
  return {
    race := ← Race.start Circuit.track
    timer := Timer.new ticksPerSecond 0
    chances
    outside := { window := ← Window.new (.int 1) equipment, events } }

end Session

/-- How the game is launched. -/
inductive Launch where
  /-- With the self test that is given. -/
  | withTest (test : Value)
  /-- With the self test of the settings, on a desktop only. -/
  | desktop
  /-- With all settings, on a desktop only. -/
  | settings
  /-- With all settings, on any platform. -/
  | anywhere

namespace Launch

/-- The rank below which nothing is dropped unless the settings say otherwise. -/
def allRanks : Int := Level.debug.rank

/-- Plays a session with the self test that the settings ask for. -/
def playSettings (testSetting : Option Value) (session : Session) : Session :=
  match Settings.testName testSetting with
  | .ok name => session.play (name.elim .nothing .text)
  | .error fault => session.failed fault

/-- Plays a session as `playSettings` does, on a desktop only. -/
def playDesktop (testSetting : Option Value) (session : Session) : Session :=
  match session.outside.window.equipment.platform.requireDesktop with
  | .ok () => playSettings testSetting session
  | .error fault => session.failed fault

/-- Plays a session. Gives the session at its end and the rank below which records are dropped. -/
def run (launch : Launch) (levelSetting testSetting : Option Value) (session : Session) :
    Session × Int :=
  match launch with
  | .withTest test => (session.play test, allRanks)
  | .desktop => (playDesktop testSetting session, allRanks)
  | .settings => match Settings.levelRank levelSetting with
    | .ok rank => (playDesktop testSetting session, rank)
    | .error fault => (session.failed fault, allRanks)
  | .anywhere => match Settings.levelRank levelSetting with
    | .ok rank => (playSettings testSetting session, rank)
    | .error fault => (session.failed fault, allRanks)

end Launch

end DigitRace
