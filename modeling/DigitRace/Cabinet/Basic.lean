import DigitRace.Chances
import DigitRace.Display
import DigitRace.Key
import DigitRace.Race
import DigitRace.Timer

/-!
# The cabinet

The cabinet is the whole game: the digit, the key, the timer, the race, and the tasks
that wait for what happens next. A task waits by means of a watch, which listens to the
timer, to the key or to both, and ends with an answer. Nothing here is a function that
has been stored: what a task will do is a routine or a stack of frames, and what a watch
does is its kind, so every state of the cabinet can be looked at.
-/

namespace DigitRace

/-- The stages of the game. -/
inductive Stage where
  | demo
  | demoWaitRelease
  | countdown
  | playing
  | carLost
  | gameOverWaitRelease
  | scoreDisplay
  | scoreWaitRelease
  deriving DecidableEq

/-- The stage as a word. -/
def Stage.name : Stage → String
  | demo => "DEMO"
  | demoWaitRelease => "DEMO_WAIT_RELEASE"
  | countdown => "COUNTDOWN"
  | playing => "PLAYING"
  | carLost => "CAR_LOST"
  | gameOverWaitRelease => "GAME_OVER_WAIT_RELEASE"
  | scoreDisplay => "SCORE_DISPLAY"
  | scoreWaitRelease => "SCORE_WAIT_RELEASE"

/-- What a wait or a routine comes to. -/
inductive Answer where
  | nothing
  | flag (b : Bool)
  | event (e : TimerEvent)
  deriving DecidableEq

/-- What a watch looks out for, and what it does meanwhile. -/
inductive Watch.Kind where
  /-- Ends at the next timer event. -/
  | event
  /-- Ends when the key goes up. -/
  | release
  /-- Ends at the next edge of the key. -/
  | edge
  /-- Ends when the key goes down, or at the next timer event. -/
  | pressOrEvent
  /-- Counts digits down to 1, then flashes the digit 0; `flashes` are left. -/
  | countdown (count : Value) (flashes : Nat)
  /-- Flashes a digit; `shown` half periods are over. -/
  | flashing (value : Value) (shown : Nat)
  /-- Drives the car by itself. Before the next segment comes the moment to steer; `loops`
  junctions are left to take. -/
  | demo (steering : Bool) (loops : Nat)
  /-- Drives the car as the player steers it. -/
  | play

/-- How a watch ended. -/
inductive Watch.Ending where
  | answered (answer : Answer)
  /-- The task that waited was cancelled. -/
  | dropped

/-- A wait for something to happen. -/
structure Watch where
  kind : Watch.Kind
  ending : Option Watch.Ending := none
  /-- The task that goes on once the watch has ended. -/
  waiter : Option Nat := none

/-- The self tests. -/
inductive SelfTest where
  | segments
  | racing
  | characters
  | ticks
  | seconds
  | elapsed
  | keys
  deriving DecidableEq

/-- What a task can be asked to do. -/
inductive Routine where
  /-- Waits for the next timer event after the timer is armed. -/
  | forTicks (ticks : Value)
  /-- Waits until the key is up. -/
  | keyReleased
  /-- Waits for a press or the end of the countdown, and tells whether the key is down. -/
  | pressOrEvent
  | countdown (count : Value)
  | flashingDigit (value : Value)
  | character (character : Value)
  | text (text : Value)
  | demo
  | play
  | game
  | score
  /-- The demo, and then so many games, without end if nothing is given. -/
  | run (games : Value)
  /-- A self test for so many rounds, without end if nothing is given. -/
  | selfTest (test : SelfTest) (rounds : Value)
  /-- A round of the self test of seconds. -/
  | secondsRound (last digit : Int) (round : Nat) (rounds : Value)

/-- A cycle of patterns that a self test shows, each for a number of ticks. -/
structure Cycle where
  patterns : List String
  period : Nat

/-- What a routine does once the wait or the routine that it has called is over. -/
inductive Frame where
  /-- A character was shown: blank the digit for a tick. -/
  | characterShown
  /-- A character of a text is over: show the rest. -/
  | textRest (rest : List Value)
  /-- The key is up: flash the digit. -/
  | readyToFlash (value : Value)
  /-- The text of the demo is over: drive. -/
  | demoTextShown
  /-- The countdown of a game is over: play. -/
  | countedDown
  /-- A car is gone: flash the number of cars left. -/
  | roundPlayed
  /-- The number of cars was flashed: play on if there is one. -/
  | carsFlashed
  /-- The text of the score is over: show it again if it was not interrupted. -/
  | scoreShown (text : Value)
  /-- The demo is over: play if a press ended it. -/
  | demoEnded (games : Value)
  /-- The key is up: play the next game if there is one. -/
  | nextGame (games : Value) (played : Nat)
  /-- A game is over. -/
  | gameEnded (games : Value) (played : Nat)
  /-- The key is up after a game: show the score. -/
  | releasedAfterGame (games : Value) (played : Nat)
  /-- The score was shown until a press. -/
  | scoreSeen (games : Value) (played : Nat)
  /-- A pattern of a cycle was shown. -/
  | cycled (cycle : Cycle) (rest : List String) (round : Nat) (rounds : Value)
  /-- The tick counter was shown. -/
  | ticksShown (round : Nat) (rounds : Value)
  /-- A tick has passed; the second may be another. -/
  | secondPolled (last digit : Int) (round : Nat) (rounds : Value)
  /-- A countdown of the self test is over. -/
  | elapsedSeen (digit : Int) (round : Nat) (rounds : Value)
  /-- An edge of the key was seen. -/
  | edgeSeen (round : Nat) (rounds : Value)

/-- How a task ended. -/
inductive Task.Ending where
  | returned (answer : Answer)
  | failed (fault : Fault)
  | cancelled

/-- What a task is about to do, or waits for, or came to. -/
inductive Task.State where
  /-- The task begins a routine. -/
  | calling (routine : Routine)
  /-- The task hands an answer to the frame on top of its stack. -/
  | answering (answer : Answer)
  /-- The task waits for a watch. -/
  | waiting (watch : Nat)
  | ended (ending : Task.Ending)

/-- A task: where it is, and the frames that it goes back to, the next one first. -/
structure Task where
  state : Task.State
  stack : List Frame := []
  /-- The task will be cancelled when it is called next. -/
  cancelRequested : Bool := false

/-- Whether a task has come to its end. -/
def Task.isOver (task : Task) : Bool :=
  match task.state with
  | .ended _ => true
  | _ => false

/-- What the agenda can call. -/
inductive Call where
  /-- A task begins, or goes on after a wait. -/
  | task (number : Nat)
  /-- The countdown has run out. -/
  | countdownOver
  /-- Someone moves the key. -/
  | move (pressed : Bool)
  /-- Someone disables the timer. -/
  | disable
  /-- The pause between two frames of the window is over. -/
  | pauseOver
  /-- The window goes on. -/
  | window
  deriving DecidableEq

/-- The state of the game; `outside` is what its surroundings keep. -/
structure Cabinet (ω : Type) where
  agenda : Agenda Call := {}
  display : Display String Unit := { pattern := "" }
  key : Key Nat Unit := {}
  timer : Timer Rat Nat
  race : Race
  stage : Option Stage := none
  chances : Chances
  /-- How many numbers the demo has drawn. -/
  draws : Nat := 0
  watches : Array Watch := #[]
  tasks : Array Task := #[]
  /-- The task that is being carried on. -/
  active : Option Nat := none
  journal : Array Record := #[]
  outside : ω

/-- Something that happens in the cabinet. -/
abbrev Play (ω : Type) := Act (Cabinet ω)

/-- What is around the cabinet: who sees the digit and the key, and which clock there is. -/
structure Surroundings (ω : Type) where
  /-- Called with every pattern that is shown while the display has an observer. -/
  observe : String → Play ω Unit
  /-- Called with every edge while the key has an updater. -/
  showEdge : Bool → Play ω Unit
  /-- What the timer's clock shows, in seconds. -/
  clock : Cabinet ω → Rat

namespace Cabinet

variable {ω : Type}

/-- The display of the cabinet. -/
def displayOf : Part (Cabinet ω) (Display String Unit) where
  get := Cabinet.display
  put display cabinet := { cabinet with display }

/-- The key of the cabinet. -/
def keyOf : Part (Cabinet ω) (Key Nat Unit) where
  get := Cabinet.key
  put key cabinet := { cabinet with key }

/-- The race of the cabinet. -/
def raceOf : Part (Cabinet ω) Race where
  get := Cabinet.race
  put race cabinet := { cabinet with race }

/-- The timer of the cabinet in its loop. -/
def tickingOf : Part (Cabinet ω) (Timer Rat Nat × Agenda Call) where
  get cabinet := (cabinet.timer, cabinet.agenda)
  put pair cabinet := { cabinet with timer := pair.1, agenda := pair.2 }

/-- Whether all tasks have come to their end. -/
def allOver (cabinet : Cabinet ω) : Bool :=
  cabinet.tasks.all Task.isOver

end Cabinet

end DigitRace
