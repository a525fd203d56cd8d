import DigitRace.Script
import DigitRace.Timer

/-!
# A timer before scripted listeners

The timer stands in a loop of its own. Its clock shows what it is set to and does not
move by itself, so the readings of the countdown and the passing of time in the loop can
be told apart.
-/

namespace DigitRace.Script

/-- What can be done to a timer, its clock and its loop. -/
inductive TimerAction where
  | register (listener : String)
  | unregister (listener : String)
  | enable (ticks : Value)
  | disable
  | resetClock
  | setClock (reading : Float)
  /-- Lets a time pass in the loop. -/
  | advance (seconds : Rat)

/-- A timer in its loop, and the clock that it reads. -/
structure TimerBench where
  timer : Timer Float String
  agenda : Agenda Unit := {}
  clock : Float
  /-- Whether there is a loop to wait in. -/
  inLoop : Bool := true

/-- A call of a listener: who, of what, and when. -/
structure TimerCall where
  listener : String
  event : TimerEvent
  time : Rat

/-- A timer, and the events that its listeners were told of. -/
abbrev TimerRehearsal := Rehearsal TimerBench TimerAction TimerCall

namespace TimerRehearsal

/-- The timer in its loop. -/
def ticking : Part TimerRehearsal (Timer Float String × Agenda Unit) where
  get rehearsal := (rehearsal.device.timer, rehearsal.device.agenda)
  put pair rehearsal :=
    { rehearsal with device := { rehearsal.device with timer := pair.1, agenda := pair.2 } }

/-- Changes the timer. -/
def updateTimer (change : Timer Float String → Timer Float String) : Act TimerRehearsal Unit :=
  ticking.update fun (timer, agenda) => (change timer, agenda)

/-- Tells all listeners of an event and writes down the failures. -/
def notify (tell : String → TimerEvent → Act TimerRehearsal Unit) (event : TimerEvent) :
    Act TimerRehearsal Unit := do
  let listeners := (← get).device.timer.listeners
  Timer.tellAll (fun listener => tell listener event)
    (fun listener fault => modify fun rehearsal =>
      { rehearsal with journal := rehearsal.journal ++ [Timer.failure listener event fault] })
    listeners

/-- Lets countdowns run out that end at the latest at `horizon`, `limit` of them at most. -/
def runUntil (tell : String → TimerEvent → Act TimerRehearsal Unit) (horizon : Rat) :
    Nat → Act TimerRehearsal Unit
  | 0 => pure ()
  | limit + 1 => do
    match (← get).device.agenda.next? horizon with
    | none => pure ()
    | some (_, agenda) =>
      ticking.update fun (timer, _) => (timer.ranOut, agenda)
      notify tell .elapsed
      runUntil tell horizon limit

/-- How many countdowns can still run out one after the other: one that is pending, and one for
everything that the scripts still hold. -/
def limit (rehearsal : TimerRehearsal) : Nat :=
  (rehearsal.scripts.flatMap Script.entries).flatten.length + 1

/-- Does an action; `tell` calls a listener. -/
def perform (tell : String → TimerEvent → Act TimerRehearsal Unit) :
    TimerAction → Act TimerRehearsal Unit
  | .register listener => updateTimer (Timer.register listener)
  | .unregister listener => updateTimer (Timer.unregister listener)
  | .enable ticks => do
    let bench := (← get).device
    ticking.run (Timer.enable bench.inLoop bench.clock () ticks)
  | .disable => do
    ticking.run Timer.clear
    notify tell .disabled
  | .resetClock => do
    let reading := (← get).device.clock
    updateTimer fun timer => timer.resetClock reading
  | .setClock reading => Rehearsal.deviceOf.update fun bench => { bench with clock := reading }
  | .advance seconds => do
    let rehearsal ← get
    let horizon := rehearsal.device.agenda.now + seconds
    runUntil tell horizon rehearsal.limit
    ticking.update fun (timer, agenda) => (timer, { agenda with now := horizon })

/-- How a call is noted. -/
def noted (listener : String) (event : TimerEvent) (rehearsal : TimerRehearsal) : TimerCall :=
  { listener, event, time := rehearsal.device.agenda.now }

/-- One step, after which everything that is due happens, whether the step failed or not. -/
def step (deeds : List (Deed TimerAction)) : Act TimerRehearsal Unit := fun rehearsal =>
  let settle (rehearsal : TimerRehearsal) : TimerRehearsal :=
    let tell := Rehearsal.answer noted perform rehearsal.entriesLeft
    ((runUntil tell rehearsal.device.agenda.now rehearsal.limit).result rehearsal).2
  match Rehearsal.step noted perform deeds rehearsal with
  | .ok () after => .ok () (settle after)
  | .error fault after => .error fault (settle after)

end TimerRehearsal

/-- What a timer shows. -/
structure TimerReadings where
  armed : Bool
  elapsed : Bool
  remainingTicks : Int
  elapsedTicks : Int
  ticks : Int
  seconds : Int

/-- What the timer of a bench shows by the clock. -/
def TimerBench.readings (bench : TimerBench) : Except Fault TimerReadings := do
  return {
    armed := bench.timer.armed
    elapsed := bench.timer.elapsed
    remainingTicks := ← bench.timer.remainingTicks bench.clock
    elapsedTicks := ← bench.timer.elapsedTicks bench.clock
    ticks := ← bench.timer.ticks bench.clock
    seconds := ← bench.timer.seconds bench.clock }

/-- Plays steps on a timer of a rate that was made when the clock showed `reading`. -/
def playTimer (rate : Int) (reading : Float) (inLoop : Bool) (scripts : List (Script TimerAction))
    (steps : List (List (Deed TimerAction))) : List (Except Fault Unit × TimerRehearsal) :=
  Rehearsal.outcomes TimerRehearsal.step
    { device := { timer := Timer.new rate reading, clock := reading, inLoop }, scripts } steps

end DigitRace.Script
