import DigitRace.Cabinet.Devices

/-!
# How watches react

Timer events and edges of the key reach every watch that is registered. A watch that
has seen what it waited for takes itself off the timer and the key before it ends, and
with its end the task that waits for it becomes ready. A watch ends once; later answers
are ignored.
-/

namespace DigitRace.Cabinet

variable {ω : Type}

/-- Ticks of one digit of the countdown. -/
def digitTicks : Nat := ticksPerSecond

/-- Ticks of half a period of a digit that flashes. -/
def flashTicks : Nat := 5

/-- Half periods for which a digit flashes. -/
def flashCycles : Nat := 20

/-- How many ticks before the next segment the demo steers. -/
def steerTicks : Nat := 5

/-- The demo takes a junction if the number drawn is below this. -/
def steerChance : Float := 0.3

/-- Registers a watch of a kind nowhere yet, and gives its number. -/
def openWatch (kind : Watch.Kind) : Play ω Nat := do
  let cabinet ← get
  set { cabinet with watches := cabinet.watches.push { kind } }
  return cabinet.watches.size

/-- Puts a watch on the key. -/
def watchKey (watch : Nat) : Play ω Unit :=
  keyOf.update (Key.register watch)

/-- Puts a watch on the timer. -/
def watchTimer (watch : Nat) : Play ω Unit :=
  updateTimer (Timer.register watch)

/-- Takes a watch off the key. -/
def leaveKey (watch : Nat) : Play ω Unit :=
  keyOf.update (Key.unregister watch)

/-- Takes a watch off the timer. -/
def leaveTimer (watch : Nat) : Play ω Unit :=
  updateTimer (Timer.unregister watch)

/-- Changes what a watch is up to. -/
def setKind (watch : Nat) (kind : Watch.Kind) : Play ω Unit :=
  modify fun cabinet =>
    { cabinet with watches := cabinet.watches.modify watch fun w => { w with kind } }

/-- Ends a watch with an answer, unless it has ended, and makes its waiter ready. -/
def conclude (watch : Nat) (answer : Answer) : Play ω Unit :=
  modify fun cabinet =>
    match cabinet.watches[watch]? with
    | some { ending := none, waiter, .. } =>
      { cabinet with
        watches := cabinet.watches.modify watch fun w =>
          { w with ending := some (.answered answer) }
        agenda := match waiter with
          | some task => cabinet.agenda.callSoon (.task task)
          | none => cabinet.agenda }
    | _ => cabinet

/-- Takes a watch off both devices and ends it. -/
def leave (watch : Nat) (answer : Answer) : Play ω Unit := do
  leaveKey watch
  leaveTimer watch
  conclude watch answer

/-- Drives to the next segment and arms the timer for the time on it. -/
def driveOn (around : Surroundings ω) : Play ω Unit := do
  tick around
  enable around (.int (← get).race.wait)

/-- Drives to the next segment and arms the timer up to the moment at which the demo steers. -/
def demoOn (around : Surroundings ω) : Play ω Unit := do
  tick around
  enable around (.int ((← get).race.wait - steerTicks))

/-- Whether the demo takes the junction that it stands at; no number is drawn elsewhere. -/
def demoSteers : Play ω Bool := do
  if (← get).race.atJunction then return (← draw) < steerChance
  else return false

/-- A countdown that ran out during a countdown of digits: the next digit, or the next flash. -/
def countDown (around : Surroundings ω) (watch : Nat) (count : Value) (flashes : Nat) :
    Play ω Unit := do
  let count := if count.truthy then count.pred else count
  setKind watch (.countdown count flashes)
  if count.truthy then
    enable around (.int digitTicks)
    showDigit around count
  else
    enable around (.int flashTicks)
    showCharacter around (.text (if flashes % 2 = 1 then "0" else " "))
    setKind watch (.countdown count (flashes - 1))
    if flashes - 1 = 0 then
      leaveTimer watch
      conclude watch .nothing

/-- Stops a digit from flashing, and darkens it. -/
def endFlashing (around : Surroundings ω) (watch : Nat) : Play ω Unit := do
  leaveTimer watch
  darken around
  conclude watch .nothing

/-- A timer event while a digit flashes. -/
def flash (around : Surroundings ω) (watch : Nat) (event : TimerEvent) (value : Value)
    (shown : Nat) : Play ω Unit := do
  if event = .disabled ∨ shown = flashCycles ∨ (← get).key.pressed then
    endFlashing around watch
  else
    if shown % 2 = 1 then showDigit around value else showCharacter around (.text " ")
    setKind watch (.flashing value (shown + 1))
    if shown + 1 = flashCycles then endFlashing around watch
    else enable around (.int flashTicks)

/-- A countdown that ran out during the demo. -/
def demoDrive (around : Surroundings ω) (watch : Nat) (steering : Bool) (loops : Nat) :
    Play ω Unit := do
  setKind watch (.demo (!steering) loops)
  if !steering then demoOn around
  else if ← demoSteers then
    if !(← steer around) then leave watch (.flag false)
    else
      setKind watch (.demo false (loops - 1))
      if loops - 1 = 0 then leave watch (.flag false)
      else enable around (.int steerTicks)
  else enable around (.int steerTicks)

/-- What a watch does at a timer event. -/
def onEvent (around : Surroundings ω) (watch : Nat) (event : TimerEvent) : Play ω Unit := do
  match (← get).watches[watch]? with
  | none => pure ()
  | some w =>
    match w.kind with
    | .event =>
      leaveTimer watch
      conclude watch (.event event)
    | .release | .edge => pure ()
    | .pressOrEvent => leave watch (.flag false)
    | .countdown count flashes =>
      match event with
      | .disabled =>
        leaveTimer watch
        conclude watch .nothing
      | .elapsed => countDown around watch count flashes
    | .flashing value shown => flash around watch event value shown
    | .demo steering loops =>
      match event with
      | .disabled => leave watch (.flag false)
      | .elapsed => demoDrive around watch steering loops
    | .play =>
      match event with
      | .disabled => leave watch .nothing
      | .elapsed => driveOn around

/-- What a watch does at an edge of the key. -/
def onEdge (around : Surroundings ω) (watch : Nat) (pressed : Bool) : Play ω Unit := do
  match (← get).watches[watch]? with
  | none => pure ()
  | some w =>
    match w.kind with
    | .release =>
      if !pressed then
        leaveKey watch
        conclude watch .nothing
    | .edge =>
      leaveKey watch
      conclude watch (.flag pressed)
    | .pressOrEvent | .demo _ _ => if pressed then leave watch (.flag true)
    | .play =>
      if pressed then
        if !(← steer around) then leave watch .nothing
    | .event | .countdown _ _ | .flashing _ _ => pure ()

/-- Tells the watches on the timer of an event. -/
def notify (around : Surroundings ω) (event : TimerEvent) : Play ω Unit := do
  Timer.tellAll (fun watch => onEvent around watch event)
    (fun _ fault => note (Timer.failure "?" event fault)) (← get).timer.listeners

/-- The countdown runs out. -/
def countdownOver (around : Surroundings ω) : Play ω Unit := do
  updateTimer Timer.ranOut
  notify around .elapsed

/-- Calls the countdown off. -/
def disable (around : Surroundings ω) : Play ω Unit := do
  tickingOf.run Timer.clear
  notify around .disabled

/-- Moves the key down or up. -/
def move (around : Surroundings ω) (pressed : Bool) : Play ω Unit :=
  Key.edge keyOf (fun _ => around.showEdge) (onEdge around) pressed

end DigitRace.Cabinet
