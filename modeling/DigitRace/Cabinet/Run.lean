import DigitRace.Cabinet.Routine

/-!
# Running the cabinet

One step carries the active task on by one routine or one frame, or, when no task is
active, makes the next call of the agenda. Steps never fail: a fault ends the task in
which it arises. `run` takes steps as long as something is ready or due by a horizon.
-/

namespace DigitRace.Cabinet

variable {ω : Type}

/-- Changes a task. -/
def updateTask (number : Nat) (change : Task → Task) (cabinet : Cabinet ω) : Cabinet ω :=
  { cabinet with tasks := cabinet.tasks.modify number change }

/-- Ends the task that is being carried on. -/
def endTask (number : Nat) (ending : Task.Ending) (cabinet : Cabinet ω) : Cabinet ω :=
  { updateTask number (fun task => { task with state := .ended ending, stack := [] }) cabinet with
    active := none }

/-- Lets a task wait for a watch. If the watch has ended already, the task goes on. -/
def awaitWatch (number watch : Nat) (cabinet : Cabinet ω) : Cabinet ω :=
  match (cabinet.watches[watch]?).bind Watch.ending with
  | some (.answered answer) =>
    updateTask number (fun task => { task with state := .answering answer }) cabinet
  | some .dropped => endTask number .cancelled cabinet
  | none =>
    let cabinet := updateTask number (fun task => { task with state := .waiting watch }) cabinet
    { cabinet with
      active := none
      watches := cabinet.watches.modify watch fun w => { w with waiter := some number } }

/-- Puts the frame that is left behind on the stack of a task. -/
def pushFrame (number : Nat) (after : Option Frame) (cabinet : Cabinet ω) : Cabinet ω :=
  match after with
  | some frame => updateTask number (fun task => { task with stack := frame :: task.stack }) cabinet
  | none => cabinet

/-- Takes over how far a task has come. -/
def proceed (number : Nat) (progress : Progress) (cabinet : Cabinet ω) : Cabinet ω :=
  match progress with
  | .done answer =>
    updateTask number (fun task => { task with state := .answering answer }) cabinet
  | .await watch after => awaitWatch number watch (pushFrame number after cabinet)
  | .call routine after =>
    updateTask number (fun task => { task with state := .calling routine })
      (pushFrame number after cabinet)

/-- Does what a task has to do next. -/
def carry (number : Nat) (act : Play ω Progress) (cabinet : Cabinet ω) : Cabinet ω :=
  match act cabinet with
  | .ok progress after => proceed number progress after
  | .error fault after => endTask number (.failed fault) after

/-- Carries the active task on by one routine or one frame. -/
def carryOn (around : Surroundings ω) (number : Nat) (cabinet : Cabinet ω) : Cabinet ω :=
  match cabinet.tasks[number]? with
  | none => { cabinet with active := none }
  | some task =>
    match task.state, task.stack with
    | .calling routine, _ => carry number (begin around routine) cabinet
    | .answering answer, [] => endTask number (.returned answer) cabinet
    | .answering answer, frame :: rest =>
      carry number (resume around answer frame)
        (updateTask number (fun task => { task with stack := rest }) cabinet)
    | .waiting _, _ | .ended _, _ => { cabinet with active := none }

/-- A call reaches a task: it begins or goes on, unless it was cancelled meanwhile. -/
def wake (number : Nat) (cabinet : Cabinet ω) : Cabinet ω :=
  match cabinet.tasks[number]? with
  | none => cabinet
  | some task =>
    match task.state with
    | .ended _ => cabinet
    | state =>
      if task.cancelRequested then endTask number .cancelled cabinet
      else match state with
        | .waiting watch => match (cabinet.watches[watch]?).bind Watch.ending with
          | some (.answered answer) =>
            { updateTask number (fun task => { task with state := .answering answer }) cabinet with
              active := some number }
          | some .dropped => endTask number .cancelled cabinet
          | none => cabinet
        | _ => { cabinet with active := some number }

/-- Makes a call. What concerns the window alone does nothing to the cabinet. -/
def perform (around : Surroundings ω) (call : Call) (cabinet : Cabinet ω) : Cabinet ω :=
  match call with
  | .task number => wake number cabinet
  | .countdownOver => ((countdownOver around).result cabinet).2
  | .move pressed => ((move around pressed).result cabinet).2
  | .disable => ((disable around).result cabinet).2
  | .pauseOver | .window => cabinet

/-- One step, if there is one to take by `horizon`. -/
def step? (around : Surroundings ω) (horizon : Rat) (cabinet : Cabinet ω) : Option (Cabinet ω) :=
  match cabinet.active with
  | some number => some (carryOn around number cabinet)
  | none => match cabinet.agenda.next? horizon with
    | some (call, agenda) => some (perform around call { cabinet with agenda })
    | none => none

/-- Takes steps up to `horizon`, or until `stop` holds between two calls, and at most `limit`. -/
def run (around : Surroundings ω) (stop : Cabinet ω → Bool) (horizon : Rat) :
    Nat → Cabinet ω → Cabinet ω
  | 0, cabinet => cabinet
  | limit + 1, cabinet =>
    if cabinet.active.isNone && stop cabinet then cabinet
    else match step? around horizon cabinet with
      | some after => run around stop horizon limit after
      | none => cabinet

/-- More steps than any game takes at one go. -/
def patience : Nat := 1000000000

/-- Takes all steps that take no time. -/
def settle (around : Surroundings ω) (cabinet : Cabinet ω) : Cabinet ω :=
  run around (fun _ => false) cabinet.agenda.now patience cabinet

/-- Lets a time pass. -/
def advance (around : Surroundings ω) (seconds : Rat) (cabinet : Cabinet ω) : Cabinet ω :=
  let horizon := cabinet.agenda.now + seconds
  let after := run around (fun _ => false) horizon patience cabinet
  { after with agenda := { after.agenda with now := horizon } }

/-- Runs until all tasks are over, or nothing is left to do for a time. -/
def finish (around : Surroundings ω) (seconds : Rat) (cabinet : Cabinet ω) : Cabinet ω :=
  run around allOver (cabinet.agenda.now + seconds) patience cabinet

/-- Makes a task of a routine; it begins when the agenda calls it. -/
def spawn (routine : Routine) (cabinet : Cabinet ω) : Cabinet ω :=
  { cabinet with
    tasks := cabinet.tasks.push { state := .calling routine }
    agenda := cabinet.agenda.callSoon (.task cabinet.tasks.size) }

/-- Cancels a task. If it waits, its watch is dropped and the task is called to learn of it; if it
is ready to go on, it learns of it when it is called. A task that is over is left alone. -/
def cancel (number : Nat) (cabinet : Cabinet ω) : Cabinet ω :=
  let request := updateTask number fun task => { task with cancelRequested := true }
  match (cabinet.tasks[number]?).map Task.state with
  | none | some (.ended _) => cabinet
  | some (.waiting watch) => match (cabinet.watches[watch]?).bind Watch.ending with
    | none =>
      { cabinet with
        watches := cabinet.watches.modify watch fun w => { w with ending := some .dropped }
        agenda := cabinet.agenda.callSoon (.task number) }
    | some _ => request cabinet
  | some _ => request cabinet

end DigitRace.Cabinet
