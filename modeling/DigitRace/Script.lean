import DigitRace.Act
import DigitRace.Journal

/-!
# Scripted listeners

A rehearsal puts a device before listeners that follow a script. The script of a listener
says, call by call, what it does to the device in answer; after its last entry it does
nothing more. Every call uses an entry up, so answers within answers come to an end: the
entries that are left bound how deep they go.
-/

namespace DigitRace

/-- One thing that a listener does: something to the device, or a failure. -/
inductive Deed (α : Type) where
  | act (action : α)
  | fail (kind : String) (text : String)

/-- What a listener still has to do at each of its coming calls. -/
structure Script (α : Type) where
  listener : String
  entries : List (List (Deed α))

/-- A device `δ` with actions `α`, and the calls `κ` that its listeners had. -/
structure Rehearsal (δ α κ : Type) where
  device : δ
  scripts : List (Script α) := []
  /-- The calls in the order in which they began. -/
  calls : List κ := []
  journal : List Record := []

namespace Rehearsal

variable {δ α κ ν : Type}

/-- The device of a rehearsal. -/
def deviceOf : Part (Rehearsal δ α κ) δ where
  get := Rehearsal.device
  put device rehearsal := { rehearsal with device }

/-- The script entries that are left. -/
def entriesLeft (rehearsal : Rehearsal δ α κ) : Nat :=
  (rehearsal.scripts.flatMap Script.entries).length

/-- Takes the first entry out of a listener's script. -/
def takeEntry (listener : String) : List (Script α) → List (Deed α) × List (Script α)
  | [] => ([], [])
  | script :: rest =>
    if script.listener = listener then
      (script.entries.headD [], { script with entries := script.entries.tail } :: rest)
    else
      let (entry, rest) := takeEntry listener rest
      (entry, script :: rest)

/-- Notes a call of a listener. -/
def note (call : κ) : Act (Rehearsal δ α κ) Unit :=
  modify fun rehearsal => { rehearsal with calls := rehearsal.calls ++ [call] }

/-- Does deeds in turn, up to the first failure. -/
def follow (perform : α → Act (Rehearsal δ α κ) Unit) (deeds : List (Deed α)) :
    Act (Rehearsal δ α κ) Unit :=
  deeds.forM fun
    | .act action => perform action
    | .fail kind text => throw (.raised kind text)

/-- A call of a listener: it is noted, and the listener follows the next entry of its script.
Actions tell listeners in their turn, at most `depth` calls deep. -/
def answer (call : String → ν → Rehearsal δ α κ → κ)
    (perform : (String → ν → Act (Rehearsal δ α κ) Unit) → α → Act (Rehearsal δ α κ) Unit) :
    Nat → String → ν → Act (Rehearsal δ α κ) Unit
  | 0, listener, event => do note (call listener event (← get))
  | depth + 1, listener, event => do
    note (call listener event (← get))
    let (deeds, scripts) := takeEntry listener (← get).scripts
    modify fun rehearsal => { rehearsal with scripts }
    follow (perform (answer call perform depth)) deeds

/-- One step: deeds done from outside. -/
def step (call : String → ν → Rehearsal δ α κ → κ)
    (perform : (String → ν → Act (Rehearsal δ α κ) Unit) → α → Act (Rehearsal δ α κ) Unit)
    (deeds : List (Deed α)) : Act (Rehearsal δ α κ) Unit := do
  let depth := (← get).entriesLeft
  follow (perform (answer call perform depth)) deeds

/-- The rehearsal before its next step, with nothing noted yet. -/
def cleared (rehearsal : Rehearsal δ α κ) : Rehearsal δ α κ :=
  { rehearsal with calls := [], journal := [] }

/-- What each of a list of steps comes to, and the rehearsal after it. -/
def outcomes (step : List (Deed α) → Act (Rehearsal δ α κ) Unit) :
    Rehearsal δ α κ → List (List (Deed α)) → List (Except Fault Unit × Rehearsal δ α κ)
  | _, [] => []
  | rehearsal, deeds :: rest =>
    let (outcome, after) := (step deeds).result rehearsal.cleared
    (outcome, after) :: outcomes step after rest

end Rehearsal

end DigitRace
