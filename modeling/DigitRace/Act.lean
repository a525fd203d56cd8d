import DigitRace.Fault

/-!
# Acts

An act works on a state and either gives a result or stops with a fault. What it has
done to the state before a fault stays done. An act on a part of a state is an act on
the whole.
-/

namespace DigitRace

/-- Something done to a state of type `σ` that may fail on the way. -/
abbrev Act (σ α : Type) := EStateM Fault σ α

namespace Act

/-- A result or a fault that was found without looking at the state. -/
def ofExcept {σ α : Type} : Except Fault α → Act σ α
  | .ok a => pure a
  | .error fault => throw fault

/-- A fault that was found elsewhere stops an act. -/
instance {σ : Type} : MonadLift (Except Fault) (EStateM Fault σ) := ⟨ofExcept⟩

/-- What an act comes to, and the state after it. -/
def result {σ α : Type} (act : Act σ α) (s : σ) : Except Fault α × σ :=
  match act s with
  | .ok a s' => (.ok a, s')
  | .error fault s' => (.error fault, s')

end Act

/-- A part of a state: how to read it, and how to put another in its place. -/
structure Part (σ τ : Type) where
  get : σ → τ
  put : τ → σ → σ

namespace Part

variable {σ τ α : Type}

/-- Does an act to a part of the state. -/
def run (part : Part σ τ) (act : Act τ α) : Act σ α := fun s =>
  match act (part.get s) with
  | .ok a t => .ok a (part.put t s)
  | .error fault t => .error fault (part.put t s)

/-- Changes a part of the state. -/
def update (part : Part σ τ) (change : τ → τ) : Act σ Unit :=
  modify fun s => part.put (change (part.get s)) s

end Part

end DigitRace
