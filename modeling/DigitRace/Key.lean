import DigitRace.Act

/-!
# The key

The key is up or down. At an edge the key takes over the new state, tells its updater and
then every listener that is registered once the updater is done. A failure ends the edge
there; it goes to whoever moved the key.
-/

namespace DigitRace

/-- A key with listeners of type `ι` and updaters of type `υ`. -/
structure Key (ι υ : Type) where
  pressed : Bool := false
  /-- Who is told of an edge, in the order of registration. -/
  listeners : List ι := []
  updater : Option υ := none

namespace Key

variable {σ ι υ : Type}

/-- Whether the key is up. -/
def released (key : Key ι υ) : Bool :=
  !key.pressed

/-- The key with one more listener; a listener that is registered twice is told twice. -/
def register (listener : ι) (key : Key ι υ) : Key ι υ :=
  { key with listeners := key.listeners ++ [listener] }

/-- The key without a listener. -/
def unregister [DecidableEq ι] (listener : ι) (key : Key ι υ) : Key ι υ :=
  { key with listeners := key.listeners.filter (· ≠ listener) }

/-- Moves the key down or up. -/
def edge (key : Part σ (Key ι υ)) (update : υ → Bool → Act σ Unit) (tell : ι → Bool → Act σ Unit)
    (pressed : Bool) : Act σ Unit := do
  key.update fun k => { k with pressed }
  match (key.get (← get)).updater with
  | some updater => update updater pressed
  | none => pure ()
  (key.get (← get)).listeners.forM fun listener => tell listener pressed

end Key

end DigitRace
