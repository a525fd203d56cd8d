import DigitRace.Value

/-!
# Defects of a circuit

What the check of a circuit can object to. A local defect names the address that has
it; an endless chain of jumps names the address where a car would start along it.
-/

namespace DigitRace.Circuit

/-- One objection to a circuit. -/
inductive Defect where
  /-- The circuit has no instruction at all. -/
  | empty
  /-- The light at `address` names something that is not one segment. -/
  | badSegment (address : Nat) (segment : Value)
  /-- The last instruction, at `address`, is a light, so a car would run off the end. -/
  | runsPastEnd (address : Nat)
  /-- The entry at `address` is no instruction. -/
  | notInstruction (address : Nat) (entry : Value)
  /-- The branch or jump at `address` leads out of the circuit. -/
  | targetOutOfRange (address : Nat) (target : Value)
  /-- From `address` on, jumps lead only to jumps. -/
  | endlessJumps (address : Nat)
  deriving BEq

end DigitRace.Circuit
