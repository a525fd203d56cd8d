import DigitRace.Segment.Pattern

/-!
# Instructions of a circuit

A circuit is a list of instructions; the address of one is its place in the list. A
light holds the car for a tick and may have a junction; a jump leads on at once.
-/

namespace DigitRace

/-- One entry of a circuit. What the parts hold is only known once the circuit is checked. -/
inductive Instruction where
  /-- Leads to the target without taking a tick. -/
  | jump (target : Value)
  /-- Lights a bar until the next tick. A branch other than 0 is where steering leads. -/
  | light (segment : Value) (branch : Value)
  /-- Was read from a number that means nothing. -/
  | invalid (raw : Value)
  /-- Is no instruction at all. -/
  | stray (entry : Value)
  deriving Inhabited, BEq

namespace Instruction

/-- What an instruction is made of, in its order. -/
def parts : Instruction → List Value
  | jump target => [target]
  | light segment branch => [segment, branch]
  | invalid raw => [raw]
  | stray entry => [entry]

/-- Where steering leads while the instruction is lit, 0 if there is no junction. -/
def branch : Instruction → Value
  | light _ branch => branch
  | _ => .int 0

/-- Whether a junction is lit. -/
def isJunction (i : Instruction) : Bool :=
  i.branch.truthy

/-- An instruction as it is written inside a message. -/
def printed : Instruction → String
  | jump target => s!"Jump(target={target.printed})"
  | light segment branch => s!"LightSegment(segment={segment.printed}, branch={branch.printed})"
  | invalid raw => s!"InvalidInstruction(raw={raw.printed})"
  | stray entry => entry.printed

end Instruction

/-- A circuit: its instructions in the order of their addresses. -/
abbrev Circuit := List Instruction

namespace Circuit

/-- The instruction at an address. Addresses below zero count from the end. -/
def fetch (circuit : Circuit) (address : Value) : Except Fault Instruction :=
  match address.index? with
  | none => .error (.notAddress address)
  | some n =>
    let place := if n < 0 then n + circuit.length else n
    if place < 0 then .error .outOfRange
    else match circuit[place.toNat]? with
      | some i => .ok i
      | none => .error .outOfRange

/-- Within the circuit, an address is a place in the list. -/
theorem fetch_natCast {circuit : Circuit} {n : Nat} (h : n < circuit.length) :
    circuit.fetch (.int n) = .ok circuit[n] := by
  have : ¬ (n : Int) < 0 := by omega
  simp [fetch, this, h]

end Circuit

end DigitRace
