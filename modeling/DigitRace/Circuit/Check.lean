import DigitRace.Circuit.Instruction

/-!
# The check of a circuit

A circuit can be driven if every entry is an instruction, every light names one bar and
has a successor, every target lies within the circuit, and jumps lead to an instruction
that takes a tick. `check` gives the first objection: local defects in the order of
their addresses, then the least address from which jumps go on for ever.
-/

namespace DigitRace.Circuit

/-- Objects to a target outside a circuit of `size` instructions. -/
def checkTarget (size address : Nat) (target : Value) : Except Fault Unit := do
  let q ← target.number
  if 0 ≤ q ∧ q < (size : Rat) then .ok ()
  else .error (.rejected (.targetOutOfRange address target))

/-- Objects to the instruction at `address` of a circuit of `size` instructions, as far as it can
be judged alone. -/
def checkInstruction (size address : Nat) : Instruction → Except Fault Unit
  | .jump target => checkTarget size address target
  | .light segment branch =>
    if !Segment.isBar segment then .error (.rejected (.badSegment address segment))
    else if address + 1 = size then .error (.rejected (.runsPastEnd address))
    else checkTarget size address branch
  | .invalid _ => .ok ()
  | .stray entry => .error (.rejected (.notInstruction address entry))

/-- Objects to the first of the instructions from `address` on that has a defect of its own. -/
def checkFrom (size address : Nat) : Circuit → Except Fault Unit
  | [] => .ok ()
  | i :: rest => do
    checkInstruction size address i
    checkFrom size (address + 1) rest

/-- Whether jumps from `address` lead to an instruction that takes a tick, when the addresses
`passed` are behind. They do not if they come back to one of these. No more than `limit` addresses
are looked at, which is never too few if it is more than the circuit has. -/
def settles (circuit : Circuit) : Nat → List (Option Int) → Value → Except Fault Bool
  | 0, _, _ => .error .endlessDrive
  | limit + 1, passed, address => do
    match ← circuit.fetch address with
    | .jump target =>
      if passed.contains address.index? then .ok false
      else settles circuit limit (address.index? :: passed) target
    | _ => .ok true

/-- Objects to the first of the given addresses from which jumps do not end. -/
def checkChains (circuit : Circuit) : List Nat → Except Fault Unit
  | [] => .ok ()
  | address :: rest => do
    if ← settles circuit (circuit.length + 1) [] (.int address) then checkChains circuit rest
    else .error (.rejected (.endlessJumps address))

/-- Objects to a circuit that cannot be driven. -/
def check (circuit : Circuit) : Except Fault Unit := do
  if circuit.isEmpty then .error (.rejected .empty)
  checkFrom circuit.length 0 circuit
  checkChains circuit (List.range circuit.length)

end DigitRace.Circuit
