import DigitRace.Circuit.Instruction

/-!
# One number per instruction

An instruction is packed into `32 * opcode + target`. Opcode 0 is a jump, and opcodes
1 to 7 light the bars `a` to `g`.
-/

namespace DigitRace.Circuit

/-- The first place in `text` where `part` stands. -/
def position? (part text : List Char) : Option Nat :=
  (List.range (text.length + 1)).find? fun n => part.isPrefixOf (text.drop n)

/-- The whole number whose binary digits, without end to the left, are set where those of
`32 * opcode` or of `n` are. -/
def packed (opcode : Nat) (n : Int) : Int :=
  256 * (n / 256) + (((n % 256).toNat ||| (32 * opcode) : Nat) : Int)

/-- The number of an instruction. A segment counts by its place among the bars. -/
def encode : Instruction → Except Fault Int
  | .jump target => match target.index? with
    | some n => .ok n
    | none => .error (.unsuitable target)
  | .light (.text segment) branch => match position? segment.toList Segment.bars with
    | none => .error .segmentNotFound
    | some n => match branch.index? with
      | some target => .ok (packed (n + 1) target)
      | none => .error (.unsuitable branch)
  | .light segment _ => .error (.unsuitable segment)
  | .invalid _ | .stray _ => .error (.lacksPart "segment")

/-- The bar at a place; places below zero count from the end. -/
def bar? (place : Int) : Option Char :=
  let n := if place < 0 then place + Segment.bars.length else place
  if n < 0 then none else Segment.bars[n.toNat]?

/-- The instruction that a whole number stands for. -/
def decodeInt (n : Int) : Except Fault Instruction :=
  let opcode := n / 32
  let target := Value.int (n % 32)
  if opcode = 0 then .ok (.jump target)
  else if opcode ≤ Segment.bars.length then
    match bar? (opcode - 1) with
    | some bar => .ok (.light (.text bar.toString) target)
    | none => .error .noSuchLetter
  else .ok (.invalid (.int n))

/-- The instruction that a value stands for. -/
def decode (value : Value) : Except Fault Instruction :=
  match value.index? with
  | some n => decodeInt n
  | none => .error (.unsuitable value)

/-- The instructions that a list of values stands for. -/
def decodeAll (values : Value) : Except Fault Circuit := do
  (← values.items).mapM decode

end DigitRace.Circuit
