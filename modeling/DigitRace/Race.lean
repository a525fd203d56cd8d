import DigitRace.Act
import DigitRace.Circuit.Check
import DigitRace.Circuit.Track

/-!
# The race

A race holds the circuit, where the car is on it, and what the player has: score, cars
left and speed. The faster the car, the fewer ticks it stays on a segment. Steering at a
junction scores and speeds the car up; steering elsewhere costs a car and the speed.
-/

namespace DigitRace

/-- The state of a race. -/
structure Race where
  circuit : Circuit
  /-- Where the next instruction is fetched from. -/
  address : Value
  /-- The instruction fetched last. -/
  current : Instruction
  score : Nat := 0
  /-- Cars left before the game is over. -/
  cars : Nat := 0
  speed : Nat := 0
  /-- Ticks that the car stays on a segment. -/
  wait : Int := 25

namespace Race

/-- The speed that cannot be exceeded. -/
def topSpeed : Nat := 255

/-- The cars of a new game. -/
def fleet : Nat := 3

/-- Ticks on each segment at a speed: 25 at standstill, one less for every 4 steps of speed, from
speed 80 on one less for every 16 steps, and never below 2. -/
def waitAt (speed : Int) : Int :=
  if speed < 80 then 25 - speed / 4
  else if speed < 128 then 10 - speed / 16
  else 2

/-- Ticks on each segment at whatever is given as a speed. A double is not divided into steps, so
it will only do where the answer does not depend on it. -/
def waitAtValue (speed : Value) : Except Fault Int :=
  match speed with
  | .real x => if x < 128 then .error (.unsuitable speed) else .ok 2
  | other => match other.index? with
    | some n => .ok (waitAt n)
    | none => .error (.unsuitable speed)

/-- A race that stands at the first instruction of a circuit that passes the check. -/
def start (circuit : Circuit) : Except Fault Race := do
  circuit.check
  let first ← circuit.fetch (.int 0)
  return { circuit, address := .int 0, current := first, wait := waitAt 0 }

/-- The race with another speed, and the ticks that go with it. -/
def withSpeed (race : Race) (speed : Nat) : Race :=
  { race with speed, wait := waitAt speed }

/-- The race after one more step of speed. At top speed nothing changes. -/
def faster (race : Race) : Race :=
  if topSpeed ≤ race.speed then race else race.withSpeed (race.speed + 1)

/-- Makes the instruction at the address the current one. -/
def fetch : Act Race Unit := do
  let race ← get
  let i ← race.circuit.fetch race.address
  set { race with current := i }

/-- Follows jumps from the current instruction to one that takes a tick, over `limit` jumps at
most. -/
def follow : Nat → Act Race Unit
  | 0 => throw .endlessDrive
  | limit + 1 => do
    match (← get).current with
    | .jump target =>
      modify fun race => { race with address := target }
      fetch
      follow limit
    | _ => pure ()

/-- Fetches the instruction at the address and follows its jumps. The circuit's length bounds
the jumps that do not go round. -/
def arrive : Act Race Unit := do
  fetch
  follow ((← get).circuit.length + 2)

/-- The race once the car has left the segment that is lit. -/
def pass (race : Race) : Race :=
  match race.address.index? with
  | some n => { race with address := .int (n + 1) }
  | none => race

/-- The bar that the current instruction lights. -/
def bar? (race : Race) : Option String :=
  match race.current with
  | .light (.text segment) _ => if Segment.isBar (.text segment) then some segment else none
  | _ => none

/-- The race after a car is lost. -/
def crashed (race : Race) : Race :=
  { race with cars := race.cars - 1 }.withSpeed 0

/-- Steers: takes the junction of the current instruction and fetches what it leads to, or loses a
car. Tells whether there was a junction. -/
def turn : Act Race Bool := do
  let race ← get
  if race.current.isJunction then
    set { race with address := race.current.branch, score := race.score + 1 }.faster
    fetch
    return true
  else
    set race.crashed
    return false

/-- Begins a game at a speed, which is cut to the range from 0 to the top speed. -/
def reset (speed : Value := .int 0) : Act Race Unit := do
  modify fun race => { race with score := 0, cars := fleet }
  let n ← speed.whole
  modify fun race => { race.withSpeed (min n.toNat topSpeed) with address := .int 0 }
  fetch

/-- Whether the segment that is lit is a junction. -/
def atJunction (race : Race) : Bool :=
  race.current.isJunction

/-- Whether no car is left. -/
def isOver (race : Race) : Bool :=
  race.cars == 0

end Race

end DigitRace
