import DigitRace.Circuit.Track
import DigitRace.Proofs.Cabinet.Onlooker

/-!
# A race that is called by hand

Whoever holds a race can begin it anew, drive the car on and steer it, in any order. On a
circuit that passed the check none of these calls ever fails, each of them comes to its
end after as many instructions as the circuit has at most, and all numbers of the race
stay in their ranges.
-/

namespace DigitRace

/-- What can be asked of a race. -/
inductive RaceCall where
  | reset (speed : Int)
  | tick
  | steer

/-- Does what is asked of the race. -/
def RaceCall.perform {ω : Type} (around : Surroundings ω) : RaceCall → Play ω Unit
  | .reset speed => Cabinet.resetRace (.int speed)
  | .tick => Cabinet.tick around
  | .steer => do let _ ← Cabinet.steer around

namespace Race

variable {ω : Type} {circuit : Circuit}

/-- The numbers of a race on a circuit are in their ranges. -/
structure InRange (circuit : Circuit) (race : Race) : Prop where
  address : ∃ n : Nat, race.address = .int n ∧ n < circuit.length
  cars : race.cars ≤ 3
  speed : race.speed ≤ 255
  score : 0 ≤ race.score
  /-- The wait is the one of the speed. -/
  wait : race.wait = waitAt race.speed
  wait_bounds : 2 ≤ race.wait ∧ race.wait ≤ 25

theorem Sound.inRange {race : Race} (h : race.Sound) : race.InRange race.circuit where
  address := h.address
  cars := h.cars
  speed := h.speed
  score := Nat.zero_le _
  wait := h.wait
  wait_bounds := h.wait ▸ waitAt_bounds race.speed

/-- A call of a sound race succeeds and leaves a sound race on the same circuit. -/
theorem perform_sound (eye : Onlooker ω) (c : Cabinet ω) (h : c.race.Sound) (call : RaceCall) :
    ∃ after : Cabinet ω, call.perform eye.around c = .ok ⟨⟩ after ∧ after.race.Sound ∧
      after.race.circuit = c.race.circuit := by
  cases call with
  | reset speed =>
    obtain ⟨-, hsound, hcircuit, -⟩ := h.reset_apply speed
    exact ⟨_, Cabinet.resetRace_apply c h speed, hsound, hcircuit⟩
  | tick =>
    obtain ⟨outside, htick⟩ := Cabinet.tick_apply eye c h
    exact ⟨_, htick, h.driven, h.driven_keeps.1⟩
  | steer =>
    obtain ⟨outside, hsteer⟩ := Cabinet.steer_apply eye c h
    exact ⟨_, by simp [RaceCall.perform, hsteer]; rfl, h.steered, h.steered_circuit⟩

/-- Calls of a sound race succeed and leave a sound race on the same circuit. -/
theorem forM_perform_sound (eye : Onlooker ω) (calls : List RaceCall) (c : Cabinet ω)
    (h : c.race.Sound) : ∃ after : Cabinet ω,
      calls.forM (RaceCall.perform eye.around) c = .ok ⟨⟩ after ∧ after.race.Sound ∧
        after.race.circuit = c.race.circuit := by
  induction calls generalizing c with
  | nil => exact ⟨c, rfl, h, rfl⟩
  | cons call calls ih =>
    obtain ⟨next, hcall, hnext, hcircuit⟩ := perform_sound eye c h call
    obtain ⟨after, hcalls, hafter, hcircuit'⟩ := ih next hnext
    exact ⟨after, by rw [Act.forM_cons_apply, hcall]; exact hcalls, hafter,
      hcircuit'.trans hcircuit⟩

/-- **Calls keep a race in its ranges.** A circuit of whole numbers that passes the check can be
put under a car, and whatever is then asked of the race, in whatever order, succeeds. After it,
the address lies within the circuit, all numbers are in their ranges, and driving on, now or from
the branch of the junction at which the car may stand, takes as many instructions as the circuit
has at most. -/
theorem calls_inRange (eye : Onlooker ω) (hwhole : circuit.Whole)
    (hcheck : circuit.check = .ok ()) : ∃ race, start circuit = .ok race ∧
      ∀ (c : Cabinet ω) (calls : List RaceCall), c.race = race → ∃ after : Cabinet ω,
        calls.forM (RaceCall.perform eye.around) c = .ok ⟨⟩ after ∧
        after.race.InRange circuit ∧
        after.race.HeldWithin circuit.length ∧
        (after.race.atJunction = true → turn after.race = .ok true after.race.turned ∧
          after.race.turned.HeldWithin circuit.length) := by
  obtain ⟨race, hstart⟩ := exists_start hwhole hcheck
  refine ⟨race, hstart, ?_⟩
  rintro c calls rfl
  obtain ⟨hsound, hcircuit⟩ := sound_of_start hwhole hstart
  obtain ⟨after, hcalls, hafter, hsame⟩ := forM_perform_sound eye calls c hsound
  have hon : after.race.circuit = circuit := hsame.trans hcircuit
  refine ⟨after, hcalls, hon ▸ hafter.inRange, hon ▸ hafter.heldWithin, fun hjunction => ?_⟩
  obtain ⟨hturn, hturned, hkeeps, -⟩ := hafter.turn_junction hjunction
  exact ⟨hturn, hon ▸ hkeeps ▸ hturned.heldWithin⟩

/-- On a circuit whose only junction leads to a chain of two jumps, driving on from the branch
takes all three instructions. -/
theorem calls_inRange_of_chain :
    let loop := [Circuit.lit "a" 1, Circuit.back 2, Circuit.back 0]
    Circuit.Whole loop ∧ Circuit.check loop = .ok () ∧
      ∃ race, start loop = .ok race ∧ ∀ c : Cabinet Unit, c.race = race →
        ∃ after : Cabinet Unit,
          [RaceCall.tick, .steer, .steer, .reset 300, .steer].forM
            (RaceCall.perform Onlooker.idle.around) c = .ok ⟨⟩ after ∧
          after.race.InRange loop ∧ after.race.HeldWithin 3 := by
  have hwhole : Circuit.Whole [Circuit.lit "a" 1, Circuit.back 2, Circuit.back 0] := by
    constructor <;> simp [Circuit.lit, Circuit.back]
  have hcheck : Circuit.check [Circuit.lit "a" 1, Circuit.back 2, Circuit.back 0] = .ok () := rfl
  obtain ⟨race, hstart, hcalls⟩ := calls_inRange Onlooker.idle hwhole hcheck
  refine ⟨hwhole, hcheck, race, hstart, fun c hrace => ?_⟩
  obtain ⟨after, hdone, hrange, hheld, -⟩ :=
    hcalls c [.tick, .steer, .steer, .reset 300, .steer] hrace
  exact ⟨after, hdone, hrange, hheld⟩

end Race

end DigitRace
