import DigitRace.Proofs.Race.Calls
import DigitRace.Proofs.Race.Standing

/-!
# Where a car comes to a stop

Driving on from an address follows its jumps to their landing. A light that is reached is
written to the digit once and the car leaves it; where an instruction means nothing, nothing
is written to the digit, an error is written down and the car stays. Nothing else changes.
At a junction steering does the same from its branch, after the score and the speed have
grown; elsewhere it costs a car and the speed, and the car stays where it is.
-/

namespace DigitRace

namespace Cabinet

variable {ω : Type} {circuit : Circuit} {eye : Onlooker ω} {c after : Cabinet ω} {n stop : Nat}

/-! ## What a stop comes to -/

/-- The cabinet once a pattern was written to the digit: whoever looks at it has seen it once. -/
def lit (eye : Onlooker ω) (pattern : String) (c : Cabinet ω) : Cabinet ω :=
  let shown := { c with display := { c.display with pattern } }
  { shown with outside := if c.display.observer.isSome then eye.seen pattern shown else c.outside }

/-- The cabinet with the car on another instruction. -/
def carAt (address : Nat) (current : Instruction) (c : Cabinet ω) : Cabinet ω :=
  { c with race := { c.race with address := .int address, current } }

/-- The cabinet with one more record of what a race does. -/
def raceNoted (level : Level) (message : String) (c : Cabinet ω) : Cabinet ω :=
  { c with journal := c.journal.push { level, source := "game_vm", message } }

/-- What is written down where nothing can be lit. -/
def unlitText (stop : Nat) (raw : Value) : String :=
  s!"Invalid VM instruction at {stop}: {(Instruction.invalid raw).printed}"

/-- Driving on from an address of a circuit, from the cabinet `c` to the next one. -/
inductive Arrives (circuit : Circuit) (eye : Onlooker ω) (n : Nat) (c : Cabinet ω) :
    Cabinet ω → Prop
  /-- The light that is reached is written to the digit, and then the car leaves it. -/
  | light {jumps stop : Nat} {bar : String} {branch : Value} :
      circuit.Lands n jumps stop → circuit[stop]? = some (.light (.text bar) branch) →
      Arrives circuit eye n c (((c.carAt stop (.light (.text bar) branch)).lit eye bar).carAt
        (stop + 1) (.light (.text bar) branch))
  /-- Nothing can be lit, and the car stays there. -/
  | invalid {jumps stop : Nat} {raw : Value} :
      circuit.Lands n jumps stop → circuit[stop]? = some (.invalid raw) →
      Arrives circuit eye n c ((c.carAt stop (.invalid raw)).raceNoted .error (unlitText stop raw))

/-- The car is held where nothing can be lit until a new game. Whatever is done with it, every
steering crashes and the digit stays as it is, and each time it is driven on, this comes to the
same error and to nothing else. -/
def Stranded (eye : Onlooker ω) (stop : Nat) (raw : Value) (c : Cabinet ω) : Prop :=
  ∀ moves : List Ride, ∃ later,
    rides eye.around moves c = .ok (List.replicate (moves.count .steer) false) later ∧
    later.race.address = .int stop ∧ later.race.current = .invalid raw ∧
    later.race.score = c.race.score ∧ later.display = c.display ∧ later.outside = c.outside ∧
    tick eye.around later = .ok ⟨⟩ (later.raceNoted .error (unlitText stop raw))

/-- The cabinet once a junction was taken, before the car is driven on from its branch. -/
def crossed (branch : Nat) (c : Cabinet ω) : Cabinet ω :=
  let speed := min 255 (c.race.speed + 1)
  { c with race := { c.race with
      address := .int branch
      score := c.race.score + 1
      speed
      wait := Race.waitAt speed } }.raceNoted .debug
    s!"steer to {branch}, score {c.race.score + 1}"

/-- The cabinet once a car was lost at an address. -/
def lost (n : Nat) (c : Cabinet ω) : Cabinet ω :=
  { c with race := { c.race with
      cars := c.race.cars - 1
      speed := 0
      wait := Race.waitAt 0 } }.raceNoted .debug
    s!"crash at {n}, {c.race.cars - 1} cars left"

/-! ## Driving on -/

theorem showPattern_lit (eye : Onlooker ω) (pattern : String) (c : Cabinet ω) :
    showPattern eye.around pattern c = .ok ⟨⟩ (c.lit eye pattern) := by
  cases hobserver : c.display.observer <;>
    simp [showPattern, Display.showing, displayOf, lit, Onlooker.around, hobserver]

theorem addressText_natCast (n : Nat) : addressText (.int n) = .ok (toString n) := rfl

/-- A car that arrives at a bar lights it and leaves it. -/
theorem tick_at_bar {bar : String} (hsound : c.race.Sound) (hbar : c.race.arrived.bar? = some bar)
    (haddress : c.race.arrived.address = .int stop) :
    tick eye.around c = .ok ⟨⟩
      ((({ c with race := c.race.arrived } : Cabinet ω).lit eye bar).carAt (stop + 1)
        c.race.arrived.current) := by
  simp [tick, raceOf, hsound.arrive_apply, hbar, showPattern_lit, lit, carAt, Race.pass, haddress]

/-- A car that arrives at an instruction that means nothing stays there. -/
theorem tick_at_invalid (eye : Onlooker ω) {raw : Value} (hsound : c.race.Sound)
    (hcurrent : c.race.arrived.current = .invalid raw)
    (haddress : c.race.arrived.address = .int stop) :
    tick eye.around c = .ok ⟨⟩ (({ c with race := c.race.arrived } : Cabinet ω).raceNoted .error
      (unlitText stop raw)) := by
  have hdark : c.race.arrived.bar? = none := by rw [Race.bar?, hcurrent]
  simp only [tick, raceOf, Act.bind_apply, Act.run_apply, hsound.arrive_apply, Act.get_apply, hdark,
    haddress, addressText_natCast, Act.lift_ok_apply, note, Act.modify_apply, raceNoted, hcurrent]
  rfl

/-- Driving on follows the jumps to their landing. -/
theorem tick_arrives (eye : Onlooker ω) (hsound : c.race.Sound)
    (hcircuit : c.race.circuit = circuit) (hcheck : circuit.check = .ok ())
    (haddress : c.race.address = .int n) :
    ∃ after, tick eye.around c = .ok ⟨⟩ after ∧ Arrives circuit eye n c after := by
  subst hcircuit
  obtain ⟨n', jumps, stop, i, haddress', hlands, hi, harrived, -⟩ := hsound.arrived_lands
  obtain rfl : n' = n := Int.ofNat_inj.mp (Value.int.inj (haddress'.symm.trans haddress))
  have hstop : c.race.arrived.address = .int stop := by rw [harrived]
  have hcurrent : c.race.arrived.current = i := by rw [harrived]
  cases i with
  | jump target =>
    obtain ⟨j, hj, hholds⟩ := hlands.stop_holds
    exact absurd (Option.some.inj (hi.symm.trans hj)).symm (hholds target)
  | stray entry => cases Circuit.checkInstruction_of_check hcheck hi
  | light segment branch =>
    obtain ⟨⟨bar, rfl, hbar⟩, -⟩ := hsound.drivable.light hi
    have hlit : c.race.arrived.bar? = some bar := by
      rw [Race.bar?, hcurrent]
      exact if_pos hbar
    refine ⟨_, tick_at_bar hsound hlit hstop, ?_⟩
    rw [hcurrent, harrived]
    exact .light hlands hi
  | invalid raw =>
    refine ⟨_, tick_at_invalid eye hsound hcurrent hstop, ?_⟩
    rw [harrived]
    exact .invalid hlands hi

/-! ## Steering -/

/-- Steering where there is no junction costs a car. -/
theorem steer_crashes (eye : Onlooker ω) (haddress : c.race.address = .int n)
    (hplain : c.race.atJunction = false) : steer eye.around c = .ok false (c.lost n) := by
  obtain ⟨hturn, hcrashed⟩ := Race.turn_crash hplain
  have hplace : addressText c.race.turned.address = .ok (toString n) := by
    rw [hcrashed, show c.race.crashed.address = c.race.address from rfl, haddress]
    rfl
  simp only [steer, raceOf, Act.bind_apply, Act.run_apply, hturn, Act.get_apply, hplace,
    Act.lift_ok_apply, Bool.false_eq_true, if_false, note, Act.modify_apply, Act.pure_apply]
  rw [hcrashed]
  rfl

theorem crossed_sound {branch : Nat} (hsound : c.race.Sound)
    (hbranch : branch < c.race.circuit.length) : (c.crossed branch).race.Sound :=
  { hsound with
    address := ⟨branch, rfl, hbranch⟩
    speed := Nat.min_le_left _ _
    wait := rfl }

theorem Arrives.lt_length (h : Arrives circuit eye n c after) : n < circuit.length := by
  cases h with
  | light hlands => exact hlands.lt_length
  | invalid hlands => exact hlands.lt_length

/-- It does not matter where the car was before it is driven on from an address. -/
theorem Arrives.of_carAt {address : Nat} {current : Instruction}
    (h : Arrives circuit eye n (c.carAt address current) after) :
    Arrives circuit eye n c after := by
  cases h with
  | light hlands hi => exact .light hlands hi
  | invalid hlands hi => exact .invalid hlands hi

/-- At a junction the car is driven on from the branch. -/
theorem steer_crosses (eye : Onlooker ω) (hsound : c.race.Sound)
    (hcircuit : c.race.circuit = circuit) (hcheck : circuit.check = .ok ())
    (hjunction : c.race.atJunction = true) :
    ∃ (branch : Nat) (after : Cabinet ω), c.race.current.branch = .int branch ∧
      steer eye.around c = .ok true after ∧
      Arrives circuit eye branch (c.crossed branch) after := by
  obtain ⟨hturn, hturned, hkeeps, -, hbranch⟩ := hsound.turn_junction hjunction
  obtain ⟨branch, haddress, -⟩ := hturned.address
  have hstanding := Race.turn_standing hsound.speed hsound.wait hturn
  have hturned_eq :
      c.race.turned = ((c.crossed branch).carAt branch c.race.turned.current).race := by
    cases hrace : c.race.turned with
    | mk circuit' address current score cars speed wait =>
      rw [hrace] at hkeeps haddress hstanding
      simp only [Race.standing, Standing.turned, if_true, Standing.mk.injEq] at hstanding
      simp only at hkeeps haddress
      obtain ⟨rfl, rfl, rfl, rfl⟩ := hstanding
      subst hkeeps haddress
      rfl
  have hscore : c.race.turned.score = c.race.score + 1 := by rw [hturned_eq]; rfl
  have hplace : addressText c.race.turned.address = .ok (toString branch) := by
    rw [haddress, addressText_natCast]
  let noted := (c.crossed branch).carAt branch c.race.turned.current
  have hnoted : { c with
      race := c.race.turned
      journal := c.journal.push {
        level := .debug, source := "game_vm",
        message := s!"steer to {toString branch}, score {c.race.score + 1}" } } = noted := by
    rw [hturned_eq]
    rfl
  have hsound' : noted.race.Sound := hturned_eq ▸ hturned
  obtain ⟨after, htick, harrives⟩ := tick_arrives eye hsound' hcircuit hcheck rfl
  refine ⟨branch, after, hbranch.symm.trans haddress, ?_, harrives.of_carAt⟩
  simp only [steer, raceOf, Act.bind_apply, Act.run_apply, hturn, Act.get_apply, hplace,
    Act.lift_ok_apply, if_true, note, Act.modify_apply, hscore]
  rw [hnoted, htick]
  rfl

/-! ## Being held -/

/-- The car stands at the address of an instruction that means nothing. -/
structure Held (stop : Nat) (raw : Value) (c : Cabinet ω) : Prop where
  sound : c.race.Sound
  means : c.race.circuit[stop]? = some (.invalid raw)
  address : c.race.address = .int stop
  current : c.race.current = .invalid raw

variable {raw : Value}

/-- Driving on only writes the error down once more. -/
theorem Held.tick (eye : Onlooker ω) (h : Held stop raw c) :
    Cabinet.tick eye.around c = .ok ⟨⟩ (c.raceNoted .error (unlitText stop raw)) := by
  have hlands : c.race.circuit.Lands stop 0 stop := .held h.means (fun _ hjump => by cases hjump)
  obtain ⟨n, jumps, stop', i, haddress, hlands', hi, harrived, -⟩ := h.sound.arrived_lands
  obtain rfl : n = stop := Int.ofNat_inj.mp (Value.int.inj (haddress.symm.trans h.address))
  obtain ⟨-, rfl⟩ := hlands.unique hlands'
  obtain rfl : i = .invalid raw := Option.some.inj (hi.symm.trans h.means)
  have hstays : c.race.arrived = c.race := by rw [harrived, ← h.address, ← h.current]
  have htick := tick_at_invalid eye h.sound (hstays ▸ h.current) (hstays ▸ h.address)
  rwa [hstays] at htick

/-- Steering costs a car. -/
theorem Held.steer (eye : Onlooker ω) (h : Held stop raw c) :
    Cabinet.steer eye.around c = .ok false (c.lost stop) :=
  steer_crashes eye h.address (by rw [Race.atJunction, h.current]; rfl)

theorem Held.noted (h : Held stop raw c) (level : Level) (message : String) :
    Held stop raw (c.raceNoted level message) :=
  { h with }

theorem Held.lost (h : Held stop raw c) : Held stop raw (c.lost stop) :=
  { h with sound := h.sound.crashed }

/-- A car that is held stays held, whatever is done with it. -/
theorem Held.stranded (eye : Onlooker ω) (h : Held stop raw c) : Stranded eye stop raw c := by
  intro moves
  induction moves generalizing c with
  | nil => exact ⟨c, rfl, h.address, h.current, rfl, rfl, rfl, h.tick eye⟩
  | cons move moves ih =>
    cases move with
    | tick =>
      obtain ⟨later, hrides, hlater⟩ := ih (h.noted .error (unlitText stop raw))
      refine ⟨later, ?_, hlater⟩
      rw [List.count_cons_of_ne (by decide)]
      simp only [rides, Act.bind_apply, h.tick eye, hrides]
    | steer =>
      obtain ⟨later, hrides, hlater⟩ := ih h.lost
      refine ⟨later, ?_, hlater⟩
      rw [List.count_cons_self, List.replicate_succ]
      simp only [rides, Act.bind_apply, h.steer eye, hrides, Act.pure_apply]

/-- A car that has come to an instruction that means nothing is held there. -/
theorem Arrives.stranded (hsound : c.race.Sound) (hcircuit : c.race.circuit = circuit)
    (h : Arrives circuit eye n c after) (hcurrent : after.race.current = .invalid raw) :
    ∃ stop, Stranded eye stop raw after := by
  cases h with
  | light => cases hcurrent
  | @invalid jumps stop raw' hlands hi =>
    obtain rfl : raw' = raw := Instruction.invalid.inj hcurrent
    refine ⟨stop, Held.stranded eye (Held.noted (c := c.carAt stop _) ⟨?_, ?_, rfl, rfl⟩ _ _)⟩
    · subst hcircuit
      exact { hsound with
        address := ⟨stop, rfl, (List.getElem?_eq_some_iff.mp hi).1⟩
        current := List.mem_of_getElem? hi }
    · exact hcircuit ▸ hi

/-! ## After any calls -/

/-- **A call comes to a stop where the circuit says.** A circuit of whole numbers that passes the
check can be put under a car, and whatever was asked of the race before, the next call succeeds.
Driving on follows the jumps from the address to their landing: a light is written to the digit
once and left, and where an instruction means nothing only an error is written down, and the car
is held there until a new game. Steering tells whether there was a junction. If there was, the car
is driven on in the same way from the branch, with one more point and one more step of speed. If
there was none, the car, the speed and the wait are all that changes. -/
theorem calls_arrive (eye : Onlooker ω) (hwhole : circuit.Whole)
    (hcheck : circuit.check = .ok ()) : ∃ race, Race.start circuit = .ok race ∧
      ∀ (c : Cabinet ω) (calls : List RaceCall), c.race = race →
        ∃ (before : Cabinet ω) (n : Nat),
          calls.forM (RaceCall.perform eye.around) c = .ok ⟨⟩ before ∧
          before.race.address = .int n ∧
          (∃ after, tick eye.around before = .ok ⟨⟩ after ∧
            Arrives circuit eye n before after ∧
            ∀ raw, after.race.current = .invalid raw → ∃ stop, Stranded eye stop raw after) ∧
          (before.race.atJunction = true → ∃ (branch : Nat) (after : Cabinet ω),
            before.race.current.branch = .int branch ∧
            steer eye.around before = .ok true after ∧
            Arrives circuit eye branch (before.crossed branch) after ∧
            ∀ raw, after.race.current = .invalid raw → ∃ stop, Stranded eye stop raw after) ∧
          (before.race.atJunction = false →
            steer eye.around before = .ok false (before.lost n)) := by
  obtain ⟨race, hstart⟩ := Race.exists_start hwhole hcheck
  refine ⟨race, hstart, ?_⟩
  rintro c calls rfl
  obtain ⟨hsound, hcircuit⟩ := Race.sound_of_start hwhole hstart
  obtain ⟨before, hcalls, hbefore, hsame⟩ := Race.forM_perform_sound eye calls c hsound
  have hon : before.race.circuit = circuit := hsame.trans hcircuit
  obtain ⟨n, haddress, -⟩ := hbefore.address
  refine ⟨before, n, hcalls, haddress, ?_, fun hjunction => ?_, steer_crashes eye haddress⟩
  · obtain ⟨after, htick, harrives⟩ := tick_arrives eye hbefore hon hcheck haddress
    exact ⟨after, htick, harrives, fun raw => harrives.stranded hbefore hon⟩
  · obtain ⟨branch, after, hbranch, hsteer, harrives⟩ :=
      steer_crosses eye hbefore hon hcheck hjunction
    have hcrossed := crossed_sound hbefore (hon ▸ harrives.lt_length)
    exact ⟨branch, after, hbranch, hsteer, harrives, fun raw => harrives.stranded hcrossed hon⟩

/-- A circuit whose only junction leads to an instruction that means nothing. -/
def deadEnd : Circuit := [Circuit.lit "a" 1, .invalid (.int 200)]

theorem calls_arrive_at_dead_end : Circuit.Whole deadEnd ∧ Circuit.check deadEnd = .ok () ∧
    ∃ race, Race.start deadEnd = .ok race ∧ ∃ before after : Cabinet Unit,
      [RaceCall.tick].forM (RaceCall.perform Onlooker.idle.around) (atRest race) =
        .ok ⟨⟩ before ∧
      steer Onlooker.idle.around before = .ok true after ∧
      Arrives deadEnd Onlooker.idle 1 (before.crossed 1) after ∧
      ∃ stop, Stranded Onlooker.idle stop (.int 200) after := by
  have hwhole : Circuit.Whole deadEnd := by
    constructor <;> simp [deadEnd, Circuit.lit]
  have hcheck : Circuit.check deadEnd = .ok () := rfl
  obtain ⟨race, hstart, hcalls⟩ := calls_arrive Onlooker.idle hwhole hcheck
  obtain ⟨before, n, hdone, -, -, hjunction, -⟩ := hcalls (atRest race) [.tick] rfl
  obtain rfl : race = ⟨deadEnd, .int 0, Circuit.lit "a" 1, 0, 0, 0, 25⟩ :=
    Except.ok.inj (hstart.symm.trans rfl)
  have hlit : before.race.current = Circuit.lit "a" 1 := by
    cases hdone
    rfl
  obtain ⟨branch, after, hbranch, hsteer, harrives, hstranded⟩ :=
    hjunction (by rw [Race.atJunction, hlit]; rfl)
  obtain rfl : branch = 1 := by
    rw [hlit] at hbranch
    exact (Int.ofNat_inj.mp (Value.int.inj hbranch)).symm
  refine ⟨hwhole, hcheck, _, hstart, before, after, hdone, hsteer, harrives, hstranded _ ?_⟩
  have hlands : Circuit.Lands deadEnd 1 0 1 := .held rfl fun _ h => by cases h
  cases harrives with
  | light hlands' hi =>
    obtain ⟨-, rfl⟩ := hlands.unique hlands'
    cases hi
  | invalid hlands' hi =>
    obtain ⟨-, rfl⟩ := hlands.unique hlands'
    cases hi
    rfl

end Cabinet

end DigitRace
