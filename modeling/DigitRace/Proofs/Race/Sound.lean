import DigitRace.Proofs.Acts
import DigitRace.Proofs.Circuit.Landing
import DigitRace.Race

/-!
# Sound races

A race is sound if it runs on a drivable circuit, the car is within it, and the cars, the
speed and the wait are in their ranges. A sound race stays sound whatever is done with it,
and nothing that is done with it fails: driving on, steering and beginning anew are
functions from races to races.
-/

namespace DigitRace.Race

/-- What holds of a race at all times. -/
structure Sound (race : Race) : Prop where
  drivable : race.circuit.Drivable
  /-- The next instruction is fetched from within the circuit. -/
  address : ∃ n : Nat, race.address = .int n ∧ n < race.circuit.length
  current : race.current ∈ race.circuit
  cars : race.cars ≤ fleet
  speed : race.speed ≤ topSpeed
  wait : race.wait = waitAt race.speed

/-- The race once the car has come to the next instruction that holds it. -/
def arrived (race : Race) : Race :=
  (Act.result arrive race).2

/-- The race once the car was driven on: it has left the segment that is lit, or stays where
nothing is lit. -/
def driven (race : Race) : Race :=
  if race.arrived.bar?.isSome then race.arrived.pass else race.arrived

/-- The race once the wheel was turned: at the branch of a junction, or a crash elsewhere. -/
def turned (race : Race) : Race :=
  (Act.result turn race).2

/-- The race once the car was steered. At a junction it is driven on from the branch, and elsewhere
it is lost. -/
def steered (race : Race) : Race :=
  if race.atJunction then race.turned.driven else race.turned

/-- The race at the beginning of a game. -/
def restarted (speed : Int) (race : Race) : Race :=
  (Act.result (reset (.int speed)) race).2

variable {race : Race}

/-- The wait is between 2 and 25 ticks. -/
theorem waitAt_bounds (speed : Nat) : 2 ≤ waitAt speed ∧ waitAt speed ≤ 25 := by
  unfold waitAt
  split
  · omega
  · split <;> omega

/-! ## Driving -/

theorem fetch_apply {n : Nat} {i : Instruction} (haddress : race.address = .int n)
    (hi : race.circuit[n]? = some i) : fetch race = .ok ⟨⟩ { race with current := i } := by
  obtain ⟨hn, rfl⟩ := List.getElem?_eq_some_iff.mp hi
  simp [fetch, haddress, Circuit.fetch_natCast hn]

/-- Jumps are followed to their landing if the limit exceeds their number. -/
theorem follow_apply {circuit : Circuit} {n jumps stop limit : Nat} {i : Instruction}
    (hlands : circuit.Lands n jumps stop) (hi : circuit[stop]? = some i)
    (hcircuit : race.circuit = circuit) (haddress : race.address = .int n)
    (hcurrent : circuit[n]? = some race.current) (hlimit : jumps < limit) :
    follow limit race = .ok ⟨⟩ { race with address := .int stop, current := i } := by
  induction hlands generalizing race limit with
  | @held n j hj hholds =>
    obtain ⟨limit, rfl⟩ : ∃ k, limit = k + 1 := ⟨limit - 1, by omega⟩
    have hcurrent' : race.current = i := Option.some.inj (hcurrent.symm.trans hi)
    have hholds' : race.current.Holds := by
      rwa [Option.some.inj (hcurrent.symm.trans hj)]
    have hsame : { race with address := .int (n : Int), current := i } = race := by
      rw [← haddress, ← hcurrent']
    rw [hsame]
    cases hkind : race.current with
    | jump target => exact absurd hkind (hholds' _)
    | _ => simp [follow, hkind]
  | @jump n target jumps stop hj hrest ih =>
    obtain ⟨limit, rfl⟩ : ∃ k, limit = k + 1 := ⟨limit - 1, by omega⟩
    have hjump : race.current = .jump (.int target) := Option.some.inj (hcurrent.symm.trans hj)
    have hlt := hrest.lt_length
    have htarget := List.getElem?_eq_getElem hlt
    let sent := { race with address := .int target, current := circuit[target] }
    have hfetch : fetch { race with address := .int target } = .ok ⟨⟩ sent :=
      fetch_apply rfl (by rw [← htarget, hcircuit])
    have hlimit' : jumps < limit := by omega
    have hgo : follow limit sent = .ok ⟨⟩ { sent with address := .int stop, current := i } :=
      ih hi hcircuit rfl htarget hlimit'
    rw [hjump] at hfetch
    simp only [follow, Act.bind_apply, Act.get_apply, hjump, Act.modify_apply, hfetch]
    exact hgo

/-- From a sound race the car arrives at the landing of its address. -/
theorem Sound.arrive_lands (h : race.Sound) : ∃ n jumps stop i,
    race.address = .int (n : Nat) ∧ race.circuit.Lands n jumps stop ∧
      race.circuit[stop]? = some i ∧
      ∀ limit, jumps < limit → (do fetch; follow limit : Act Race Unit) race =
        .ok ⟨⟩ { race with address := .int stop, current := i } := by
  obtain ⟨n, haddress, hn⟩ := h.address
  obtain ⟨jumps, stop, hlands⟩ := h.drivable.lands hn
  obtain ⟨i, hi, -⟩ := hlands.stop_holds
  refine ⟨n, jumps, stop, i, haddress, hlands, hi, fun limit hlimit => ?_⟩
  have hcurrent := List.getElem?_eq_getElem hn
  rw [Act.bind_apply, fetch_apply haddress hcurrent]
  exact follow_apply hlands hi rfl haddress hcurrent hlimit

/-- Driving on from the address comes to its end within `limit` instructions, the one that holds
the car counted. -/
def HeldWithin (limit : Nat) (race : Race) : Prop :=
  ∃ held, (do fetch; follow limit : Act Race Unit) race = .ok ⟨⟩ held ∧ arrive race = .ok ⟨⟩ held

theorem Sound.heldWithin (h : race.Sound) : race.HeldWithin race.circuit.length := by
  obtain ⟨n, jumps, stop, i, -, hlands, -, hgo⟩ := h.arrive_lands
  have hjumps := hlands.jumps_lt_length
  refine ⟨_, hgo _ hjumps, ?_⟩
  have hmore := hgo (race.circuit.length + 2) (by omega)
  obtain ⟨m, haddress, hm⟩ := h.address
  rw [Act.bind_apply, fetch_apply haddress (List.getElem?_eq_getElem hm)] at hmore
  rw [arrive, Act.bind_apply, fetch_apply haddress (List.getElem?_eq_getElem hm)]
  exact hmore

/-- Arriving moves the car to the landing of its address, and changes nothing else. -/
theorem Sound.arrived_lands (h : race.Sound) : ∃ (n jumps stop : Nat) (i : Instruction),
    race.address = .int n ∧ race.circuit.Lands n jumps stop ∧ race.circuit[stop]? = some i ∧
      race.arrived = { race with address := .int stop, current := i } ∧
        arrive race = .ok ⟨⟩ race.arrived := by
  obtain ⟨n, jumps, stop, i, haddress, hlands, hi, hgo⟩ := h.arrive_lands
  obtain ⟨held, hheld, harrive⟩ := h.heldWithin
  rw [hgo _ hlands.jumps_lt_length, EStateM.Result.ok.injEq] at hheld
  obtain ⟨-, rfl⟩ := hheld
  have harrived : race.arrived = { race with address := .int stop, current := i } := by
    rw [arrived, Act.result_of_ok harrive]
  exact ⟨n, jumps, stop, i, haddress, hlands, hi, harrived, by rw [harrived, harrive]⟩

/-- Arriving moves the car to an instruction that holds it, and changes nothing else. -/
theorem Sound.arrived_eq (h : race.Sound) : ∃ (stop : Nat) (i : Instruction),
    race.circuit[stop]? = some i ∧ race.arrived = { race with address := .int stop, current := i } ∧
      arrive race = .ok ⟨⟩ race.arrived := by
  obtain ⟨n, jumps, stop, i, -, -, h⟩ := h.arrived_lands
  exact ⟨stop, i, h⟩

theorem Sound.arrive_apply (h : race.Sound) : arrive race = .ok ⟨⟩ race.arrived := by
  obtain ⟨_, _, _, _, harrive⟩ := h.arrived_eq
  exact harrive

theorem Sound.arrived (h : race.Sound) : race.arrived.Sound := by
  obtain ⟨stop, i, hi, harrived, -⟩ := h.arrived_eq
  rw [harrived]
  exact { h with
    address := ⟨stop, rfl, (List.getElem?_eq_some_iff.mp hi).1⟩
    current := List.mem_of_getElem? hi }

theorem Sound.arrived_cars (h : race.Sound) : race.arrived.cars = race.cars := by
  obtain ⟨stop, i, -, harrived, -⟩ := h.arrived_eq
  rw [harrived]

/-- Driving on keeps all that the player has, and the circuit. -/
theorem Sound.driven_keeps (h : race.Sound) : race.driven.circuit = race.circuit ∧
    race.driven.score = race.score ∧ race.driven.cars = race.cars ∧
      race.driven.speed = race.speed ∧ race.driven.wait = race.wait := by
  obtain ⟨stop, i, -, harrived, -⟩ := h.arrived_eq
  unfold driven pass
  split <;> simp [harrived]

@[simp] theorem Sound.driven_cars (h : race.Sound) : race.driven.cars = race.cars :=
  h.driven_keeps.2.2.1

/-- A race that lights a bar stands at a light. -/
theorem light_of_bar? {bar : String} (h : race.bar? = some bar) :
    ∃ branch, race.current = .light (.text bar) branch := by
  unfold bar? at h
  split at h
  · rename_i segment branch hcurrent
    split at h
    · obtain rfl : segment = bar := by simpa using h
      exact ⟨branch, hcurrent⟩
    · cases h
  · cases h

/-- Driving on keeps a race sound: a light that is left has a successor. -/
theorem Sound.driven (h : race.Sound) : race.driven.Sound := by
  unfold Race.driven
  split
  · rename_i hbar
    obtain ⟨bar, hbar⟩ := Option.isSome_iff_exists.mp hbar
    obtain ⟨branch, hlight⟩ := light_of_bar? hbar
    obtain ⟨stop, i, hi, harrived, -⟩ := h.arrived_eq
    have hcurrent : i = .light (.text bar) branch := by simpa [harrived] using hlight
    obtain ⟨-, hnext, -⟩ := h.drivable.light (hi.trans (congrArg some hcurrent))
    have haddress : race.arrived.address = .int stop := by rw [harrived]
    have hpass : race.arrived.pass = { race.arrived with address := .int (stop + 1 : Nat) } := by
      simp [pass, haddress]
    rw [hpass]
    exact { h.arrived with
      address := ⟨stop + 1, rfl, by rw [harrived]; exact hnext⟩ }
  · exact h.arrived

/-! ## Steering and beginning -/

theorem faster_keeps (race : Race) : race.faster.circuit = race.circuit ∧
    race.faster.address = race.address ∧ race.faster.current = race.current ∧
      race.faster.score = race.score ∧ race.faster.cars = race.cars := by
  unfold faster
  split <;> simp [withSpeed]

/-- The speed grows by one up to the top speed, and the wait goes with it. -/
theorem Sound.faster (h : race.Sound) : race.faster.Sound := by
  unfold Race.faster
  split
  · exact h
  · exact { h with
      speed := by simp only [withSpeed]; omega
      wait := rfl }

theorem Sound.crashed (h : race.Sound) : race.crashed.Sound :=
  { h with
    cars := Nat.le_trans (Nat.sub_le _ _) h.cars
    speed := Nat.zero_le _
    wait := rfl }

/-- At a junction the car goes to the branch and keeps its driver. -/
theorem Sound.turn_junction (h : race.Sound) (hjunction : race.atJunction = true) :
    turn race = .ok true race.turned ∧ race.turned.Sound ∧
      race.turned.circuit = race.circuit ∧ race.turned.cars = race.cars ∧
        race.turned.address = race.current.branch := by
  obtain ⟨n, hn⟩ := List.mem_iff_getElem?.mp h.current
  have hlight : ∃ segment branch, race.current = .light segment branch := by
    unfold atJunction Instruction.isJunction Instruction.branch at hjunction
    split at hjunction
    · exact ⟨_, _, ‹_›⟩
    · simp at hjunction
  obtain ⟨segment, branch, hlight⟩ := hlight
  obtain ⟨-, -, m, rfl, hm⟩ := h.drivable.light (hn.trans (congrArg some hlight))
  let fast := { race with address := .int m, score := race.score + 1 }.faster
  have hfast := faster_keeps { race with address := .int m, score := race.score + 1 }
  have hsound : fast.Sound :=
    Sound.faster { h with address := ⟨m, rfl, hm⟩ }
  have hfetch : fetch fast = .ok ⟨⟩ { fast with current := race.circuit[m] } :=
    fetch_apply hfast.2.1 (by rw [hfast.1]; exact List.getElem?_eq_getElem hm)
  have hturn : turn race = .ok true { fast with current := race.circuit[m] } := by
    have hbranch : race.current.branch = .int m := by rw [hlight]; rfl
    have hjunction' : race.current.isJunction = true := hjunction
    simp only [turn, Act.bind_apply, Act.get_apply, hjunction', if_true, hbranch, Act.set_apply]
    rw [hfetch]
    rfl
  have hturned : race.turned = { fast with current := race.circuit[m] } := by
    rw [turned, Act.result_of_ok hturn]
  rw [hturned]
  refine ⟨hturn, ?_, hfast.1, hfast.2.2.2.2, by rw [hlight]; exact hfast.2.1⟩
  · have hmem : race.circuit[m] ∈ fast.circuit := by
      rw [hfast.1]
      exact List.getElem_mem hm
    exact { hsound with current := hmem }

/-- Where there is no junction, a car is lost. -/
theorem turn_crash (hplain : race.atJunction = false) :
    turn race = .ok false race.turned ∧ race.turned = race.crashed := by
  have hplain' : race.current.isJunction = false := hplain
  have hturn : turn race = .ok false race.crashed := by simp [turn, hplain']
  have hturned : race.turned = race.crashed := by rw [turned, Act.result_of_ok hturn]
  exact ⟨by rw [hturned, hturn], hturned⟩

/-- Turning the wheel tells whether there was a junction. -/
theorem Sound.turn_apply (h : race.Sound) : turn race = .ok race.atJunction race.turned := by
  cases hjunction : race.atJunction with
  | true => exact (h.turn_junction hjunction).1
  | false => exact (turn_crash hjunction).1

theorem Sound.turned (h : race.Sound) : race.turned.Sound := by
  cases hjunction : race.atJunction with
  | true => exact (h.turn_junction hjunction).2.1
  | false =>
    rw [(turn_crash hjunction).2]
    exact h.crashed

theorem Sound.steered (h : race.Sound) : race.steered.Sound := by
  unfold Race.steered
  split
  · exact h.turned.driven
  · exact h.turned

theorem Sound.steered_circuit (h : race.Sound) : race.steered.circuit = race.circuit := by
  unfold Race.steered
  cases hjunction : race.atJunction with
  | true =>
    simp only [if_true]
    rw [h.turned.driven_keeps.1, (h.turn_junction hjunction).2.2.1]
  | false =>
    rw [(turn_crash hjunction).2]
    rfl

/-- Steering keeps the cars at a junction and costs one elsewhere. -/
theorem Sound.steered_cars (h : race.Sound) :
    race.steered.cars = if race.atJunction then race.cars else race.cars - 1 := by
  unfold Race.steered
  cases hjunction : race.atJunction with
  | true =>
    simp only [if_true]
    rw [h.turned.driven_cars, (h.turn_junction hjunction).2.2.2.1]
  | false =>
    rw [(turn_crash hjunction).2]
    rfl

/-- The race at the first instruction of its circuit, with all cars and a speed. -/
private def atFirst (speed : Nat) (first : Instruction) (race : Race) : Race :=
  { { race with score := 0, cars := fleet }.withSpeed speed with
    address := .int 0, current := first }

/-- A game begins at the first address with all cars, at the speed cut to its range. -/
private theorem restarted_eq (hpos : 0 < race.circuit.length) (speed : Int) :
    reset (.int speed) race = .ok ⟨⟩ (race.restarted speed) ∧
      race.restarted speed = race.atFirst (min speed.toNat topSpeed) race.circuit[0] := by
  let begun := { { race with score := 0, cars := fleet }.withSpeed (min speed.toNat topSpeed) with
    address := .int 0 }
  have hfetch : fetch begun = .ok ⟨⟩ { begun with current := race.circuit[0] } :=
    fetch_apply (n := 0) rfl (List.getElem?_eq_getElem hpos)
  have hreset : reset (.int speed) race =
      .ok ⟨⟩ { begun with current := race.circuit[0] } := by
    simp only [reset, Act.bind_apply, Act.modify_apply, Value.whole_int, Act.lift_ok_apply]
    exact hfetch
  have hrestarted : race.restarted speed = { begun with current := race.circuit[0] } := by
    rw [restarted, Act.result_of_ok hreset]
  exact ⟨by rw [hrestarted, hreset], hrestarted⟩

/-- Beginning a game succeeds wherever there is a first instruction. -/
theorem reset_succeeds (hpos : 0 < race.circuit.length) (speed : Int) :
    reset (.int speed) race = .ok ⟨⟩ (race.restarted speed) :=
  (restarted_eq hpos speed).1

/-- A game begins in the same way on the same circuit, whatever was before. -/
theorem restarted_congr {other : Race} (hcircuit : other.circuit = race.circuit)
    (hpos : 0 < race.circuit.length) (speed : Int) :
    other.restarted speed = race.restarted speed := by
  have hpos' : 0 < other.circuit.length := hcircuit ▸ hpos
  rw [(restarted_eq hpos speed).2, (restarted_eq hpos' speed).2]
  simp only [atFirst, withSpeed, hcircuit]

/-- On a circuit that can be driven, a game begins sound, whatever was before. -/
theorem restarted_sound (hdrivable : race.circuit.Drivable) (speed : Int) :
    (race.restarted speed).Sound ∧ (race.restarted speed).circuit = race.circuit ∧
      (race.restarted speed).cars = fleet := by
  have hpos := hdrivable.pos
  rw [(restarted_eq hpos speed).2]
  refine ⟨?_, rfl, rfl⟩
  exact {
    drivable := hdrivable
    address := ⟨0, rfl, hpos⟩
    current := List.getElem_mem hpos
    cars := Nat.le_refl _
    speed := Nat.min_le_right _ _
    wait := rfl }

/-- A sound race begins a game and is sound then. -/
theorem Sound.reset_apply (h : race.Sound) (speed : Int) :
    reset (.int speed) race = .ok ⟨⟩ (race.restarted speed) ∧ (race.restarted speed).Sound ∧
      (race.restarted speed).circuit = race.circuit ∧ (race.restarted speed).cars = fleet :=
  ⟨reset_succeeds h.drivable.pos speed, restarted_sound h.drivable speed⟩

/-- On a circuit that passes the check a race can start, and it starts sound. -/
theorem exists_start {circuit : Circuit} (hwhole : circuit.Whole)
    (hcheck : circuit.check = .ok ()) : ∃ race, start circuit = .ok race := by
  have hdrivable := Circuit.drivable_of_check hwhole hcheck
  have hpos := hdrivable.pos
  have hfirst : circuit.fetch (.int 0) = .ok circuit[0] := Circuit.fetch_natCast (n := 0) hpos
  exact ⟨_, by simp only [start, hcheck, hfirst, bind, Except.bind]; rfl⟩

theorem sound_of_start {circuit : Circuit} (hwhole : circuit.Whole)
    (h : start circuit = .ok race) : race.Sound ∧ race.circuit = circuit := by
  cases hcheck : circuit.check with
  | error => simp [start, hcheck, bind, Except.bind] at h
  | ok =>
    have hdrivable := Circuit.drivable_of_check hwhole hcheck
    have hpos := hdrivable.pos
    have hfirst : circuit.fetch (.int 0) = .ok circuit[0] := Circuit.fetch_natCast (n := 0) hpos
    simp only [start, hcheck, hfirst, bind, Except.bind, pure, Except.pure, Except.ok.injEq] at h
    subst h
    exact ⟨{
      drivable := hdrivable
      address := ⟨0, rfl, hdrivable.pos⟩
      current := List.getElem_mem hdrivable.pos
      cars := Nat.zero_le _
      speed := Nat.zero_le _
      wait := rfl }, rfl⟩

/-- A race at the start of the track. -/
def onTrack : Race where
  circuit := Circuit.track
  address := .int 0
  current := Circuit.lit "b" 7

theorem onTrack_sound : onTrack.Sound :=
  (sound_of_start Circuit.track_whole (rfl : start Circuit.track = .ok onTrack)).1

end DigitRace.Race
