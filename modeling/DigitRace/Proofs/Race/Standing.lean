import DigitRace.Proofs.Cabinet.Carrying
import Mathlib.Data.List.DropRight

/-!
# What the player has

Score, cars, speed and wait of a race are what the history of the steering makes them: every
junction scores and speeds the car up, every crash costs a car and the speed, and driving on
changes nothing. The standing of a race is computed here from the speed at the beginning and
from what each steering came to, and every race that is ridden has this standing.
-/

namespace DigitRace

/-- What the player has of a race. -/
structure Standing where
  score : Nat
  cars : Nat
  speed : Nat
  wait : Int
  deriving DecidableEq

namespace Standing

/-- Junctions that were taken since the last crash, where `turns` says of each steering whether it
took a junction. -/
def streak (turns : List Bool) : Nat :=
  (turns.rtakeWhile id).length

/-- The speed that the streak builds on: the one at the beginning, cut to its range, and none after
a crash. -/
def base (start : Int) (turns : List Bool) : Nat :=
  if false ∈ turns then 0 else min start.toNat 255

/-- The speed after a history. -/
def speedAfter (start : Int) (turns : List Bool) : Nat :=
  min 255 (base start turns + streak turns)

/-- The standing after a history. -/
def after (start : Int) (turns : List Bool) : Standing where
  score := turns.count true
  cars := 3 - turns.count false
  speed := speedAfter start turns
  wait := Race.waitAt (speedAfter start turns)

/-- The standing after one more steering. -/
def turned (taken : Bool) (standing : Standing) : Standing :=
  if taken then
    { standing with
      score := standing.score + 1
      speed := min 255 (standing.speed + 1)
      wait := Race.waitAt (min 255 (standing.speed + 1) : Nat) }
  else { standing with cars := standing.cars - 1, speed := 0, wait := Race.waitAt 0 }

variable {start : Int} {turns : List Bool}

theorem speedAfter_taken :
    speedAfter start (turns ++ [true]) = min 255 (speedAfter start turns + 1) := by
  have hstreak : streak (turns ++ [true]) = streak turns + 1 := by
    rw [streak, List.rtakeWhile_concat_pos _ _ _ rfl, List.length_append, List.length_singleton,
      streak]
  have hbase : base start (turns ++ [true]) = base start turns := by simp [base]
  unfold speedAfter
  rw [hstreak, hbase]
  omega

theorem speedAfter_crashed : speedAfter start (turns ++ [false]) = 0 := by
  have hstreak : streak (turns ++ [false]) = 0 := by
    rw [streak, List.rtakeWhile_concat_neg _ _ _ Bool.false_ne_true, List.length_nil]
  simp [speedAfter, base, hstreak]

/-- The standing goes on with each steering. -/
theorem after_concat (taken : Bool) :
    after start (turns ++ [taken]) = (after start turns).turned taken := by
  cases taken with
  | true => simp [after, turned, speedAfter_taken]
  | false => simp [after, turned, speedAfter_crashed, Nat.sub_sub]

theorem after_nil : after start [] =
    ⟨0, 3, min start.toNat 255, Race.waitAt (min start.toNat 255 : Nat)⟩ := by
  have hspeed : speedAfter start [] = min start.toNat 255 := by
    simp [speedAfter, base, streak]
  rw [after, hspeed]
  rfl

/-- The speed does not drop as long as there is no crash. -/
theorem speedAfter_mono {turns' : List Bool} (h : false ∉ turns') :
    speedAfter start turns ≤ speedAfter start (turns ++ turns') := by
  induction turns' using List.reverseRecOn with
  | nil => simp
  | append_singleton front last ih =>
    obtain rfl : last = true := by
      cases last
      · simp at h
      · rfl
    have hfront : false ∉ front := fun hmem => h (List.mem_append_left _ hmem)
    have hle : speedAfter start (turns ++ front) ≤ 255 := Nat.min_le_left _ _
    rw [← List.append_assoc, speedAfter_taken]
    have := ih hfront
    omega

end Standing

namespace Race

/-- What the player has of this race. -/
def standing (race : Race) : Standing :=
  ⟨race.score, race.cars, race.speed, race.wait⟩

/-- The faster the car, the shorter it stays on a segment. -/
theorem waitAt_antitone {slow fast : Int} (h : slow ≤ fast) : waitAt fast ≤ waitAt slow := by
  unfold waitAt
  split_ifs <;> omega

variable {race race' : Race}

/-! ## One act -/

theorem fetch_standing (h : fetch race = .ok ⟨⟩ race') : race'.standing = race.standing := by
  cases hfetch : race.circuit.fetch race.address with
  | error => simp [fetch, hfetch] at h
  | ok i =>
    obtain rfl : { race with current := i } = race' := by simpa [fetch, hfetch] using h
    rfl

theorem follow_standing {limit : Nat} (h : follow limit race = .ok ⟨⟩ race') :
    race'.standing = race.standing := by
  induction limit generalizing race with
  | zero => simp [follow] at h
  | succ limit ih =>
    simp only [follow, Act.bind_apply, Act.get_apply] at h
    cases hcurrent : race.current with
    | jump target =>
      simp only [hcurrent, Act.bind_apply, Act.modify_apply] at h
      cases hfetch : fetch { race with address := target, current := .jump target } with
      | error => simp [hfetch] at h
      | ok _ next =>
        simp only [hfetch] at h
        exact (ih h).trans ((fetch_standing hfetch).trans rfl)
    | _ =>
      obtain rfl : race = race' := by simpa [hcurrent] using h
      rfl

theorem arrive_standing (h : arrive race = .ok ⟨⟩ race') : race'.standing = race.standing := by
  rw [arrive, Act.bind_apply] at h
  cases hfetch : fetch race with
  | error => simp [hfetch] at h
  | ok _ next =>
    simp only [hfetch, Act.bind_apply, Act.get_apply] at h
    exact (follow_standing h).trans (fetch_standing hfetch)

theorem pass_standing (race : Race) : race.pass.standing = race.standing := by
  unfold pass
  split <;> rfl

/-- Speeding up is counted up to the top speed, where the wait is that of the top speed already. -/
theorem faster_standing (race : Race) (hspeed : race.speed ≤ 255)
    (hwait : race.wait = waitAt race.speed) :
    race.faster.standing = { race.standing with
      speed := min 255 (race.speed + 1)
      wait := waitAt (min 255 (race.speed + 1) : Nat) } := by
  unfold faster topSpeed
  split
  · have htop : race.speed = 255 := by omega
    simp [standing, hwait, htop]
  · have hroom : min 255 (race.speed + 1) = race.speed + 1 := by omega
    simp [standing, withSpeed, hroom]

/-- Turning the wheel counts as what it comes to. -/
theorem turn_standing {taken : Bool} (hspeed : race.speed ≤ 255)
    (hwait : race.wait = waitAt race.speed) (h : turn race = .ok taken race') :
    race'.standing = race.standing.turned taken := by
  cases hjunction : race.current.isJunction with
  | true =>
    simp only [turn, Act.bind_apply, Act.get_apply, hjunction, if_true, Act.set_apply] at h
    let scored := { race with address := race.current.branch, score := race.score + 1 }
    have hfaster : scored.faster.standing = race.standing.turned true :=
      faster_standing scored hspeed hwait
    cases hfetch : fetch scored.faster with
    | error => simp [scored, hfetch] at h
    | ok _ next =>
      simp only [scored] at hfetch
      simp only [hfetch, Act.pure_apply, EStateM.Result.ok.injEq] at h
      obtain ⟨rfl, rfl⟩ := h
      exact (fetch_standing hfetch).trans hfaster
  | false =>
    simp only [turn, Act.bind_apply, Act.get_apply, hjunction, Bool.false_eq_true, if_false,
      Act.set_apply, Act.pure_apply, EStateM.Result.ok.injEq] at h
    obtain ⟨rfl, rfl⟩ := h
    rfl

/-- A game begins with all cars and at the speed that is given, cut to its range. -/
theorem reset_standing {speed : Int} (h : reset (.int speed) race = .ok ⟨⟩ race') :
    race'.standing = Standing.after speed [] := by
  simp only [reset, Act.bind_apply, Act.modify_apply, Value.whole_int, Act.lift_ok_apply] at h
  rw [fetch_standing h, Standing.after_nil]
  rfl

theorem Sound.restarted_score (h : race.Sound) (speed : Int) : (race.restarted speed).score = 0 :=
  congrArg Standing.score (reset_standing (h.reset_apply speed).1)

theorem Sound.driven_standing (h : race.Sound) : race.driven.standing = race.standing := by
  obtain ⟨-, hscore, hcars, hspeed, hwait⟩ := h.driven_keeps
  simp only [standing, hscore, hcars, hspeed, hwait]

/-- Steering counts as what it comes to. -/
theorem Sound.steered_standing (h : race.Sound) :
    race.steered.standing = race.standing.turned race.atJunction := by
  have hturned := turn_standing h.speed h.wait h.turn_apply
  unfold Race.steered
  split
  · rw [h.turned.driven_standing, hturned]
  · exact hturned

/-- A junction scores, and a crash does not. -/
theorem Sound.steered_score (h : race.Sound) :
    race.steered.score = race.score + if race.atJunction then 1 else 0 := by
  have hscore := congrArg Standing.score h.steered_standing
  cases hjunction : race.atJunction <;>
    simpa [hjunction, Standing.turned, standing] using hscore

end Race

/-! ## Rides -/

/-- What is done with the car during a game. -/
inductive Ride where
  | tick
  | steer
  deriving DecidableEq

namespace Cabinet

variable {ω : Type}

/-- Rides on. What each steering came to is told in turn. -/
def rides (around : Surroundings ω) : List Ride → Play ω (List Bool)
  | [] => return []
  | .tick :: rest => do
    tick around
    rides around rest
  | .steer :: rest => do
    let taken ← steer around
    return taken :: (← rides around rest)

variable {eye : Onlooker ω} {c c' : Cabinet ω} {start : Int} {before turns : List Bool}

/-- Driving on changes nothing of what the player has. -/
theorem tick_standing (h : tick eye.around c = .ok ⟨⟩ c') :
    c'.race.standing = c.race.standing := by
  simp only [tick, raceOf, Act.bind_apply, Act.run_apply] at h
  cases harrive : Race.arrive c.race with
  | error => simp [harrive] at h
  | ok _ held =>
    have hheld := Race.arrive_standing harrive
    simp only [harrive, Act.get_apply] at h
    cases hbar : held.bar? with
    | some bar =>
      obtain ⟨outside, hshow⟩ := showPattern_apply eye { c with race := held } bar
      simp only [hbar, Act.bind_apply, hshow, Act.update_apply, EStateM.Result.ok.injEq] at h
      rw [← h.2]
      exact held.pass_standing.trans hheld
    | none =>
      cases htext : addressText held.address with
      | error => simp [hbar, htext] at h
      | ok place =>
        simp only [hbar, Act.bind_apply, htext, Act.lift_ok_apply, note, Act.modify_apply,
          EStateM.Result.ok.injEq] at h
        rw [← h.2]
        exact hheld

/-- Steering changes what the player has as it turns out. -/
theorem steer_standing {taken : Bool} (hspeed : c.race.speed ≤ 255)
    (hwait : c.race.wait = Race.waitAt c.race.speed) (h : steer eye.around c = .ok taken c') :
    c'.race.standing = c.race.standing.turned taken := by
  simp only [steer, raceOf, Act.bind_apply, Act.run_apply] at h
  cases hturn : Race.turn c.race with
  | error => simp [hturn] at h
  | ok crossed steered =>
    have hsteered := Race.turn_standing hspeed hwait hturn
    simp only [hturn, Act.get_apply] at h
    cases htext : addressText steered.address with
    | error => simp [htext] at h
    | ok place =>
      cases crossed with
      | false =>
        simp only [htext, Act.lift_ok_apply, Bool.false_eq_true, if_false, note, Act.bind_apply,
          Act.modify_apply, Act.pure_apply, EStateM.Result.ok.injEq] at h
        obtain ⟨rfl, rfl⟩ := h
        exact hsteered
      | true =>
        simp only [htext, Act.lift_ok_apply, if_true, note, Act.bind_apply, Act.modify_apply] at h
        split at h
        · rename_i lit htick
          simp only [Act.pure_apply, EStateM.Result.ok.injEq] at h
          obtain ⟨rfl, rfl⟩ := h
          exact (tick_standing htick).trans hsteered
        · cases h

/-- Rides that come to their end continue the history. -/
theorem rides_standing {moves : List Ride} (hc : c.race.standing = .after start before)
    (h : rides eye.around moves c = .ok turns c') :
    c'.race.standing = .after start (before ++ turns) := by
  induction moves generalizing c before turns with
  | nil =>
    obtain ⟨rfl, rfl⟩ : turns = [] ∧ c' = c := by simpa [rides, eq_comm] using h
    rw [List.append_nil]
    exact hc
  | cons move moves ih =>
    cases move with
    | tick =>
      rw [rides, Act.bind_apply] at h
      cases htick : tick eye.around c with
      | error => simp [htick] at h
      | ok _ next =>
        simp only [htick] at h
        exact ih ((tick_standing htick).trans hc) h
    | steer =>
      rw [rides, Act.bind_apply] at h
      cases hsteer : steer eye.around c with
      | error => simp [hsteer] at h
      | ok taken next =>
        simp only [hsteer, Act.bind_apply] at h
        cases hrest : rides eye.around moves next with
        | error => simp [hrest] at h
        | ok rest last =>
          simp only [hrest, Act.pure_apply, EStateM.Result.ok.injEq] at h
          obtain ⟨rfl, rfl⟩ := h
          have hspeed : c.race.speed = Standing.speedAfter start before :=
            congrArg Standing.speed hc
          have hwait : c.race.wait = Race.waitAt (Standing.speedAfter start before) :=
            congrArg Standing.wait hc
          have hnext := steer_standing (hspeed.le.trans (Nat.min_le_left _ _))
            (by rw [hwait, hspeed]) hsteer
          rw [hc, ← Standing.after_concat] at hnext
          have hall := ih hnext hrest
          rwa [List.append_assoc] at hall

/-- On a circuit that can be driven, every ride comes to its end. -/
theorem rides_succeed (eye : Onlooker ω) (moves : List Ride) (hsound : c.race.Sound) :
    ∃ turns after, rides eye.around moves c = .ok turns after := by
  induction moves generalizing c with
  | nil => exact ⟨[], c, rfl⟩
  | cons move moves ih =>
    cases move with
    | tick =>
      obtain ⟨outside, htick⟩ := tick_apply eye c hsound
      obtain ⟨turns, after, hrest⟩ := ih (c := c.ticked outside) hsound.driven
      exact ⟨turns, after, by simp only [rides, Act.bind_apply, htick, hrest]⟩
    | steer =>
      obtain ⟨outside, hsteer⟩ := steer_apply eye c hsound
      obtain ⟨turns, after, hrest⟩ := ih (c := c.steered outside) hsound.steered
      exact ⟨c.race.atJunction :: turns, after, by
        simp only [rides, Act.bind_apply, hsteer, hrest, Act.pure_apply]⟩

/-- **What the player has is a closed form of the history.** On a circuit that passes the check a
game can be begun at any speed. Whatever rides follow and come to their end, the score is the
number of junctions taken, a car is gone for each crash until none is left, and the game is over
from the third crash on. The speed is that of the beginning, cut to its range, or none after a
crash, and one more for each junction since the last crash, up to 255. The wait is the one of that
speed: it is 25 after a crash and does not grow until the next. Driving on changes none of this. If
all targets are whole numbers, every ride comes to its end. -/
theorem standing_of_history (eye : Onlooker ω) {circuit : Circuit} (hcheck : circuit.check = .ok ())
    (c : Cabinet ω) (hcircuit : c.race.circuit = circuit) (start : Int) :
    ∃ begun, resetRace (.int start) c = .ok ⟨⟩ begun ∧
      (circuit.Whole → ∀ moves, ∃ turns after, rides eye.around moves begun = .ok turns after) ∧
      ∀ moves turns after, rides eye.around moves begun = .ok turns after →
        after.race.score = turns.count true ∧
        after.race.cars = 3 - turns.count false ∧
        (after.race.isOver = true ↔ 3 ≤ turns.count false) ∧
        after.race.speed = min 255 ((if false ∈ turns then 0 else min start.toNat 255) +
          (turns.rtakeWhile id).length) ∧
        after.race.wait = Race.waitAt after.race.speed ∧
        (turns.getLast? = some false → after.race.wait = 25) ∧
        (∀ later, tick eye.around after = .ok ⟨⟩ later →
          later.race.standing = after.race.standing) ∧
        ∀ more turns' later, rides eye.around more after = .ok turns' later →
          false ∉ turns' → later.race.wait ≤ after.race.wait := by
  subst hcircuit
  have hpos := Circuit.length_pos_of_check hcheck
  have hreset := Race.reset_succeeds hpos start
  have hbegun : resetRace (.int start) c = .ok ⟨⟩ (c.restarted start) := by
    simp [resetRace, raceOf, restarted, hreset]
  have hfirst : (c.restarted start).race.standing = .after start [] := Race.reset_standing hreset
  refine ⟨c.restarted start, hbegun, ?_, ?_⟩
  · intro hwhole moves
    have hdrivable := Circuit.drivable_of_check hwhole hcheck
    exact rides_succeed eye moves (Race.restarted_sound hdrivable start).1
  · intro moves turns after hrides
    have hafter : after.race.standing = .after start turns := rides_standing hfirst hrides
    have hscore : after.race.score = turns.count true := congrArg Standing.score hafter
    have hcars : after.race.cars = 3 - turns.count false := congrArg Standing.cars hafter
    have hspeed : after.race.speed = Standing.speedAfter start turns :=
      congrArg Standing.speed hafter
    have hwait : after.race.wait = Race.waitAt (Standing.speedAfter start turns) :=
      congrArg Standing.wait hafter
    refine ⟨hscore, hcars, ?_, hspeed, hwait.trans (by rw [hspeed]), ?_, ?_, ?_⟩
    · rw [Race.isOver, hcars, beq_iff_eq]
      omega
    · intro hlast
      obtain ⟨front, rfl⟩ := List.getLast?_eq_some_iff.mp hlast
      rw [hwait, Standing.speedAfter_crashed]
      rfl
    · intro later htick
      exact tick_standing htick
    · intro more turns' later hmore hsafe
      have hlater : later.race.wait = Race.waitAt (Standing.speedAfter start (turns ++ turns')) :=
        congrArg Standing.wait (rides_standing hafter hmore)
      rw [hlater, hwait]
      exact Race.waitAt_antitone (by exact_mod_cast Standing.speedAfter_mono hsafe)

/-- What each steering of a ride comes to, up to its first fault. -/
private def turnsOf (around : Surroundings ω) (moves : List Ride) (c : Cabinet ω) : List Bool :=
  match rides around moves c with
  | .ok turns _ => turns
  | .error _ _ => []

/-- On the track, a game that begins at speed 300 with a junction, a crash and a junction has two
points, two cars and speed 1. -/
theorem standing_of_history_on_track : ∃ begun after : Cabinet Unit,
    resetRace (.int 300) (atRest .onTrack) = .ok ⟨⟩ begun ∧
      rides Onlooker.idle.around [.tick, .steer, .steer, .tick, .tick, .tick, .steer] begun =
        .ok [true, false, true] after ∧
      after.race.score = 2 ∧ after.race.cars = 2 ∧ after.race.speed = 1 ∧ after.race.wait = 25 := by
  have hcheck : Circuit.track.check = .ok () := rfl
  obtain ⟨begun, hbegun, hsucceed, hstanding⟩ :=
    standing_of_history Onlooker.idle hcheck (atRest .onTrack) rfl 300
  obtain ⟨turns, after, hrides⟩ :=
    hsucceed Circuit.track_whole [.tick, .steer, .steer, .tick, .tick, .tick, .steer]
  have hfirst : begun = (atRest .onTrack).restarted 300 :=
    (EStateM.Result.ok.inj (hbegun.symm.trans rfl)).2
  have hturns : turnsOf Onlooker.idle.around [.tick, .steer, .steer, .tick, .tick, .tick, .steer]
      ((atRest .onTrack).restarted 300) = [true, false, true] := by decide +kernel
  obtain rfl : turns = [true, false, true] := by
    rw [← hturns, ← hfirst, turnsOf, hrides]
  obtain ⟨hscore, hcars, -, hspeed, hwait, -⟩ := hstanding _ _ after hrides
  refine ⟨begun, after, hbegun, hrides, hscore, hcars, hspeed, ?_⟩
  rw [hwait, hspeed]
  rfl

end Cabinet

end DigitRace
