import DigitRace.Proofs.Guise.Basic
import DigitRace.Proofs.Race.Sound
import Mathlib.Tactic.Ring

/-!
# Devices in another guise

The countdown, the digit, the key and the race do in another guise what they do in the first.
Deadlines keep their order by another clock, and a number of ticks takes a time that is scaled like
all others.
-/

namespace DigitRace.Guise

open Cabinet

variable {ω : Type} {g : Guise ω}

/-! ## Times -/

theorem time_lt_iff {s t : Rat} : g.time s < g.time t ↔ s < t := by
  unfold time
  rw [add_lt_add_iff_right, mul_lt_mul_iff_right₀ g.scale_pos]

theorem time_le_iff {s t : Rat} : g.time s ≤ g.time t ↔ s ≤ t := by
  rw [← not_lt, ← not_lt, time_lt_iff]

theorem time_add (t span : Rat) : g.time (t + span) = g.time t + g.scale * span := by
  unfold time
  ring

theorem rate_ne_zero : g.rate ≠ 0 := by
  intro h
  have hscale := g.scale_rate
  rw [h, Int.cast_zero, mul_zero] at hscale
  exact g.pace_ne_zero (Int.cast_eq_zero.1 hscale.symm)

/-- A number of ticks takes a time that is scaled. -/
theorem span_eq (n : Rat) : n / (g.rate : Rat) = g.scale * (n / (g.pace : Rat)) := by
  have hscale : g.scale ≠ 0 := g.scale_pos.ne'
  have hrate : (g.rate : Rat) ≠ 0 := Int.cast_ne_zero.2 g.rate_ne_zero
  rw [← g.scale_rate]
  field_simp

theorem delay_eq {n : Nat} (h : Decimal.overflowBound * g.pace.natAbs ≤ n ↔
    Decimal.overflowBound * g.rate.natAbs ≤ n) :
    Timer.delay n g.rate = (Timer.delay n g.pace).map (g.scale * ·) := by
  unfold Timer.delay
  rw [if_neg g.rate_ne_zero, if_neg g.pace_ne_zero]
  by_cases hroom : Decimal.overflowBound * g.pace.natAbs ≤ n
  · rw [if_pos hroom, if_pos (h.1 hroom)]
    rfl
  · rw [if_neg hroom, if_neg fun hother => hroom (h.2 hother), span_eq]
    rfl

/-- Up to 50 ticks can be waited for at every rate. -/
theorem reaches_small {n : Int} (h : n ≤ 50) : g.Reaches (.int n) := by
  rintro m ⟨⟩
  have hbound : 50 < Decimal.overflowBound := by decide +kernel
  have hpace : Decimal.overflowBound * 1 ≤ Decimal.overflowBound * g.pace.natAbs :=
    Nat.mul_le_mul_left _ (Int.natAbs_pos.2 g.pace_ne_zero)
  have hrate : Decimal.overflowBound * 1 ≤ Decimal.overflowBound * g.rate.natAbs :=
    Nat.mul_le_mul_left _ (Int.natAbs_pos.2 g.rate_ne_zero)
  constructor <;> intro <;> omega

/-! ## The agenda -/

theorem map_place (d : Deadline Call) (deadlines : List (Deadline Call)) :
    (Agenda.place d deadlines).map g.deadline =
      Agenda.place (g.deadline d) (deadlines.map g.deadline) := by
  induction deadlines with
  | nil => rfl
  | cons first rest ih =>
    simp only [Agenda.place, List.map_cons, deadline, time_lt_iff]
    split
    · rfl
    · exact congrArg (g.deadline first :: ·) ih

theorem agenda_callLater (a : Agenda Call) (pause : Rat) (call : Call) :
    (g.agenda a).callLater (g.scale * pause) call = g.agenda (a.callLater pause call) := by
  have hsign : g.scale * pause < 0 ↔ pause < 0 := by
    rw [← not_le, ← not_le, mul_nonneg_iff_of_pos_left g.scale_pos]
  have hdue : g.time a.now + (if g.scale * pause < 0 then 0 else g.scale * pause) =
      g.time (a.now + if pause < 0 then 0 else pause) := by
    rw [time_add]
    simp only [hsign]
    split <;> simp
  simp only [Agenda.callLater, agenda, hdue, map_place, deadline]
  simp only [Nat.add_right_comm]

theorem agenda_cancel (a : Agenda Call) (number : Nat) :
    (g.agenda a).cancel (number + g.issued) = g.agenda (a.cancel number) := by
  simp only [Agenda.cancel, agenda, List.filter_map]
  congr 2
  refine List.filter_congr fun d _ => ?_
  rw [Bool.eq_iff_iff]
  simp [deadline]

theorem agenda_next? (a : Agenda Call) (horizon : Rat) :
    (g.agenda a).next? (g.time horizon) =
      (a.next? horizon).map fun next => (next.1, g.agenda next.2) := by
  unfold Agenda.next?
  cases hready : a.ready with
  | cons call rest => simp [agenda, hready]
  | nil =>
    cases hdeadlines : a.deadlines with
    | nil => simp [agenda, hready, hdeadlines]
    | cons d rest =>
      simp only [agenda, hready, hdeadlines, List.map_cons, deadline, time_le_iff]
      split <;> simp

theorem agenda_overdue? (a : Agenda Call) :
    (g.agenda a).overdue? = a.overdue?.map fun next => (next.1, g.agenda next.2) := by
  unfold Agenda.overdue?
  cases hdeadlines : a.deadlines with
  | nil => simp [agenda, hdeadlines]
  | cons d rest =>
    simp only [agenda, hdeadlines, List.map_cons, deadline, time_le_iff]
    split <;> simp

/-! ## The timer -/

/-- The cabinet whose countdown was called off without telling anyone. -/
def disarmed (c : Cabinet ω) : Cabinet ω :=
  { c with
    timer := { c.timer with handle := none, elapsed := false }
    agenda := match c.timer.handle with
      | some number => c.agenda.cancel number
      | none => c.agenda }

/-- The cabinet whose countdown was armed when the timer's clock showed `reading`. -/
def armed (reading pause : Rat) (c : Cabinet ω) : Cabinet ω :=
  { c with
    timer := { c.timer with handle := some c.agenda.issued, start := reading }
    agenda := c.agenda.callLater pause .countdownOver }

/-- The cabinet whose timer has taken over a number of ticks. -/
def counted (count : Nat) (c : Cabinet ω) : Cabinet ω :=
  { c with timer := { c.timer with count } }

theorem clear_eq (c : Cabinet ω) : tickingOf.run Timer.clear c = .ok ⟨⟩ (disarmed c) := rfl

/-- What arming comes to, in terms of the ticks and of the time that they take. -/
theorem enable_eq (around : Surroundings ω) (ticks : Value) (c : Cabinet ω) :
    enable around ticks c = match ticks.whole with
      | .error fault => .error fault (disarmed c)
      | .ok n => match Timer.delay n.toNat c.timer.rate with
        | .error fault => .error fault (counted n.toNat (disarmed c))
        | .ok pause => .ok ⟨⟩ (armed (around.clock c) pause (counted n.toNat (disarmed c))) := by
  cases hhandle : c.timer.handle <;> cases hwhole : ticks.whole with
  | error fault => simp [enable, tickingOf, Timer.enable, Timer.clear, disarmed, hhandle, hwhole]
  | ok n =>
    cases hdelay : Timer.delay n.toNat c.timer.rate <;>
      simp [enable, tickingOf, Timer.enable, Timer.clear, disarmed, counted, armed, hhandle, hwhole,
        hdelay]

theorem dress_disarmed (start : Rat) (c : Cabinet ω) :
    disarmed (g.dress start c) = g.dress start (disarmed c) := by
  cases hhandle : c.timer.handle with
  | none => simp [disarmed, dress, timer, hhandle]
  | some number => simp [disarmed, dress, timer, hhandle, agenda_cancel]

theorem dress_armed (start reading reading' pause : Rat) (c : Cabinet ω) :
    armed reading' (g.scale * pause) (g.dress start c) =
      g.dress reading' (armed reading pause c) := by
  simp only [armed, dress, timer, agenda_callLater]
  rfl

theorem Fits.disarmed {c : Cabinet ω} (h : g.Fits c) : g.Fits (disarmed c) :=
  h.congr rfl

theorem Fits.counted {c : Cabinet ω} (h : g.Fits c) (count : Nat) : g.Fits (counted count c) :=
  h.congr rfl

theorem Fits.armed {c : Cabinet ω} (h : g.Fits c) (reading pause : Rat) :
    g.Fits (armed reading pause c) :=
  h.congr rfl

/-- Calling the countdown off is echoed. -/
theorem echoes_clear : g.Echoes Eq (tickingOf.run Timer.clear) (tickingOf.run Timer.clear) := by
  intro c start hfits
  rw [clear_eq, clear_eq, dress_disarmed]
  exact .ok rfl hfits.disarmed start

/-- Arming is echoed if the ticks are in reach. -/
theorem echoes_enable {ticks : Value} (hreach : g.Reaches ticks) (around around' : Surroundings ω) :
    g.Echoes Eq (enable around ticks) (enable around' ticks) := by
  intro c start hfits
  have hoff := hfits.disarmed
  have hrate : (g.dress start c).timer.rate = g.rate := rfl
  rw [enable_eq, enable_eq, dress_disarmed, hrate, hfits.pace]
  cases hwhole : ticks.whole with
  | error fault => exact .error hoff start
  | ok n =>
    have hcount : counted n.toNat (g.dress start (disarmed c)) =
        g.dress start (counted n.toNat (disarmed c)) := rfl
    simp only [delay_eq (hreach n hwhole), hcount]
    cases Timer.delay n.toNat g.pace with
    | error fault => exact .error (hoff.counted _) start
    | ok pause =>
      have harmed := dress_armed (g := g) start (around.clock c) (around'.clock (g.dress start c))
        pause (counted n.toNat (disarmed c))
      simp only [Except.map, harmed]
      exact .ok rfl ((hoff.counted _).armed _ _) _

theorem echoes_enable_small {n : Int} (h : n ≤ 50) (around around' : Surroundings ω) :
    g.Echoes Eq (enable around (.int n)) (enable around' (.int n)) :=
  echoes_enable (reaches_small h) around around'

theorem map_filter_watch (listeners : List Nat) (w : Nat) :
    (listeners.map g.watch).filter (· ≠ g.watch w) =
      (listeners.filter (· ≠ w)).map g.watch := by
  rw [List.filter_map]
  congr 1
  refine List.filter_congr fun i _ => ?_
  simp [watch]

/-- A change of the timer is echoed that keeps its rate. -/
theorem echoes_updateTimer {change change' : Timer Rat Nat → Timer Rat Nat}
    (hrate : ∀ t, (change t).rate = t.rate)
    (hchange : ∀ t start, change' (g.timer start t) = g.timer start (change t)) :
    g.Echoes Eq (updateTimer change) (updateTimer change') :=
  .modify fun c start h =>
    ⟨⟨(hrate _).trans h.pace, h.wait, h.kinds, h.tasks, h.chances, h.draws⟩, start, by
      simp only [dress, hchange]⟩

theorem echoes_watchTimer (w : Nat) :
    g.Echoes Eq (watchTimer w) (watchTimer (g.watch w)) :=
  echoes_updateTimer (fun _ => rfl) fun t start => by simp [Timer.register, timer]

theorem echoes_leaveTimer (w : Nat) :
    g.Echoes Eq (leaveTimer w) (leaveTimer (g.watch w)) :=
  echoes_updateTimer (fun _ => rfl) fun t start => by
    simp only [Timer.unregister, timer, map_filter_watch]

theorem echoes_ranOut : g.Echoes Eq (updateTimer Timer.ranOut) (updateTimer Timer.ranOut) :=
  echoes_updateTimer (fun _ => rfl) fun _ _ => rfl

/-! ## The key -/

/-- A change of the key is echoed. -/
theorem echoes_updateKey {change change' : Key Nat Unit → Key Nat Unit}
    (hchange : ∀ k, change' (g.key k) = g.key (change k)) :
    g.Echoes Eq (keyOf.update change) (keyOf.update change') :=
  .modify fun c start h =>
    ⟨h.congr rfl, start, by
      simp only [keyOf, dress, hchange]⟩

theorem echoes_watchKey (w : Nat) : g.Echoes Eq (watchKey w) (watchKey (g.watch w)) :=
  echoes_updateKey fun k => by simp [Key.register, key]

theorem echoes_leaveKey (w : Nat) : g.Echoes Eq (leaveKey w) (leaveKey (g.watch w)) :=
  echoes_updateKey fun k => by simp only [Key.unregister, key, map_filter_watch]

/-! ## The digit -/

/-- Surroundings that see in the other game what those of the first game see, and do not react to
the key. -/
structure Suits (g : Guise ω) (around around' : Surroundings ω) : Prop where
  observe : ∀ pattern, g.Echoes Eq (around.observe pattern) (around'.observe pattern)
  showEdge : ∀ pressed c, around.showEdge pressed c = .ok ⟨⟩ c
  showEdge' : ∀ pressed c, around'.showEdge pressed c = .ok ⟨⟩ c

theorem echoes_note (record : Record) : g.Echoes Eq (note record) (note record) :=
  .modify fun c start h =>
    ⟨h.congr rfl, start, by simp [dress]⟩

variable {around around' : Surroundings ω}

theorem Suits.showPattern (h : g.Suits around around') (pattern : String) :
    g.Echoes Eq (showPattern around pattern) (showPattern around' pattern) := by
  have hupdate : g.Echoes Eq (displayOf.update fun d => { d with pattern })
      (displayOf.update fun d => { d with pattern }) :=
    .modify fun c start hfits =>
      ⟨hfits.congr rfl, start, rfl⟩
  refine hupdate.bind_eq fun _ => .get_bind fun c start _ => ?_
  have hobserver : (displayOf.get (g.dress start c)).observer = (displayOf.get c).observer := rfl
  rw [hobserver]
  cases (displayOf.get c).observer with
  | none => exact .pure rfl
  | some _ => exact h.observe pattern

theorem Suits.showCharacter (h : g.Suits around around') (character : Value) :
    g.Echoes Eq (showCharacter around character) (showCharacter around' character) :=
  (Echoes.lift _).bind_eq h.showPattern

theorem Suits.showDigit (h : g.Suits around around') (value : Value) :
    g.Echoes Eq (showDigit around value) (showDigit around' value) :=
  (Echoes.lift _).bind_eq fun _ => h.showCharacter _

theorem Suits.darken (h : g.Suits around around') :
    g.Echoes Eq (darken around) (darken around') :=
  h.showPattern ""

/-! ## The race -/

/-- An act on the race after which the car stays on no segment longer than at standstill. -/
def KeepsWait {α : Type} (act : Act Race α) : Prop :=
  ∀ race, race.wait ≤ longestWait → (act.result race).2.wait ≤ longestWait

namespace KeepsWait

variable {α β : Type}

theorem bind {act : Act Race α} {next : α → Act Race β} (h : KeepsWait act)
    (hnext : ∀ a, KeepsWait (next a)) : KeepsWait (act >>= next) := by
  intro race hwait
  have hact := h race hwait
  unfold Act.result at hact ⊢
  rw [Act.bind_apply]
  cases hrun : act race with
  | ok a after =>
    rw [hrun] at hact
    exact hnext a after hact
  | error fault after =>
    rw [hrun] at hact
    exact hact

theorem get_bind {next : Race → Act Race β}
    (h : ∀ race, race.wait ≤ longestWait → KeepsWait (next race)) : KeepsWait (get >>= next) :=
  fun race hwait => h race hwait race hwait

theorem leave {a : α} : KeepsWait (pure a : Act Race α) :=
  fun _ hwait => hwait

theorem lift (e : Except Fault α) : KeepsWait (liftM e : Act Race α) := by
  intro race hwait
  cases e <;> exact hwait

theorem replace {race : Race} (h : race.wait ≤ longestWait) :
    KeepsWait (set race : Act Race PUnit) :=
  fun _ _ => h

theorem update {change : Race → Race}
    (h : ∀ race, race.wait ≤ longestWait → (change race).wait ≤ longestWait) :
    KeepsWait (modify change : Act Race PUnit) := h

theorem fetch : KeepsWait Race.fetch :=
  .get_bind fun _ hwait => (lift _).bind fun _ => .replace hwait

theorem follow (limit : Nat) : KeepsWait (Race.follow limit) := by
  induction limit with
  | zero => exact fun _ hwait => hwait
  | succ limit ih =>
    refine .get_bind fun race _ => ?_
    cases race.current with
    | jump target =>
      have hgo : KeepsWait (modify fun race => { race with address := target } : Act Race PUnit) :=
        update fun _ hwait => hwait
      exact hgo.bind fun _ => fetch.bind fun _ => ih
    | _ => exact .leave

theorem arrive : KeepsWait Race.arrive :=
  fetch.bind fun _ => .get_bind fun _ _ => follow _

theorem withSpeed_wait (race : Race) (speed : Nat) :
    (race.withSpeed speed).wait ≤ longestWait :=
  (Race.waitAt_bounds speed).2

theorem turn : KeepsWait Race.turn := by
  refine .get_bind fun race hwait => ?_
  split
  · refine (replace ?_).bind fun _ => fetch.bind fun _ => .leave
    unfold Race.faster
    split
    · exact hwait
    · exact withSpeed_wait _ _
  · exact (replace (withSpeed_wait _ 0)).bind fun _ => .leave

theorem reset (speed : Value) : KeepsWait (Race.reset speed) := by
  have hgame : KeepsWait
      (modify fun race => { race with score := 0, cars := Race.fleet } : Act Race PUnit) :=
    update fun _ hwait => hwait
  have hspeed (n : Int) : KeepsWait (modify fun race =>
      { race.withSpeed (min n.toNat Race.topSpeed) with address := .int 0 } : Act Race PUnit) :=
    update fun race _ => withSpeed_wait race _
  exact hgame.bind fun _ => (lift _).bind fun n => (hspeed n).bind fun _ => fetch

end KeepsWait

theorem Fits.withRace {c : Cabinet ω} (h : g.Fits c) {race : Race}
    (hwait : race.wait ≤ longestWait) : g.Fits { c with race } :=
  ⟨h.pace, hwait, h.kinds, h.tasks, h.chances, h.draws⟩

/-- What is done to the race is done to it in every guise. -/
theorem echoes_race {α : Type} {act : Act Race α} (h : KeepsWait act) :
    g.Echoes Eq (raceOf.run act : Play ω α) (raceOf.run act) := by
  intro c start hfits
  have hwait := h c.race hfits.wait
  have hrace : raceOf.get (g.dress start c) = raceOf.get c := rfl
  rw [Act.run_apply, Act.run_apply, hrace]
  unfold Act.result at hwait
  generalize hact : act (raceOf.get c) = r
  rw [show act c.race = r from hact] at hwait
  cases r with
  | ok a race => exact .ok rfl (hfits.withRace hwait) start
  | error fault race => exact .error (hfits.withRace hwait) start

theorem echoes_resetRace (speed : Value) :
    g.Echoes Eq (resetRace speed : Play ω Unit) (resetRace speed) :=
  echoes_race (.reset speed)

theorem Suits.tick (h : g.Suits around around') : g.Echoes Eq (tick around) (tick around') := by
  refine (echoes_race .arrive).bind_eq fun _ => .get_bind fun c start _ => ?_
  have hrace : (g.dress start c).race = c.race := rfl
  simp only [hrace]
  cases c.race.bar? with
  | some bar =>
    refine (h.showPattern bar).bind_eq fun _ => .modify fun c start hfits =>
      ⟨hfits.withRace ?_, start, rfl⟩
    change (Race.pass c.race).wait ≤ longestWait
    unfold Race.pass
    split <;> exact hfits.wait
  | none => exact (Echoes.lift _).bind_eq fun _ => echoes_note _

theorem Suits.steer (h : g.Suits around around') : g.Echoes Eq (steer around) (steer around') := by
  refine (echoes_race .turn).bind_eq fun taken => .get_bind fun c start _ => ?_
  change g.Echoes Eq (liftM (addressText c.race.address) >>= _)
    (liftM (addressText c.race.address) >>= _)
  refine (Echoes.lift _).bind_eq fun place => ?_
  cases taken with
  | true => exact (echoes_note _).bind_eq fun _ => h.tick.bind_eq fun _ => .pure rfl
  | false => exact (echoes_note _).bind_eq fun _ => .pure rfl

/-! ## Stages and numbers -/

theorem echoes_enter (stage : Stage) : g.Echoes Eq (enter stage : Play ω Unit) (enter stage) :=
  .get_bind fun _ _ _ => (echoes_note _).bind_eq fun _ => .modify fun _ start hfits =>
    ⟨hfits.congr rfl, start, rfl⟩

/-- Where the other game draws the same numbers, it draws the same one. -/
theorem echoes_draw (hwhole : g.whole) : g.Echoes Eq (draw : Play ω Float) draw := by
  intro c start hfits
  let drawn : Cabinet ω := { c with draws := c.draws + 1 }
  have hfits' : g.Fits drawn :=
    ⟨hfits.pace, hfits.wait, hfits.kinds, hfits.tasks, hfits.chances, .inl hwhole⟩
  have hdraw : Cabinet.draw c = .ok (c.chances c.draws) drawn := rfl
  have hdraw' : Cabinet.draw (g.dress start c) = .ok (c.chances c.draws) (g.dress start drawn) := by
    simp only [Cabinet.draw, Act.bind_apply, Act.get_apply, Act.set_apply, Act.pure_apply, dress,
      hfits.chances hwhole, drawn, Nat.add_right_comm]
  rw [hdraw, hdraw']
  exact .ok rfl hfits' start

end DigitRace.Guise
