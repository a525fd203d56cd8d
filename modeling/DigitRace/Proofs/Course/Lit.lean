import DigitRace.Proofs.Course.Ride
import DigitRace.Proofs.Race.Standing

/-!
# What is lit

While a round listens to the key, the digit shows the bar of the current instruction, and this is
the one before the address from which the next is fetched. This holds from the first drive of a
round on: driving on and taking a junction light the bar that they come to, and nothing else that
happens changes the digit. So a press is judged by what the player sees.
-/

namespace DigitRace

namespace Race

variable {race : Race} {n stop branch : Nat} {bar : Char}

/-- Driving on from an address passes the light that jumps lead to, and shows its bar. -/
theorem Sound.driven_lights (h : race.Sound) (haddress : race.address = .int n)
    (hlights : race.circuit.Lights n stop bar branch) (pattern : String) :
    race.driven.address = .int (stop + 1 : Nat) ∧
      race.driven.current = .light (.text bar.toString) (.int branch) ∧
        race.driveShows pattern = bar.toString := by
  obtain ⟨m, jumps, place, i, hm, hlands, hi, harrived, -⟩ := h.arrived_lands
  obtain rfl : n = m := Int.natCast_inj.mp (Value.int.inj (haddress.symm.trans hm))
  obtain ⟨jumps', hlands'⟩ := hlights.lands
  obtain ⟨-, rfl⟩ := hlands.unique hlands'
  obtain rfl : i = .light (.text bar.toString) (.int branch) :=
    Option.some.inj (hi.symm.trans hlights.light)
  have hisBar : Segment.isBar (.text bar.toString) = true := by
    simpa [Segment.isBar] using hlights.mem
  have hbar : race.arrived.bar? = some bar.toString := by
    simp only [bar?, harrived]
    exact if_pos hisBar
  have haddress' : race.arrived.address = .int place := by rw [harrived]
  have hdriven : race.driven = { race.arrived with address := .int (place + 1 : Nat) } := by
    simp [Race.driven, hbar, pass, haddress']
  rw [hdriven, driveShows, hbar, harrived]
  exact ⟨rfl, rfl, rfl⟩

end Race

namespace Cabinet

open Act

variable {ω : Type} {eye : Onlooker ω} {c c' first : Cabinet ω} {games : Value} {leg : Leg}
  {happening : Happening} {n stop branch : Nat} {bar : Char}

/-! ## The light that the player sees -/

/-- The digit shows the bar of the current instruction, which is the one before the address. -/
structure Lit (stop : Nat) (bar : Char) (branch : Nat) (c : Cabinet ω) : Prop where
  mem : bar ∈ Segment.bars
  light : c.race.circuit[stop]? = some (.light (.text bar.toString) (.int branch))
  address : c.race.address = .int (stop + 1 : Nat)
  current : c.race.current = .light (.text bar.toString) (.int branch)
  pattern : c.display.pattern = bar.toString

/-- While a round listens to the key, a light is seen. -/
def Seen (c : Cabinet ω) : Prop :=
  c.stage = some .playing → c.key.listeners ≠ [] → ∃ stop bar branch, Lit stop bar branch c

/-- Driving on leads to a light that is seen. -/
theorem lit_driven {race : Race} {pattern : String} (hsound : race.Sound)
    (haddress : race.address = .int n) (hlights : race.circuit.Lights n stop bar branch)
    (hrace : c.race = race.driven) (hshows : c.display.pattern = race.driveShows pattern) :
    Lit stop bar branch c := by
  obtain ⟨haddress', hcurrent, hpattern⟩ := hsound.driven_lights haddress hlights pattern
  exact {
    mem := hlights.mem
    light := by rw [hrace, hsound.driven_keeps.1]; exact hlights.light
    address := hrace ▸ haddress'
    current := hrace ▸ hcurrent
    pattern := hshows.trans hpattern }

/-- On a circuit on which lights alone hold the car, every drive leads to a light. -/
theorem exists_lit_driven {race : Race} {pattern : String} (hsound : race.Sound)
    (hluminous : race.circuit.Luminous) (hrace : c.race = race.driven)
    (hshows : c.display.pattern = race.driveShows pattern) :
    ∃ stop bar branch, Lit stop bar branch c := by
  obtain ⟨n, haddress, hn⟩ := hsound.address
  obtain ⟨stop, bar, branch, hlights⟩ := hluminous n hn
  exact ⟨stop, bar, branch, lit_driven hsound haddress hlights hrace hshows⟩

/-- What changes neither race nor digit leaves the light as it is. -/
theorem Lit.same (h : Lit stop bar branch c) (hrace : c'.race = c.race)
    (hdisplay : c'.display = c.display) : Lit stop bar branch c' where
  mem := h.mem
  light := hrace ▸ h.light
  address := hrace ▸ h.address
  current := hrace ▸ h.current
  pattern := hdisplay ▸ h.pattern

/-- The current instruction is a junction if the light that is seen has a branch. -/
theorem Lit.junction (h : Lit stop bar branch c) : c.race.atJunction = decide (branch ≠ 0) := by
  rw [Race.atJunction, Instruction.isJunction, h.current, Instruction.branch, Value.truthy]
  cases branch <;> rfl

/-! ## At the stage of a round -/

/-- How a game stands at the stage of a round. -/
inductive Plays (games : Value) (past : Past) (c : Cabinet ω) : Prop
  /-- The round is under way. -/
  | waiting {game : Game} {w : Nat} (hupon : Upon games (.racing past game {}) c)
      (hlistening : Listening .play w c)
      (htasks : c.tasks = #[{ state := .waiting w, stack :=
        [.roundPlayed, .gameEnded games past.games.length] }])
  /-- The round is over, and the task is about to learn of it. -/
  | woken {w : Nat} (hclocked : c.Clocked)
      (hqueued : Queued (.waiting w) [.roundPlayed, .gameEnded games past.games.length] c)
      (hanswer : (c.watches[w]?).bind Watch.ending = some (.answered .nothing))
  /-- The task knows that the round is over. -/
  | answering (hcarried : Carried (.answering .nothing)
      [.roundPlayed, .gameEnded games past.games.length] c)

theorem Courses.plays (h : Courses games leg c) (hstage : c.stage = some .playing) :
    ∃ past, Plays games past c := by
  obtain ⟨past, game, round, rfl⟩ := Leg.racing_of_stage (h.stage ▸ hstage)
  refine ⟨past, ?_⟩
  cases h with
  | stands hupon hstands =>
    cases hstands with
    | begins hleg => cases hleg
    | calling _ hcalls => exact hcalls.not_racing.elim
    | answering hcarried hadmits htakes =>
      obtain ⟨rfl, rfl⟩ := htakes.at_racing
      obtain rfl := hadmits
      exact .answering hcarried
    | waiting hlistening htasks hwaits =>
      obtain rfl := hwaits.at_playing rfl
      cases hwaits with
      | play => exact .waiting hupon hlistening htasks
      | regular hregular => exact hregular.elim
    | woken hqueued hanswer hadmits htakes =>
      obtain ⟨rfl, rfl⟩ := htakes.at_racing
      obtain rfl := hadmits
      exact .woken hupon.clocked hqueued hanswer
    | returned hleg => cases hleg
    | failed hleg => cases hleg
  | stalls _ hstalls => rcases hstalls.early with hleg | hleg <;> cases hleg

/-- A drive that goes on keeps a light in sight; after it nobody listens until the stage is left. -/
theorem Plays.seen_next {past : Past} (h : Plays games past c)
    (hluminous : c.race.circuit.Luminous) (hseen : Seen c) (hstage : c.stage = some .playing)
    (hhappens : Happens eye.around c happening c') : Seen c' := by
  intro hstage' hkey
  cases h with
  | waiting hupon hlistening =>
    have hheard : c.key.listeners ≠ [] := by simp [hlistening.key, Watch.Kind.hearsKey]
    obtain ⟨stop, bar, branch, hlit⟩ := hseen hstage hheard
    -- What a happening does to the race alone would not do here: a drive that comes back to the
    -- same race shows the bar again, and only the drive tells so.
    cases hlistening.drives hupon.clocked hupon.sound hupon.paced hhappens with
    | passes hpasses =>
      exact ⟨stop, bar, branch, hlit.same hpasses.kept.race hpasses.kept.display⟩
    | on due outside => exact exists_lit_driven hupon.sound hluminous rfl rfl
    | calledOff => exact absurd rfl hkey
    | released => exact ⟨stop, bar, branch, hlit.same rfl rfl⟩
    | takes outside hjunction =>
      obtain ⟨-, hturned, hcircuit, -⟩ := hupon.sound.turn_junction hjunction
      exact exists_lit_driven hturned (hcircuit ▸ hluminous) (if_pos hjunction)
        (if_pos hjunction)
    | crashes => exact absurd rfl hkey
  | woken hclocked hqueued hanswer =>
    rcases hqueued.cases hclocked hhappens with hpasses | ⟨rfl, rfl⟩
    · exact absurd (hpasses.kept.key.trans hqueued.deaf.2) hkey
    · obtain ⟨hcarried, -⟩ := hqueued.wake_waiting hanswer
      exact absurd hcarried.deaf.2 hkey
  | answering hcarried =>
    obtain ⟨rfl, rfl⟩ := hcarried.cases hhappens
    rw [hcarried.carryOn_answering, (carry_same _ _ _).2.1,
      result_of_ok (resume_roundPlayed eye .nothing)] at hstage'
    cases hstage'

/-- Whatever happens, what is seen is lit. -/
theorem Courses.seen_next (h : Courses games leg c) (hluminous : c.race.circuit.Luminous)
    (hseen : Seen c) (hhappens : Happens eye.around c happening c') : Seen c' := by
  -- A light is seen either since before or because a round has just begun.
  by_cases hplaying : c.stage = some .playing
  · obtain ⟨past, hplays⟩ := h.plays hplaying
    exact hplays.seen_next hluminous hseen hplaying hhappens
  · intro hstage hkey
    cases h.goes hhappens with
    | idle hrace hleads => exact absurd (hleads.playing hstage) hplaying
    | demo _ hstage' => cases hstage.symm.trans hstage'
    | begins _ hstage' => cases hstage.symm.trans hstage'
    | drives _ _ hsound hrace hshows => exact exists_lit_driven hsound hluminous hrace hshows
    | takes hbefore => exact absurd hbefore hplaying
    | crashes hbefore => exact absurd hbefore hplaying

/-- Nothing that happens changes the circuit. -/
theorem Goes.circuit (h : Goes c happening c') : c'.race.circuit = c.race.circuit := by
  cases h with
  | idle hrace => rw [hrace]
  | demo _ _ hcircuit => exact hcircuit
  | begins _ _ hsound hrace => rw [hrace, (hsound.reset_apply 0).2.2.1]
  | drives _ _ hsound hrace => rw [hrace, hsound.driven_keeps.1]
  | takes _ _ hsound _ hrace => rw [hrace, hsound.steered_circuit]
  | crashes _ _ hsound _ hrace => rw [hrace, hsound.steered_circuit]

/-- Along every run of the game what is seen is lit. -/
theorem Run.seen {α : Type} {noted : Cabinet ω → Happening → Cabinet ω → List α} {notes : List α}
    (hfresh : first.Fresh) (hluminous : first.race.circuit.Luminous)
    (hrun : Run eye.around noted (spawn (.run games) first) notes c) :
    ∃ leg, Courses games leg c ∧ c.race.circuit = first.race.circuit ∧ Seen c := by
  induction hrun with
  | start =>
    refine ⟨.start, hfresh.courses games, rfl, fun hstage => ?_⟩
    cases hfresh.stage.symm.trans hstage
  | next _ hhappens ih =>
    obtain ⟨leg, hcourses, hcircuit, hseen⟩ := ih
    obtain ⟨leg', hcourses', -⟩ := hcourses.next hhappens
    exact ⟨leg', hcourses', (hcourses.goes hhappens).circuit.trans hcircuit,
      hcourses.seen_next (hcircuit ▸ hluminous) hseen hhappens⟩

/-! ## The end of a round -/

/-- While nobody listens to the timer and nothing is ready, steps only let the countdown run out. -/
theorem Clocked.run_kept (hclocked : c.Clocked) (hactive : c.active = none)
    (hready : c.agenda.ready = []) (htimer : c.timer.listeners = []) (horizon : Rat) (limit : Nat) :
    Kept c (run eye.around (fun _ => false) horizon limit c) := by
  induction limit generalizing c with
  | zero => exact .refl c
  | succ limit ih =>
    cases hnext : c.agenda.next? horizon with
    | none =>
      have hstep : step? eye.around horizon c = none := by simp [step?, hactive, hnext]
      rw [Cabinet.run, Bool.and_false, if_neg Bool.false_ne_true, hstep]
      exact .refl c
    | some next =>
      obtain ⟨call, agenda⟩ := next
      have hstep : step? eye.around horizon c =
          some (perform eye.around call { c with agenda }) := by
        simp [step?, hactive, hnext]
      rw [run_step hstep]
      obtain ⟨due, hends, -, hperform⟩ := hclocked.next? hready hnext
      rw [hperform, notify_nil (by exact htimer)]
      have hpasses : Passes eye c (.call .countdownOver) (c.expired due) := .expire hready hends
      exact hpasses.kept.trans
        (ih (hpasses.clocked hclocked) hactive hready htimer)

/-- While the key is down, a task that asks for it to come up leaves race and stage as they are. -/
private theorem Carried.run_keyReleased {stack : List Frame}
    (h : Carried (.calling .keyReleased) stack c) (hclocked : c.Clocked)
    (hpressed : c.key.pressed = true) (horizon : Rat) (limit : Nat) :
    Parked c.race c.stage (run eye.around (fun _ => false) horizon (limit + 1) c) := by
  have hact := (begin_keyReleased eye h.deaf).trans (if_pos hpressed)
  let told := c.opened .release
  let waiting : Cabinet ω := { told with
    tasks := #[{ state := .waiting c.watches.size, stack }]
    active := none
    watches := told.watches.modify c.watches.size fun watch => { watch with waiter := some 0 } }
  have hcarry : carryOn eye.around 0 c = waiting := by
    rw [h.carryOn_calling, carry_await hact h.tasks (opened_opened .release h.ready)]
    rfl
  have hkept : Kept waiting (run eye.around (fun _ => false) horizon limit waiting) :=
    Clocked.run_kept (c := waiting) hclocked rfl h.ready rfl horizon limit
  rw [run_step (h.step? horizon), hcarry]
  exact ⟨hkept.race, hkept.stage⟩

/-- A task that learns of the end of a round while the key is down comes to the stage of a lost car,
and the race stays as it is. -/
private theorem Carried.run_roundPlayed {stack : List Frame}
    (h : Carried (.answering .nothing) (.roundPlayed :: stack) c) (hclocked : c.Clocked)
    (hpressed : c.key.pressed = true) (horizon : Rat) (limit : Nat) :
    Parked c.race (some .carLost) (run eye.around (fun _ => false) horizon (limit + 3) c) := by
  let calling (routine : Routine) (stack : List Frame) : Cabinet ω :=
    { c.entered .carLost with tasks := #[{ state := .calling routine, stack }] }
  have hcalling (routine : Routine) (stack : List Frame) :
      Carried (.calling routine) stack (calling routine stack) :=
    ⟨rfl, h.active, h.ready, h.deaf⟩
  let cars : Int := c.race.cars
  have hround : carryOn eye.around 0 c =
      calling (.flashingDigit (.int cars)) (.carsFlashed :: stack) := by
    rw [h.carryOn_answering, carry_call (resume_roundPlayed eye .nothing) rfl]
    rfl
  have hflashing : carryOn eye.around 0
      (calling (.flashingDigit (.int cars)) (.carsFlashed :: stack)) =
        calling .keyReleased
          (.readyToFlash (.int (min cars greatestDigit)) :: .carsFlashed :: stack) := by
    rw [(hcalling _ _).carryOn_calling, carry_call (begin_flashingDigit eye cars) rfl]
    rfl
  rw [run_step (h.step? horizon), hround, run_step ((hcalling _ _).step? horizon), hflashing]
  exact (hcalling _ _).run_keyReleased hclocked hpressed horizon limit

/-- A round that ended while the key is down is left for the stage of a lost car. -/
theorem Queued.settle_roundPlayed {w : Nat} {stack : List Frame}
    (h : Queued (.waiting w) (.roundPlayed :: stack) c)
    (hanswer : (c.watches[w]?).bind Watch.ending = some (.answered .nothing))
    (hclocked : c.Clocked) (hpressed : c.key.pressed = true) :
    Parked c.race (some .carLost) (settle eye.around c) := by
  obtain ⟨limit, hlimit⟩ : ∃ limit, patience = limit + 4 := ⟨999999996, rfl⟩
  obtain ⟨hcarried, hwake⟩ := h.wake_waiting hanswer
  rw [settle, hlimit, run_step (h.step? _)]
  rw [hwake] at hcarried ⊢
  exact hcarried.run_roundPlayed hclocked hpressed _ limit

/-! ## A press -/

/-- A press during a drive steers, and it is a crash where there is no junction. -/
theorem Listening.move_play {w : Nat} (h : Listening .play w c) (hsound : c.race.Sound) :
    ∃ outside, move eye.around true c = .ok ⟨⟩ (if c.race.atJunction
      then (Cabinet.moved eye true c).steered outside
      else left w .nothing ((Cabinet.moved eye true c).steered outside)) := by
  obtain ⟨outside, hedge⟩ := (h.moved eye true).onEdge_play eye hsound
  have hrace : (Cabinet.moved eye true c).race = c.race := rfl
  rw [hrace] at hedge
  refine ⟨outside, ?_⟩
  rw [moved_apply, h.key]
  simp [Watch.Kind.hearsKey, hedge]

/-- At a junction a press leads to the light that jumps from the branch lead to. -/
theorem Lit.takes (h : Lit stop bar branch c) (hsound : c.race.Sound)
    (hluminous : c.race.circuit.Luminous) (hbranch : branch ≠ 0) (outside : ω) :
    ∃ next bar' branch', c.race.circuit.Lights branch next bar' branch' ∧
      Lit next bar' branch' ((moved eye true c).steered outside) := by
  have hjunction : c.race.atJunction = true := by simp [h.junction, hbranch]
  obtain ⟨-, hturned, hcircuit, -, haddress⟩ := hsound.turn_junction hjunction
  rw [h.current] at haddress
  obtain ⟨n, hn, hlt⟩ := hturned.address
  obtain rfl : branch = n := Int.natCast_inj.mp (Value.int.inj (haddress.symm.trans hn))
  obtain ⟨next, bar', branch', hlights⟩ := hluminous branch (hcircuit ▸ hlt)
  exact ⟨next, bar', branch', hlights,
    lit_driven hturned haddress (hcircuit ▸ hlights) (if_pos hjunction) (if_pos hjunction)⟩

/-- While a round is under way a car is left. -/
theorem Upon.cars_pos {past : Past} {game : Game} (h : Upon games (.racing past game {}) c) :
    0 < c.race.cars := by
  obtain ⟨-, -, hcrashes, hcars⟩ := h.holds
  rw [Game.crashes_concat] at hcars
  simp only [Bool.false_eq_true, if_false] at hcars
  omega

/-- **The player is judged on what is lit.** Let a game run on a circuit that passes the check and
holds nothing that means nothing, whatever happens at the key and the timer. Whenever nothing is
left to do at the stage of a round, there are cars left and the digit shows one bar alone: that of
the current instruction, which is the one before the address. A press there succeeds. If the
instruction has a branch, the press scores and costs nothing, the round goes on, and the light that
is reached from the branch is shown in the same way. If it has none, the press costs one car and no
points, and once all is done that takes no time, the round is over and the race unchanged. -/
theorem judged_on_what_is_lit {α : Type} (eye : Onlooker ω)
    {noted : Cabinet ω → Happening → Cabinet ω → List α} {notes : List α} (hfresh : first.Fresh)
    (hcheck : first.race.circuit.check = .ok ()) (hmeans : ∀ raw, .invalid raw ∉ first.race.circuit)
    (hrun : Run eye.around noted (spawn (.run games) first) notes c) (hsettled : c.Settled)
    (hplaying : c.stage = some .playing) :
    c.race.circuit = first.race.circuit ∧ 0 < c.race.cars ∧
      ∃ stop bar branch pressed, Lit stop bar branch c ∧
        move eye.around true c = .ok ⟨⟩ pressed ∧
        (branch ≠ 0 → pressed.Settled ∧ pressed.stage = some .playing ∧
          pressed.race.score = c.race.score + 1 ∧ pressed.race.cars = c.race.cars ∧
          ∃ next bar' branch', c.race.circuit.Lights branch next bar' branch' ∧
            Lit next bar' branch' pressed) ∧
        (branch = 0 → pressed.race.score = c.race.score ∧
          pressed.race.cars + 1 = c.race.cars ∧
          (settle eye.around pressed).stage = some .carLost ∧
          (settle eye.around pressed).race = pressed.race) := by
  have hluminous := Circuit.luminous_of_check hfresh.sound.drivable hcheck hmeans
  obtain ⟨leg, hcourses, hcircuit, hseen⟩ := hrun.seen hfresh hluminous
  obtain ⟨hactive, hready⟩ := hsettled
  obtain ⟨past, hplays⟩ := hcourses.plays hplaying
  cases hplays with
  | woken _ hqueued => cases hready.symm.trans hqueued.ready
  | answering hcarried => cases hactive.symm.trans hcarried.active
  | waiting hupon hlistening htasks =>
    have hheard : c.key.listeners ≠ [] := by simp [hlistening.key, Watch.Kind.hearsKey]
    obtain ⟨stop, bar, branch, hlit⟩ := hseen hplaying hheard
    obtain ⟨outside, hmove⟩ := hlistening.move_play hupon.sound
    have hscore := hupon.sound.steered_score
    have hcars := hupon.sound.steered_cars
    refine ⟨hcircuit, hupon.cars_pos, stop, bar, branch, _, hlit, hmove, ?_, ?_⟩
    · intro hbranch
      have hjunction : c.race.atJunction = true := by simp [hlit.junction, hbranch]
      rw [if_pos hjunction] at hscore hcars ⊢
      exact ⟨⟨hactive, hready⟩, hplaying, hscore, hcars,
        hlit.takes hupon.sound (hcircuit ▸ hluminous) hbranch outside⟩
    · intro hbranch
      have hplain : ¬c.race.atJunction = true := by simp [hlit.junction, hbranch]
      rw [if_neg hplain] at hscore hcars ⊢
      have hanswered := ((hlistening.moved eye true).steered outside).left_answered .nothing
      have hqueued : Queued _ _ (left _ .nothing ((moved eye true c).steered outside)) :=
        ⟨htasks, hanswered.active, hanswered.ready, hanswered.deaf⟩
      have hparked : Parked _ _ (settle eye.around _) :=
        hqueued.settle_roundPlayed hanswered.watch hupon.clocked rfl
      have hpos := hupon.cars_pos
      refine ⟨hscore, ?_, hparked.stage, hparked.race⟩
      change c.race.steered.cars + 1 = c.race.cars
      omega

/-- In the first round on the track bar `b` is lit, and a press scores. Then bar `g` is lit, and a
press costs a car. -/
theorem judged_on_what_is_lit_twice : ∃ c pressed crashed : Cabinet Unit,
    c.Settled ∧ c.stage = some .playing ∧ c.display.pattern = "b" ∧
      move Onlooker.idle.around true c = .ok ⟨⟩ pressed ∧ pressed.race.score = 1 ∧
      pressed.Settled ∧ pressed.stage = some .playing ∧ pressed.display.pattern = "g" ∧
      move Onlooker.idle.around true pressed = .ok ⟨⟩ crashed ∧ crashed.race.cars + 1 = 3 ∧
      (settle Onlooker.idle.around crashed).stage = some .carLost := by
  have hfresh := atRest_fresh Race.onTrack_sound
  have hcheck : (atRest .onTrack).race.circuit.check = .ok () := rfl
  have hmeans : ∀ raw, .invalid raw ∉ (atRest .onTrack).race.circuit := by
    simp [atRest, Race.onTrack, Circuit.track, Circuit.lit, Circuit.back]
  let c := (deedsOnTrack momentsOf beginDeeds).2
  let next := ((move Onlooker.idle.around true).result c).2
  have hrun := deedsOnTrack_run momentsOf beginDeeds
  have hsettled : c.Settled := by decide +kernel
  have hplaying : c.stage = some .playing := by decide +kernel
  have hpattern : c.display.pattern = "b" := by decide +kernel
  have hjunction : c.race.atJunction = true := by decide +kernel
  have hscore : c.race.score = 0 := by decide +kernel
  have hcars : c.race.cars = 3 := by decide +kernel
  have hpattern' : next.display.pattern = "g" := by decide +kernel
  have hjunction' : next.race.atJunction = false := by decide +kernel
  obtain ⟨-, -, stop, bar, branch, pressed, hlit, hmove, htakes, -⟩ :=
    judged_on_what_is_lit Onlooker.idle hfresh hcheck hmeans hrun hsettled hplaying
  obtain ⟨hsettled', hplaying', hpoint, hkept, -⟩ :=
    htakes (of_decide_eq_true (hlit.junction.symm.trans hjunction))
  obtain rfl : next = pressed := congrArg Prod.snd (result_of_ok hmove)
  obtain ⟨-, -, stop', bar', branch', crashed, hlit', hmove', -, hcrashes⟩ :=
    judged_on_what_is_lit Onlooker.idle hfresh hcheck hmeans (hrun.next (.move true hsettled.1))
      hsettled' hplaying'
  obtain ⟨-, hlost, hover, -⟩ :=
    hcrashes (not_not.mp (of_decide_eq_false (hlit'.junction.symm.trans hjunction')))
  exact ⟨c, next, crashed, hsettled, hplaying, hpattern, hmove,
    hpoint.trans (congrArg (· + 1) hscore), hsettled', hplaying', hpattern', hmove',
    hlost.trans (hkept.trans hcars), hover⟩

end Cabinet

end DigitRace
