import DigitRace.Proofs.Demo.Text
import Mathlib.Data.List.Chain

/-!
# The drive of the demo

While the demo drives, the stretches follow each other without a gap, whether a junction is
taken on the way or not. The score is the number of junctions taken, and no car is lost, since
the demo steers at junctions only.
-/

namespace DigitRace.Cabinet

variable {ω : Type} {eye : Onlooker ω} {c c' : Cabinet ω} {rate : Int} {stack : List Frame}
  {notes : List DemoNote} {happening : Happening} {w : Nat}

/-- What is known of a drive concerns the race, and the ticks of a countdown that is pending. -/
theorem Rode.kept {stretches : List Stretch} (h : Rode rate stretches c) (hrace : c'.race = c.race)
    (harmed : c'.timer.armed = true → 0 < c'.timer.count) : Rode rate stretches c' :=
  ⟨h.begun, h.apart, hrace ▸ h.sound, hrace ▸ h.cars, hrace ▸ h.speed, hrace ▸ h.score, harmed⟩

theorem DemoEnd.kept {pressed : Bool} (hend : DemoEnd rate c pressed notes)
    (hrace : c'.race = c.race) (harmed : (c.timer.armed = true → 0 < c.timer.count) →
      c'.timer.armed = true → 0 < c'.timer.count) : DemoEnd rate c' pressed notes := by
  cases hend with
  | text => exact .text
  | pressed h => exact .pressed (h.kept hrace (harmed h.armed))
  | calledOff h => exact .calledOff (h.kept hrace (harmed h.armed))
  | last h hscore => exact .last (h.kept hrace (harmed h.armed)) (hrace ▸ hscore)

/-- As long as nobody arms the timer, no countdown is armed for nothing. -/
theorem Passes.armed (h : Passes eye c happening c') (hout : ∀ ticks, happening ≠ .enable ticks)
    (harmed : c.timer.armed = true → 0 < c.timer.count) :
    c'.timer.armed = true → 0 < c'.timer.count := by
  cases h with
  | enable ticks => exact absurd rfl (hout ticks)
  | refuse ticks => exact absurd rfl (hout ticks)
  | disable => simp [Timer.armed, cleared]
  | expire | overdue => simp [Timer.armed, expired, Timer.ranOut]
  | _ => exact harmed

/-! ## The drive -/

section

variable {stretches : List Stretch} {steering : Bool} {loops : Nat}

/-- As long as a junction is left, the moment to steer comes before the end of a segment. -/
theorem steerTicks_lt_wait {race : Race} (hsound : race.Sound)
    (hspeed : race.speed = demoSpeed + race.score) (hleft : race.score + loops = demoLoops)
    (hmore : 0 < loops) : (steerTicks : Int) < race.wait := by
  rw [hsound.wait, hspeed]
  unfold demoLoops at hleft
  unfold Race.waitAt demoSpeed steerTicks
  split <;> omega

theorem steerTicks_pos : 0 < (steerTicks : Int).toNat := by decide

/-- Where a race was driven on, and the timer is armed up to the moment to steer, a stretch
begins. -/
theorem driving_on {race : Race} (hsound : race.Sound) (hcars : race.cars = Race.fleet)
    (hspeed : race.speed = demoSpeed + race.score) (hleft : race.score + loops = demoLoops)
    (hmore : 0 < loops) (hrace : c.race = race.driven)
    (hcount : c.timer.count = (c.race.wait - steerTicks).toNat)
    (hends : c.EndsAt (c.agenda.now + pause (c.race.wait - steerTicks) rate))
    (hapart : (stretches ++ [c.stretch]).IsChain (Stretch.Meets rate)) :
    Driving rate true loops (stretches ++ [c.stretch]) c := by
  obtain ⟨-, hscore, hcars', hspeed', hwait⟩ := hsound.driven_keeps
  have hroom := steerTicks_lt_wait hsound hspeed hleft hmore
  rw [← hwait, ← hrace] at hroom
  rw [← hrace] at hscore hcars' hspeed'
  have hrode : Rode rate (stretches ++ [c.stretch]) c := {
    begun := by simp
    apart := hapart
    sound := by rw [hrace]; exact hsound.driven
    cars := hcars'.trans hcars
    speed := by omega
    score := by omega
    armed := fun _ => by omega }
  exact ⟨hrode, by omega, hmore, _, List.getLast?_concat, hroom.le, hends⟩

/-- After the text the task waits for the drive, which begins with the race anew. -/
private theorem carryOn_beginsDrive (eye : Onlooker ω)
    (hcarried : Carried (.answering (.flag false)) (.demoTextShown :: stack) c)
    (hfit : Fit rate c) (hrate : rate ≠ 0) : ∃ w c', carryOn eye.around 0 c = c' ∧
      Listening (.demo true demoLoops) w c' ∧ c'.tasks = #[{ state := .waiting w, stack }] ∧
      c'.race = (c.race.restarted demoSpeed).driven ∧ c'.draws = c.draws ∧
      c'.timer.rate = rate ∧ c'.timer.count = (c'.race.wait - steerTicks).toNat ∧
      c'.EndsAt (c'.agenda.now + pause (c'.race.wait - steerTicks) rate) := by
  let popped : Cabinet ω := { c with tasks := #[{ state := .answering (.flag false), stack }] }
  have hclocked : popped.Clocked := hfit.clocked
  obtain ⟨outside, hact⟩ := resume_demoTextShown eye (c := popped) hcarried.deaf hfit.drivable
    hclocked (hfit.rate ▸ hrate)
  have hopened := opened_opened (.demo true demoLoops)
    (c := armedFor eye ((c.race.restarted demoSpeed).driven.wait - steerTicks)
      ((popped.restarted demoSpeed).ticked outside)) hcarried.ready
  refine ⟨_, _, (hcarried.carryOn_answering).trans (carry_await hact rfl hopened),
    hopened.listening _, rfl, rfl, rfl, hfit.rate, rfl, ?_⟩
  rw [← hfit.rate]
  exact armedFor_endsAt eye _ ((popped.restarted demoSpeed).ticked outside)

/-- The drive begins with its first stretch. -/
theorem begins_next
    (hcarried : Carried (.answering (.flag false)) (.demoTextShown :: stack) c)
    (hfit : Fit rate c) (hrate : rate ≠ 0) :
    DemoNext rate stack [] c .carry (carryOn eye.around 0 c) := by
  obtain ⟨w, c', hc', hlistening, htasks, hrace, hdraws, hrate', hcount, hends⟩ :=
    carryOn_beginsDrive eye hcarried hfit hrate
  have hover : Task.isBack stack.length
      { state := .answering (.flag false), stack := .demoTextShown :: stack } = false := by
    simp [Task.isBack]
  have hnotes := hcarried.demoNotes_eq hover c'
  have hbegins : c.beginsDrive = true := by simp [beginsDrive, hcarried.tasks, Task.beginsDrive]
  obtain ⟨hsound, hcircuit, hcars⟩ := Race.restarted_sound hfit.drivable demoSpeed
  have hstanding := Race.reset_standing (Race.reset_succeeds hfit.drivable.pos demoSpeed)
  have hscore : (c.race.restarted demoSpeed).score = 0 := congrArg Standing.score hstanding
  have hspeed : (c.race.restarted demoSpeed).speed = demoSpeed := congrArg Standing.speed hstanding
  have hdriving : Driving rate true demoLoops ([] ++ [c'.stretch]) c' :=
    driving_on hsound hcars (by omega) (by omega) (by decide) hrace hcount hends (.singleton _)
  rw [hc']
  refine ⟨⟨.inr ⟨_, hends⟩, ?_, hrate'⟩, ?_, ?_⟩
  · rw [hrace, hsound.driven_keeps.1, hcircuit]
    exact hfit.drivable
  · rw [hnotes]
    exact .driving hlistening htasks hdriving hrate rfl
  · simp only [DemoStep, hcarried.driver?_eq (by simp), hbegins, if_true]
    exact ⟨hdraws, hrace, hlistening.driver?_demo htasks⟩

section

variable (hlistening : Listening (.demo steering loops) w c)
  (htasks : c.tasks = #[{ state := .waiting w, stack }])
  (hdriving : Driving rate steering loops stretches c) (hfit : Fit rate c)

include hlistening htasks hdriving hfit

/-- Time goes on up to the end of the countdown. -/
private theorem driving_passes (hrate : rate ≠ 0) (h : Passes eye c happening c')
    (hmisses : (Watch.Kind.demo steering loops).Misses happening)
    (hbeyond : .beyond ∉ demoNotes stack.length c happening c') :
    DemoNext rate stack (stretches.map .drove) c happening c' := by
  have hdriver := hlistening.driver?_demo htasks
  have hover := demoOver_of_waiting htasks stack.length
  cases h with
  | move => cases hmisses
  | disable => cases hmisses
  | expire | overdue => cases hmisses
  | enable => simp [demoNotes_enable] at hbeyond
  | refuse => simp [demoNotes_enable] at hbeyond
  | wait time =>
    have hpasses : Passes eye c (.wait time)
        { c with agenda := { c.agenda with now := time } } := .wait time
    have hdrives := hpasses.kept.listening hlistening
    have hstill : Driving rate steering loops stretches
        { c with agenda := { c.agenda with now := time } } :=
      ⟨hdriving.toRode.kept rfl hdriving.armed, hdriving.left, hdriving.more, hdriving.due⟩
    refine ⟨⟨hfit.clocked, hfit.drivable, hfit.rate⟩,
      .driving hdrives htasks hstill hrate (by simp [demoNotes, hover]), ?_⟩
    simp only [DemoStep, hdriver]
    exact ⟨rfl, rfl, hdrives.driver?_demo htasks⟩

/-- A release does nothing. -/
private theorem driving_released (hrate : rate ≠ 0) :
    DemoNext rate stack (stretches.map .drove) c (.move false) (moved eye false c) := by
  have hdrives := hlistening.moved eye false
  have hstill : Driving rate steering loops stretches (moved eye false c) :=
    ⟨hdriving.toRode.kept rfl hdriving.armed, hdriving.left, hdriving.more, hdriving.due⟩
  refine ⟨⟨hfit.clocked, hfit.drivable, hfit.rate⟩,
    .driving hdrives htasks hstill hrate (by simp [demoNotes, demoOver_of_waiting htasks]), ?_⟩
  simp only [DemoStep, hlistening.driver?_demo htasks]
  exact ⟨rfl, rfl, hdrives.driver?_demo htasks⟩

/-- A press ends the drive, and it is heard. -/
private theorem driving_pressed : DemoNext rate stack (stretches.map .drove) c (.move true)
    (left w (.flag true) (moved eye true c)) := by
  have hanswered := (hlistening.moved eye true).left_answered (.flag true)
  have hqueued := hanswered.queued htasks
  have hnotes : demoNotes stack.length c (.move true) (left w (.flag true) (moved eye true c)) =
      [.heard] := by
    simp [demoNotes, demoOver_of_waiting htasks, Settled, hlistening.active, hlistening.ready]
  refine ⟨⟨hfit.clocked, hfit.drivable, hfit.rate⟩, .ending hqueued hanswered.watch ?_, ?_⟩
  · rw [hnotes]
    exact .pressed (hdriving.toRode.kept rfl hdriving.armed)
  · simp only [DemoStep, hlistening.driver?_demo htasks]
    exact ⟨rfl, rfl, driver?_of_ending hqueued.tasks hanswered.watch⟩

/-- A countdown that is called off ends the drive, and this is not a press. -/
private theorem driving_calledOff : DemoNext rate stack (stretches.map .drove) c .disable
    (left w (.flag false) c.cleared) := by
  have hanswered := hlistening.cleared.left_answered (.flag false)
  have hqueued := hanswered.queued htasks
  have hdriver := hlistening.driver?_demo htasks
  have hnotes : demoNotes stack.length c .disable (left w (.flag false) c.cleared) =
      [.calledOff] := by
    simp [demoNotes, demoOver_of_waiting htasks, hdriver]
  refine ⟨⟨.inl c.cleared_unarmed, hfit.drivable, hfit.rate⟩, .ending hqueued hanswered.watch ?_,
    ?_⟩
  · rw [hnotes]
    exact .calledOff (hdriving.toRode.kept rfl (by simp [Timer.armed, left, cleared]))
  · simp only [DemoStep, hdriver]
    exact ⟨rfl, rfl, driver?_of_ending hqueued.tasks hanswered.watch⟩

end

section

variable (hlistening : Listening (.demo false loops) w c)
  (htasks : c.tasks = #[{ state := .waiting w, stack }])
  (hdriving : Driving rate false loops stretches c) (hfit : Fit rate c)

include hlistening htasks hdriving hfit

/-- At the end of a stretch the next one begins. -/
private theorem driving_on_next (hrate : rate ≠ 0) {due : Rat} (hends : c.EndsAt due)
    (outside : ω) : DemoNext rate stack (stretches.map .drove) c (.call .countdownOver)
      (armedFor eye (c.race.driven.wait - steerTicks)
        ((c.expired due).onward w loops outside)) := by
  let next := armedFor eye (c.race.driven.wait - steerTicks)
    ((c.expired due).onward w loops outside)
  have hdrives : Listening (.demo true loops) w next :=
    ((hlistening.expired due).onward outside).armed eye _
  have hdriver := hlistening.driver?_demo htasks
  have hnotes : demoNotes stack.length c (.call .countdownOver) next = [.drove next.stretch] := by
    simp [demoNotes, demoOver_of_waiting htasks, hdriver]
  obtain ⟨last, hlast, -, hdue⟩ := hdriving.due
  have hsince : next.agenda.now = last.since + pause last.ticks rate := hends.unique hdue
  have hapart : (stretches ++ [next.stretch]).IsChain (Stretch.Meets rate) := by
    rw [List.isChain_append]
    refine ⟨hdriving.apart, .singleton _, ?_⟩
    intro earlier hearlier later hlater
    obtain rfl : last = earlier := Option.some.inj (hlast.symm.trans hearlier)
    obtain rfl : next.stretch = later := Option.some.inj hlater
    exact hsince
  have hnow : next.EndsAt (next.agenda.now + pause (next.race.wait - steerTicks) rate) := by
    rw [← hfit.rate]
    exact armedFor_endsAt eye _ _
  have hstill : Driving rate true loops (stretches ++ [next.stretch]) next :=
    driving_on hdriving.sound hdriving.cars hdriving.speed hdriving.left hdriving.more rfl rfl hnow
      hapart
  refine ⟨⟨.inr ⟨_, hnow⟩, hstill.sound.drivable, hfit.rate⟩,
    .driving hdrives htasks hstill hrate ?_, ?_⟩
  · rw [hnotes]
    simp
  · simp only [DemoStep, hdriver]
    exact ⟨rfl, rfl, hdrives.driver?_demo htasks⟩

end

theorem takesJunction_iff : c.takesJunction = true ↔
    c.race.atJunction = true ∧ c.chances c.draws < steerChance := by
  simp [takesJunction]

/-- The rest of a stretch begins at the moment to steer. -/
theorem Driving.rest (h : Driving rate true loops stretches c) {due : Rat} (hends : c.EndsAt due)
    (hends' : c'.EndsAt (due + pause steerTicks rate)) :
    ∃ last, stretches.getLast? = some last ∧ (steerTicks : Int) ≤ last.ticks ∧
      c'.EndsAt (last.since + pause last.ticks rate) := by
  obtain ⟨last, hlast, hroom, hdue⟩ := h.due
  refine ⟨last, hlast, hroom, ?_⟩
  rw [if_pos rfl] at hdue
  have hsplit : pause last.ticks rate =
      pause (last.ticks - steerTicks) rate + pause steerTicks rate := by
    rw [← pause_add (by omega) (by decide), Int.sub_add_cancel]
  rwa [hsplit, ← add_assoc, ← hends.unique hdue]

/-- At the moment to steer nothing is noted. -/
theorem demoNotes_steering (hlistening : Listening (.demo true loops) w c)
    (htasks : c.tasks = #[{ state := .waiting w, stack }]) :
    demoNotes stack.length c (.call .countdownOver) c' = [] := by
  simp [demoNotes, demoOver_of_waiting htasks, hlistening.driver?_demo htasks]

/-- A junction that the demo takes counts for the score and for the speed, and costs no car. -/
theorem Driving.taken (h : Driving rate true loops stretches c)
    (hjunction : c.race.atJunction = true) (hrace : c'.race = c.race.steered)
    (harmed : c'.timer.armed = true → 0 < c'.timer.count) :
    Rode rate stretches c' ∧ c'.race.score = c.race.score + 1 := by
  have hstanding := h.sound.steered_standing
  rw [hjunction, ← hrace] at hstanding
  have hscore : c'.race.score = c.race.score + 1 := congrArg Standing.score hstanding
  have hcars : c'.race.cars = c.race.cars := congrArg Standing.cars hstanding
  have hspeed : c'.race.speed = min 255 (c.race.speed + 1) := congrArg Standing.speed hstanding
  have hleft := h.left
  have hmore := h.more
  have hbefore := h.speed
  unfold demoLoops at hleft
  unfold demoSpeed at hbefore
  refine ⟨⟨h.begun, h.apart, ?_, hcars.trans h.cars, ?_, ?_, harmed⟩, hscore⟩
  · rw [hrace]
    exact h.sound.steered
  · unfold demoSpeed
    omega
  · unfold demoLoops
    omega

section

variable (hlistening : Listening (.demo true loops) w c)
  (htasks : c.tasks = #[{ state := .waiting w, stack }])
  (hdriving : Driving rate true loops stretches c) (hfit : Fit rate c)

include hlistening htasks hdriving hfit

/-- Where the demo does not steer, it waits for the end of the stretch. -/
private theorem driving_aside (hrate : rate ≠ 0) {due : Rat} (hends : c.EndsAt due)
    (hkeeps : c.takesJunction = false) :
    DemoNext rate stack (stretches.map .drove) c (.call .countdownOver)
      (armedFor eye steerTicks ((c.expired due).aside w loops)) := by
  let next := armedFor eye steerTicks ((c.expired due).aside w loops)
  have hdrives : Listening (.demo false loops) w next := (hlistening.expired due).aside.armed eye _
  have hends' : next.EndsAt (due + pause steerTicks rate) := by
    rw [← hfit.rate]
    exact armedFor_endsAt eye _ _
  have hstill : Driving rate false loops stretches next :=
    ⟨hdriving.toRode.kept rfl fun _ => steerTicks_pos, hdriving.left, hdriving.more,
      hdriving.rest hends hends'⟩
  have hchance : ¬(c.race.atJunction = true ∧ c.chances c.draws < steerChance) := by
    rw [← takesJunction_iff, hkeeps]
    exact Bool.false_ne_true
  refine ⟨⟨.inr ⟨_, hends'⟩, hfit.drivable, hfit.rate⟩, .driving hdrives htasks hstill hrate ?_, ?_⟩
  · rw [demoNotes_steering hlistening htasks, List.append_nil]
  · simp only [DemoStep, hlistening.driver?_demo htasks, if_neg hchance]
    exact ⟨rfl, rfl, hdrives.driver?_demo htasks⟩

/-- A junction that is not the last leaves the stretch as it is. -/
private theorem driving_takes (hrate : rate ≠ 0) {due : Rat} (hends : c.EndsAt due) (outside : ω)
    (htakes : c.takesJunction = true) (hmore : loops - 1 ≠ 0) :
    DemoNext rate stack (stretches.map .drove) c (.call .countdownOver)
      (armedFor eye steerTicks ((c.expired due).taken w loops outside)) := by
  let next := armedFor eye steerTicks ((c.expired due).taken w loops outside)
  have hdrives : Listening (.demo false (loops - 1)) w next :=
    ((hlistening.expired due).taken outside).armed eye _
  have hends' : next.EndsAt (due + pause steerTicks rate) := by
    rw [← hfit.rate]
    exact armedFor_endsAt eye _ _
  have hchance := takesJunction_iff.mp htakes
  obtain ⟨hrode, hscore⟩ := hdriving.taken hchance.1 (rfl : next.race = c.race.steered)
    fun _ => steerTicks_pos
  have hleft := hdriving.left
  have hmany : next.race.score ≠ demoLoops := by omega
  have hstill : Driving rate false (loops - 1) stretches next :=
    ⟨hrode, by omega, by omega, hdriving.rest hends hends'⟩
  refine ⟨⟨.inr ⟨_, hends'⟩, hrode.sound.drivable, hfit.rate⟩,
    .driving hdrives htasks hstill hrate ?_, ?_⟩
  · rw [demoNotes_steering hlistening htasks, List.append_nil]
  · simp only [DemoStep, hlistening.driver?_demo htasks, if_pos hchance]
    refine ⟨rfl, rfl, hscore, ?_⟩
    rw [hdrives.driver?_demo htasks, if_neg hmany]

/-- The last junction ends the drive. -/
private theorem driving_last {due : Rat} (outside : ω) (htakes : c.takesJunction = true)
    (hlast : loops - 1 = 0) :
    DemoNext rate stack (stretches.map .drove) c (.call .countdownOver)
      (left w (.flag false) ((c.expired due).taken w loops outside)) := by
  let next := left w (.flag false) ((c.expired due).taken w loops outside)
  have hanswered := ((hlistening.expired due).taken outside).left_answered (.flag false)
  have hqueued := hanswered.queued htasks
  have hchance := takesJunction_iff.mp htakes
  obtain ⟨hrode, hscore⟩ := hdriving.taken hchance.1 (rfl : next.race = c.race.steered)
    fun harmed => by cases harmed
  have hleft := hdriving.left
  have hmore := hdriving.more
  have hall : next.race.score = demoLoops := by omega
  refine ⟨⟨.inl ⟨rfl, rfl⟩, hrode.sound.drivable, hfit.rate⟩,
    .ending hqueued hanswered.watch ?_, ?_⟩
  · rw [demoNotes_steering hlistening htasks, List.append_nil]
    exact .last hrode hall
  · simp only [DemoStep, hlistening.driver?_demo htasks, if_pos hchance]
    refine ⟨rfl, rfl, hscore, ?_⟩
    rw [driver?_of_ending hqueued.tasks hanswered.watch, if_pos hall]

end

/-- Whatever happens to the drive, the demo stands somewhere. -/
theorem driving_next (hlistening : Listening (.demo steering loops) w c)
    (htasks : c.tasks = #[{ state := .waiting w, stack }])
    (hdriving : Driving rate steering loops stretches c) (hfit : Fit rate c) (hrate : rate ≠ 0)
    (hhappens : Happens eye.around c happening c')
    (hbeyond : .beyond ∉ demoNotes stack.length c happening c') :
    DemoNext rate stack (stretches.map .drove) c happening c' := by
  cases hlistening.demoDrives hfit.clocked hdriving.sound (hfit.rate ▸ hrate) hhappens with
  | passes hpasses hmisses =>
    exact driving_passes hlistening htasks hdriving hfit hrate hpasses hmisses hbeyond
  | released => exact driving_released hlistening htasks hdriving hfit hrate
  | pressed => exact driving_pressed hlistening htasks hdriving hfit
  | calledOff => exact driving_calledOff hlistening htasks hdriving hfit
  | on hends outside => exact driving_on_next hlistening htasks hdriving hfit hrate hends outside
  | aside hends hkeeps => exact driving_aside hlistening htasks hdriving hfit hrate hends hkeeps
  | takes hends outside htakes hmore =>
    exact driving_takes hlistening htasks hdriving hfit hrate hends outside htakes hmore
  | last hends outside htakes hlast =>
    exact driving_last hlistening htasks hdriving hfit outside htakes hlast

end

end DigitRace.Cabinet
