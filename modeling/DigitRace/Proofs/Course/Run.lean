import DigitRace.Proofs.Course.Stall

/-!
# Runs of the game

From a cabinet in which nothing has begun, every run of the game keeps to its course: after
each happening the game stands at a leg, or it stalls because the timer cannot be armed. The
leg tells the marks of the run, the stage and the cars that are left.
-/

namespace DigitRace.Cabinet

variable {ω α β : Type} {eye : Onlooker ω} {c c' first : Cabinet ω} {games : Value} {leg : Leg}

/-- A cabinet in which nothing has begun, with a race on a circuit that can be driven. -/
structure Fresh (c : Cabinet ω) : Prop where
  vacant : c.Vacant
  sound : c.race.Sound
  stage : c.stage = none

theorem atRest_fresh {race : Race} (hsound : race.Sound) : (atRest race).Fresh :=
  ⟨atRest_vacant race, hsound, rfl⟩

/-- How far the game has come, and how it stands there. -/
inductive Courses (games : Value) (leg : Leg) (c : Cabinet ω) : Prop
  | stands (hupon : Upon games leg c) (hstands : Stands games leg c)
  | stalls (hhalted : Halted leg c) (hstalls : Stalls games leg c)

/-- A run is a run whatever is noted of it. -/
theorem Run.noting {around : Surroundings ω} {noted : Cabinet ω → Happening → Cabinet ω → List α}
    {notes : List α} (h : Run around noted first notes c)
    (noted' : Cabinet ω → Happening → Cabinet ω → List β) :
    ∃ notes', Run around noted' first notes' c := by
  induction h with
  | start => exact ⟨[], .start⟩
  | next _ hhappens ih =>
    obtain ⟨notes', hrun⟩ := ih
    exact ⟨_, hrun.next hhappens⟩

/-- The task of the game is about to be called. -/
theorem Fresh.courses (h : c.Fresh) (games : Value) :
    Courses games .start (spawn (.run games) c) := by
  have hqueued := h.vacant.spawn (.run games)
  by_cases hrate : c.timer.rate = 0
  · exact .stalls ⟨h.vacant.clocked, hrate, h.stage⟩ (.begins rfl hqueued)
  · exact .stands ⟨h.vacant.clocked, h.sound, hrate, h.stage, trivial⟩ (.begins rfl hqueued)

/-- After each happening the game is at a leg of its course that tells the marks. -/
theorem Courses.next {happening : Happening} (h : Courses games leg c)
    (hhappens : Happens eye.around c happening c') :
    ∃ leg', Courses games leg' c' ∧ leg'.marks = leg.marks ++ marksOf c happening c' := by
  cases h with
  | stands hupon hstands =>
    obtain ⟨leg', hupon', hstands', hmarks⟩ := hstands.next hupon hhappens
    exact ⟨leg', .stands hupon' hstands', hmarks⟩
  | stalls hhalted hstalls =>
    obtain ⟨leg', hhalted', hstalls', hmarks⟩ := hstalls.next hhalted hhappens
    exact ⟨leg', .stalls hhalted' hstalls', hmarks⟩

/-- A run of the game is at a leg of its course, whose marks are those of the run. -/
theorem Run.courses (hfresh : c.Fresh) {marks : List Mark}
    (hrun : Run eye.around marksOf (spawn (.run games) c) marks c') :
    ∃ leg, Courses games leg c' ∧ leg.marks = marks := by
  induction hrun with
  | start => exact ⟨.start, hfresh.courses games, rfl⟩
  | next _ hhappens ih =>
    obtain ⟨leg, hcourses, hmarks⟩ := ih
    obtain ⟨leg', hcourses', hmarks'⟩ := hcourses.next hhappens
    exact ⟨leg', hcourses', by rw [hmarks', hmarks]⟩

/-- The demo on the track, once its first character is shown. -/
def demoOnTrack (games : Value) : Cabinet Unit :=
  run Onlooker.idle.around (fun _ => false) 0 20 (spawn (.run games) (atRest .onTrack))

theorem demoOnTrack_run (noted : Cabinet Unit → Happening → Cabinet Unit → List α)
    (games : Value) : ∃ notes, Run Onlooker.idle.around noted
      (spawn (.run games) (atRest .onTrack)) notes (demoOnTrack games) :=
  Run.start.run (fun _ => false) 0 20

/-! ## What a leg tells -/

/-- A game that stalls has not come beyond its first demo. -/
theorem Stalls.early (h : Stalls games leg c) : leg = .start ∨ leg = .demo 0 := by
  cases h with
  | begins hleg => exact .inl hleg
  | calling _ hstalling =>
    cases hstalling with
    | run => exact .inl rfl
    | demo => exact .inl rfl
    | text => exact .inr rfl
    | character => exact .inr rfl
  | failed hleg => exact .inr hleg

theorem Courses.stage (h : Courses games leg c) : c.stage = leg.stage := by
  cases h with
  | stands hupon => exact hupon.stage
  | stalls hhalted => exact hhalted.stage

theorem Courses.holds (h : Courses games leg c) : leg.Holds games c.race.cars := by
  cases h with
  | stands hupon => exact hupon.holds
  | stalls _ hstalls =>
    rcases hstalls.early with rfl | rfl
    · trivial
    · trivial

/-- While its task is not over and nothing is left to do, the game waits. -/
theorem Courses.waiting (h : Courses games leg c) (hsettled : c.Settled)
    (hpending : c.allOver = false) :
    ∃ kind w stack, Listening kind w c ∧ c.tasks = #[{ state := .waiting w, stack }] ∧
      Waits games leg kind stack ∧ (kind.hearsTimer = true → c.Ticking) ∧
      (kind = .release → c.key.pressed = true) ∧ Upon games leg c := by
  obtain ⟨hactive, hready⟩ := hsettled
  cases h with
  | stands hupon hstands =>
    cases hstands with
    | begins _ hqueued => simp [hqueued.ready] at hready
    | calling hcarried => simp [hcarried.active] at hactive
    | answering hcarried => simp [hcarried.active] at hactive
    | waiting hlistening htasks hwaits hticking hpressed =>
      exact ⟨_, _, _, hlistening, htasks, hwaits, hticking, hpressed, hupon⟩
    | woken hqueued => simp [hqueued.ready] at hready
    | returned _ hover => simp [hover.allOver] at hpending
    | failed _ hover => simp [hover.allOver] at hpending
  | stalls _ hstalls =>
    cases hstalls with
    | begins _ hqueued => simp [hqueued.ready] at hready
    | calling hcarried => simp [hcarried.active] at hactive
    | failed _ hover => simp [hover.allOver] at hpending

end DigitRace.Cabinet
