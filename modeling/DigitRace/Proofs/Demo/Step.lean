import DigitRace.Proofs.Demo.Drive

/-!
# Whatever happens to the demo

The demo stands somewhere after everything that can happen to it until it is over, and what was
noted of it tells how it got there.
-/

namespace DigitRace.Cabinet

variable {ω : Type} {eye : Onlooker ω} {c c' : Cabinet ω} {rate : Int}
  {stack frames : List Frame} {notes : List DemoNote} {happening : Happening} {w : Nat}

/-- While task 0 is about to be called, what passes is not noted. -/
theorem Passes.unnoted {depth : Nat} (h : Passes eye c happening c')
    (hqueued : Queued (.waiting w) frames c) (hdriver : c.driver? = none)
    (hbeyond : .beyond ∉ demoNotes depth c happening c') :
    demoNotes depth c happening c' = [] := by
  have hover := demoOver_of_waiting hqueued.tasks depth
  cases h with
  | enable => simp [demoNotes_enable] at hbeyond
  | refuse => simp [demoNotes_enable] at hbeyond
  | expire hready => simp [hqueued.ready] at hready
  | move pressed => cases pressed <;> simp [demoNotes, hover, Settled, hqueued.ready]
  | _ => simp [demoNotes, hover, hdriver]

/-- An answer to the text goes on. -/
private theorem telling_next {pressed : Bool}
    (hcarried : Carried (.answering (.flag pressed)) frames c) (hscrolls : Scrolls stack frames)
    (hrate : rate ≠ 0) (hfit : Fit rate c) :
    DemoNext rate stack (DemoNote.ofPress pressed) c .carry (carryOn eye.around 0 c) := by
  have hdepth := hscrolls.length_lt
  cases hscrolls with
  | text =>
    cases pressed with
    | false => exact begins_next hcarried hfit hrate
    | true => exact pressed_next hcarried hfit
  | rest htext =>
    rw [hcarried.carryOn_answering]
    refine Recited.taken ?_ hcarried (by simp) hdepth
    exact recited_textRest pressed htext (hcarried.goesOver _ _)
      ⟨hfit.clocked, hfit.drivable, hfit.rate⟩ hrate
  | character htext =>
    rw [hcarried.carryOn_answering]
    refine Recited.taken ?_ hcarried (by simp) hdepth
    exact recited_characterShown pressed htext
      ⟨rfl, hcarried.active, hcarried.ready, hcarried.deaf⟩
      ⟨hfit.clocked, hfit.drivable, hfit.rate⟩ hrate

/-- Task 0 learns of the answer to its wait, or what happens passes it by. -/
private theorem woken_next {answer : Answer} (hqueued : Queued (.waiting w) frames c)
    (hanswer : (c.watches[w]?).bind Watch.ending = some (.answered answer)) (hfit : Fit rate c)
    (hhappens : Happens eye.around c happening c')
    (hbeyond : .beyond ∉ demoNotes stack.length c happening c') :
    demoNotes stack.length c happening c' = [] ∧ Fit rate c' ∧ DemoStep c happening c' ∧
      (Passes eye c happening c' ∨ Carried (.answering answer) frames c' ∧
        c'.race = c.race ∧ c'.timer = c.timer) := by
  have hdriver := driver?_of_ending hqueued.tasks hanswer
  have hbegins := beginsDrive_of_waiting hqueued.tasks
  rcases hqueued.cases hfit.clocked hhappens with hpasses | ⟨rfl, rfl⟩
  · have hsame := hpasses.untouched
    rw [hdriver] at hsame
    exact ⟨hpasses.unnoted hqueued hdriver hbeyond, hpasses.fit hfit, hsame.step hdriver hbegins,
      .inl hpasses⟩
  · obtain ⟨hcarried, hwake⟩ := hqueued.wake_waiting hanswer
    have hsame : Untouched none c (wake 0 { c with agenda := { c.agenda with ready := [] } }) := by
      refine ⟨?_, ?_, hcarried.driver?_eq (by simp)⟩
      · rw [hwake]
      · rw [hwake]
    refine ⟨by simp [demoNotes, demoOver_of_waiting hqueued.tasks], ?_, hsame.step hdriver hbegins,
      .inr ⟨hcarried, ?_, ?_⟩⟩
    · rw [hwake]
      exact ⟨hfit.clocked, hfit.drivable, hfit.rate⟩
    · rw [hwake]
    · rw [hwake]

/-- **The demo stands somewhere.** Whatever happens before it is over, as long as nobody else arms
the timer, the demo stands somewhere, and does to the race what it may. -/
theorem InDemo.next (h : InDemo rate stack notes c) (hfit : Fit rate c)
    (hhappens : Happens eye.around c happening c')
    (hbeyond : .beyond ∉ demoNotes stack.length c happening c') :
    DemoNext rate stack notes c happening c' := by
  cases h with
  | calling hcarried hrecites hrate hnotes =>
    obtain ⟨rfl, rfl⟩ := hcarried.cases hhappens
    subst hnotes
    exact calling_next hcarried hrecites hrate hfit
  | waiting hlistening htasks hscrolls hrate hnotes =>
    subst hnotes
    exact waiting_next hlistening htasks hscrolls hrate hfit hhappens hbeyond
  | told hqueued hanswer hscrolls hrate hnotes =>
    obtain ⟨hnone, hfit', hstep, hcases⟩ := woken_next hqueued hanswer hfit hhappens hbeyond
    refine ⟨hfit', ?_, hstep⟩
    rw [hnone, List.append_nil]
    rcases hcases with hpasses | ⟨hcarried, -, -⟩
    · refine .told (hpasses.kept.queued hqueued) ?_ hscrolls hrate hnotes
      rw [hpasses.kept.watches]
      exact hanswer
    · exact .telling hcarried hscrolls hrate hnotes
  | telling hcarried hscrolls hrate hnotes =>
    obtain ⟨rfl, rfl⟩ := hcarried.cases hhappens
    subst hnotes
    exact telling_next hcarried hscrolls hrate hfit
  | driving hlistening htasks hdriving hrate hnotes =>
    subst hnotes
    exact driving_next hlistening htasks hdriving hfit hrate hhappens hbeyond
  | ending hqueued hanswer hend =>
    obtain ⟨hnone, hfit', hstep, hcases⟩ := woken_next hqueued hanswer hfit hhappens hbeyond
    refine ⟨hfit', ?_, hstep⟩
    rw [hnone, List.append_nil]
    rcases hcases with hpasses | ⟨hcarried, hrace, htimer⟩
    · refine .ending (hpasses.kept.queued hqueued) ?_ (hend.kept hpasses.kept.race ?_)
      · rw [hpasses.kept.watches]
        exact hanswer
      · refine hpasses.armed ?_
        rintro ticks rfl
        simp [demoNotes_enable] at hbeyond
    · refine .back hcarried (hend.kept hrace ?_)
      rw [htimer]
      exact id
  | back hcarried =>
    obtain ⟨rfl, rfl⟩ := hcarried.cases hhappens
    simp [demoNotes, demoOver_of_tasks hcarried.tasks, Task.isBack] at hbeyond
  | failed hover => simp [demoNotes, demoOver_of_tasks hover.tasks, Task.isBack] at hbeyond

end DigitRace.Cabinet
