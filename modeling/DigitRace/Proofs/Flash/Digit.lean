import DigitRace.Proofs.Flash.Step

/-!
# The digit that flashes

After every run up to its answer, a digit that flashes shows what the events since the key was up
make of it. It is over with the first event that stops it, or with the twentieth, and in the end it
is dark. Left alone, it comes to its answer.
-/

namespace DigitRace

namespace Cabinet

variable {clock : Cabinet Writes → Rat} {c c' : Cabinet Writes} {start : Rat} {rate : Int}
  {begun : Writes} {stack : List Frame} {digit : Int} {events : List Bool} {notes : List FlashNote}

/-! ## Runs -/

/-- A digit stands somewhere after every run that does not lead beyond it. -/
theorem Run.flashed {first : Cabinet Writes} {value : Int}
    (hrun : Run (Onlooker.scribe clock).around (flashNotes stack.length) first notes c)
    (hcalled : Carried (.calling (.flashingDigit (.int value))) stack first)
    (hclocked : first.Clocked) (hobserved : first.display.observer.isSome = true)
    (hrate : first.timer.rate ≠ 0) (hbeyond : .beyond ∉ notes) :
    ∃ start, Flashed start first.timer.rate first.outside (min value greatestDigit) stack
      (FlashNote.events? first.key.pressed notes) c := by
  induction hrun with
  | start => exact ⟨_, .called hcalled rfl rfl rfl rfl, hclocked, hobserved, rfl⟩
  | next _ hhappens ih =>
    rw [List.mem_append, not_or] at hbeyond
    obtain ⟨start, hflashed⟩ := ih hbeyond.1
    obtain ⟨start', -, hnext⟩ := hflashed.next hhappens hbeyond.2 hrate
    rw [FlashNote.events?, List.foldl_append]
    exact ⟨start', hnext⟩

/-- Nothing is shown, and nothing is over, before the key is up. -/
theorem Flashed.held (h : Flashed start rate begun digit stack none c) :
    c.outside = begun ∧ ∀ answer, ¬ Carried (.answering answer) stack c := by
  cases h.stands with
  | called hcarried _ hbegun =>
    exact ⟨hbegun, fun _ hback => by cases (hback.task_eq hcarried.tasks).1⟩
  | asks hcarried hbegun =>
    exact ⟨hbegun, fun _ hback => by cases (hback.task_eq hcarried.tasks).1⟩
  | held _ htasks hbegun => exact ⟨hbegun, fun _ hback => by cases (hback.task_eq htasks).1⟩
  | up _ _ _ _ hheard => cases hheard
  | ready _ _ _ hheard => cases hheard
  | shown _ hheard => cases hheard

theorem Leaves.not_settled (h : Leaves stack c) : ¬ c.Settled := by
  cases h with
  | told hqueued => exact hqueued.not_settled
  | back hcarried => exact hcarried.not_settled

/-- Where nothing else is left to do once the key is up, the digit waits at a face. -/
theorem Flashed.atFace (h : Flashed start rate begun digit stack (some events) c)
    (hsettled : c.Settled) : ∃ w shown, AtFace start rate begun digit stack w shown c ∧
      c.EndsAt (tickTime start rate (5 * (shown + 1))) ∧ events = List.replicate shown false := by
  cases h.stands with
  | called hcarried => exact absurd hsettled hcarried.not_settled
  | asks hcarried => exact absurd hsettled hcarried.not_settled
  | held _ _ _ hheard => cases hheard
  | up hqueued => exact absurd hsettled hqueued.not_settled
  | ready hcarried => exact absurd hsettled hcarried.not_settled
  | shown hshown hheard =>
    obtain rfl := Option.some.inj hheard
    cases hshown with
    | face hface hends hevents => exact ⟨_, _, hface, hends, hevents⟩
    | dark hleaves => exact absurd hsettled hleaves.not_settled

/-- A digit at a face has its faces written down up to the last event. -/
theorem AtFace.blinking {w shown : Nat} (h : AtFace start rate begun digit stack w shown c) :
    Blinking start rate begun digit (List.replicate shown false) c := by
  have hmore := h.more
  refine ⟨h.begins_le, ?_, ?_⟩
  · rw [firstStop_replicate hmore.le, List.length_replicate]
    omega
  · rw [List.length_replicate]
    exact h.outside

theorem Flashed.blinking (h : Flashed start rate begun digit stack (some events) c)
    (hsettled : c.Settled) : Blinking start rate begun digit events c := by
  obtain ⟨w, shown, hface, -, rfl⟩ := h.atFace hsettled
  exact hface.blinking

/-- A digit that has an answer for whoever called it is dark. -/
theorem Flashed.answers {answer : Answer}
    (h : Flashed start rate begun digit stack (some events) c)
    (hcarried : Carried (.answering answer) stack c) :
    answer = .nothing ∧ Darkened start rate begun digit events c := by
  cases h.stands with
  | called hother => cases (hcarried.task_eq hother.tasks).1
  | asks hother => cases (hcarried.task_eq hother.tasks).1
  | held _ htasks => cases (hcarried.task_eq htasks).1
  | up hqueued => cases (hcarried.task_eq hqueued.tasks).1
  | ready hother => exact absurd (hcarried.task_eq hother.tasks).2 (by simp)
  | shown hshown hheard =>
    obtain rfl := Option.some.inj hheard
    cases hshown with
    | face hface => cases (hcarried.task_eq hface.tasks).1
    | dark hleaves hdark =>
      cases hleaves with
      | told hqueued => cases (hcarried.task_eq hqueued.tasks).1
      | back hother =>
        cases (hcarried.task_eq hother.tasks).1
        exact ⟨rfl, hdark⟩

/-! ## On its own -/

/-- Once the key is up, a digit either waits for the next event or is over. -/
def Rests (start : Rat) (rate : Int) (begun : Writes) (digit : Int) (stack : List Frame)
    (events : List Bool) (c : Cabinet Writes) : Prop :=
  Flashed start rate begun digit stack (some events) c ∧
    (c.Settled ∨ Carried (.answering .nothing) stack c)

variable (clock) in
/-- The task learns of the end of its digit with the next step of the program. -/
theorem Leaves.soon (h : Leaves stack c) (horizon : Rat) :
    Soon (Onlooker.scribe clock).around horizon 1 (fun c' =>
      Carried (.answering .nothing) stack c' ∧ c'.outside = c.outside ∧
        c'.display = c.display ∧ c'.timer = c.timer ∧ (c.Clocked → c'.Clocked)) c := by
  cases h with
  | told hqueued hanswer =>
    obtain ⟨hcarried, hwake⟩ := hqueued.wake_waiting hanswer
    apply Soon.step (hqueued.step? horizon)
    · rw [hwake]
    · rw [hwake]
    · rw [hwake] at hcarried ⊢
      exact .now ⟨hcarried, rfl, rfl, rfl, id⟩
  | back hcarried => exact .now ⟨hcarried, rfl, rfl, rfl, id⟩

/-- A digit is shown with the next step of the program. -/
theorem Carried.soon_shown
    (h : Carried (.answering .nothing) (.readyToFlash (.int digit) :: stack) c)
    (hclocked : c.Clocked) (hobserved : c.display.observer.isSome = true)
    (hrate : c.timer.rate ≠ 0) (horizon : Rat) :
    Soon (Onlooker.scribe clock).around horizon 1
      (Rests c.agenda.now c.timer.rate c.outside digit stack []) c := by
  obtain ⟨hflashed, hsettled, hsame, hkey⟩ := flashed_begins clock h hclocked hobserved hrate
  exact .step (h.step? horizon) hsame hkey (.now ⟨hflashed, .inl hsettled⟩)

/-- A digit that asks is shown if the key is up. -/
theorem Carried.soon_asked
    (h : Carried (.calling .keyReleased) (.readyToFlash (.int digit) :: stack) c)
    (hclocked : c.Clocked) (hobserved : c.display.observer.isSome = true)
    (hrate : c.timer.rate ≠ 0) (hup : c.key.pressed = false) (horizon : Rat) :
    Soon (Onlooker.scribe clock).around horizon 2
      (Rests c.agenda.now c.timer.rate c.outside digit stack []) c := by
  obtain ⟨hready, hcarry⟩ := h.carryOn_up clock hup
  apply Soon.step (h.step? horizon)
  · rw [hcarry]
  · rw [hcarry]
  · rw [hcarry] at hready ⊢
    exact hready.soon_shown hclocked hobserved hrate horizon

variable (clock) in
/-- Once the key is up, three steps of the program at most show what was heard. -/
theorem Flashed.soon (h : Flashed start rate begun digit stack (some events) c) (hrate : rate ≠ 0)
    (horizon : Rat) : Soon (Onlooker.scribe clock).around horizon 3
      (Rests start rate begun digit stack events) c := by
  obtain ⟨hstands, hclocked, hobserved, rfl⟩ := h
  have hup {down : Bool} (hheard : some events = if down then none else some []) :
      down = false ∧ events = [] := by
    cases down with
    | false => exact ⟨rfl, Option.some.inj hheard⟩
    | true => cases hheard
  cases hstands with
  | called hcarried hdigit hbegun hnow hheard =>
    obtain ⟨hreleased, rfl⟩ := hup hheard
    subst hdigit hbegun hnow
    obtain ⟨hcalled, hcarry⟩ := hcarried.carryOn_flashingDigit clock
    apply Soon.step (hcarried.step? horizon)
    · rw [hcarry]
    · rw [hcarry]
    · rw [hcarry] at hcalled ⊢
      exact hcalled.soon_asked hclocked hobserved hrate hreleased horizon
  | asks hcarried hbegun hnow hheard =>
    obtain ⟨hreleased, rfl⟩ := hup hheard
    subst hbegun hnow
    exact (hcarried.soon_asked hclocked hobserved hrate hreleased horizon).mono (by decide)
  | held _ _ _ hheard => cases hheard
  | up hqueued hanswer hbegun hnow hheard =>
    obtain rfl := Option.some.inj hheard
    subst hbegun hnow
    obtain ⟨hready, hwake⟩ := hqueued.wake_waiting hanswer
    have hlearns : Soon (Onlooker.scribe clock).around horizon 2
        (Rests c.agenda.now c.timer.rate c.outside digit stack []) c := by
      apply Soon.step (hqueued.step? horizon)
      · rw [hwake]
      · rw [hwake]
      · rw [hwake] at hready ⊢
        exact hready.soon_shown hclocked hobserved hrate horizon
    exact hlearns.mono (by decide)
  | ready hcarried hbegun hnow hheard =>
    obtain rfl := Option.some.inj hheard
    subst hbegun hnow
    exact (hcarried.soon_shown hclocked hobserved hrate horizon).mono (by decide)
  | shown hshown hheard =>
    obtain rfl := Option.some.inj hheard
    cases hshown with
    | face hface hends hevents =>
      exact .now ⟨⟨.shown (.face hface hends hevents) rfl, hclocked, hobserved, rfl⟩,
        .inl hface.settled⟩
    | dark hleaves hdark =>
      obtain ⟨steps, hsteps, hnow, hkey, hback, houtside, hdisplay, htimer, hticking⟩ :=
        hleaves.soon clock horizon
      refine ⟨steps, hsteps.trans (by decide), hnow, hkey,
        ⟨.shown (.dark (.back hback) (hdark.kept houtside hnow hdisplay)) rfl, hticking hclocked,
          hdisplay ▸ hobserved, congrArg Timer.rate htimer⟩, .inr hback⟩

variable (clock) in
/-- A digit that waits hears the end of its face by then. -/
theorem Flashed.elapses (h : Flashed start rate begun digit stack (some events) c)
    (hsettled : c.Settled) (hrate : rate ≠ 0) {horizon : Rat}
    (hhorizon : tickTime start rate (5 * (events.length + 1)) ≤ horizon) :
    ∃ c', step? (Onlooker.scribe clock).around horizon c = some c' ∧
      Flashed start rate begun digit stack (some (events ++ [c.key.pressed])) c' ∧
      c'.key.pressed = c.key.pressed := by
  obtain ⟨w, shown, hface, hends, rfl⟩ := h.atFace hsettled
  rw [List.length_replicate] at hhorizon
  obtain ⟨c', hexpires, hheard⟩ := hface.expires clock hrate rfl
  exact ⟨c', (hends.step?_eq hsettled hhorizon).trans (congrArg some hexpires), hheard.flashed,
    hheard.key⟩

variable (clock) in
/-- Once the key is up, a digit that is left alone is over after 100 ticks, and if the key stays up,
nothing stops it before. -/
theorem Flashed.comes (h : Flashed start rate begun digit stack (some events) c) (hrate : rate ≠ 0)
    {horizon : Rat} (hhorizon : tickTime start rate 100 ≤ horizon) :
    ∃ steps later, Flashed start rate begun digit stack (some (events ++ later))
        (run (Onlooker.scribe clock).around (fun _ => false) horizon steps c) ∧
      Carried (.answering .nothing) stack
        (run (Onlooker.scribe clock).around (fun _ => false) horizon steps c) ∧
      ∀ stops ∈ later, stops = c.key.pressed := by
  obtain ⟨left, hleft⟩ : ∃ left, flashCycles ≤ events.length + left := ⟨_, Nat.le_add_left _ _⟩
  -- Every event is one less to come, and there are 20 of them at most.
  induction left generalizing c events with
  | zero =>
    obtain ⟨steps, -, -, -, hflashed, hsettled | hback⟩ := h.soon clock hrate horizon
    · have hmore := (hflashed.blinking hsettled).more
      omega
    · exact ⟨steps, [], by simpa using hflashed, hback, by simp⟩
  | succ left ih =>
    obtain ⟨steps, -, -, hkey, hflashed, hsettled | hback⟩ := h.soon clock hrate horizon
    · have hmore := (hflashed.blinking hsettled).more
      have hdue : tickTime start rate (5 * (events.length + 1)) ≤ horizon := by
        refine (tickTime_mono ?_).trans hhorizon
        have hcycles : flashCycles = 20 := rfl
        omega
      obtain ⟨c', hstep, hnext, hsame⟩ := hflashed.elapses clock hsettled hrate hdue
      rw [hkey] at hnext hsame
      obtain ⟨steps', later, hcomes, hback, hlater⟩ := ih hnext (by simp; omega)
      refine ⟨steps + (steps' + 1), c.key.pressed :: later, ?_⟩
      rw [run_append, run_step hstep]
      refine ⟨by simpa using hcomes, hback, fun stops hstops => ?_⟩
      rcases List.mem_cons.mp hstops with rfl | hrest
      · rfl
      · exact (hlater stops hrest).trans hsame
    · exact ⟨steps, [], by simpa using hflashed, hback, by simp⟩

/-! ## The digit -/

/-- **A digit flashes until it is stopped.** Call a digit to flash, at most a 9, and let anything
happen up to its answer but that someone else arms the timer. Before the key is up, nothing is
shown. From then on the first event that stops the digit matters: one at which the countdown is
called off or the key is down, or the twentieth. Before it the digit waits, with its faces written
down, one more than there were events. With it the digit is over: it is dark, with one blank written
down after the faces, and if nothing stopped it, 100 ticks have passed since the first face. All
that was heard is shown three steps of the program later at most; and a digit that is left alone
comes to its answer. -/
theorem digit_flashes_until_stopped (clock : Cabinet Writes → Rat) {first : Cabinet Writes}
    {value : Int} (hcalled : Carried (.calling (.flashingDigit (.int value))) stack first)
    (hclocked : first.Clocked) (hobserved : first.display.observer.isSome = true)
    (hrate : first.timer.rate ≠ 0)
    (hrun : Run (Onlooker.scribe clock).around (flashNotes stack.length) first notes c)
    (hbeyond : .beyond ∉ notes) :
    (FlashNote.events? first.key.pressed notes = none →
      c.outside = first.outside ∧ ∀ answer, ¬ Carried (.answering answer) stack c) ∧
    ∀ events, FlashNote.events? first.key.pressed notes = some events → ∃ start,
      (c.Settled → Blinking start first.timer.rate first.outside (min value 9) events c) ∧
      (∀ answer, Carried (.answering answer) stack c → answer = .nothing ∧
        Darkened start first.timer.rate first.outside (min value 9) events c) ∧
      (∀ horizon, Soon (Onlooker.scribe clock).around horizon 3 (fun c' =>
        if events.length < min (firstStop events) 20 then
          c'.Settled ∧ Blinking start first.timer.rate first.outside (min value 9) events c'
        else Carried (.answering .nothing) stack c' ∧
          Darkened start first.timer.rate first.outside (min value 9) events c') c) ∧
      ∀ horizon, tickTime start first.timer.rate 100 ≤ horizon → ∃ steps later c',
        run (Onlooker.scribe clock).around (fun _ => false) horizon steps c = c' ∧
        Carried (.answering .nothing) stack c' ∧
        Darkened start first.timer.rate first.outside (min value 9) (events ++ later) c' ∧
        ∀ stops ∈ later, stops = c.key.pressed := by
  obtain ⟨start, hflashed⟩ := hrun.flashed hcalled hclocked hobserved hrate hbeyond
  refine ⟨fun hnone => ?_, fun events hevents => ⟨start, ?_⟩⟩
  · rw [hnone] at hflashed
    exact hflashed.held
  · rw [hevents] at hflashed
    refine ⟨hflashed.blinking, fun _ => hflashed.answers, fun horizon => ?_,
      fun horizon hhorizon => ?_⟩
    · obtain ⟨steps, hsteps, hnow, hkey, hrests, hrest⟩ := hflashed.soon clock hrate horizon
      refine ⟨steps, hsteps, hnow, hkey, ?_⟩
      rcases hrest with hsettled | hback
      · have hblinking := hrests.blinking hsettled
        have hmore : events.length < min (firstStop events) 20 := hblinking.more
        rw [if_pos hmore]
        exact ⟨hsettled, hblinking⟩
      · have hdarkened := (hrests.answers hback).2
        have hcount : events.length = min (firstStop events) 20 := hdarkened.count
        rw [if_neg hcount.not_lt]
        exact ⟨hback, hdarkened⟩
    · obtain ⟨steps, later, hcomes, hback, hlater⟩ := hflashed.comes clock hrate hhorizon
      exact ⟨steps, later, _, rfl, hback, (hcomes.answers hback).2, hlater⟩

/-- A 12 flashes as a 9 once the key is up, and is called off at once; a 3 that is left alone is
dark two seconds later. -/
theorem digit_flashes_until_stopped_nine :
    (∃ notes c, Run (Onlooker.scribe fun _ => 0).around (flashNotes 0)
        (calledAlone (.flashingDigit (.int 12)) true) notes c ∧
      notes = [.moved false, .event true] ∧
      Soon (Onlooker.scribe fun _ => 0).around 0 3 (fun c' => Carried (.answering .nothing) [] c' ∧
        c'.outside.map Prod.snd = [digitPattern 9, ""]) c) ∧
    ∃ steps c, run (Onlooker.scribe fun _ => 0).around (fun _ => false) 2 steps
        (calledAlone (.flashingDigit (.int 3)) false) = c ∧
      Carried (.answering .nothing) [] c ∧ c.display.pattern = "" := by
  constructor
  · let called := calledAlone (.flashingDigit (.int 12)) true
    let last := deedsNoted (Onlooker.scribe fun _ => 0).around (flashNotes 0)
      [.steps 5, .move false, .steps 5, .disable] called
    have hrun : Run (Onlooker.scribe fun _ => 0).around (flashNotes 0) called last.1 last.2 :=
      Run.start.deedsNoted [.steps 5, .move false, .steps 5, .disable]
    have hnotes : last.1 = [.moved false, .event true] := by decide +kernel
    have hbeyond : .beyond ∉ last.1 := by
      rw [hnotes]
      decide
    have hevents : FlashNote.events? called.key.pressed last.1 = some [true] := by
      rw [hnotes]
      rfl
    obtain ⟨start, -, -, hsoon, -⟩ := (digit_flashes_until_stopped (fun _ => 0)
      (calledAlone_carried _ _) (calledAlone_clocked _ _) rfl (by decide) hrun hbeyond).2 _ hevents
    obtain ⟨steps, hsteps, hnow, hkey, hstopped⟩ := hsoon 0
    rw [if_neg (by decide)] at hstopped
    refine ⟨last.1, last.2, hrun, hnotes, steps, hsteps, hnow, hkey, hstopped.1, ?_⟩
    rw [hstopped.2.outside]
    rfl
  · let called := calledAlone (.flashingDigit (.int 3)) false
    obtain ⟨start, -, -, hsoon, hcomes⟩ := (digit_flashes_until_stopped (fun _ => 0)
      (calledAlone_carried (.flashingDigit (.int 3)) false) (calledAlone_clocked _ _) rfl
      (by decide) .start (by simp)).2 [] rfl
    obtain ⟨_, -, hnow, -, hshown⟩ := hsoon 0
    rw [if_pos (by decide)] at hshown
    have hbegins : start ≤ 0 := hshown.2.begins.trans hnow.le
    have hhorizon : tickTime start called.timer.rate 100 ≤ 2 := by
      have hpause : pause (100 : Nat) called.timer.rate = 2 := by decide +kernel
      rw [tickTime, hpause]
      exact (add_le_add_left hbegins 2).trans (zero_add 2).le
    obtain ⟨steps, later, c, hrun, hback, hdarkened, -⟩ := hcomes 2 hhorizon
    exact ⟨steps, c, hrun, hback, hdarkened.dark⟩

end Cabinet

end DigitRace
