import DigitRace.Proofs.Flash.Digit

/-!
# Presses while a digit flashes

A digit that flashes does not listen to the key. It looks at the key when it is told of an event,
which is at most five ticks after a press: if the key is still down then, or the countdown is called
off, the digit stops, and only the last blank is shown after the press. A press that is over by then
is missed, and the digit flashes on.
-/

namespace DigitRace

namespace Cabinet

variable {clock : Cabinet Writes → Rat} {first c c' c₁ c₂ : Cabinet Writes} {start limit : Rat}
  {rate : Int} {begun : Writes} {stack : List Frame} {digit : Int} {heard : Option (List Bool)}
  {events : List Bool} {notes later : List FlashNote} {happening : Happening} {w shown : Nat}

/-- A digit of which something was shown has been shown. -/
theorem Flashed.shown_of_outside (h : Flashed start rate begun digit stack heard c)
    (hshown : c.outside ≠ begun) :
    ∃ events, heard = some events ∧ Shown start rate begun digit stack events c := by
  cases h.stands with
  | called _ _ hbegun => exact absurd hbegun hshown
  | asks _ hbegun => exact absurd hbegun hshown
  | held _ _ hbegun => exact absurd hbegun hshown
  | up _ _ hbegun => exact absurd hbegun hshown
  | ready _ hbegun => exact absurd hbegun hshown
  | shown hshown hheard => exact ⟨_, hheard, hshown⟩

/-- A face is over within 5 ticks. -/
theorem AtFace.over_le (h : AtFace start rate begun digit stack w shown c) :
    tickTime start rate (5 * (shown + 1)) ≤ c.ticksLater 5 := by
  have hlast : (5 * shown, flashFace digit shown) ∈ Shot.cues 0 (faceReel digit (shown + 1)) := by
    rw [cues_faceReel, faceCues_succ]
    exact List.mem_append_right _ (List.mem_singleton_self _)
  have hpast := h.filmed.past _ hlast
  calc tickTime start rate (5 * (shown + 1))
      = tickTime start rate (5 * shown) + pause (5 : Nat) rate := by
        rw [Nat.mul_succ, tickTime_add]
    _ ≤ c.agenda.now + pause (5 : Nat) rate := add_le_add_left hpast _
    _ = c.ticksLater 5 := by rw [ticksLater, tickTime, h.filmed.rate]

/-! ## While only the key is moved -/

/-- As long as no event is heard, a digit stays at its face, whatever the key does. -/
theorem AtFace.lasts (h : AtFace start rate begun digit stack w shown c)
    (hends : c.EndsAt (tickTime start rate (5 * (shown + 1)))) (hrate : rate ≠ 0)
    (hover : tickTime start rate (5 * (shown + 1)) ≤ limit) (hnow : c.agenda.now ≤ limit)
    (hrun : Run (Onlooker.scribe clock).around (flashNotes stack.length) c later c₁)
    (hmoves : ∀ note ∈ later, ∃ pressed, note = .moved pressed) :
    AtFace start rate begun digit stack w shown c₁ ∧
      c₁.EndsAt (tickTime start rate (5 * (shown + 1))) ∧ c₁.agenda.now ≤ limit := by
  induction hrun with
  | start => exact ⟨h, hends, hnow⟩
  | next _ hhappens ih =>
    rw [List.forall_mem_append] at hmoves
    obtain ⟨hface, hends', hbefore⟩ := ih hmoves.1
    have hbeyond : .beyond ∉ flashNotes stack.length _ _ _ := fun hmem => by
      obtain ⟨pressed, hnote⟩ := hmoves.2 _ hmem
      cases hnote
    obtain ⟨htime, ⟨stops, told, hnotes, -⟩ | ⟨hstays, hends'', -⟩⟩ :=
      hface.next hends' hrate hhappens hbeyond
    · obtain ⟨pressed, hnote⟩ := hmoves.2 (.event stops) (by simp [hnotes])
      cases hnote
    · exact ⟨hstays, hends'', htime.trans (max_le hbefore hover)⟩

/-- As long as its task has not gone on, nothing is written after the end of a digit. -/
theorem Leaves.run (h : Leaves stack c) (hclocked : c.Clocked)
    (hrun : Run (Onlooker.scribe clock).around (flashNotes stack.length) c later c₁)
    (hmoves : ∀ note ∈ later, ∃ pressed, note = .moved pressed) :
    Leaves stack c₁ ∧ c₁.Clocked ∧ c₁.outside = c.outside ∧ c₁.agenda.now = c.agenda.now := by
  induction hrun with
  | start => exact ⟨h, hclocked, rfl, rfl⟩
  | next _ hhappens ih =>
    rw [List.forall_mem_append] at hmoves
    obtain ⟨hleaves, hticking, houtside, hnow⟩ := ih hmoves.1
    have hbeyond : .beyond ∉ flashNotes stack.length _ _ _ := fun hmem => by
      obtain ⟨pressed, hnote⟩ := hmoves.2 _ hmem
      cases hnote
    obtain ⟨hleaves', hticking', houtside', hnow', -⟩ :=
      hleaves.next [] hticking hhappens hbeyond
    exact ⟨hleaves', hticking', houtside'.trans houtside, hnow'.trans hnow⟩

/-- No event is heard of a digit that has stopped. -/
theorem Leaves.not_event (h : Leaves stack c) (hclocked : c.Clocked)
    (hhappens : Happens (Onlooker.scribe clock).around c happening c') (stops : Bool) :
    flashNotes stack.length c happening c' ≠ [.event stops] := by
  intro hnotes
  obtain ⟨-, -, -, -, -, -, hcounted⟩ :=
    h.next [] hclocked hhappens (by simp [hnotes])
  simp [hnotes, FlashNote.counted] at hcounted

/-! ## The next event -/

/-- At its next event a digit that stood at a face stops, or goes on with its next face. -/
theorem AtFace.hears (h : AtFace start rate begun digit stack w shown c)
    (hends : c.EndsAt (tickTime start rate (5 * (shown + 1)))) (hrate : rate ≠ 0)
    (hhappens : Happens (Onlooker.scribe clock).around c happening c') {stops : Bool}
    (hnotes : flashNotes stack.length c happening c' = [.event stops]) :
    ∃ told, Hears start rate begun digit stack (List.replicate shown false ++ [stops]) told c' := by
  obtain ⟨-, ⟨stops', told, hsame, hheard⟩ | ⟨-, -, hmoved⟩⟩ :=
    h.next hends hrate hhappens (by simp [hnotes])
  · obtain rfl : stops = stops' := by simpa using hnotes.symm.trans hsame
    exact ⟨told, hheard⟩
  · obtain ⟨pressed, hnote⟩ := hmoved (.event stops) (by simp [hnotes])
    cases hnote

/-- With an event that stops it, a digit writes its last blank and nothing else. -/
theorem Hears.stopped {told : Cabinet Writes} (hmore : shown < flashCycles)
    (h : Hears start rate begun digit stack (List.replicate shown false ++ [true]) told c) :
    Leaves stack c ∧ c.outside =
      begun ++ timed start rate (faceCues digit (shown + 1)) ++ [(c.agenda.now, "")] := by
  generalize hevents : List.replicate shown false ++ [true] = events at h
  cases h.shown with
  | @face w next _ _ hnone =>
    have hmem : true ∈ List.replicate next false := by
      rw [← hnone, ← hevents]
      simp
    cases List.eq_of_mem_replicate hmem
  | dark hleaves hdark =>
    have hfirst := firstStop_stopped hmore
    have hfaces : min (firstStop events - 1) flashCycles = shown := by
      rw [← hevents]
      omega
    have houtside := hdark.outside
    rw [hfaces] at houtside
    exact ⟨hleaves, houtside⟩

/-- With any other event but the twentieth, it goes on with its next face. -/
theorem Hears.wentOn {told : Cabinet Writes} (hmore : shown + 1 < flashCycles)
    (h : Hears start rate begun digit stack (List.replicate shown false ++ [false]) told c) :
    c.Settled ∧ c.outside = begun ++ timed start rate (faceCues digit (shown + 1)) ++
      timed start rate [(5 * (shown + 1), flashFace digit (shown + 1))] := by
  rw [← List.replicate_succ'] at h
  generalize hevents : List.replicate (shown + 1) false = events at h
  cases h.shown with
  | @face w next hface _ hnext =>
    obtain rfl : shown + 1 = next := by
      simpa using congrArg List.length (hevents.trans hnext)
    have houtside := hface.outside
    rw [faceCues_succ, timed_append, ← List.append_assoc] at houtside
    exact ⟨hface.settled, houtside⟩
  | dark _ hdark =>
    have hcount := hdark.count
    rw [← hevents, firstStop_replicate hmore.le, List.length_replicate] at hcount
    omega

/-- What the next event of a digit at a face comes to: with one that stops it, the last blank is
written and the digit is over at once; with any other but the twentieth the next face is shown. -/
theorem AtFace.nextEvent (h : AtFace start rate begun digit stack w shown c)
    (hends : c.EndsAt (tickTime start rate (5 * (shown + 1)))) (hrate : rate ≠ 0)
    (hover : tickTime start rate (5 * (shown + 1)) ≤ limit) (hnow : c.agenda.now ≤ limit)
    (hhappens : Happens (Onlooker.scribe clock).around c happening c') {stops : Bool}
    (hnotes : flashNotes stack.length c happening c' = [.event stops]) :
    c'.agenda.now ≤ limit ∧
    (stops = true → c'.outside = c.outside ++ [(c'.agenda.now, "")] ∧
      ∀ horizon, Soon (Onlooker.scribe clock).around horizon 1
        (fun c₁ => Carried (.answering .nothing) stack c₁ ∧ c₁.outside = c'.outside) c') ∧
    (stops = false → shown + 1 < flashCycles → c'.Settled ∧ ∃ time,
      c'.outside = c.outside ++ [(time, flashFace digit (shown + 1))]) := by
  obtain ⟨told, hheard⟩ := h.hears hends hrate hhappens hnotes
  have hlate := (h.next hends hrate hhappens (by simp [hnotes])).1
  refine ⟨hlate.trans (max_le hnow hover), ?_, ?_⟩
  · rintro rfl
    obtain ⟨hleaves, hblank⟩ := hheard.stopped h.more
    rw [← h.outside] at hblank
    refine ⟨hblank, fun horizon => ?_⟩
    exact (hleaves.soon clock horizon).imp fun c₁ hback => ⟨hback.1, hback.2.1⟩
  · rintro rfl hmore
    obtain ⟨hsettled, hnext⟩ := hheard.wentOn hmore
    rw [← h.outside] at hnext
    exact ⟨hsettled, _, hnext⟩

/-- With the key down, a digit that is left alone is over at the end of its face. -/
theorem AtFace.over_of_pressed (h : AtFace start rate begun digit stack w shown c)
    (hends : c.EndsAt (tickTime start rate (5 * (shown + 1)))) (hrate : rate ≠ 0)
    (hover : tickTime start rate (5 * (shown + 1)) ≤ limit) (hpressed : c.key.pressed = true)
    {horizon : Rat} (hhorizon : limit ≤ horizon) : ∃ steps ≤ 2, ∃ c',
      run (Onlooker.scribe clock).around (fun _ => false) horizon steps c = c' ∧
      Carried (.answering .nothing) stack c' ∧ c'.agenda.now ≤ limit ∧
      c'.outside = c.outside ++ [(c'.agenda.now, "")] := by
  obtain ⟨c', hexpires, hheard⟩ := h.expires clock hrate rfl
  have hstep : step? (Onlooker.scribe clock).around horizon c = some c' :=
    (hends.step?_eq h.settled (hover.trans hhorizon)).trans (congrArg some hexpires)
  rw [hpressed] at hheard
  obtain ⟨hleaves, hblank⟩ := hheard.stopped h.more
  obtain ⟨steps, hsteps, hnow, -, hback, houtside, -⟩ := hleaves.soon clock horizon
  refine ⟨steps + 1, Nat.succ_le_succ hsteps, _, run_step hstep steps, hback, ?_, ?_⟩
  · rw [hnow, hheard.now]
    exact hover
  · rw [houtside, hnow, hblank, h.outside]

/-! ## The press -/

/-- **A press that lasts up to the next event stops a digit.** Call a digit to flash, let anything
happen until it was shown and then a press, and let the key be moved and time pass until the next
event. Nothing is written meanwhile, and no more than 5 ticks pass. If the key is down at that
event, or the event is that the countdown is called off, then the last blank is written, and with
the next step of the program the digit is over. If the key is up again, the digit goes on with its
next face, unless that was its last. And if the key is down and the program is left alone, the
digit is over within 5 ticks of the press, with nothing written but the last blank. -/
theorem held_press_stops_digit (clock : Cabinet Writes → Rat) {value : Int}
    (hcalled : Carried (.calling (.flashingDigit (.int value))) stack first)
    (hclocked : first.Clocked) (hobserved : first.display.observer.isSome = true)
    (hrate : first.timer.rate ≠ 0)
    (hrun : Run (Onlooker.scribe clock).around (flashNotes stack.length) first notes c)
    (hbeyond : .beyond ∉ notes) (hshown : c.outside ≠ first.outside)
    (hpress : Happens (Onlooker.scribe clock).around c (.move true) c')
    (hlater : Run (Onlooker.scribe clock).around (flashNotes stack.length) c' later c₁)
    (hmoves : ∀ note ∈ later, ∃ pressed, note = .moved pressed) :
    c₁.outside = c.outside ∧ c₁.agenda.now ≤ c.ticksLater 5 ∧
    (∀ happening c₂ stops, Happens (Onlooker.scribe clock).around c₁ happening c₂ →
      flashNotes stack.length c₁ happening c₂ = [.event stops] →
      c₂.agenda.now ≤ c.ticksLater 5 ∧
      (stops = true → c₂.outside = c.outside ++ [(c₂.agenda.now, "")] ∧
        ∀ horizon, Soon (Onlooker.scribe clock).around horizon 1
          (fun c₃ => Carried (.answering .nothing) stack c₃ ∧ c₃.outside = c₂.outside) c₂) ∧
      (stops = false → ∀ events, FlashNote.events? first.key.pressed notes = some events →
        events.length + 1 < 20 → c₂.Settled ∧ ∃ time,
          c₂.outside = c.outside ++ [(time, flashFace (min value 9) (events.length + 1))])) ∧
    (c₁.key.pressed = true → ∀ horizon, c.ticksLater 5 ≤ horizon → ∃ steps ≤ 2, ∃ c₂,
      run (Onlooker.scribe clock).around (fun _ => false) horizon steps c₁ = c₂ ∧
      Carried (.answering .nothing) stack c₂ ∧ c₂.agenda.now ≤ c.ticksLater 5 ∧
      (c₂.outside = c.outside ∨ c₂.outside = c.outside ++ [(c₂.agenda.now, "")])) := by
  have hearly : c.agenda.now ≤ c.ticksLater 5 := by
    have hmono : tickTime c.agenda.now c.timer.rate 0 ≤ tickTime c.agenda.now c.timer.rate 5 :=
      tickTime_mono (Nat.zero_le 5)
    rwa [tickTime_zero] at hmono
  have hactive : c.active = none := by
    cases hpress
    assumption
  obtain ⟨start, hflashed⟩ := hrun.flashed hcalled hclocked hobserved hrate hbeyond
  obtain ⟨events, hevents, hstands⟩ := hflashed.shown_of_outside hshown
  cases hstands with
  | @face w shown hface hends hfaces =>
    have hover := hface.over_le
    have hfirst : ∀ note ∈ [] ++ flashNotes stack.length c (.move true) c', ∃ pressed,
        note = FlashNote.moved pressed := by
      simp [flashNotes_of_waiting (isBack_of_waiting hface.tasks stack.length)]
    obtain ⟨hface', hends', hnow'⟩ :=
      hface.lasts hends hrate hover hearly (Run.start.next hpress) hfirst
    obtain ⟨hface₁, hends₁, hnow₁⟩ := hface'.lasts hends' hrate hover hnow' hlater hmoves
    have hwritten : c.outside = _ := hface.outside
    have hsame : c₁.outside = c.outside := hface₁.outside.trans hwritten.symm
    refine ⟨hsame, hnow₁, fun happening c₂ stops hhappens hnotes => ?_,
      fun hpressed horizon hhorizon => ?_⟩
    · obtain ⟨hlate, hstops, hgoesOn⟩ :=
        hface₁.nextEvent hends₁ hrate hover hnow₁ hhappens hnotes
      rw [hsame] at hstops hgoesOn
      refine ⟨hlate, hstops, ?_⟩
      intro hon events' hevents' hmore
      obtain rfl : events = events' := Option.some.inj (hevents.symm.trans hevents')
      rw [hfaces, List.length_replicate] at hmore ⊢
      exact hgoesOn hon hmore
    · obtain ⟨steps, hsteps, c₂, hends₂, hback, hsoon, hblank⟩ :=
        hface₁.over_of_pressed hends₁ hrate hover hpressed hhorizon
      rw [hsame] at hblank
      exact ⟨steps, hsteps, c₂, hends₂, hback, hsoon, .inr hblank⟩
  | dark hleaves hdark =>
    have hfirst : ∀ note ∈ [] ++ flashNotes stack.length c (.move true) c', ∃ pressed,
        note = FlashNote.moved pressed := by
      cases hleaves with
      | told hqueued =>
        simp [flashNotes_of_waiting (isBack_of_waiting hqueued.tasks stack.length)]
      | back hcarried => simp [hcarried.active] at hactive
    obtain ⟨hleaves', hclocked', houtside', hnow'⟩ :=
      hleaves.run hflashed.clocked (Run.start.next hpress) hfirst
    obtain ⟨hleaves₁, hclocked₁, houtside₁, hnow₁⟩ := hleaves'.run hclocked' hlater hmoves
    have hsame := houtside₁.trans houtside'
    have htime := (hnow₁.trans hnow').le.trans hearly
    refine ⟨hsame, htime, fun happening c₂ stops hhappens hnotes => ?_,
      fun _ horizon _ => ?_⟩
    · exact absurd hnotes (hleaves₁.not_event hclocked₁ hhappens stops)
    · obtain ⟨steps, hsteps, hnow, -, hback, houtside, -⟩ := hleaves₁.soon clock horizon
      exact ⟨steps, hsteps.trans (by decide), _, rfl, hback, hnow.le.trans htime,
        .inl (houtside.trans hsame)⟩

/-- A 3 is called to flash by nobody, while the key is up. -/
def threeCalled : Cabinet Writes :=
  calledAlone (.flashingDigit (.int 3)) false

/-- A 3 that flashes is over a tenth of a second after a press that lasts. -/
theorem held_press_stops_digit_three : ∃ c, c.outside = [(0, "abcdg")] ∧
    (∃ notes, Run (Onlooker.scribe fun _ => 0).around (flashNotes 0) threeCalled notes c) ∧
    ∃ c', Happens (Onlooker.scribe fun _ => 0).around c (.move true) c' ∧ ∃ steps ≤ 2, ∃ c₂,
      run (Onlooker.scribe fun _ => 0).around (fun _ => false) (1 / 10) steps c' = c₂ ∧
      Carried (.answering .nothing) [] c₂ ∧ c₂.agenda.now ≤ 1 / 10 := by
  let shown := deedsNoted (Onlooker.scribe fun _ => 0).around (flashNotes 0) [.steps 5] threeCalled
  have hrun : Run (Onlooker.scribe fun _ => 0).around (flashNotes 0) threeCalled shown.1 shown.2 :=
    Run.start.deedsNoted [.steps 5]
  have hnotes : shown.1 = [] := by decide +kernel
  have hbeyond : .beyond ∉ shown.1 := by simp [hnotes]
  have hface : shown.2.outside = [(0, "abcdg")] := by decide +kernel
  have hactive : shown.2.active = none := by decide +kernel
  have hpress : Happens (Onlooker.scribe fun _ => 0).around shown.2 (.move true) _ :=
    .move true hactive
  have hdue : shown.2.ticksLater 5 = 1 / 10 := by decide +kernel
  obtain ⟨-, -, -, hheld⟩ := held_press_stops_digit (fun _ => 0) (calledAlone_carried _ _)
    (calledAlone_clocked _ _) rfl (by decide) hrun hbeyond (by rw [hface]; decide) hpress .start
    (by simp)
  obtain ⟨steps, hsteps, c₂, hends, hback, hnow, -⟩ := hheld (by decide +kernel) (1 / 10) hdue.le
  exact ⟨shown.2, hface, ⟨_, hrun⟩, _, hpress, steps, hsteps, c₂, hends, hback, hnow.trans hdue.le⟩

/-- A press and a release between two events: the 3 flashes on, and is shown again a fifth of a
second later. -/
theorem digit_misses_short_press : ∃ notes c,
    Run (Onlooker.scribe fun _ => 0).around (flashNotes 0) threeCalled notes c ∧
      notes = [.moved true, .moved false] ∧ c.outside = [(0, "abcdg")] ∧ c.agenda.now = 0 ∧
      ∃ c', run (Onlooker.scribe fun _ => 0).around (fun _ => false) (1 / 5) 2 c = c' ∧
        c'.agenda.now = 1 / 5 ∧ isBack 0 c' = false ∧
        c'.outside = [(0, "abcdg"), (1 / 10, ""), (1 / 5, "abcdg")] := by
  let released := deedsNoted (Onlooker.scribe fun _ => 0).around (flashNotes 0)
    [.steps 5, .move true, .move false] threeCalled
  have hrun : Run (Onlooker.scribe fun _ => 0).around (flashNotes 0) threeCalled released.1
      released.2 := Run.start.deedsNoted [.steps 5, .move true, .move false]
  have hnotes : released.1 = [.moved true, .moved false] := by decide +kernel
  refine ⟨released.1, released.2, hrun, hnotes, ?_, ?_, _, rfl, ?_, ?_, ?_⟩
  all_goals decide +kernel

end Cabinet

end DigitRace
