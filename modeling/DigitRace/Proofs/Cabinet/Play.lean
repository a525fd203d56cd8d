import DigitRace.Proofs.Cabinet.Carrying

/-!
# The player's drive

While the player drives, each end of the countdown drives the car on and arms the timer for
the time on the segment, and each press steers. A crash and a countdown that is called off
take the watch off the timer and the key.
-/

namespace DigitRace.Cabinet

variable {ω : Type} (eye : Onlooker ω) {c : Cabinet ω} {w : Nat}

/-- Driving on arms the timer for the wait of the race. -/
theorem driveOn_apply (hsound : c.race.Sound) (hclocked : c.Clocked) (hrate : c.timer.rate ≠ 0) :
    ∃ outside, driveOn eye.around c =
      .ok ⟨⟩ (armedFor eye c.race.driven.wait (c.ticked outside)) := by
  obtain ⟨outside, htick⟩ := tick_apply eye c hsound
  have hwait : c.race.driven.wait ≤ 50 := by
    have hbounds := Race.waitAt_bounds c.race.driven.speed
    have hspeed := hsound.driven.wait
    omega
  have harmed : enable eye.around (.int c.race.driven.wait) (c.ticked outside) =
      .ok ⟨⟩ (armedFor eye c.race.driven.wait (c.ticked outside)) :=
    Clocked.enable_small eye (c := c.ticked outside) hclocked hrate hwait
  refine ⟨outside, ?_⟩
  simp only [driveOn, Act.bind_apply, htick, Act.get_apply]
  exact harmed

/-- A round begins by driving on, and then waits for presses and the countdown. -/
theorem beginPlay_apply (hsound : c.race.Sound) (hclocked : c.Clocked) (hrate : c.timer.rate ≠ 0)
    (hdeaf : c.Deaf) : ∃ outside, begin eye.around .play c =
      .ok (.await c.watches.size none)
        ((armedFor eye c.race.driven.wait ((c.entered .playing).ticked outside)).opened .play) := by
  obtain ⟨outside, hdrive⟩ := driveOn_apply eye (c := c.entered .playing) hsound hclocked hrate
  let driven := armedFor eye c.race.driven.wait ((c.entered .playing).ticked outside)
  have hopen := open_both_apply (c := driven) .play hdeaf rfl rfl none
  refine ⟨outside, ?_⟩
  simp only [begin, beginPlay, Act.bind_apply _ _ c, enter_apply]
  rw [Act.bind_apply, hdrive]
  exact hopen

/-- At rate 0 the car is driven on, and then the round fails. -/
theorem beginPlay_fails (hsound : c.race.Sound) (hclocked : c.Clocked) (hrate : c.timer.rate = 0) :
    ∃ outside, begin eye.around .play c = .error .divisionByZero
      (refused c.race.driven.wait ((c.entered .playing).ticked outside)) := by
  obtain ⟨outside, htick⟩ := tick_apply eye (c.entered .playing) hsound
  have hticking : ((c.entered .playing).ticked outside).Clocked := hclocked
  have hrefused := hticking.enable_zero eye hrate c.race.driven.wait
  refine ⟨outside, ?_⟩
  simp only [begin, beginPlay, driveOn, Act.bind_apply, enter_apply, htick, Act.get_apply]
  rw [show ((c.entered .playing).ticked outside).race.wait = c.race.driven.wait from rfl, hrefused]

theorem Listening.onEvent_play (h : Listening .play w c) (event : TimerEvent) :
    onEvent eye.around w event c = match event with
      | .disabled => .ok ⟨⟩ (left w .nothing c)
      | .elapsed => driveOn eye.around c := by
  cases event with
  | disabled => simp [onEvent, h.watch, h.leave_apply]
  | elapsed => simp [onEvent, h.watch]

/-- A press steers; the watch stays at a junction and leaves elsewhere. -/
theorem Listening.onEdge_play (h : Listening .play w c) (hsound : c.race.Sound) :
    ∃ outside, onEdge eye.around w true c = .ok ⟨⟩
      (if c.race.atJunction then c.steered outside else left w .nothing (c.steered outside)) := by
  obtain ⟨outside, hsteer⟩ := steer_apply eye c hsound
  have hleave := (h.steered outside).leave_apply .nothing
  refine ⟨outside, ?_⟩
  cases hjunction : c.race.atJunction <;>
    simp [onEdge, h.watch, hsteer, hjunction, hleave]

/-- A release does nothing. -/
theorem Listening.onEdge_play_up (h : Listening .play w c) :
    onEdge eye.around w false c = .ok ⟨⟩ c := by
  simp [onEdge, h.watch]

/-- What a happening comes to while the player drives. -/
inductive Drives (w : Nat) (c : Cabinet ω) : Happening → Cabinet ω → Prop
  /-- The watch does not hear of it. -/
  | passes {happening : Happening} {c' : Cabinet ω} (hpasses : Passes eye c happening c')
      (hmisses : Watch.Kind.play.Misses happening) : Drives w c happening c'
  /-- The time on the segment is over. -/
  | on (due : Rat) (outside : ω) : Drives w c (.call .countdownOver)
      (armedFor eye c.race.driven.wait ((c.expired due).ticked outside))
  | calledOff : Drives w c .disable (left w .nothing c.cleared)
  | released : Drives w c (.move false) (moved eye false c)
  /-- A press takes the junction. -/
  | takes (outside : ω) (hjunction : c.race.atJunction = true) :
      Drives w c (.move true) ((moved eye true c).steered outside)
  | crashes (outside : ω) (hplain : c.race.atJunction = false) :
      Drives w c (.move true) (left w .nothing ((moved eye true c).steered outside))

variable {eye} {c' : Cabinet ω} {happening : Happening}

/-- Whatever happens during a drive, it comes to one of these. -/
theorem Listening.drives (h : Listening .play w c) (hclocked : c.Clocked) (hsound : c.race.Sound)
    (hrate : c.timer.rate ≠ 0) (hhappens : Happens eye.around c happening c') :
    Drives eye w c happening c' := by
  rcases h.cases hclocked hhappens with
    ⟨pressed, -, rfl, rfl⟩ | ⟨event, told, -, hannounces, rfl⟩ | ⟨hpasses, hmisses⟩
  · have hheld := h.moved eye pressed
    cases pressed with
    | true =>
      obtain ⟨outside, hedge⟩ := hheld.onEdge_play eye hsound
      rw [move_one eye h.key hedge]
      change Drives eye w c (.move true) (if c.race.atJunction
        then (Cabinet.moved eye true c).steered outside
        else left w .nothing ((Cabinet.moved eye true c).steered outside))
      cases hjunction : c.race.atJunction with
      | true => exact .takes outside hjunction
      | false => exact .crashes outside hjunction
    | false =>
      rw [move_one eye h.key (hheld.onEdge_play_up eye)]
      exact .released
  · cases hannounces with
    | @expire due hends =>
      have hlate := h.expired due
      obtain ⟨outside, hdrive⟩ := driveOn_apply eye (c := c.expired due) hsound
        (.inl (expired_unarmed due c)) hrate
      rw [notify_one hlate.timer ((hlate.onEvent_play eye .elapsed).trans hdrive)]
      exact .on due outside
    | disable =>
      have hcleared := h.cleared
      rw [notify_one hcleared.timer (hcleared.onEvent_play eye .disabled)]
      exact .calledOff
  · exact .passes hpasses hmisses

end DigitRace.Cabinet
