import DigitRace.Proofs.Cabinet.Screens

/-!
# The demo

While the text of the demo is shown, each wait is for a press or the end of the countdown.
While the demo drives, each end of the countdown is in turn the moment to steer and the moment
to drive on; at a junction a number is drawn, and it decides whether the demo steers there. A
press, a countdown that is called off and the last junction take the watch off both devices.
-/

namespace DigitRace

/-- The waits of the demo: those of its text, and its drive. -/
def Watch.Kind.OfDemo : Watch.Kind → Prop
  | .pressOrEvent | .demo _ _ => True
  | _ => False

namespace Cabinet

variable {ω : Type} (eye : Onlooker ω) {c : Cabinet ω} {w loops : Nat}

/-! ## The moment to steer -/

/-- Whether the demo takes the junction at which the car stands: if there is one, and the number
that is drawn next is below its chance. -/
def takesJunction (c : Cabinet ω) : Bool :=
  c.race.atJunction && decide (c.chances c.draws < steerChance)

/-- The cabinet once the demo has decided whether to steer. A number is drawn at a junction only. -/
def decided (c : Cabinet ω) : Cabinet ω :=
  { c with draws := if c.race.atJunction then c.draws + 1 else c.draws }

theorem demoSteers_apply (c : Cabinet ω) : demoSteers c = .ok c.takesJunction c.decided := by
  cases hjunction : c.race.atJunction with
  | true => simp [demoSteers, draw, takesJunction, decided, hjunction]
  | false => simp [demoSteers, takesJunction, decided, hjunction]

theorem Listening.decided {kind : Watch.Kind} (h : Listening kind w c) :
    Listening kind w c.decided :=
  ⟨h.watch, h.timer, h.key, h.ready, h.active⟩

/-- The cabinet at the moment to steer, once that is decided and the watch is to drive on next. -/
def aside (w loops : Nat) (c : Cabinet ω) : Cabinet ω :=
  (c.turnedTo w (.demo false loops)).decided

/-- The cabinet once the demo has taken a junction. -/
def taken (w loops : Nat) (outside : ω) (c : Cabinet ω) : Cabinet ω :=
  ((c.aside w loops).steered outside).turnedTo w (.demo false (loops - 1))

theorem Listening.aside {steering : Bool} (h : Listening (.demo steering loops) w c) :
    Listening (.demo false loops) w (c.aside w loops) :=
  have hturned : Listening (.demo false loops) w (c.turnedTo w (.demo false loops)) :=
    h.turnedTo rfl rfl
  hturned.decided

theorem Listening.taken {steering : Bool} (h : Listening (.demo steering loops) w c)
    (outside : ω) : Listening (.demo false (loops - 1)) w (c.taken w loops outside) :=
  (h.aside.steered outside).turnedTo rfl rfl

/-- Where the demo does not steer, it waits for the end of the segment. -/
theorem Clocked.demoDrive_aside (w loops : Nat) (hclocked : c.Clocked) (hrate : c.timer.rate ≠ 0)
    (hkeeps : c.takesJunction = false) : demoDrive eye.around w true loops c =
      .ok ⟨⟩ (armedFor eye steerTicks (c.aside w loops)) := by
  have hticking : (c.aside w loops).Clocked := hclocked
  have hdecides : demoSteers (c.turnedTo w (.demo false loops)) =
      .ok false (c.aside w loops) := by
    rw [demoSteers_apply]
    exact congrArg (EStateM.Result.ok · _) hkeeps
  simp only [demoDrive, Bool.not_true, Bool.false_eq_true, if_false, Act.bind_apply, setKind_apply]
  rw [hdecides]
  exact hticking.enable_small eye hrate (by decide)

/-- Where the demo steers, it takes the junction, and it ends with the last one. -/
theorem Listening.demoDrive_taken {steering : Bool} (h : Listening (.demo steering loops) w c)
    (hclocked : c.Clocked) (hsound : c.race.Sound) (hrate : c.timer.rate ≠ 0)
    (htakes : c.takesJunction = true) : ∃ outside, demoDrive eye.around w true loops c =
      .ok ⟨⟩ (if loops - 1 = 0 then left w (.flag false) (c.taken w loops outside)
        else armedFor eye steerTicks (c.taken w loops outside)) := by
  have hjunction : c.race.atJunction = true := (Bool.and_eq_true_iff.mp htakes).1
  have hdecides : demoSteers (c.turnedTo w (.demo false loops)) = .ok true (c.aside w loops) := by
    rw [demoSteers_apply]
    exact congrArg (EStateM.Result.ok · _) htakes
  obtain ⟨outside, hsteer⟩ := steer_apply eye (c.aside w loops) hsound
  rw [show (c.aside w loops).race.atJunction = true from hjunction] at hsteer
  have hticking : (c.taken w loops outside).Clocked := hclocked
  have hact : demoDrive eye.around w true loops c =
      (if loops - 1 = 0 then leave w (.flag false) else enable eye.around (.int steerTicks) :
        Play ω Unit) (c.taken w loops outside) := by
    simp only [demoDrive, Bool.not_true, Bool.false_eq_true, if_false, Act.bind_apply,
      setKind_apply]
    rw [hdecides]
    simp only [if_true, Act.bind_apply]
    rw [hsteer]
    rfl
  refine ⟨outside, ?_⟩
  rw [hact]
  by_cases hlast : loops - 1 = 0
  · rw [if_pos hlast, if_pos hlast, (h.taken outside).leave_apply]
  · rw [if_neg hlast, if_neg hlast, hticking.enable_small eye hrate (by decide)]

/-! ## Driving on -/

/-- The demo drives on and arms the timer up to the moment to steer. -/
theorem demoOn_apply (hsound : c.race.Sound) (hclocked : c.Clocked) (hrate : c.timer.rate ≠ 0) :
    ∃ outside, demoOn eye.around c =
      .ok ⟨⟩ (armedFor eye (c.race.driven.wait - steerTicks) (c.ticked outside)) := by
  obtain ⟨outside, htick⟩ := tick_apply eye c hsound
  have hwait : c.race.driven.wait - steerTicks ≤ 50 := by
    have hbounds := Race.waitAt_bounds c.race.driven.speed
    have hspeed := hsound.driven.wait
    omega
  have hticking : (c.ticked outside).Clocked := hclocked
  have harmed := hticking.enable_small eye hrate hwait
  refine ⟨outside, ?_⟩
  simp only [demoOn, Act.bind_apply, htick, Act.get_apply]
  exact harmed

/-- The cabinet once the demo has driven on. -/
def onward (w loops : Nat) (outside : ω) (c : Cabinet ω) : Cabinet ω :=
  (c.turnedTo w (.demo true loops)).ticked outside

theorem Listening.onward {steering : Bool} (h : Listening (.demo steering loops) w c)
    (outside : ω) : Listening (.demo true loops) w (c.onward w loops outside) :=
  have hturned : Listening (.demo true loops) w (c.turnedTo w (.demo true loops)) :=
    h.turnedTo rfl rfl
  hturned.ticked outside

theorem Clocked.demoDrive_onward (w loops : Nat) (hclocked : c.Clocked)
    (hsound : c.race.Sound) (hrate : c.timer.rate ≠ 0) :
    ∃ outside, demoDrive eye.around w false loops c = .ok ⟨⟩
      (armedFor eye (c.race.driven.wait - steerTicks) (c.onward w loops outside)) := by
  have hticking : (c.turnedTo w (.demo true loops)).Clocked := hclocked
  obtain ⟨outside, hdrive⟩ :=
    demoOn_apply eye (c := c.turnedTo w (.demo true loops)) hsound hticking hrate
  refine ⟨outside, ?_⟩
  simp only [demoDrive, Bool.not_false, if_true, Act.bind_apply, setKind_apply]
  exact hdrive

/-- The car drives by itself from the beginning of the circuit. -/
theorem beginDrive_apply (hdeaf : c.Deaf) (hdrivable : c.race.circuit.Drivable)
    (hclocked : c.Clocked) (hrate : c.timer.rate ≠ 0) : ∃ outside,
    beginDrive eye.around c = .ok (.await c.watches.size none)
      ((armedFor eye ((c.race.restarted demoSpeed).driven.wait - steerTicks)
        ((c.restarted demoSpeed).ticked outside)).opened (.demo true demoLoops)) := by
  have hreset : resetRace (.int demoSpeed) c = .ok ⟨⟩ (c.restarted demoSpeed) := by
    simp [resetRace, raceOf, restarted, Race.reset_succeeds hdrivable.pos]
  have hsound := (Race.restarted_sound hdrivable demoSpeed).1
  obtain ⟨outside, hdrive⟩ :=
    demoOn_apply eye (c := c.restarted demoSpeed) hsound hclocked hrate
  let driven := armedFor eye ((c.race.restarted demoSpeed).driven.wait - steerTicks)
    ((c.restarted demoSpeed).ticked outside)
  have hopen := open_both_apply (c := driven) (.demo true demoLoops) hdeaf rfl rfl none
  refine ⟨outside, ?_⟩
  rw [beginDrive, Act.bind_apply, hreset]
  simp only []
  rw [Act.bind_apply, hdrive]
  exact hopen

/-- After the text the drive begins, unless there was a press. -/
theorem resume_demoTextShown (hdeaf : c.Deaf) (hdrivable : c.race.circuit.Drivable)
    (hclocked : c.Clocked) (hrate : c.timer.rate ≠ 0) : ∃ outside,
    resume eye.around (.flag false) .demoTextShown c = .ok (.await c.watches.size none)
      ((armedFor eye ((c.race.restarted demoSpeed).driven.wait - steerTicks)
        ((c.restarted demoSpeed).ticked outside)).opened (.demo true demoLoops)) := by
  obtain ⟨outside, hdrive⟩ := beginDrive_apply eye hdeaf hdrivable hclocked hrate
  refine ⟨outside, ?_⟩
  simpa [resume] using hdrive

/-! ## Events and edges -/

/-- A release does nothing, and a press ends the watch. -/
theorem Listening.onEdge_demo {kind : Watch.Kind} (h : Listening kind w c) (hkind : kind.OfDemo)
    (pressed : Bool) : onEdge eye.around w pressed c =
      .ok ⟨⟩ (if pressed then left w (.flag true) c else c) := by
  cases kind with
  | pressOrEvent | demo => cases pressed <;> simp [onEdge, h.watch, h.leave_apply]
  | _ => exact hkind.elim

theorem Listening.onEvent_pressOrEvent (h : Listening .pressOrEvent w c) (event : TimerEvent) :
    onEvent eye.around w event c = .ok ⟨⟩ (left w (.flag false) c) := by
  simp [onEvent, h.watch, h.leave_apply]

theorem Listening.onEvent_demo {steering : Bool} (h : Listening (.demo steering loops) w c)
    (event : TimerEvent) : onEvent eye.around w event c = match event with
      | .disabled => .ok ⟨⟩ (left w (.flag false) c)
      | .elapsed => demoDrive eye.around w steering loops c := by
  cases event with
  | disabled => simp [onEvent, h.watch, h.leave_apply]
  | elapsed => simp [onEvent, h.watch]

/-! ## Whatever happens -/

/-- What a happening comes to during a wait of the text. -/
inductive Polls (w : Nat) (c : Cabinet ω) : Happening → Cabinet ω → Prop
  /-- The watch does not hear of it. -/
  | passes {happening : Happening} {c' : Cabinet ω} (hpasses : Passes eye c happening c')
      (hmisses : Watch.Kind.pressOrEvent.Misses happening) : Polls w c happening c'
  | released : Polls w c (.move false) (moved eye false c)
  | pressed : Polls w c (.move true) (left w (.flag true) (moved eye true c))
  /-- The countdown has run out, or was called off. -/
  | told {happening : Happening} {event : TimerEvent} {told : Cabinet ω}
      (hannounces : Announces c happening event told) :
      Polls w c happening (left w (.flag false) told)

/-- What a happening comes to while the demo drives. -/
inductive DemoDrives (w loops : Nat) (c : Cabinet ω) : Bool → Happening → Cabinet ω → Prop
  /-- The watch does not hear of it. -/
  | passes {steering : Bool} {happening : Happening} {c' : Cabinet ω}
      (hpasses : Passes eye c happening c')
      (hmisses : (Watch.Kind.demo steering loops).Misses happening) :
      DemoDrives w loops c steering happening c'
  | released {steering : Bool} : DemoDrives w loops c steering (.move false) (moved eye false c)
  | pressed {steering : Bool} : DemoDrives w loops c steering (.move true)
      (left w (.flag true) (moved eye true c))
  | calledOff {steering : Bool} : DemoDrives w loops c steering .disable
      (left w (.flag false) c.cleared)
  /-- The time on the segment is over. -/
  | on {due : Rat} (hends : c.EndsAt due) (outside : ω) :
      DemoDrives w loops c false (.call .countdownOver)
        (armedFor eye (c.race.driven.wait - steerTicks) ((c.expired due).onward w loops outside))
  /-- The moment to steer passes. -/
  | aside {due : Rat} (hends : c.EndsAt due) (hkeeps : c.takesJunction = false) :
      DemoDrives w loops c true (.call .countdownOver)
        (armedFor eye steerTicks ((c.expired due).aside w loops))
  /-- A junction is taken, and it is not the last. -/
  | takes {due : Rat} (hends : c.EndsAt due) (outside : ω) (htakes : c.takesJunction = true)
      (hmore : loops - 1 ≠ 0) : DemoDrives w loops c true (.call .countdownOver)
        (armedFor eye steerTicks ((c.expired due).taken w loops outside))
  /-- The last junction is taken. -/
  | last {due : Rat} (hends : c.EndsAt due) (outside : ω) (htakes : c.takesJunction = true)
      (hlast : loops - 1 = 0) : DemoDrives w loops c true (.call .countdownOver)
        (left w (.flag false) ((c.expired due).taken w loops outside))

variable {eye} {c' : Cabinet ω} {happening : Happening}

/-- Whatever happens during a wait of the text, it comes to one of these. -/
theorem Listening.polls (h : Listening .pressOrEvent w c) (hclocked : c.Clocked)
    (hhappens : Happens eye.around c happening c') : Polls eye w c happening c' := by
  rcases h.cases hclocked hhappens with
    ⟨pressed, -, rfl, rfl⟩ | ⟨event, told, -, hannounces, rfl⟩ | ⟨hpasses, hmisses⟩
  · rw [move_one eye h.key ((h.moved eye pressed).onEdge_demo eye trivial pressed)]
    cases pressed with
    | true => exact .pressed
    | false => exact .released
  · have htold := hannounces.kept.listening h
    rw [notify_one htold.timer (htold.onEvent_pressOrEvent eye event)]
    exact .told hannounces
  · exact .passes hpasses hmisses

/-- Whatever happens while the demo drives, it comes to one of these. -/
theorem Listening.demoDrives {steering : Bool} (h : Listening (.demo steering loops) w c)
    (hclocked : c.Clocked) (hsound : c.race.Sound) (hrate : c.timer.rate ≠ 0)
    (hhappens : Happens eye.around c happening c') :
    DemoDrives eye w loops c steering happening c' := by
  rcases h.cases hclocked hhappens with
    ⟨pressed, -, rfl, rfl⟩ | ⟨event, told, -, hannounces, rfl⟩ | ⟨hpasses, hmisses⟩
  · rw [move_one eye h.key ((h.moved eye pressed).onEdge_demo eye trivial pressed)]
    cases pressed with
    | true => exact .pressed
    | false => exact .released
  · cases hannounces with
    | disable =>
      rw [notify_one h.cleared.timer (h.cleared.onEvent_demo eye .disabled)]
      exact .calledOff
    | @expire due hends =>
      have hlate := h.expired due
      have hticking : (c.expired due).Clocked := .inl (expired_unarmed due c)
      have htold := hlate.onEvent_demo eye .elapsed
      cases steering with
      | false =>
        obtain ⟨outside, hdrive⟩ :=
          hticking.demoDrive_onward eye w loops hsound hrate
        rw [notify_one hlate.timer (htold.trans hdrive)]
        exact .on hends outside
      | true =>
        cases htakes : c.takesJunction with
        | false =>
          have hdrive := hticking.demoDrive_aside eye w loops hrate htakes
          rw [notify_one hlate.timer (htold.trans hdrive)]
          exact .aside hends htakes
        | true =>
          obtain ⟨outside, hdrive⟩ := hlate.demoDrive_taken eye hticking hsound hrate htakes
          rw [notify_one hlate.timer (htold.trans hdrive)]
          by_cases hlast : loops - 1 = 0
          · rw [if_pos hlast]
            exact .last hends outside htakes hlast
          · rw [if_neg hlast]
            exact .takes hends outside htakes hlast
  · exact .passes hpasses hmisses

end Cabinet

end DigitRace
