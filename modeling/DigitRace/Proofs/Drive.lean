import DigitRace.Proofs.Cabinet.Play
import DigitRace.Proofs.Race.Calls

/-!
# A drive is a sequence of calls

What the player's drive does to the race is what a list of calls does to it that are made by
hand: one to drive on at the beginning, one to drive on at each end of the countdown, and one
to steer at each press, until a crash or the end by a disabled timer. The list is computed
from what happens alone, and so is the time at which each countdown ends.
-/

namespace DigitRace

/-- How far a drive has come. -/
inductive Drive.Phase where
  | coming
  | going
  | ended
  /-- The timer could not be armed. -/
  | stalled
  deriving DecidableEq

/-- A drive as what is asked of the race. -/
structure Drive where
  phase : Drive.Phase := .coming
  now : Rat
  /-- When the countdown ends that was armed last. -/
  due : Rat
  race : Race
  calls : List RaceCall := []

namespace Drive

/-- The car is driven on, and the countdown is armed for the wait of the race as it is then. -/
def tick (rate : Int) (drive : Drive) : Drive :=
  { drive with
    race := drive.race.driven
    due := drive.now + Cabinet.pause drive.race.driven.wait rate
    calls := drive.calls ++ [.tick] }

/-- The car is steered; off a junction this ends the drive. The countdown goes on as it was. -/
def steer (drive : Drive) : Drive :=
  { drive with
    race := drive.race.steered
    phase := if drive.race.atJunction then drive.phase else .ended
    calls := drive.calls ++ [.steer] }

/-- What happens to a drive, at so many ticks in a second. -/
def after (rate : Int) (drive : Drive) : Happening → Drive
  | .carry =>
    if drive.phase = .coming then
      { drive.tick rate with phase := if rate = 0 then .stalled else .going }
    else drive
  | .call .countdownOver =>
    let expired := { drive with now := drive.due }
    if drive.phase = .going then expired.tick rate else expired
  | .due .countdownOver => if drive.phase = .going then drive.tick rate else drive
  | .move true => if drive.phase = .going then drive.steer else drive
  | .disable => if drive.phase = .going then { drive with phase := .ended } else drive
  | .wait time => { drive with now := time }
  | _ => drive

end Drive

namespace Cabinet

variable {ω : Type} {eye : Onlooker ω} {c₀ b c c' : Cabinet ω} {drive : Drive} {w : Nat}

/-- A drive that is about to begin. -/
def comingDrive (c : Cabinet ω) : Drive where
  now := c.agenda.now
  due := c.agenda.now
  race := c.race

/-- The cabinet in which the calls of a drive are made by hand. -/
def openedFor (drive : Drive) (c : Cabinet ω) : Cabinet ω :=
  if drive.phase = .coming then c else c.entered .playing

/-- Two cabinets have the same race, digit and journal. -/
structure SameScene (b c : Cabinet ω) : Prop where
  race : b.race = c.race
  display : b.display = c.display
  journal : b.journal = c.journal

theorem SameScene.ticked (h : SameScene b c) (outside outside' : ω) :
    SameScene (b.ticked outside) (c.ticked outside') := by
  constructor <;> simp [Cabinet.ticked, h.race, h.display, h.journal]

theorem SameScene.steered (h : SameScene b c) (outside outside' : ω) :
    SameScene (b.steered outside) (c.steered outside') := by
  constructor <;> simp [Cabinet.steered, h.race, h.display, h.journal]

/-- The cabinet is where the calls of a drive lead. -/
structure Told (eye : Onlooker ω) (c₀ : Cabinet ω) (drive : Drive) (c : Cabinet ω) : Prop where
  sound : c.race.Sound
  race : c.race = drive.race
  now : c.agenda.now = drive.now
  rate : c.timer.rate = c₀.timer.rate
  byHand : ∃ b, drive.calls.forM (RaceCall.perform eye.around) (c₀.openedFor drive) = .ok ⟨⟩ b ∧
    SameScene b c

/-- What the task does at each phase of its drive. -/
inductive Follows (drive : Drive) (c₀ c : Cabinet ω) : Prop
  | queued (hphase : drive.phase = .coming) (hcalls : drive.calls = [])
      (hqueued : Queued (.calling .play) [] c) (hclocked : c.Clocked) (hstage : c.stage = c₀.stage)
  | carried (hphase : drive.phase = .coming) (hcalls : drive.calls = [])
      (hcarried : Carried (.calling .play) [] c) (hclocked : c.Clocked)
      (hstage : c.stage = c₀.stage)
  | going {w : Nat} (hphase : drive.phase = .going) (hlistening : Listening .play w c)
      (htasks : c.tasks = #[{ state := .waiting w }]) (hends : c.EndsAt drive.due)
      (hrate : c₀.timer.rate ≠ 0)
  | ended (steps : Nat) (hphase : drive.phase = .ended) (hclosing : Closing c steps)
      (hclocked : c.Unarmed ∨ c.EndsAt drive.due)
  | stalled (hphase : drive.phase = .stalled) (hover : Over (.failed .divisionByZero) c)
      (hunarmed : c.Unarmed) (hrate : c₀.timer.rate = 0)

/-! ## One call more -/

/-- Nothing was asked of the race. -/
theorem Told.kept (h : Told eye c₀ drive c) {next : Drive} (hrace : c'.race = c.race)
    (hdisplay : c'.display = c.display) (hjournal : c'.journal = c.journal)
    (hrate : c'.timer.rate = c.timer.rate) (hnow : c'.agenda.now = next.now)
    (hnext : next.race = drive.race) (hcalls : next.calls = drive.calls)
    (hopened : c₀.openedFor next = c₀.openedFor drive) : Told eye c₀ next c' where
  sound := by rw [hrace]; exact h.sound
  race := by rw [hrace, hnext]; exact h.race
  now := hnow
  rate := hrate.trans h.rate
  byHand := by
    obtain ⟨b, hb, hscene⟩ := h.byHand
    rw [hcalls, hopened]
    exact ⟨b, hb, hscene.race.trans hrace.symm, hscene.display.trans hdisplay.symm,
      hscene.journal.trans hjournal.symm⟩

/-- The car was driven on. -/
theorem Told.tick (h : Told eye c₀ drive c) (outside : ω) (hscene : SameScene (c.ticked outside) c')
    (hrate : c'.timer.rate = c.timer.rate) (hnow : c'.agenda.now = c.agenda.now) (rate : Int) :
    Told eye c₀ (drive.tick rate) c' where
  sound := by rw [← hscene.race]; exact h.sound.driven
  race := by rw [← hscene.race]; exact congrArg Race.driven h.race
  now := hnow.trans h.now
  rate := hrate.trans h.rate
  byHand := by
    obtain ⟨b, hb, hsame⟩ := h.byHand
    obtain ⟨outside', htick⟩ := tick_apply eye b (by rw [hsame.race]; exact h.sound)
    have hticked := hsame.ticked outside' outside
    refine ⟨b.ticked outside', (Act.forM_concat_apply hb).trans htick, ?_⟩
    exact ⟨hticked.race.trans hscene.race, hticked.display.trans hscene.display,
      hticked.journal.trans hscene.journal⟩

/-- The car was steered. -/
theorem Told.steer (h : Told eye c₀ drive c) (hcome : drive.phase ≠ .coming) (outside : ω)
    (hscene : SameScene (c.steered outside) c') (hrate : c'.timer.rate = c.timer.rate)
    (hnow : c'.agenda.now = c.agenda.now) : Told eye c₀ drive.steer c' where
  sound := by rw [← hscene.race]; exact h.sound.steered
  race := by rw [← hscene.race]; exact congrArg Race.steered h.race
  now := hnow.trans h.now
  rate := hrate.trans h.rate
  byHand := by
    obtain ⟨b, hb, hsame⟩ := h.byHand
    obtain ⟨outside', hsteer⟩ := steer_apply eye b (by rw [hsame.race]; exact h.sound)
    have hsteered := hsame.steered outside' outside
    have hopened : c₀.openedFor drive.steer = c₀.openedFor drive := by
      cases hjunction : drive.race.atJunction <;>
        simp [openedFor, Drive.steer, hjunction, hcome]
    have hperform : RaceCall.steer.perform eye.around b = .ok ⟨⟩ (b.steered outside') := by
      simp [RaceCall.perform, hsteer]
    rw [hopened]
    refine ⟨b.steered outside', (Act.forM_concat_apply hb).trans hperform, ?_⟩
    exact ⟨hsteered.race.trans hscene.race, hsteered.display.trans hscene.display,
      hsteered.journal.trans hscene.journal⟩

/-! ## What happens to a drive -/

variable {happening : Happening}

/-- While nobody listens, nothing is asked of the race. -/
theorem Told.passes (h : Told eye c₀ drive c) (hphase : drive.phase ≠ .going)
    (hpasses : Passes eye c happening c') (hown : ∀ ticks, happening ≠ .enable ticks)
    (hdue : ∀ due, c.agenda.ready = [] → c.EndsAt due → due = drive.due) (rate : Int) :
    Told eye c₀ (drive.after rate happening) c' ∧
      (drive.after rate happening).phase = drive.phase ∧
      (drive.after rate happening).calls = drive.calls ∧
      (drive.after rate happening).due = drive.due := by
  have hkept := hpasses.kept
  have hstay {next : Drive} (hnow : c'.agenda.now = next.now) (hrace : next.race = drive.race)
      (hcalls : next.calls = drive.calls) (hsame : next.phase = drive.phase) :
      Told eye c₀ next c' :=
    h.kept hkept.race hkept.display hkept.journal hkept.rate hnow hrace hcalls
      (by simp [openedFor, hsame])
  cases hpasses with
  | move pressed =>
    have hafter : drive.after rate (.move pressed) = drive := by
      cases pressed <;> simp [Drive.after, hphase]
    rw [hafter]
    exact ⟨hstay h.now rfl rfl rfl, rfl, rfl, rfl⟩
  | disable =>
    have hafter : drive.after rate .disable = drive := by simp [Drive.after, hphase]
    rw [hafter]
    exact ⟨hstay h.now rfl rfl rfl, rfl, rfl, rfl⟩
  | enable ticks => exact absurd rfl (hown ticks)
  | refuse ticks => exact absurd rfl (hown ticks)
  | expire hready hends =>
    have hafter : drive.after rate (.call .countdownOver) = { drive with now := drive.due } := by
      simp [Drive.after, hphase]
    rw [hafter]
    exact ⟨hstay (hdue _ hready hends) rfl rfl rfl, rfl, rfl, rfl⟩
  | overdue =>
    have hafter : drive.after rate (.due .countdownOver) = drive := by simp [Drive.after, hphase]
    rw [hafter]
    exact ⟨hstay h.now rfl rfl rfl, rfl, rfl, rfl⟩
  | wait time => exact ⟨hstay rfl rfl rfl rfl, rfl, rfl, rfl⟩

/-- The stage of a round is entered before the car is driven on. -/
private theorem Told.entered (h : Told eye c₀ drive c) (hphase : drive.phase = .coming)
    (hcalls : drive.calls = []) (hstage : c.stage = c₀.stage) {phase : Drive.Phase}
    (hbegun : phase ≠ .coming) : Told eye c₀ { drive with phase } (c.entered .playing) where
  sound := h.sound
  race := h.race
  now := h.now
  rate := h.rate
  byHand := by
    obtain ⟨b, hb, hscene⟩ := h.byHand
    obtain rfl : c₀ = b := by simpa [hcalls, openedFor, hphase] using hb
    refine ⟨c₀.entered .playing, ?_, hscene.race, hscene.display, ?_⟩
    · simp [hcalls, openedFor, hbegun]
    · simp [Cabinet.entered, hscene.journal, hstage]

/-- A drive that has not begun begins when its task is carried on. -/
private theorem Told.next_coming (h : Told eye c₀ drive c) (hrate : c₀.timer.rate ≠ 0)
    (hphase : drive.phase = .coming) (hcalls : drive.calls = [])
    (hcarried : Carried (.calling .play) [] c) (hclocked : c.Clocked)
    (hstage : c.stage = c₀.stage) :
    Told eye c₀ (drive.after c₀.timer.rate .carry) (carryOn eye.around 0 c) ∧
      Follows (drive.after c₀.timer.rate .carry) c₀ (carryOn eye.around 0 c) := by
  obtain ⟨outside, hbegin⟩ := beginPlay_apply eye h.sound hclocked (by rw [h.rate]; exact hrate)
    hcarried.deaf
  let driven := armedFor eye c.race.driven.wait ((c.entered .playing).ticked outside)
  have hopened : Opened .play c.watches.size (driven.opened .play) :=
    opened_opened (c := driven) .play hcarried.ready
  have hcarry := carry_await hbegin hcarried.tasks hopened
  have hends : driven.EndsAt (c.agenda.now + pause c.race.driven.wait c.timer.rate) :=
    armedFor_endsAt eye c.race.driven.wait ((c.entered .playing).ticked outside)
  have hentered : Told eye c₀ { drive with phase := .going } (c.entered .playing) :=
    h.entered hphase hcalls hstage (by simp)
  have hafter : drive.after c₀.timer.rate .carry =
      { drive with phase := .going }.tick c₀.timer.rate := by
    simp [Drive.after, hphase, Drive.tick, hrate]
  have hdue : ({ drive with phase := .going }.tick c₀.timer.rate).due =
      c.agenda.now + pause c.race.driven.wait c.timer.rate := by
    simp [Drive.tick, h.now, h.race, h.rate]
  rw [hcarried.carryOn_calling, hcarry, hafter]
  constructor
  · refine hentered.tick outside ?_ ?_ ?_ _
    · exact ⟨rfl, rfl, rfl⟩
    · rfl
    · rfl
  · refine .going (w := c.watches.size) rfl (hopened.listening _) rfl ?_ hrate
    rw [hdue]
    exact hends

/-- At rate 0 a drive ends as soon as the car was driven on. -/
private theorem Told.next_stalling (h : Told eye c₀ drive c) (hrate : c₀.timer.rate = 0)
    (hphase : drive.phase = .coming) (hcalls : drive.calls = [])
    (hcarried : Carried (.calling .play) [] c) (hclocked : c.Clocked)
    (hstage : c.stage = c₀.stage) :
    Told eye c₀ (drive.after c₀.timer.rate .carry) (carryOn eye.around 0 c) ∧
      Follows (drive.after c₀.timer.rate .carry) c₀ (carryOn eye.around 0 c) := by
  obtain ⟨outside, hbegin⟩ := beginPlay_fails eye h.sound hclocked (h.rate.trans hrate)
  have hcarry := carry_error hbegin hcarried.tasks
  have hentered : Told eye c₀ { drive with phase := .stalled } (c.entered .playing) :=
    h.entered hphase hcalls hstage (by simp)
  have hafter : drive.after c₀.timer.rate .carry =
      { drive with phase := .stalled }.tick c₀.timer.rate := by
    simp [Drive.after, hphase, Drive.tick, hrate]
  rw [hcarried.carryOn_calling, hcarry, hafter]
  constructor
  · refine hentered.tick outside ?_ ?_ ?_ _
    · exact ⟨rfl, rfl, rfl⟩
    · rfl
    · rfl
  · refine .stalled rfl ?_ (refused_unarmed _ _) hrate
    exact ⟨rfl, rfl, hcarried.ready, hcarried.deaf⟩

/-- A watch that has left makes the task end. -/
private theorem closing_of_left (hlistening : Listening .play w c)
    (htasks : c.tasks = #[{ state := .waiting w }]) : Closing (left w .nothing c) 2 := by
  have hanswered := hlistening.left_answered .nothing
  exact .queued ⟨htasks, hanswered.active, hanswered.ready, hanswered.deaf⟩ hanswered.watch

/-- The end of the countdown drives the car on. -/
private theorem Told.next_expired (h : Told eye c₀ drive c) (hrate : c₀.timer.rate ≠ 0)
    (hphase : drive.phase = .going) (hlistening : Listening .play w c)
    (htasks : c.tasks = #[{ state := .waiting w }]) :
    let after := ((notify eye.around .elapsed).result (c.expired drive.due)).2
    Told eye c₀ (drive.after c₀.timer.rate (.call .countdownOver)) after ∧
      Follows (drive.after c₀.timer.rate (.call .countdownOver)) c₀ after := by
  intro after
  let late := c.expired drive.due
  have hlate : Listening .play w late := hlistening.expired drive.due
  obtain ⟨outside, hdrive⟩ := driveOn_apply eye (c := late) h.sound
    (.inl (expired_unarmed drive.due c)) (by change c.timer.rate ≠ 0; rw [h.rate]; exact hrate)
  have hafter : after = armedFor eye c.race.driven.wait (late.ticked outside) :=
    notify_one hlate.timer ((hlate.onEvent_play eye .elapsed).trans hdrive)
  have htold : Told eye c₀ { drive with now := drive.due } late :=
    h.kept rfl rfl rfl rfl rfl rfl rfl rfl
  have hnext : drive.after c₀.timer.rate (.call .countdownOver) =
      { drive with now := drive.due }.tick c₀.timer.rate := by
    simp [Drive.after, hphase]
  have hends : EndsAt (drive.due + pause c.race.driven.wait c.timer.rate) after := by
    rw [hafter]
    exact armedFor_endsAt eye c.race.driven.wait (late.ticked outside)
  have hdue : ({ drive with now := drive.due }.tick c₀.timer.rate).due =
      drive.due + pause c.race.driven.wait c.timer.rate := by
    simp [Drive.tick, h.race, h.rate]
  rw [hnext]
  constructor
  · refine htold.tick outside ?_ ?_ ?_ _
    · rw [hafter]; exact ⟨rfl, rfl, rfl⟩
    · rw [hafter]; rfl
    · rw [hafter]; rfl
  · refine .going (w := w) hphase ?_ ?_ (hdue ▸ hends) hrate
    · rw [hafter]
      exact (hlate.ticked outside).armed eye _
    · rw [hafter]
      exact htasks

/-- A press steers the car. -/
private theorem Told.next_pressed (h : Told eye c₀ drive c) (hrate : c₀.timer.rate ≠ 0)
    (hphase : drive.phase = .going) (hlistening : Listening .play w c)
    (htasks : c.tasks = #[{ state := .waiting w }]) (hends : c.EndsAt drive.due) :
    let after := ((move eye.around true).result c).2
    Told eye c₀ drive.steer after ∧ Follows drive.steer c₀ after := by
  intro after
  let held := moved eye true c
  have hheld : Listening .play w held := hlistening.moved eye true
  have htold : Told eye c₀ drive held := h.kept rfl rfl rfl rfl h.now rfl rfl rfl
  have hgoing : drive.phase ≠ .coming := by simp [hphase]
  obtain ⟨outside, hedge⟩ := hheld.onEdge_play eye h.sound
  have hafter : after = if c.race.atJunction then held.steered outside else
      left w .nothing (held.steered outside) := move_one eye hlistening.key hedge
  have hsteered : Listening .play w (held.steered outside) := hheld.steered outside
  cases hjunction : c.race.atJunction with
  | true =>
    have hstays : drive.steer.phase = .going := by
      simp [Drive.steer, ← h.race, hjunction, hphase]
    rw [hafter, hjunction, if_pos rfl]
    refine ⟨htold.steer hgoing outside ?_ rfl rfl, .going hstays hsteered htasks hends hrate⟩
    exact ⟨rfl, rfl, rfl⟩
  | false =>
    have hcrash : drive.steer.phase = .ended := by simp [Drive.steer, ← h.race, hjunction]
    rw [hafter, hjunction, if_neg Bool.false_ne_true]
    refine ⟨htold.steer hgoing outside ?_ rfl rfl,
      .ended 2 hcrash (closing_of_left hsteered htasks) (.inr hends)⟩
    exact ⟨rfl, rfl, rfl⟩

/-- A countdown that is called off ends the drive. -/
private theorem Told.next_disabled (h : Told eye c₀ drive c) (hphase : drive.phase = .going)
    (hlistening : Listening .play w c) (htasks : c.tasks = #[{ state := .waiting w }]) :
    let after := ((notify eye.around .disabled).result c.cleared).2
    Told eye c₀ { drive with phase := .ended } after ∧
      Follows { drive with phase := .ended } c₀ after := by
  intro after
  have hcleared := hlistening.cleared
  have hafter : after = left w .nothing c.cleared :=
    notify_one hcleared.timer (hcleared.onEvent_play eye .disabled)
  rw [hafter]
  refine ⟨h.kept rfl rfl rfl rfl h.now rfl rfl ?_,
    .ended 2 rfl (closing_of_left hcleared htasks) (.inl c.cleared_unarmed)⟩
  simp [openedFor, hphase]

/-- Whatever happens while the car is driven does to the race what the drive says. -/
private theorem Told.next_going (h : Told eye c₀ drive c) (hrate : c₀.timer.rate ≠ 0)
    (hphase : drive.phase = .going) (hlistening : Listening .play w c)
    (htasks : c.tasks = #[{ state := .waiting w }]) (hends : c.EndsAt drive.due)
    (hhappens : Happens eye.around c happening c') (hown : ∀ ticks, happening ≠ .enable ticks) :
    Told eye c₀ (drive.after c₀.timer.rate happening) c' ∧
      Follows (drive.after c₀.timer.rate happening) c₀ c' := by
  rcases hlistening.cases hends.clocked hhappens with
    ⟨pressed, -, rfl, rfl⟩ | ⟨event, told, -, hannounces, rfl⟩ | ⟨hpasses, hmisses⟩
  · cases pressed with
    | true =>
      have hafter : drive.after c₀.timer.rate (.move true) = drive.steer := by
        simp [Drive.after, hphase]
      rw [hafter]
      exact h.next_pressed hrate hphase hlistening htasks hends
    | false =>
      have hheld := hlistening.moved eye false
      rw [move_one eye hlistening.key (hheld.onEdge_play_up eye)]
      exact ⟨h.kept rfl rfl rfl rfl h.now rfl rfl rfl, .going hphase hheld htasks hends hrate⟩
  · cases hannounces with
    | expire hends' =>
      obtain rfl := hends'.unique hends
      exact h.next_expired hrate hphase hlistening htasks
    | disable =>
      have hafter : drive.after c₀.timer.rate .disable = { drive with phase := .ended } := by
        simp [Drive.after, hphase]
      rw [hafter]
      exact h.next_disabled hphase hlistening htasks
  · have hlistening' := hpasses.kept.listening hlistening
    cases hpasses with
    | move => cases hmisses
    | disable => cases hmisses
    | expire | overdue => cases hmisses
    | enable ticks => exact absurd rfl (hown ticks)
    | refuse ticks => exact absurd rfl (hown ticks)
    | wait =>
      exact ⟨h.kept rfl rfl rfl rfl rfl rfl rfl rfl,
        .going hphase hlistening' htasks hends hrate⟩

/-- Where nobody listens, the countdown of the drive is the only one there can be. -/
private theorem Passes.countdown (hpasses : Passes eye c happening c')
    (hown : ∀ ticks, happening ≠ .enable ticks) {due : Rat} (h : c.Unarmed ∨ c.EndsAt due) :
    c'.Unarmed ∨ c'.EndsAt due := by
  cases hpasses with
  | move => exact h
  | disable => exact .inl c.cleared_unarmed
  | enable ticks => exact absurd rfl (hown ticks)
  | refuse ticks => exact absurd rfl (hown ticks)
  | expire | overdue => exact .inl (expired_unarmed _ c)
  | wait => exact h

private theorem Passes.unarmed (hpasses : Passes eye c happening c')
    (hown : ∀ ticks, happening ≠ .enable ticks) (h : c.Unarmed) : c'.Unarmed := by
  cases hpasses with
  | disable => exact c.cleared_unarmed
  | enable ticks => exact absurd rfl (hown ticks)
  | refuse ticks => exact absurd rfl (hown ticks)
  | expire | overdue => exact expired_unarmed _ c
  | _ => exact h

/-- After the end of a drive nothing more is asked of the race, whatever happens. -/
private theorem Told.next_ended {steps : Nat} (h : Told eye c₀ drive c)
    (hphase : drive.phase = .ended) (hclosing : Closing c steps)
    (hcountdown : c.Unarmed ∨ c.EndsAt drive.due)
    (hhappens : Happens eye.around c happening c') (hown : ∀ ticks, happening ≠ .enable ticks) :
    Told eye c₀ (drive.after c₀.timer.rate happening) c' ∧
      Follows (drive.after c₀.timer.rate happening) c₀ c' := by
  have hgone : drive.phase ≠ .going := by simp [hphase]
  have hclocked : c.Clocked := hcountdown.imp_right fun hends => ⟨drive.due, hends⟩
  have hdue : ∀ due, c.agenda.ready = [] → c.EndsAt due → due = drive.due := by
    intro due _ hends
    rcases hcountdown with hunarmed | hends'
    · exact absurd hends hunarmed.not_endsAt
    · exact hends.unique hends'
  have hpass (hpasses : Passes eye c happening c') (hclosing' : Closing c' steps) :
      Told eye c₀ (drive.after c₀.timer.rate happening) c' ∧
        Follows (drive.after c₀.timer.rate happening) c₀ c' := by
    obtain ⟨htold, hsame, -, hdue'⟩ := h.passes hgone hpasses hown hdue c₀.timer.rate
    refine ⟨htold, .ended steps (hsame.trans hphase) hclosing' ?_⟩
    rw [hdue']
    exact hpasses.countdown hown hcountdown
  cases hclosing with
  | @queued w hqueued hanswer =>
    rcases hqueued.cases hclocked hhappens with hpasses | ⟨rfl, rfl⟩
    · refine hpass hpasses (.queued (hpasses.kept.queued hqueued) ?_)
      rw [hpasses.kept.watches]
      exact hanswer
    · obtain ⟨hcarried, hwake⟩ := hqueued.wake_waiting hanswer
      have hafter : drive.after c₀.timer.rate (.call (.task 0)) = drive := rfl
      rw [hafter]
      refine ⟨?_, .ended 1 hphase (.carried hcarried) ?_⟩
      · rw [hwake]
        exact h.kept rfl rfl rfl rfl h.now rfl rfl rfl
      · rw [hwake]
        exact hcountdown
  | carried hcarried =>
    obtain ⟨rfl, rfl⟩ := hcarried.cases hhappens
    have hafter : drive.after c₀.timer.rate .carry = drive := by simp [Drive.after, hphase]
    rw [hafter, hcarried.carryOn_over]
    refine ⟨h.kept rfl rfl rfl rfl h.now rfl rfl rfl, .ended 0 hphase (.ended ?_) hcountdown⟩
    exact ⟨rfl, rfl, hcarried.ready, hcarried.deaf⟩
  | ended hover =>
    have hpasses := hover.passes hclocked hhappens
    exact hpass hpasses (.ended (hpasses.kept.ended hover))

/-- Whatever happens, the race does what the drive says, and the task follows. -/
theorem Follows.next (hfollows : Follows drive c₀ c) (h : Told eye c₀ drive c)
    (hhappens : Happens eye.around c happening c') (hown : ∀ ticks, happening ≠ .enable ticks) :
    Told eye c₀ (drive.after c₀.timer.rate happening) c' ∧
      Follows (drive.after c₀.timer.rate happening) c₀ c' := by
  cases hfollows with
  | queued hphase hcalls hqueued hclocked hstage =>
    rcases hqueued.cases hclocked hhappens with hpasses | ⟨rfl, rfl⟩
    · have hready : ∀ due, c.agenda.ready = [] → c.EndsAt due → due = drive.due := by
        simp [hqueued.ready]
      obtain ⟨htold, hsame, hcalls', -⟩ :=
        h.passes (by simp [hphase]) hpasses hown hready c₀.timer.rate
      exact ⟨htold, .queued (hsame.trans hphase) (hcalls'.trans hcalls)
        (hpasses.kept.queued hqueued) (hpasses.clocked hclocked) (hpasses.kept.stage.trans hstage)⟩
    · obtain ⟨hcarried, hwake⟩ := hqueued.wake_calling
      have hafter : drive.after c₀.timer.rate (.call (.task 0)) = drive := rfl
      rw [hafter]
      refine ⟨?_, .carried hphase hcalls hcarried ?_ ?_⟩
      · rw [hwake]
        exact h.kept rfl rfl rfl rfl h.now rfl rfl rfl
      · rw [hwake]
        exact hclocked
      · rw [hwake]
        exact hstage
  | carried hphase hcalls hcarried hclocked hstage =>
    obtain ⟨rfl, rfl⟩ := hcarried.cases hhappens
    by_cases hrate : c₀.timer.rate = 0
    · exact h.next_stalling hrate hphase hcalls hcarried hclocked hstage
    · exact h.next_coming hrate hphase hcalls hcarried hclocked hstage
  | going hphase hlistening htasks hends hrate =>
    exact h.next_going hrate hphase hlistening htasks hends hhappens hown
  | ended steps hphase hclosing hcountdown =>
    exact h.next_ended hphase hclosing hcountdown hhappens hown
  | stalled hphase hover hunarmed hrate =>
    have hpasses := hover.passes (.inl hunarmed) hhappens
    have hdue : ∀ due, c.agenda.ready = [] → c.EndsAt due → due = drive.due :=
      fun _ _ hends => absurd hends hunarmed.not_endsAt
    obtain ⟨htold, hsame, -, -⟩ := h.passes (by simp [hphase]) hpasses hown hdue c₀.timer.rate
    refine ⟨htold, .stalled (hsame.trans hphase) (hpasses.kept.ended hover) ?_ hrate⟩
    exact hpasses.unarmed hown hunarmed

/-! ## Whole drives -/

/-- In a run of the player's drive the race does what the drive says, and the task follows. -/
theorem Run.follows {happenings : List Happening} (hvacant : c.Vacant) (hsound : c.race.Sound)
    (hrun : Run eye.around inFull (Cabinet.spawn .play c) happenings c')
    (hown : ∀ ticks, .enable ticks ∉ happenings) :
    Told eye c (happenings.foldl (Drive.after c.timer.rate) c.comingDrive) c' ∧
      Follows (happenings.foldl (Drive.after c.timer.rate) c.comingDrive) c c' := by
  induction hrun with
  | start =>
    refine ⟨⟨hsound, rfl, rfl, rfl, c, rfl, rfl, rfl, rfl⟩, ?_⟩
    exact .queued rfl rfl (hvacant.spawn .play) hvacant.clocked rfl
  | @next happenings before after happening _ hhappens ih =>
    have hown' : ∀ ticks, .enable ticks ∉ happenings := fun ticks hmem =>
      hown ticks (List.mem_append_left _ hmem)
    have hlast : ∀ ticks, happening ≠ .enable ticks := by
      rintro ticks rfl
      exact hown ticks (List.mem_append_right _ (by simp [inFull]))
    obtain ⟨htold, hfollows⟩ := ih hown'
    rw [inFull, List.foldl_append]
    exact hfollows.next htold hhappens hlast

/-- **The player's drive is a sequence of calls.** Whatever happens while the drive waits, short of
someone else arming the timer, the race, the digit and the journal are what the calls of the drive
make of them by hand: one to drive on at the beginning and at each end of the countdown, one to
steer at each press, and none after a crash or a disabled timer. The countdown that is pending
ends when the drive says, as many ticks after the last call to drive on as the wait was then. With
a crash or a disabled timer the task ends, and never without, unless it fails at the beginning
because the timer cannot be armed at rate 0. -/
theorem play_follows_drive (eye : Onlooker ω) (hvacant : c.Vacant) (hsound : c.race.Sound)
    {happenings : List Happening}
    (hrun : Run eye.around inFull (Cabinet.spawn .play c) happenings c')
    (hown : ∀ ticks, .enable ticks ∉ happenings) :
    let drive := happenings.foldl (Drive.after c.timer.rate) c.comingDrive
    (∃ byHand, drive.calls.forM (RaceCall.perform eye.around) (c.openedFor drive) = .ok ⟨⟩ byHand ∧
        SameScene byHand c') ∧
      c'.race = drive.race ∧ c'.agenda.now = drive.now ∧
      (drive.phase = .going → c'.EndsAt drive.due) ∧
      (drive.phase = .ended → Over (.returned .nothing) (settle eye.around c')) ∧
      (∀ ending, c'.tasks = #[{ state := .ended ending }] →
        drive.phase = .ended ∧ ending = .returned .nothing ∨
          drive.phase = .stalled ∧ ending = .failed .divisionByZero ∧ c.timer.rate = 0) := by
  intro drive
  obtain ⟨htold, hfollows⟩ := hrun.follows hvacant hsound hown
  refine ⟨htold.byHand, htold.race, htold.now, ?_, ?_, ?_⟩
  · intro hphase
    cases hfollows with
    | going _ _ _ hends => exact hends
    | _ => simp_all [drive]
  · intro hphase
    cases hfollows with
    | ended steps _ hclosing hcountdown =>
      refine hclosing.run (hcountdown.imp_right fun hends => ⟨_, hends⟩) ?_ _
      have hsteps : steps ≤ 2 := by cases hclosing <;> omega
      have hpatience : 2 ≤ patience := by decide
      exact hsteps.trans hpatience
    | _ => simp_all [drive]
  · intro ending hended
    cases hfollows with
    | queued _ _ hqueued => simp [hqueued.tasks] at hended
    | carried _ _ hcarried => simp [hcarried.tasks] at hended
    | going _ _ htasks => simp [htasks] at hended
    | ended _ hphase hclosing =>
      refine .inl ⟨hphase, ?_⟩
      cases hclosing with
      | queued hqueued => simp [hqueued.tasks] at hended
      | carried hcarried => simp [hcarried.tasks] at hended
      | ended hover => simpa [hover.tasks, eq_comm] using hended
    | stalled hphase hover _ hrate =>
      refine .inr ⟨hphase, ?_, hrate⟩
      simpa [hover.tasks, eq_comm] using hended

/-- Where there is no junction, the first press is a crash: the drive is one call to drive on and
one to steer, and the task ends. A countdown that runs out at the same moment, after the press and
before the task goes on, drives no car on. -/
theorem play_follows_drive_into_crash :
    let circle := [Circuit.lit "a" 0, Circuit.back 0]
    ∃ c c' : Cabinet Unit, Race.start circle = .ok c.race ∧
      Run Onlooker.idle.around inFull (Cabinet.spawn .play c)
        [.call (.task 0), .carry, .wait (1 / 2), .move true, .due .countdownOver] c' ∧
      (∃ byHand, [RaceCall.tick, .steer].forM (RaceCall.perform Onlooker.idle.around)
        (c.entered .playing) = .ok ⟨⟩ byHand ∧ SameScene byHand c') ∧
      Over (.returned .nothing) (settle Onlooker.idle.around c') := by
  intro circle
  let race : Race := { circuit := circle, address := .int 0, current := Circuit.lit "a" 0 }
  let c := atRest race
  let happenings : List Happening :=
    [.call (.task 0), .carry, .wait (1 / 2), .move true, .due .countdownOver]
  have hstart : Race.start circle = .ok race := rfl
  have hsound : race.Sound := by
    refine (Race.sound_of_start ?_ hstart).1
    constructor <;> simp [circle, Circuit.lit, Circuit.back]
  let played := deedsNoted Onlooker.idle.around inFull
    [.steps 2, .wait (1 / 2), .move true, .due] (Cabinet.spawn .play c)
  have hrun : Run Onlooker.idle.around inFull (Cabinet.spawn .play c) played.1 played.2 :=
    Run.start.deedsNoted [.steps 2, .wait (1 / 2), .move true, .due]
  have hplayed : played.1 = happenings := by decide +kernel
  rw [hplayed] at hrun
  have hphase : (happenings.foldl (Drive.after ticksPerSecond) c.comingDrive).phase = .ended := by
    decide +kernel
  obtain ⟨hbyHand, -, -, -, hover, -⟩ := play_follows_drive Onlooker.idle (atRest_vacant race)
    hsound hrun (by simp [happenings])
  exact ⟨c, played.2, hstart, hrun, hbyHand, hover hphase⟩

end Cabinet

end DigitRace
