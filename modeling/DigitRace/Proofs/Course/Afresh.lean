import DigitRace.Proofs.Cabinet.Scribe
import DigitRace.Proofs.Course.Run
import DigitRace.Proofs.Guise.Happening
import Mathlib

/-!
# Every game begins afresh

Whatever was before a game, a demo that was driven, games that were played, a countdown that is
still pending: once the game has begun it is one and the same game, in the guise of its own past. So
the same happenings lead to the same patterns, at the same times after its beginning.
-/

namespace DigitRace

/-- Patterns that were shown at times that count from another. -/
def Writes.since (time : Rat) (writes : Writes) : Writes :=
  writes.map fun write => (write.1 + time, write.2)

namespace Cabinet

/-! ## The beginning of a game -/

/-- The task is about to begin a game. -/
def callsGame (task : Task) : Bool :=
  match task.state with
  | .calling .game => true
  | _ => false

/-- The one task is carried on and is about to begin a game. -/
def BeginsGame {ω : Type} (c : Cabinet ω) : Prop :=
  c.active = some 0 ∧ (c.tasks[0]?).any callsGame = true

instance {ω : Type} (c : Cabinet ω) : Decidable c.BeginsGame :=
  inferInstanceAs (Decidable (_ ∧ _))

/-- Where a game begins on the course, nothing else is pending but a countdown at most. -/
theorem Courses.begins {ω : Type} {c : Cabinet ω} {games : Value} {leg : Leg}
    (h : Courses games leg c) (hbegins : c.BeginsGame) :
    ∃ played, Carried (.calling .game) [.gameEnded games played] c ∧ c.Clocked ∧ c.race.Sound ∧
      c.timer.rate ≠ 0 := by
  obtain ⟨hactive, hcalls⟩ := hbegins
  cases h with
  | stands hupon hstands =>
    cases hstands with
    | begins _ hqueued => simp [hqueued.active] at hactive
    | calling hcarried hcalled =>
      rw [hcarried.tasks] at hcalls
      cases hcalled with
      | game => exact ⟨_, hcarried, hupon.clocked, hupon.sound, hupon.paced⟩
      | _ => cases hcalls
    | answering hcarried => simp [hcarried.tasks, callsGame] at hcalls
    | waiting _ htasks => simp [htasks, callsGame] at hcalls
    | woken hqueued => simp [hqueued.tasks, callsGame] at hcalls
    | returned _ hover => simp [hover.tasks, callsGame] at hcalls
    | failed _ hover => simp [hover.tasks, callsGame] at hcalls
  | stalls _ hstalls =>
    cases hstalls with
    | begins _ hqueued => simp [hqueued.active] at hactive
    | calling hcarried hstalling =>
      rw [hcarried.tasks] at hcalls
      cases hstalling <;> cases hcalls
    | failed _ hover => simp [hover.tasks, callsGame] at hcalls

/-- What counts a game's countdown down. -/
def gameCountdown : Watch.Kind :=
  .countdown (.int 3) countdownFlashes

/-- A game with no past, at its first digit: on a race that begins, before an observer or none, with
the key down or up. -/
def gameAfresh (observer : Option Unit) (pressed : Bool) (rate : Int) (race : Race) :
    Cabinet Writes where
  agenda := { deadlines := [⟨pause digitTicks rate, 0, .countdownOver⟩], issued := 1 }
  display := { pattern := digitPattern 3, observer }
  key := { pressed }
  timer := { rate, listeners := [0], handle := some 0, count := digitTicks, start := 0, base := 0 }
  race
  stage := some .countdown
  chances _ := 0
  watches := #[{ kind := gameCountdown, waiter := some 0 }]
  tasks := #[{ state := .waiting 0, stack := [.countedDown, .gameEnded .nothing 0] }]
  outside := if observer.isSome then [(0, digitPattern 3)] else []

/-- The guise of a game that begins after a past. -/
def pastOf (c : Cabinet Writes) (games : Value) (played : Nat) (hrate : c.timer.rate ≠ 0) :
    Guise Writes where
  shift := c.agenda.now
  pace := c.timer.rate
  rate := c.timer.rate
  issued := c.agenda.issued
  watches := c.watches
  journal := c.journal.push (Stage.countdown.note c.stage)
  drawn := c.draws
  chances := c.chances
  base := c.timer.base
  updater := c.key.updater
  games _ := games
  played
  outside writes := c.outside ++ Writes.since c.agenda.now writes
  whole := False
  scale_pos := one_pos
  scale_rate := one_mul _
  pace_ne_zero := hrate
  games_eq := False.elim
  played_eq := False.elim

variable {c : Cabinet Writes} {clock : Cabinet Writes → Rat} {games : Value} {played : Nat}

/-- The cabinet once a game has begun. -/
def gameBegun (stack : List Frame) (c : Cabinet Writes) : Cabinet Writes :=
  { (c.restarted 0).entered .countdown with
    tasks := #[{ state := .calling (.countdown (.int 3)), stack := .countedDown :: stack }] }

theorem carryOn_game {around : Surroundings Writes} {stack : List Frame}
    (hcarried : Carried (.calling .game) stack c) (hsound : c.race.Sound) :
    carryOn around 0 c = gameBegun stack c := by
  have hact : begin around .game c =
      .ok (.call (.countdown (.int 3)) (some .countedDown))
        ((c.restarted 0).entered .countdown) := by
    simp [begin, resetRace_apply c hsound, enter_apply]
  rw [hcarried.carryOn_calling, carry_call hact hcarried.tasks]
  rfl

theorem Carried.begun {stack : List Frame} (h : Carried (.calling .game) stack c) :
    Carried (.calling (.countdown (.int 3))) (.countedDown :: stack) (gameBegun stack c) :=
  ⟨rfl, h.active, h.ready, h.deaf⟩

theorem modify_push {α : Type} (xs : Array α) (x : α) (change : α → α) :
    (xs.push x).modify xs.size change = xs.push (change x) := by
  refine Array.ext_getElem? fun i => ?_
  by_cases hlast : xs.size = i
  · simp [← hlast, Array.getElem_modify]
  · simp [Array.getElem?_modify, Array.getElem?_push, hlast, Ne.symm hlast]

/-- The cabinet once the first digit of a game is shown and its second is counted. -/
def digitShown (clock : Cabinet Writes → Rat) (stack : List Frame) (c : Cabinet Writes) :
    Cabinet Writes :=
  armedFor (Onlooker.scribe clock) digitTicks
    (((gameBegun stack c).opened gameCountdown).written (digitPattern 3))

theorem begin_gameCountdown {stack : List Frame} (hdeaf : c.Deaf) (hclocked : c.Clocked)
    (hrate : c.timer.rate ≠ 0) :
    begin (Onlooker.scribe clock).around (.countdown (.int 3)) (gameBegun stack c) =
      .ok (.await c.watches.size none) (digitShown clock stack c) := by
  have hcount : (Value.int 3).atMost greatestDigit = .ok (.int 3) := rfl
  have hticks : (if (Value.int 3).truthy then (digitTicks : Int) else flashTicks) = digitTicks :=
    rfl
  have hshow := scribe_showPattern clock (digitPattern 3) ((gameBegun stack c).opened gameCountdown)
  rw [← showDigit_eq] at hshow
  have hwritten : (((gameBegun stack c).opened gameCountdown).written (digitPattern 3)).Clocked :=
    hclocked
  have harmed := hwritten.enable_small (Onlooker.scribe clock) hrate
    (by decide : (digitTicks : Int) ≤ 50)
  simp only [begin, beginCountdown, hcount]
  rw [Act.bind_apply, Act.lift_ok_apply]
  refine (open_timer_apply (c := gameBegun stack c) gameCountdown hdeaf rfl rfl _).trans ?_
  simp only [Act.bind_apply, hshow, hticks, harmed]
  rfl

variable (clock) in
/-- The first digit of a game is shown, and the game is the one with no past. -/
theorem carryOn_countdown (hcarried : Carried (.calling .game) [.gameEnded games played] c)
    (hclocked : c.Clocked) (hrate : c.timer.rate ≠ 0) :
    ∃ start, carryOn (Onlooker.scribe clock).around 0 (gameBegun [.gameEnded games played] c) =
      (pastOf c games played hrate).dress start
        (gameAfresh c.display.observer c.key.pressed c.timer.rate (c.race.restarted 0)) := by
  have hopened : Opened gameCountdown c.watches.size
      (digitShown clock [.gameEnded games played] c) :=
    ⟨(opened_opened gameCountdown hcarried.begun.ready).watch, rfl, rfl, hcarried.ready⟩
  refine ⟨(digitShown clock [.gameEnded games played] c).timer.start, ?_⟩
  rw [hcarried.begun.carryOn_calling,
    carry_await (begin_gameCountdown hcarried.deaf hclocked hrate) rfl hopened]
  -- Both sides are the same cabinet, device by device.
  simp [digitShown, armedFor, gameBegun, opened, written, shows, entered, restarted, gameAfresh,
    gameCountdown, Watch.Kind.hearsKey, Watch.Kind.hearsTimer, hcarried.ready, Onlooker.scribe,
    pastOf, Guise.dress, Guise.agenda, Guise.deadline, Guise.time, Guise.key, Guise.timer,
    Guise.task, Guise.state, Guise.frame, Guise.watch, Writes.since, add_comm, modify_push]
  cases c.display.observer <;> simp

/-! ## The guise of the past -/

variable (c clock games played) in
/-- The scribe writes the same patterns down, at times that count from the game's beginning. -/
theorem suits_scribe (hrate : c.timer.rate ≠ 0) : (pastOf c games played hrate).Suits
    (Onlooker.scribe fun _ => 0).around (Onlooker.scribe clock).around where
  observe pattern := .modify fun held start hfits => by
    refine ⟨hfits.congr rfl, start, ?_⟩
    simp [Onlooker.scribe, Guise.dress, Guise.agenda, Guise.time, pastOf, Writes.since]
  showEdge _ _ := rfl
  showEdge' _ _ := rfl

variable (games played) in
/-- A game with no past is one that can have a past. -/
theorem gameAfresh_fits (hrate : c.timer.rate ≠ 0) (observer : Option Unit) (pressed : Bool)
    {race : Race} (hsound : race.Sound) : (pastOf c games played hrate).Fits
      (gameAfresh observer pressed c.timer.rate race) where
  pace := rfl
  wait := hsound.wait ▸ (Race.waitAt_bounds race.speed).2
  kinds w hw := by
    obtain rfl : w = { kind := gameCountdown, waiter := some 0 } := by simpa [gameAfresh] using hw
    trivial
  tasks t ht := by
    obtain rfl : t = { state := .waiting 0, stack := [.countedDown, .gameEnded .nothing 0] } := by
      simpa [gameAfresh] using ht
    exact ⟨nofun, by simp [Guise.FrameFits]⟩
  chances := False.elim
  draws := .inr rfl

theorem happeningFits_pastOf (hrate : c.timer.rate ≠ 0) (event : Happening) :
    (pastOf c games played hrate).HappeningFits event := by
  cases event with
  | enable ticks => exact fun _ _ => Iff.rfl
  | _ => trivial

/-! ## A game from its beginning -/

theorem Carried.stays {routine : Routine} {stack : List Frame}
    (h : Carried (.calling routine) stack c) : ¬ LeavesGame c := by
  rintro ⟨number, hactive, task, answer, _, _, _, htask, hstate, -⟩
  obtain rfl : 0 = number := Option.some.inj (h.active.symm.trans hactive)
  obtain rfl : _ = task := by simpa [h.tasks] using htask
  cases hstate

/-- While a routine begins, nothing else happens, and the game lasts. -/
theorem Carried.lasts_iff {around : Surroundings Writes} {routine : Routine} {stack : List Frame}
    (h : Carried (.calling routine) stack c) {event : Happening} {events : List Happening}
    {c' : Cabinet Writes} : Lasts around c (event :: events) c' ↔
      event = .carry ∧ Lasts around (carryOn around 0 c) events c' := by
  constructor
  · rintro (_ | ⟨-, hhappens, hrest⟩)
    cases hhappens with
    | carry hactive =>
      obtain rfl := Option.some.inj (h.active.symm.trans hactive)
      exact ⟨rfl, hrest⟩
    | _ => simp_all [h.active]
  · rintro ⟨rfl, hrest⟩
    exact .step h.stays (.carry h.active) hrest

variable (clock) in
/-- A game is entered, and from its first digit on it is the one with no past. -/
theorem lasts_game (hcarried : Carried (.calling .game) [.gameEnded games played] c)
    (hclocked : c.Clocked) (hsound : c.race.Sound) (hrate : c.timer.rate ≠ 0) :
    ∃ start, ∀ events c', Lasts (Onlooker.scribe clock).around c (.carry :: events) c' ↔
      events = [] ∧ c' = gameBegun [.gameEnded games played] c ∨
      ∃ rest, events = .carry :: rest ∧ Lasts (Onlooker.scribe clock).around
        ((pastOf c games played hrate).dress start
          (gameAfresh c.display.observer c.key.pressed c.timer.rate (c.race.restarted 0))) rest
        c' := by
  obtain ⟨start, hfirst⟩ := carryOn_countdown clock hcarried hclocked hrate
  refine ⟨start, fun events c' => ?_⟩
  rw [hcarried.lasts_iff, carryOn_game hcarried hsound, and_iff_right rfl]
  cases events with
  | nil =>
    constructor
    · rintro ⟨⟩
      exact .inl ⟨rfl, rfl⟩
    · rintro (⟨-, rfl⟩ | ⟨_, hnil, -⟩)
      · exact .still _
      · cases hnil
  | cons event rest =>
    rw [hcarried.begun.lasts_iff, hfirst]
    simp

/-! ## Two games -/

/-- A run from a cabinet in which nothing had begun has come to the beginning of a game. -/
inductive ComesToGame (clock : Cabinet Writes → Rat) (c : Cabinet Writes) : Prop
  | run {first : Cabinet Writes} {happenings : List Happening} (games : Value)
      (hfresh : first.Fresh)
      (hrun : Run (Onlooker.scribe clock).around inFull (spawn (.run games) first) happenings c)
      (hbegins : c.BeginsGame)

/-- What is shown of a score by a frame. -/
def scoreText? : Frame → Option Value
  | .scoreShown text => some text
  | _ => none

/-- The texts of scores that are being shown. -/
def scoreTexts (c : Cabinet Writes) : List Value :=
  c.tasks.toList.flatMap fun task => task.stack.filterMap scoreText?

/-- Two games that began in `c₁` and `c₂` have come to the same. -/
structure Alike (c₁ c₁' c₂ c₂' : Cabinet Writes) : Prop where
  stage : c₂'.stage = c₁'.stage
  /-- With the cars that are left, the speed, the score and the place of the car. -/
  race : c₂'.race = c₁'.race
  pressed : c₂'.key.pressed = c₁'.key.pressed
  time : c₂'.agenda.now - c₂.agenda.now = c₁'.agenda.now - c₁.agenda.now
  texts : c₂'.scoreTexts = c₁'.scoreTexts
  /-- The same patterns were shown at the same times after the beginning. -/
  writes : ∃ writes, c₁'.outside = c₁.outside ++ Writes.since c₁.agenda.now writes ∧
    c₂'.outside = c₂.outside ++ Writes.since c₂.agenda.now writes
  /-- No numbers were drawn. -/
  draws : c₁'.draws = c₁.draws ∧ c₂'.draws = c₂.draws

end Cabinet

/-- The same happening later by a time. -/
def Happening.later (span : Rat) : Happening → Happening
  | .wait time => .wait (time + span)
  | other => other

namespace Cabinet

variable {clock₁ clock₂ : Cabinet Writes → Rat} {c₁ c₁' c₂ c₂' : Cabinet Writes}

theorem scoreTexts_dress (g : Guise Writes) (start : Rat) (c : Cabinet Writes) :
    (g.dress start c).scoreTexts = c.scoreTexts := by
  have hframe (f : Frame) : scoreText? (g.frame f) = scoreText? f := by cases f <;> rfl
  simp [scoreTexts, Guise.dress, Guise.task, List.flatMap_map, List.filterMap_map, hframe]

theorem ComesToGame.begins (h : ComesToGame clock c) :
    ∃ games played, Carried (.calling .game) [.gameEnded games played] c ∧ c.Clocked ∧
      c.race.Sound ∧ c.timer.rate ≠ 0 := by
  obtain ⟨games, hfresh, hrun, hbegins⟩ := h
  obtain ⟨marks, hrun⟩ := hrun.noting marksOf
  obtain ⟨leg, hcourses, -⟩ := hrun.courses hfresh
  obtain ⟨played, h⟩ := hcourses.begins hbegins
  exact ⟨games, played, h⟩

/-- Two games that were just entered are alike. -/
theorem gameBegun_alike {games₁ games₂ : Value} {played₁ played₂ : Nat}
    (hpressed : c₂.key.pressed = c₁.key.pressed)
    (hrace : c₂.race.restarted 0 = c₁.race.restarted 0) :
    Alike c₁ (gameBegun [.gameEnded games₁ played₁] c₁) c₂
      (gameBegun [.gameEnded games₂ played₂] c₂) where
  stage := rfl
  race := hrace
  pressed := hpressed
  time := by simp [gameBegun, entered, restarted]
  texts := rfl
  writes := ⟨[], by simp [gameBegun, entered, restarted, Writes.since],
    by simp [gameBegun, entered, restarted, Writes.since]⟩
  draws := ⟨rfl, rfl⟩

/-- Two games that are the same but for their pasts are alike. -/
theorem dress_alike {games₁ games₂ : Value} {played₁ played₂ : Nat} {start₁ start₂ : Rat}
    (hrate₁ : c₁.timer.rate ≠ 0) (hrate₂ : c₂.timer.rate ≠ 0) (hdraws : c.draws = 0) :
    Alike c₁ ((pastOf c₁ games₁ played₁ hrate₁).dress start₁ c) c₂
      ((pastOf c₂ games₂ played₂ hrate₂).dress start₂ c) where
  stage := rfl
  race := rfl
  pressed := rfl
  time := by simp [Guise.dress, Guise.agenda, Guise.time, pastOf]
  texts := by rw [scoreTexts_dress, scoreTexts_dress]
  writes := ⟨c.outside, rfl, rfl⟩
  draws := by simp [Guise.dress, pastOf, hdraws]

/-- What happens after the one past happens after the other by as much later as the game began. -/
theorem later_pastOf {games₁ games₂ : Value} {played₁ played₂ : Nat}
    (hrate₁ : c₁.timer.rate ≠ 0) (hrate₂ : c₂.timer.rate ≠ 0) (events : List Happening) :
    (events.map (pastOf c₁ games₁ played₁ hrate₁).happening).map
      (Happening.later (c₂.agenda.now - c₁.agenda.now)) =
        events.map (pastOf c₂ games₂ played₂ hrate₂).happening := by
  rw [List.map_map]
  refine List.map_congr_left fun event _ => ?_
  cases event with
  | wait time => simp [Guise.happening, Guise.time, Happening.later, pastOf, add_assoc]
  | _ => rfl

/-- **A game forgets the past.** Take two runs that have come to the beginning of a game, whatever
was before: demos, other games, a countdown that is still pending or has run out. If circuit, key,
observer and rate are the same, all that happens to the one game can happen to the other, as much
later as that began later. It leads to the same stage, the same race and the same text of the score
until the game is left, the same patterns were shown at the same times after the beginning, and no
numbers were drawn. -/
theorem game_forgets_past (h₁ : ComesToGame clock₁ c₁) (h₂ : ComesToGame clock₂ c₂)
    (hcircuit : c₂.race.circuit = c₁.race.circuit) (hpressed : c₂.key.pressed = c₁.key.pressed)
    (hobserver : c₂.display.observer = c₁.display.observer)
    (hrate : c₂.timer.rate = c₁.timer.rate) {events : List Happening}
    (hlasts : Lasts (Onlooker.scribe clock₁).around c₁ (.carry :: events) c₁') :
    (∃ c₂', Lasts (Onlooker.scribe clock₂).around c₂
      (.carry :: events.map (Happening.later (c₂.agenda.now - c₁.agenda.now))) c₂') ∧
    ∀ c₂', Lasts (Onlooker.scribe clock₂).around c₂
      (.carry :: events.map (Happening.later (c₂.agenda.now - c₁.agenda.now))) c₂' →
        Alike c₁ c₁' c₂ c₂' := by
  obtain ⟨games₁, played₁, hcarried₁, hclocked₁, hsound₁, hrate₁⟩ := h₁.begins
  obtain ⟨games₂, played₂, hcarried₂, hclocked₂, hsound₂, hrate₂⟩ := h₂.begins
  obtain ⟨start₁, hgame₁⟩ := lasts_game clock₁ hcarried₁ hclocked₁ hsound₁ hrate₁
  obtain ⟨start₂, hgame₂⟩ := lasts_game clock₂ hcarried₂ hclocked₂ hsound₂ hrate₂
  have hrace : c₂.race.restarted 0 = c₁.race.restarted 0 :=
    Race.restarted_congr hcircuit hsound₁.drivable.pos 0
  rw [hobserver, hpressed, hrace] at hgame₂
  suffices h : ∃ c₂', Lasts (Onlooker.scribe clock₂).around c₂
      (.carry :: events.map (Happening.later (c₂.agenda.now - c₁.agenda.now))) c₂' ∧
        Alike c₁ c₁' c₂ c₂' by
    obtain ⟨c₂', hlasts₂, halike⟩ := h
    exact ⟨⟨c₂', hlasts₂⟩, fun _ hother => hlasts₂.unique hother ▸ halike⟩
  obtain ⟨rfl, rfl⟩ | ⟨rest, rfl, hrest⟩ := (hgame₁ _ _).1 hlasts
  · exact ⟨_, (hgame₂ _ _).2 (.inl ⟨rfl, rfl⟩), gameBegun_alike hpressed hrace⟩
  · -- What happened in the one game happens in the game with no past, and so in the other.
    have hrestarted := (hsound₁.reset_apply 0).2.1
    have hfits₁ := gameAfresh_fits games₁ played₁ hrate₁
      c₁.display.observer c₁.key.pressed hrestarted
    obtain ⟨events, c, start, rfl, hafresh, hfits, rfl⟩ :=
      (suits_scribe c₁ clock₁ games₁ played₁ hrate₁).lasted (happeningFits_pastOf hrate₁) hfits₁
        hrest
    have hfits₂ := gameAfresh_fits games₂ played₂ hrate₂
      c₁.display.observer c₁.key.pressed hrestarted
    rw [hrate] at hfits₂ hgame₂
    obtain ⟨-, start', hother⟩ :=
      (suits_scribe c₂ clock₂ games₂ played₂ hrate₂).lasts (happeningFits_pastOf hrate₂) hafresh
        hfits₂ start₂
    refine ⟨_, (hgame₂ _ _).2 (.inr ⟨_, ?_, hother⟩), dress_alike hrate₁ hrate₂ ?_⟩
    · rw [List.map_cons, later_pastOf hrate₁ hrate₂]
      rfl
    · exact hfits.draws.resolve_left id

/-- The demo on the track before a scribe, up to a time. -/
def demoUpTo (time : Rat) : Cabinet Writes :=
  run (Onlooker.scribe fun _ => 0).around (fun _ => false) time 40 (spawn (.run .nothing) {
    race := .onTrack
    display := { pattern := "", observer := some () }
    timer := Timer.new ticksPerSecond 0
    chances _ := 0
    outside := [] })

/-- A press has ended this demo. -/
def demoPressed (time : Rat) : Cabinet Writes :=
  run (Onlooker.scribe fun _ => 0).around (fun _ => false) time 20
    ((move (Onlooker.scribe fun _ => 0).around true).result (demoUpTo time)).2

/-- After the release, a game is about to begin. -/
def gameAfterDemo (time : Rat) : Cabinet Writes :=
  run (Onlooker.scribe fun _ => 0).around (fun _ => false) time 2
    ((move (Onlooker.scribe fun _ => 0).around false).result (demoPressed time)).2

theorem gameAfterDemo_comes {time : Rat} (hdemo : (demoUpTo time).active = none)
    (hpressed : (demoPressed time).active = none) (hbegins : (gameAfterDemo time).BeginsGame) :
    ComesToGame (fun _ => 0) (gameAfterDemo time) := by
  obtain ⟨_, hrun⟩ := Run.start.run (fun _ => false) time 40
  obtain ⟨_, hrun⟩ := (hrun.next (.move true hdemo)).run (fun _ => false) time 20
  obtain ⟨_, hrun⟩ := (hrun.next (.move false hpressed)).run (fun _ => false) time 2
  exact .run .nothing ⟨⟨rfl, rfl, rfl, ⟨rfl, rfl⟩, .inl ⟨rfl, rfl⟩⟩, Race.onTrack_sound, rfl⟩ hrun
    hbegins

/-- Two games on the track, one after a press at once and one after a press at the second character,
are alike a quarter of a second after their beginnings, when the key is pressed. -/
theorem game_forgets_past_after_demo : ∃ c₁ c₂ : Cabinet Writes,
    Lasts (Onlooker.scribe fun _ => 0).around (gameAfterDemo 0)
      [.carry, .carry, .wait (1 / 4), .move true] c₁ ∧
    Lasts (Onlooker.scribe fun _ => 0).around (gameAfterDemo 1)
      [.carry, .carry, .wait (1 / 4 + 13 / 25), .move true] c₂ ∧
    Alike (gameAfterDemo 0) c₁ (gameAfterDemo 1) c₂ := by
  have h₁ : ComesToGame (fun _ => 0) (gameAfterDemo 0) :=
    gameAfterDemo_comes (by decide +kernel) (by decide +kernel) (by decide +kernel)
  have h₂ : ComesToGame (fun _ => 0) (gameAfterDemo 1) :=
    gameAfterDemo_comes (by decide +kernel) (by decide +kernel) (by decide +kernel)
  have hcircuit₁ : (gameAfterDemo 0).race.circuit = Circuit.track := by cbv
  have hcircuit₂ : (gameAfterDemo 1).race.circuit = Circuit.track := by cbv
  have hnow₁ : (gameAfterDemo 0).agenda.now = 0 := by decide +kernel
  have hnow₂ : (gameAfterDemo 1).agenda.now = 13 / 25 := by decide +kernel
  have hrate₁ : (gameAfterDemo 0).timer.rate = 50 := by decide +kernel
  obtain ⟨games, played, hcarried, hclocked, hsound, hrate⟩ := h₁.begins
  obtain ⟨start, hgame⟩ := lasts_game (fun _ => 0) hcarried hclocked hsound hrate
  have hidle {c : Cabinet Writes} (hactive : c.active = none) : ¬ LeavesGame c := by
    rintro ⟨number, hnumber, -⟩
    cases hactive.symm.trans hnumber
  let first := (pastOf (gameAfterDemo 0) games played hrate).dress start
    (gameAfresh (gameAfterDemo 0).display.observer (gameAfterDemo 0).key.pressed
      (gameAfterDemo 0).timer.rate ((gameAfterDemo 0).race.restarted 0))
  have hfirst : first.agenda.now ≤ 1 / 4 := by
    simp [first, Guise.dress, Guise.agenda, Guise.time, pastOf, gameAfresh, hnow₁]
  have hdue : ∀ d ∈ first.agenda.deadlines, 1 / 4 ≤ d.due := by
    have hpause : 1 / 4 ≤ pause digitTicks 50 := by decide +kernel
    simpa [first, Guise.dress, Guise.agenda, Guise.deadline, Guise.time, pastOf, gameAfresh, hnow₁,
      hrate₁] using hpause
  have hlasts := (hgame (.carry :: [.wait (1 / 4), .move true]) _).2 (.inr ⟨_, rfl,
    .step (hidle rfl) (.wait rfl rfl hfirst hdue)
      (.step (hidle rfl) (.move true rfl) (.still _))⟩)
  obtain ⟨⟨c₂, hlasts₂⟩, halike⟩ := game_forgets_past h₁ h₂ (hcircuit₂.trans hcircuit₁.symm)
    (by decide +kernel) (by decide +kernel) (by decide +kernel) hlasts
  have hsame := halike c₂ hlasts₂
  rw [hnow₁, hnow₂, sub_zero] at hlasts₂
  exact ⟨_, c₂, hlasts, hlasts₂, hsame⟩

end Cabinet

end DigitRace
