import DigitRace.Cabinet.Run
import DigitRace.Proofs.Upkeep

/-!
# The same acts in other surroundings

All that the game does is to write patterns to the display and to change things of its own. In
other surroundings with the same clock it does likewise: its acts are put together in the same way,
and only what becomes of the patterns may differ. A property that does not ask for the game's own
things is therefore kept by every act of the game if writing a pattern keeps it.
-/

namespace DigitRace.Cabinet

open Act

variable {ω α β : Type}

/-- The names under which the game writes into the journal. -/
def gameSources : List String := ["game", "game_vm", "timer"]

/-- The game has changed things of its own: the race, the timer, the watches and who listens to the
key. The tasks, the display, the surroundings and the position of the key are as they were. -/
structure Aside (c c' : Cabinet ω) : Prop where
  outside : c'.outside = c.outside
  display : c'.display = c.display
  updater : c'.key.updater = c.key.updater
  pressed : c'.key.pressed = c.key.pressed
  tasks : c'.tasks = c.tasks
  active : c'.active = c.active
  journal : ∃ notes, c'.journal = c.journal ++ notes ∧ ∀ note ∈ notes, note.source ∈ gameSources

/-- Acts that are put together in the same way in two surroundings. -/
inductive Likewise (around around' : Surroundings ω) : {α : Type} → Play ω α → Play ω α → Prop
  /-- The game changes things of its own. -/
  | aside {α : Type} {act : Play ω α} (h : ∀ c, Aside c (act.result c).2) :
      Likewise around around' act act
  /-- A pattern is written. -/
  | shows (pattern : String) :
      Likewise around around' (showPattern around pattern) (showPattern around' pattern)
  /-- One act follows the other. -/
  | bind {α β : Type} {act act' : Play ω α} {next next' : α → Play ω β}
      (h : Likewise around around' act act')
      (hnext : ∀ a, Likewise around around' (next a) (next' a)) :
      Likewise around around' (act >>= next) (act' >>= next')

/-! ## What goes on aside -/

variable {c c' : Cabinet ω}

theorem Aside.refl (c : Cabinet ω) : Aside c c :=
  ⟨rfl, rfl, rfl, rfl, rfl, rfl, #[], by simp, by simp⟩

namespace Likewise

variable {around around' : Surroundings ω} {w : Nat}

theorem pure (a : α) : Likewise around around' (Pure.pure a) (Pure.pure a) :=
  .aside Aside.refl

theorem get : Likewise around around' (MonadState.get : Play ω (Cabinet ω)) MonadState.get :=
  .aside Aside.refl

/-- What is found without looking at the cabinet. -/
theorem lift (e : Except Fault α) : Likewise around around' (liftM e) (liftM e) := by
  cases e with
  | ok a => exact .aside Aside.refl
  | error fault => exact .aside Aside.refl

theorem ite {p : Prop} [Decidable p] {act act' other other' : Play ω α}
    (h : Likewise around around' act act') (hother : Likewise around around' other other') :
    Likewise around around' (if p then act else other) (if p then act' else other') := by
  split
  · exact h
  · exact hother

theorem note {record : Record} (h : record.source ∈ gameSources) :
    Likewise around around' (note record) (Cabinet.note record) :=
  .aside fun c => ⟨rfl, rfl, rfl, rfl, rfl, rfl, #[record], by
    simp [Cabinet.note, result], by simpa using h⟩

theorem raceOf (act : Act Race α) : Likewise around around' (raceOf.run act) (raceOf.run act) :=
  .aside fun c => by
    rw [result_run]
    exact ⟨rfl, rfl, rfl, rfl, rfl, rfl, #[], by simp [Cabinet.raceOf], by simp⟩

theorem modify {change : Cabinet ω → Cabinet ω} (h : ∀ c, Aside c (change c)) :
    Likewise around around' (modify change) (modify change) :=
  .aside h

theorem updateRace (change : Race → Race) :
    Likewise around around' (Cabinet.raceOf.update change) (Cabinet.raceOf.update change) :=
  .modify fun c => ⟨rfl, rfl, rfl, rfl, rfl, rfl, #[], by simp [Cabinet.raceOf], by simp⟩

theorem ticking (act : Act (Timer Rat Nat × Agenda Call) α) :
    Likewise around around' (tickingOf.run act) (tickingOf.run act) :=
  .aside fun c => by
    rw [result_run]
    exact ⟨rfl, rfl, rfl, rfl, rfl, rfl, #[], by simp [tickingOf], by simp⟩

theorem updateTimer (change : Timer Rat Nat → Timer Rat Nat) :
    Likewise around around' (updateTimer change) (updateTimer change) :=
  .modify fun c => ⟨rfl, rfl, rfl, rfl, rfl, rfl, #[], by simp, by simp⟩

theorem watchKey (w : Nat) : Likewise around around' (watchKey w) (watchKey w) :=
  .modify fun c => ⟨rfl, rfl, rfl, rfl, rfl, rfl, #[], by simp [keyOf], by simp⟩

theorem leaveKey (w : Nat) : Likewise around around' (leaveKey w) (leaveKey w) :=
  .modify fun c => ⟨rfl, rfl, rfl, rfl, rfl, rfl, #[], by simp [keyOf], by simp⟩

theorem watchTimer (w : Nat) : Likewise around around' (watchTimer w) (watchTimer w) :=
  .updateTimer _

theorem leaveTimer (w : Nat) : Likewise around around' (leaveTimer w) (leaveTimer w) :=
  .updateTimer _

theorem openWatch (kind : Watch.Kind) :
    Likewise around around' (openWatch kind) (openWatch kind) :=
  .aside fun c => ⟨rfl, rfl, rfl, rfl, rfl, rfl, #[], by simp [Cabinet.openWatch, result], by simp⟩

theorem setKind (w : Nat) (kind : Watch.Kind) :
    Likewise around around' (setKind w kind) (setKind w kind) :=
  .modify fun c => ⟨rfl, rfl, rfl, rfl, rfl, rfl, #[], by simp, by simp⟩

theorem conclude (w : Nat) (answer : Answer) :
    Likewise around around' (conclude w answer) (conclude w answer) :=
  .modify fun c => by
    split
    · exact ⟨rfl, rfl, rfl, rfl, rfl, rfl, #[], by simp, by simp⟩
    · exact .refl c

theorem leave (w : Nat) (answer : Answer) :
    Likewise around around' (leave w answer) (leave w answer) :=
  (leaveKey w).bind fun _ => (leaveTimer w).bind fun _ => conclude w answer

theorem enter (stage : Stage) : Likewise around around' (enter stage) (enter stage) :=
  get.bind fun _ => (note (by simp [gameSources])).bind fun _ =>
    .modify fun c => ⟨rfl, rfl, rfl, rfl, rfl, rfl, #[], by simp, by simp⟩

theorem draw : Likewise around around' (draw : Play ω Float) draw :=
  .aside fun c => ⟨rfl, rfl, rfl, rfl, rfl, rfl, #[], by simp [Cabinet.draw, result], by simp⟩

theorem resetRace (speed : Value) : Likewise around around' (resetRace speed) (resetRace speed) :=
  .raceOf _

/-! ## What the game does to its devices -/

theorem showCharacter (character : Value) :
    Likewise around around' (showCharacter around character) (showCharacter around' character) :=
  (lift _).bind fun _ => .shows _

theorem showDigit (value : Value) :
    Likewise around around' (showDigit around value) (showDigit around' value) :=
  (lift _).bind fun _ => showCharacter _

theorem tick : Likewise around around' (tick around) (tick around') := by
  refine (raceOf _).bind fun _ => get.bind fun c => ?_
  dsimp only
  split
  · exact (Likewise.shows _).bind fun _ => updateRace _
  · exact (lift _).bind fun _ => note (by simp [gameSources])

theorem steer : Likewise around around' (steer around) (steer around') := by
  refine (raceOf _).bind fun taken => get.bind fun c => (lift _).bind fun _ => ?_
  split
  · exact (note (by simp [gameSources])).bind fun _ => tick.bind fun _ => .pure _
  · exact (note (by simp [gameSources])).bind fun _ => .pure _

theorem darken : Likewise around around' (darken around) (darken around') :=
  .shows _

theorem showLastDigit (n : Int) :
    Likewise around around' (showLastDigit around n) (showLastDigit around' n) :=
  showCharacter _

theorem endFlashing (w : Nat) :
    Likewise around around' (endFlashing around w) (endFlashing around' w) :=
  (leaveTimer w).bind fun _ => darken.bind fun _ => conclude w _

theorem demoSteers : Likewise around around' (demoSteers : Play ω Bool) demoSteers :=
  get.bind fun _ => .ite (draw.bind fun _ => .pure _) (.pure _)

/-! ## What needs no clock -/

theorem onEdge (w : Nat) (pressed : Bool) :
    Likewise around around' (onEdge around w pressed) (onEdge around' w pressed) := by
  refine get.bind fun c => ?_
  split
  · exact .pure _
  · split
    · exact .ite ((leaveKey w).bind fun _ => conclude w _) (.pure _)
    · exact (leaveKey w).bind fun _ => conclude w _
    · exact .ite (leave w _) (.pure _)
    · exact .ite (leave w _) (.pure _)
    · exact .ite (steer.bind fun onTrack => .ite (leave w _) (.pure _)) (.pure _)
    · exact .pure _
    · exact .pure _
    · exact .pure _

theorem awaitRelease : Likewise around around' (awaitRelease : Play ω Progress) awaitRelease :=
  get.bind fun _ => .ite (.pure _) ((openWatch _).bind fun w => (watchKey w).bind fun _ => .pure _)

theorem awaitPressOrEvent :
    Likewise around around' (awaitPressOrEvent : Play ω Progress) awaitPressOrEvent :=
  get.bind fun _ => .ite (.pure _) ((openWatch _).bind fun w => (watchKey w).bind fun _ =>
    (watchTimer w).bind fun _ => .pure _)

theorem continueGames (games : Value) (played : Nat) :
    Likewise around around' (continueGames games played : Play ω Progress)
      (continueGames games played) :=
  (lift _).bind fun _ => .ite (.pure _) (.pure _)

theorem continueEdges (round : Nat) (rounds : Value) :
    Likewise around around' (continueEdges round rounds : Play ω Progress)
      (continueEdges round rounds) :=
  (lift _).bind fun _ => .ite ((openWatch _).bind fun w => (watchKey w).bind fun _ => .pure _)
    (.pure _)

variable (hclock : around.clock = around'.clock)

include hclock

theorem enable (ticks : Value) :
    Likewise around around' (enable around ticks) (enable around' ticks) := by
  unfold Cabinet.enable
  rw [hclock]
  exact get.bind fun _ => ticking _

/-! ## How watches react -/

theorem driveOn : Likewise around around' (driveOn around) (driveOn around') :=
  tick.bind fun _ => get.bind fun _ => enable hclock _

theorem demoOn : Likewise around around' (demoOn around) (demoOn around') :=
  tick.bind fun _ => get.bind fun _ => enable hclock _

theorem countDown (w : Nat) (count : Value) (flashes : Nat) :
    Likewise around around' (countDown around w count flashes)
      (countDown around' w count flashes) := by
  refine (setKind w _).bind fun _ => .ite ?_ ?_
  · exact (enable hclock _).bind fun _ => showDigit _
  · refine (enable hclock _).bind fun _ => (showCharacter _).bind fun _ =>
      (setKind w _).bind fun _ => .ite ?_ (.pure _)
    exact (leaveTimer w).bind fun _ => conclude w _

theorem flash (w : Nat) (event : TimerEvent) (value : Value) (shown : Nat) :
    Likewise around around' (flash around w event value shown)
      (flash around' w event value shown) := by
  have hnext : Likewise around around'
      (do
        Cabinet.setKind w (.flashing value (shown + 1))
        if shown + 1 = flashCycles then Cabinet.endFlashing around w
        else Cabinet.enable around (.int flashTicks))
      (do
        Cabinet.setKind w (.flashing value (shown + 1))
        if shown + 1 = flashCycles then Cabinet.endFlashing around' w
        else Cabinet.enable around' (.int flashTicks)) :=
    (setKind w _).bind fun _ => .ite (endFlashing w) (enable hclock _)
  exact get.bind fun c => .ite (endFlashing w)
    (.ite ((showDigit _).bind fun _ => hnext) ((showCharacter _).bind fun _ => hnext))

theorem demoDrive (w : Nat) (steering : Bool) (loops : Nat) :
    Likewise around around' (demoDrive around w steering loops)
      (demoDrive around' w steering loops) := by
  refine (setKind w _).bind fun _ => .ite (demoOn hclock) ?_
  refine demoSteers.bind fun taken => .ite ?_ (enable hclock _)
  refine steer.bind fun onTrack => .ite (leave w _) ?_
  exact (setKind w _).bind fun _ => .ite (leave w _) (enable hclock _)

theorem onEvent (w : Nat) (event : TimerEvent) :
    Likewise around around' (onEvent around w event) (onEvent around' w event) := by
  refine get.bind fun c => ?_
  split
  · exact .pure _
  · split
    · exact (leaveTimer w).bind fun _ => conclude w _
    · exact .pure _
    · exact .pure _
    · exact leave w _
    · split
      · exact (leaveTimer w).bind fun _ => conclude w _
      · exact countDown hclock w _ _
    · exact flash hclock w _ _ _
    · split
      · exact leave w _
      · exact demoDrive hclock w _ _
    · split
      · exact leave w _
      · exact driveOn hclock

/-! ## Waits and screens -/

theorem awaitTicks (ticks : Value) (after : Option Frame) :
    Likewise around around' (awaitTicks around ticks after) (awaitTicks around' ticks after) :=
  (openWatch _).bind fun w => (watchTimer w).bind fun _ => (enable hclock _).bind fun _ => .pure _

theorem beginCountdown (count : Value) :
    Likewise around around' (beginCountdown around count) (beginCountdown around' count) :=
  (lift _).bind fun _ => (openWatch _).bind fun w => (watchTimer w).bind fun _ =>
    (showDigit _).bind fun _ => (enable hclock _).bind fun _ => .pure _

theorem beginFlashing (value : Value) :
    Likewise around around' (beginFlashing around value) (beginFlashing around' value) :=
  (openWatch _).bind fun w => (watchTimer w).bind fun _ => (showDigit _).bind fun _ =>
    (enable hclock _).bind fun _ => .pure _

theorem beginCharacter (character : Value) :
    Likewise around around' (beginCharacter around character) (beginCharacter around' character) :=
  (showCharacter _).bind fun _ => (enable hclock _).bind fun _ => .pure _

theorem beginDrive : Likewise around around' (beginDrive around) (beginDrive around') :=
  (resetRace _).bind fun _ => (demoOn hclock).bind fun _ => (openWatch _).bind fun w =>
    (watchKey w).bind fun _ => (watchTimer w).bind fun _ => .pure _

theorem beginPlay : Likewise around around' (beginPlay around) (beginPlay around') :=
  (enter _).bind fun _ => (driveOn hclock).bind fun _ => (openWatch _).bind fun w =>
    (watchKey w).bind fun _ => (watchTimer w).bind fun _ => .pure _

/-! ## Self tests -/

theorem continueCycle (cycle : Cycle) (rest : List String) (round : Nat) (rounds : Value) :
    Likewise around around' (continueCycle around cycle rest round rounds)
      (continueCycle around' cycle rest round rounds) := by
  unfold Cabinet.continueCycle
  split
  · exact (Likewise.shows _).bind fun _ => awaitTicks hclock _ _
  · refine (lift _).bind fun more => ?_
    split
    · exact (Likewise.shows _).bind fun _ => awaitTicks hclock _ _
    · exact .pure _

theorem continueTicks (round : Nat) (rounds : Value) :
    Likewise around around' (continueTicks around round rounds)
      (continueTicks around' round rounds) := by
  unfold Cabinet.continueTicks
  rw [hclock]
  refine (lift _).bind fun _ => .ite (get.bind fun c => ?_) (.pure _)
  exact (lift _).bind fun ticks => (showLastDigit _).bind fun _ => awaitTicks hclock _ _

theorem readSeconds : Likewise around around' (readSeconds around) (readSeconds around') := by
  unfold Cabinet.readSeconds
  rw [hclock]
  exact get.bind fun c => lift _

theorem pollSeconds (last digit : Int) (round : Nat) (rounds : Value) :
    Likewise around around' (pollSeconds around last digit round rounds)
      (pollSeconds around' last digit round rounds) :=
  (readSeconds hclock).bind fun _ => .ite (awaitTicks hclock _ _)
    ((showLastDigit _).bind fun _ => .pure _)

theorem continueElapsed (digit : Int) (round : Nat) (rounds : Value) :
    Likewise around around' (continueElapsed around digit round rounds)
      (continueElapsed around' digit round rounds) :=
  (lift _).bind fun _ => .ite (awaitTicks hclock _ _) (.pure _)

theorem resetClock : Likewise around around' (resetClock around) (resetClock around') := by
  unfold Cabinet.resetClock
  rw [hclock]
  exact .modify fun c => ⟨rfl, rfl, rfl, rfl, rfl, rfl, #[], by simp, by simp⟩

theorem beginTest (test : SelfTest) (rounds : Value) :
    Likewise around around' (beginTest around test rounds) (beginTest around' test rounds) := by
  cases test with
  | segments => exact continueCycle hclock segmentCycle [] 0 rounds
  | racing => exact continueCycle hclock racingCycle [] 0 rounds
  | characters => exact continueCycle hclock characterCycle [] 0 rounds
  | ticks => exact (resetClock hclock).bind fun _ => continueTicks hclock _ _
  | seconds =>
    exact (resetClock hclock).bind fun _ => (readSeconds hclock).bind fun _ =>
      (showLastDigit _).bind fun _ => .pure _
  | elapsed => exact (showLastDigit _).bind fun _ => continueElapsed hclock _ _ _
  | keys => exact get.bind fun c => (showCharacter _).bind fun _ => continueEdges _ _

/-! ## Beginning and going on -/

/-- In other surroundings a routine begins likewise. -/
theorem begin (routine : Routine) :
    Likewise around around' (begin around routine) (begin around' routine) := by
  cases routine with
  | forTicks ticks => exact awaitTicks hclock _ _
  | keyReleased => exact awaitRelease
  | pressOrEvent => exact awaitPressOrEvent
  | countdown count => exact beginCountdown hclock _
  | flashingDigit value => exact (lift _).bind fun _ => .pure _
  | character character => exact beginCharacter hclock _
  | text text => exact (lift _).bind fun _ => .pure _
  | demo => exact (enter _).bind fun _ => .pure _
  | play => exact beginPlay hclock
  | game => exact (resetRace _).bind fun _ => (enter _).bind fun _ => .pure _
  | score => exact (enter _).bind fun _ => get.bind fun c => .pure _
  | run games => exact .pure _
  | selfTest test rounds => exact beginTest hclock _ _
  | secondsRound last digit round rounds =>
    exact (lift _).bind fun _ => .ite (pollSeconds hclock _ _ _ _) (.pure _)

/-- In other surroundings a frame goes on likewise. -/
theorem resume (answer : Answer) (frame : Frame) :
    Likewise around around' (resume around answer frame) (resume around' answer frame) := by
  cases frame with
  | characterShown =>
    exact .ite (.pure _) ((darken).bind fun _ => (enable hclock _).bind fun _ => .pure _)
  | textRest rest => exact .ite (.pure _) (.pure _)
  | readyToFlash value => exact beginFlashing hclock _
  | demoTextShown => exact .ite (.pure _) (beginDrive hclock)
  | countedDown => exact .pure _
  | roundPlayed => exact (enter _).bind fun _ => get.bind fun c => .pure _
  | carsFlashed =>
    exact get.bind fun c => .ite ((note (by simp [gameSources])).bind fun _ => .pure _) (.pure _)
  | scoreShown text => exact .ite (.pure _) (.pure _)
  | demoEnded games => exact .ite ((enter _).bind fun _ => .pure _) (.pure _)
  | nextGame games played => exact continueGames _ _
  | gameEnded games played => exact (enter _).bind fun _ => .pure _
  | releasedAfterGame games played => exact .pure _
  | scoreSeen games played => exact (enter _).bind fun _ => .pure _
  | cycled cycle rest round rounds => exact continueCycle hclock _ _ _ _
  | ticksShown round rounds => exact continueTicks hclock _ _
  | secondPolled last digit round rounds => exact pollSeconds hclock _ _ _ _
  | elapsedSeen digit round rounds =>
    exact get.bind fun c => .ite ((showLastDigit _).bind fun _ => continueElapsed hclock _ _ _)
      (.pure _)
  | edgeSeen round rounds => exact (Likewise.shows _).bind fun _ => continueEdges _ _

end Likewise

/-! ## What is kept -/

/-- A property that the game cannot change by what it does aside. -/
def Outward (holds : Cabinet ω → Prop) : Prop :=
  ∀ c c', Aside c c' → holds c → holds c'

variable {holds : Cabinet ω → Prop} {around around' : Surroundings ω}

/-- An act of the game keeps what its writes keep. -/
theorem Likewise.keeps {act act' : Play ω α} (h : Likewise around around' act act')
    (houtward : Outward holds) (hshows : ∀ pattern, Keeps holds (showPattern around pattern)) :
    Keeps holds act := by
  induction h with
  | aside haside => exact fun c hc => houtward _ _ (haside c) hc
  | shows pattern => exact hshows pattern
  | bind _ _ ih ihnext => exact ih.bind ihnext

section

variable (houtward : Outward holds) (hshows : ∀ pattern, Keeps holds (showPattern around pattern))

include houtward hshows

theorem keeps_begin (routine : Routine) : Keeps holds (begin around routine) :=
  (Likewise.begin rfl routine).keeps houtward hshows

theorem keeps_resume (answer : Answer) (frame : Frame) :
    Keeps holds (resume around answer frame) :=
  (Likewise.resume rfl answer frame).keeps houtward hshows

/-- A listener that fails is written down. -/
theorem keeps_notify (event : TimerEvent) : Keeps holds (notify around event) := by
  refine .get_bind fun c => Keeps.forM _ (fun w _ => Keeps.tryCatch ?_ fun fault => ?_) c
  · exact (Likewise.onEvent rfl w event).keeps houtward hshows
  · exact (Likewise.note (by simp [Timer.failure, gameSources]) :
      Likewise around around _ _).keeps houtward hshows

theorem keeps_countdownOver : Keeps holds (countdownOver around) :=
  ((Likewise.updateTimer _ : Likewise around around _ _).keeps houtward hshows).bind fun _ =>
    keeps_notify houtward hshows _

theorem keeps_disable : Keeps holds (disable around) :=
  ((Likewise.ticking _ : Likewise around around _ _).keeps houtward hshows).bind fun _ =>
    keeps_notify houtward hshows _

/-- Moving the key keeps what its updater keeps besides. -/
theorem keeps_move (pressed : Bool)
    (hpressed : ∀ c, holds c → holds { c with key := { c.key with pressed } })
    (hedge : Keeps holds (around.showEdge pressed)) : Keeps holds (move around pressed) := by
  have hlisteners : Keeps holds (do
      (keyOf.get (← get)).listeners.forM fun w => onEdge around w pressed) :=
    .get_bind fun c => Keeps.forM _ (fun w _ =>
      (Likewise.onEdge w pressed : Likewise around around _ _).keeps houtward hshows) c
  refine Keeps.bind (Keeps.modify ?_) fun _ => .get_bind fun c => ?_
  · exact hpressed
  · split
    · exact (hedge.bind fun _ => hlisteners) c
    · exact hlisteners c

end

/-! ## Tasks -/

/-- Only the tasks, the watches and the agenda have changed. -/
structure Inside (c c' : Cabinet ω) : Prop where
  outside : c'.outside = c.outside
  display : c'.display = c.display
  key : c'.key = c.key
  journal : c'.journal = c.journal

namespace Inside

variable {number w : Nat}

theorem refl (c : Cabinet ω) : Inside c c := ⟨rfl, rfl, rfl, rfl⟩

theorem endTask (ending : Task.Ending) (c : Cabinet ω) : Inside c (endTask number ending c) :=
  ⟨rfl, rfl, rfl, rfl⟩

theorem awaitWatch (c : Cabinet ω) : Inside c (awaitWatch number w c) := by
  unfold Cabinet.awaitWatch
  split
  · exact ⟨rfl, rfl, rfl, rfl⟩
  · exact .endTask _ c
  · exact ⟨rfl, rfl, rfl, rfl⟩

theorem proceed (progress : Progress) (c : Cabinet ω) : Inside c (proceed number progress c) := by
  have hpush (after : Option Frame) : Inside c (pushFrame number after c) := by
    cases after <;> exact ⟨rfl, rfl, rfl, rfl⟩
  cases progress with
  | done answer => exact ⟨rfl, rfl, rfl, rfl⟩
  | await w after =>
    have hawait : Inside (pushFrame number after c)
        (Cabinet.awaitWatch number w (pushFrame number after c)) := awaitWatch _
    exact ⟨hawait.outside.trans (hpush after).outside, hawait.display.trans (hpush after).display,
      hawait.key.trans (hpush after).key, hawait.journal.trans (hpush after).journal⟩
  | call routine after =>
    exact ⟨(hpush after).outside, (hpush after).display, (hpush after).key, (hpush after).journal⟩

theorem wake (c : Cabinet ω) : Inside c (wake number c) := by
  unfold Cabinet.wake
  split
  · exact .refl c
  · split
    · exact .refl c
    · split
      · exact .endTask _ c
      · split
        · split
          · exact ⟨rfl, rfl, rfl, rfl⟩
          · exact .endTask _ c
          · exact .refl c
        · exact ⟨rfl, rfl, rfl, rfl⟩

theorem cancel (c : Cabinet ω) : Inside c (cancel number c) := by
  unfold Cabinet.cancel
  dsimp only
  split
  · exact .refl c
  · exact .refl c
  · split <;> exact ⟨rfl, rfl, rfl, rfl⟩
  · exact ⟨rfl, rfl, rfl, rfl⟩

end Inside

/-- A property that the game changes by its writes alone. -/
structure Foreign (holds : Cabinet ω → Prop) : Prop where
  outward : Outward holds
  inside : ∀ c c', Inside c c' → holds c → holds c'

/-- A task that is carried on keeps what its writes keep. -/
theorem Foreign.carryOn (h : Foreign holds)
    (hshows : ∀ pattern, Keeps holds (showPattern around pattern)) {number : Nat} {c : Cabinet ω}
    (hc : holds c) : holds (carryOn around number c) := by
  have hcarry {act : Play ω Progress} {c : Cabinet ω} (hact : Keeps holds act) (hc : holds c) :
      holds (carry number act c) := by
    unfold carry
    cases hresult : act c with
    | ok progress after => exact h.inside _ _ (.proceed progress after) (hact.ok hresult hc)
    | error fault after => exact h.inside _ _ (.endTask _ after) (hact.error hresult hc)
  unfold Cabinet.carryOn
  split
  · exact h.inside c _ ⟨rfl, rfl, rfl, rfl⟩ hc
  · split
    · exact hcarry (keeps_begin h.outward hshows _) hc
    · exact h.inside c _ (.endTask _ _) hc
    · exact hcarry (keeps_resume h.outward hshows _ _) (h.inside c _ ⟨rfl, rfl, rfl, rfl⟩ hc)
    · exact h.inside c _ ⟨rfl, rfl, rfl, rfl⟩ hc
    · exact h.inside c _ ⟨rfl, rfl, rfl, rfl⟩ hc

/-- A call keeps what writes and edges of the key keep. -/
theorem Foreign.perform (h : Foreign holds)
    (hshows : ∀ pattern, Keeps holds (showPattern around pattern))
    (hmove : ∀ pressed, Keeps holds (move around pressed)) (call : Call) {c : Cabinet ω}
    (hc : holds c) : holds (perform around call c) := by
  cases call with
  | task number => exact h.inside c _ (.wake c) hc
  | countdownOver => exact keeps_countdownOver h.outward hshows c hc
  | move pressed => exact hmove pressed c hc
  | disable => exact keeps_disable h.outward hshows c hc
  | pauseOver | window => exact hc

end DigitRace.Cabinet
