import DigitRace.Proofs.Cabinet.Attendance

/-!
# From one wait to the next

What a routine or a frame does leaves the devices alone, until it opens a watch and puts it on its
devices to wait for it. If it fails, it has opened one watch at most. This is so for every routine
and for every frame, whatever other tasks there are.
-/

namespace DigitRace.Cabinet

open Act

variable {ω α : Type} {c c₁ c' : Cabinet ω}

/-! ## Between two waits -/

/-- The cabinet with one more watch on its devices. -/
def joined (kind : Watch.Kind) (c : Cabinet ω) : Cabinet ω :=
  { c with
    watches := c.watches.push { kind }
    timer := if kind.hearsTimer then c.timer.register c.watches.size else c.timer
    key := if kind.hearsKey then c.key.register c.watches.size else c.key }

theorem Attended.joined (h : c.Attended) (kind : Watch.Kind) : (c.joined kind).Attended where
  timer := by
    simp only [Cabinet.joined, openOn_push, ← h.timer]
    by_cases hears : kind.hearsTimer = true
    · simp [hears, Timer.register]
    · simp [hears]
  key := by
    simp only [Cabinet.joined, openOn_push, ← h.key]
    by_cases hears : kind.hearsKey = true
    · simp [hears, Key.register]
    · simp [hears]

theorem Undisturbed.joined (h : Undisturbed c c₁) (kind : Watch.Kind) :
    Undisturbed (c.joined kind) (c₁.joined kind) where
  watches := by simp [Cabinet.joined, h.watches]
  timer := by
    simp only [Cabinet.joined, h.watches]
    split <;> simp [Timer.register, h.timer]
  key := by
    simp only [Cabinet.joined, h.watches]
    split <;> simp [Key.register, h.key]
  tasks := h.tasks
  active := h.active

/-- What a task comes to before it waits: it goes on at once, or it waits for a watch that it has
just opened, or it fails, perhaps after it has opened a watch. -/
inductive Comes (c : Cabinet ω) : Except Fault Progress × Cabinet ω → Prop
  | done (answer : Answer) {after : Cabinet ω} (h : Undisturbed c after) :
      Comes c (.ok (.done answer), after)
  | call (routine : Routine) (frame : Option Frame) {after : Cabinet ω} (h : Undisturbed c after) :
      Comes c (.ok (.call routine frame), after)
  | awaits (kind : Watch.Kind) (frame : Option Frame) {after : Cabinet ω}
      (h : Undisturbed (c.joined kind) after) :
      Comes c (.ok (.await c.watches.size frame), after)
  | fails (fault : Fault) {after : Cabinet ω} (h : Undisturbed c after) :
      Comes c (.error fault, after)
  | forsakes (fault : Fault) (kind : Watch.Kind) {after : Cabinet ω}
      (h : Undisturbed (c.joined kind) after) : Comes c (.error fault, after)

theorem Comes.after {result : Except Fault Progress × Cabinet ω} (h : Undisturbed c c₁)
    (hcomes : Comes c₁ result) : Comes c result := by
  cases hcomes with
  | done answer hafter => exact .done answer (h.trans hafter)
  | call routine frame hafter => exact .call routine frame (h.trans hafter)
  | awaits kind frame hafter =>
    rw [h.watches]
    exact .awaits kind frame ((h.joined kind).trans hafter)
  | fails fault hafter => exact .fails fault (h.trans hafter)
  | forsakes fault kind hafter => exact .forsakes fault kind ((h.joined kind).trans hafter)

/-- An act that opens one watch at most, and waits for it. -/
def Opens (act : Play ω Progress) : Prop :=
  ∀ c, Comes c (act.result c)

/-- An act that leaves watches, listeners and tasks alone, and then waits for a watch. -/
def Awaits (w : Nat) (act : Play ω Progress) : Prop :=
  ∀ c, Undisturbed c (act.result c).2 ∧
    ∀ progress, (act.result c).1 = .ok progress → ∃ after, progress = .await w after

theorem Awaits.pure (w : Nat) (after : Option Frame) :
    Awaits w (Pure.pure (.await w after) : Play ω Progress) := by
  intro c
  refine ⟨.refl c, fun progress hprogress => ⟨after, ?_⟩⟩
  exact (Except.ok.inj hprogress).symm

theorem Quiet.awaits {act : Play ω α} {next : α → Play ω Progress} {w : Nat} (h : Quiet act)
    (hnext : ∀ a, Awaits w (next a)) : Awaits w (act >>= next) := by
  intro c
  cases hact : act c with
  | ok a c₁ =>
    have hresult : (act >>= next).result c = (next a).result c₁ := by simp [result, hact]
    obtain ⟨hundisturbed, hawaits⟩ := hnext a c₁
    rw [hresult]
    exact ⟨(h.ok hact).trans hundisturbed, hawaits⟩
  | error fault c₁ =>
    rw [result_of_error (by rw [bind_apply, hact])]
    exact ⟨h.error hact, fun progress hprogress => by cases hprogress⟩

namespace Opens

theorem done (answer : Answer) : Opens (pure (.done answer) : Play ω Progress) :=
  fun c => .done answer (.refl c)

theorem call (routine : Routine) (after : Option Frame) :
    Opens (pure (.call routine after) : Play ω Progress) :=
  fun c => .call routine after (.refl c)

theorem ite {p : Prop} [Decidable p] {act other : Play ω Progress} (h : Opens act)
    (hother : Opens other) : Opens (if p then act else other) := by
  split
  · exact h
  · exact hother

/-- A watch is opened, put on its devices, and waited for. -/
theorem of_joined {act : Play ω Progress} (kind : Watch.Kind) (rest : Nat → Play ω Progress)
    (h : ∀ c, act c = rest c.watches.size (c.joined kind)) (hrest : ∀ w, Awaits w (rest w)) :
    Opens act := by
  intro c
  obtain ⟨hundisturbed, hawaits⟩ := hrest c.watches.size (c.joined kind)
  have hresult : act.result c = (rest c.watches.size).result (c.joined kind) := by
    simp only [result, h c]
  rw [hresult]
  cases hprogress : rest c.watches.size (c.joined kind) with
  | ok progress c' =>
    rw [result_of_ok hprogress] at hundisturbed hawaits ⊢
    obtain ⟨after, rfl⟩ := hawaits progress rfl
    exact .awaits kind after hundisturbed
  | error fault c' =>
    rw [result_of_error hprogress] at hundisturbed ⊢
    exact .forsakes fault kind hundisturbed

end Opens

theorem Quiet.opens {act : Play ω α} {next : α → Play ω Progress} (h : Quiet act)
    (hnext : ∀ a, Opens (next a)) : Opens (act >>= next) := by
  intro c
  cases hact : act c with
  | ok a c₁ =>
    have hresult : (act >>= next).result c = (next a).result c₁ := by simp [result, hact]
    rw [hresult]
    exact .after (h.ok hact) (hnext a c₁)
  | error fault c₁ =>
    rw [result_of_error (by rw [bind_apply, hact])]
    exact .fails fault (h.error hact)

namespace Opens

variable (eye : Onlooker ω)

theorem awaitTicks (ticks : Value) (after : Option Frame) :
    Opens (awaitTicks eye.around ticks after) :=
  .of_joined .event (fun w => do enable eye.around ticks; return .await w after) (fun _ => rfl)
    fun w => (Quiet.enable eye ticks).awaits fun _ => .pure w after

theorem awaitRelease : Opens (awaitRelease : Play ω Progress) := by
  refine Quiet.get.opens fun c => .ite (.done _) ?_
  exact .of_joined .release (fun w => pure (.await w none)) (fun _ => rfl)
    fun w => .pure w none

theorem awaitPressOrEvent : Opens (awaitPressOrEvent : Play ω Progress) := by
  refine Quiet.get.opens fun c => .ite (.done _) ?_
  exact .of_joined .pressOrEvent (fun w => pure (.await w none)) (fun _ => rfl)
    fun w => .pure w none

theorem beginCountdown (count : Value) : Opens (beginCountdown eye.around count) := by
  refine (Quiet.lift _).opens fun count => ?_
  refine .of_joined (.countdown count countdownFlashes)
    (fun w => do
      showDigit eye.around count
      enable eye.around (.int (if count.truthy then digitTicks else flashTicks))
      return .await w none) (fun _ => rfl) fun w => ?_
  exact (Quiet.showDigit eye count).awaits fun _ => (Quiet.enable eye _).awaits fun _ =>
    .pure w none

theorem beginFlashing (value : Value) : Opens (beginFlashing eye.around value) := by
  refine .of_joined (.flashing value 0)
    (fun w => do
      showDigit eye.around value
      enable eye.around (.int flashTicks)
      return .await w none) (fun _ => rfl) fun w => ?_
  exact (Quiet.showDigit eye value).awaits fun _ => (Quiet.enable eye _).awaits fun _ =>
    .pure w none

theorem beginCharacter (character : Value) : Opens (beginCharacter eye.around character) :=
  (Quiet.showCharacter eye character).opens fun _ => (Quiet.enable eye _).opens fun _ => .call _ _

theorem continueText (text : List Value) :
    Opens (pure (continueText text) : Play ω Progress) := by
  cases text with
  | nil => exact .done _
  | cons character rest => exact .call _ _

theorem beginDrive : Opens (beginDrive eye.around) := by
  refine (Quiet.resetRace _).opens fun _ => (Quiet.demoOn eye).opens fun _ => ?_
  exact .of_joined (.demo true demoLoops) (fun w => pure (.await w none))
    (fun _ => rfl) fun w => .pure w none

theorem beginPlay : Opens (beginPlay eye.around) := by
  refine (Quiet.enter _).opens fun _ => (Quiet.driveOn eye).opens fun _ => ?_
  exact .of_joined .play (fun w => pure (.await w none)) (fun _ => rfl)
    fun w => .pure w none

theorem continueGames (games : Value) (played : Nat) :
    Opens (continueGames games played : Play ω Progress) :=
  (Quiet.lift _).opens fun _ => .ite (.call _ _) (.done _)

theorem continueCycle (cycle : Cycle) (rest : List String) (round : Nat) (rounds : Value) :
    Opens (continueCycle eye.around cycle rest round rounds) := by
  unfold Cabinet.continueCycle
  split
  · exact (Quiet.showPattern eye _).opens fun _ => awaitTicks eye _ _
  · refine (Quiet.lift _).opens fun more => ?_
    split
    · exact (Quiet.showPattern eye _).opens fun _ => awaitTicks eye _ _
    · exact .done _

theorem continueTicks (round : Nat) (rounds : Value) :
    Opens (continueTicks eye.around round rounds) :=
  (Quiet.lift _).opens fun _ => .ite
    (Quiet.get.opens fun _ => (Quiet.lift _).opens fun _ =>
      (Quiet.showLastDigit eye _).opens fun _ => awaitTicks eye _ _)
    (.done _)

theorem pollSeconds (last digit : Int) (round : Nat) (rounds : Value) :
    Opens (pollSeconds eye.around last digit round rounds) :=
  (Quiet.readSeconds eye).opens fun _ => .ite (awaitTicks eye _ _)
    ((Quiet.showLastDigit eye _).opens fun _ => .call _ _)

theorem continueElapsed (digit : Int) (round : Nat) (rounds : Value) :
    Opens (continueElapsed eye.around digit round rounds) :=
  (Quiet.lift _).opens fun _ => .ite (awaitTicks eye _ _) (.done _)

theorem continueEdges (round : Nat) (rounds : Value) :
    Opens (continueEdges round rounds : Play ω Progress) := by
  refine (Quiet.lift _).opens fun _ => .ite ?_ (.done _)
  exact .of_joined .edge (fun w => pure (.await w (some (.edgeSeen (round + 1) rounds))))
    (fun _ => rfl) fun w => .pure w _

theorem beginTest (test : SelfTest) (rounds : Value) :
    Opens (beginTest eye.around test rounds) := by
  cases test with
  | segments => exact continueCycle eye segmentCycle [] 0 rounds
  | racing => exact continueCycle eye racingCycle [] 0 rounds
  | characters => exact continueCycle eye characterCycle [] 0 rounds
  | ticks => exact (Quiet.resetClock eye).opens fun _ => continueTicks eye _ _
  | seconds =>
    exact (Quiet.resetClock eye).opens fun _ => (Quiet.readSeconds eye).opens fun _ =>
      (Quiet.showLastDigit eye _).opens fun _ => .call _ _
  | elapsed => exact (Quiet.showLastDigit eye _).opens fun _ => continueElapsed eye _ _ _
  | keys =>
    exact Quiet.get.opens fun _ => (Quiet.showCharacter eye _).opens fun _ => continueEdges _ _

/-- Each routine opens one watch at most before it waits. -/
theorem begin (routine : Routine) : Opens (begin eye.around routine) := by
  cases routine with
  | forTicks ticks => exact awaitTicks eye ticks none
  | keyReleased => exact awaitRelease
  | pressOrEvent => exact awaitPressOrEvent
  | countdown count => exact beginCountdown eye count
  | flashingDigit value => exact (Quiet.lift _).opens fun _ => .call _ _
  | character character => exact beginCharacter eye character
  | text text => exact (Quiet.lift _).opens fun items => continueText items
  | demo => exact (Quiet.enter _).opens fun _ => .call _ _
  | play => exact beginPlay eye
  | game => exact (Quiet.resetRace _).opens fun _ => (Quiet.enter _).opens fun _ => .call _ _
  | score => exact (Quiet.enter _).opens fun _ => Quiet.get.opens fun _ => .call _ _
  | run games => exact .call _ _
  | selfTest test rounds => exact beginTest eye test rounds
  | secondsRound last digit round rounds =>
    exact (Quiet.lift _).opens fun _ => .ite (pollSeconds eye _ _ _ _) (.done _)

/-- Each frame opens one watch at most before it waits. -/
theorem resume (answer : Answer) (frame : Frame) : Opens (resume eye.around answer frame) := by
  cases frame with
  | characterShown =>
    exact .ite (.done _) ((Quiet.darken eye).opens fun _ => (Quiet.enable eye _).opens fun _ =>
      .call _ _)
  | textRest rest => exact .ite (.done _) (continueText rest)
  | readyToFlash value => exact beginFlashing eye value
  | demoTextShown => exact .ite (.done _) (beginDrive eye)
  | countedDown => exact .call _ _
  | roundPlayed => exact (Quiet.enter _).opens fun _ => Quiet.get.opens fun _ => .call _ _
  | carsFlashed =>
    exact Quiet.get.opens fun _ => .ite ((Quiet.note _).opens fun _ => .done _) (.call _ _)
  | scoreShown text => exact .ite (.done _) (.call _ _)
  | demoEnded games => exact .ite ((Quiet.enter _).opens fun _ => .call _ _) (.call _ _)
  | nextGame games played => exact continueGames games played
  | gameEnded games played => exact (Quiet.enter _).opens fun _ => .call _ _
  | releasedAfterGame games played => exact .call _ _
  | scoreSeen games played => exact (Quiet.enter _).opens fun _ => .call _ _
  | cycled cycle rest round rounds => exact continueCycle eye cycle rest round rounds
  | ticksShown round rounds => exact continueTicks eye round rounds
  | secondPolled last digit round rounds => exact pollSeconds eye last digit round rounds
  | elapsedSeen digit round rounds =>
    exact Quiet.get.opens fun _ => .ite
      ((Quiet.showLastDigit eye _).opens fun _ => continueElapsed eye _ _ _) (.done _)
  | edgeSeen round rounds => exact (Quiet.showPattern eye _).opens fun _ => continueEdges _ _

end Opens

end DigitRace.Cabinet
