import DigitRace.Proofs.Cabinet.Likewise
import DigitRace.Proofs.Cabinet.Reacting
import DigitRace.Proofs.Cabinet.Play

/-!
# Critics

A critic sees what an onlooker sees, and objects to some of the patterns: showing such a pattern
fails. Until the critic objects, every act of the game is what it is with the onlooker around, and
at the objection it stops. What is left then depends on whether the act had armed the timer: the
countdown of digits arms it first, and the other waits show first, so that they leave it unarmed.
-/

namespace DigitRace

/-- Someone who watches the game and objects to some of the patterns. -/
structure Critic (ω : Type) extends Onlooker ω where
  /-- The fault that is raised at a pattern, if one is; by then the pattern is on the digit and has
  been seen. -/
  objects : String → Cabinet ω → Option Fault

namespace Critic

variable {ω : Type}

/-- The surroundings that consist of a critic. -/
def around (critic : Critic ω) : Surroundings ω where
  observe pattern := do
    critic.toOnlooker.around.observe pattern
    match critic.objects pattern (← get) with
    | some fault => throw fault
    | none => pure ()
  showEdge := critic.toOnlooker.around.showEdge
  clock := critic.clock

theorem clock_around (critic : Critic ω) :
    critic.around.clock = critic.toOnlooker.around.clock := rfl

/-- A fault that the critic raises at some pattern. -/
def Raises (critic : Critic ω) (fault : Fault) : Prop :=
  ∃ pattern c, critic.objects pattern c = some fault

/-- The critic objects in a cabinet. -/
def ObjectsIn (critic : Critic ω) (fault : Fault) (c : Cabinet ω) : Prop :=
  ∃ pattern, critic.objects pattern c = some fault

theorem ObjectsIn.raises {critic : Critic ω} {fault : Fault} {c : Cabinet ω}
    (h : critic.ObjectsIn fault c) : critic.Raises fault := by
  obtain ⟨pattern, hobjects⟩ := h
  exact ⟨pattern, c, hobjects⟩

end Critic

namespace Cabinet

open Act

variable {ω α β : Type} {critic : Critic ω} {c c' : Cabinet ω}

/-! ## Up to the first objection -/

/-- A pattern that is shown is on the digit, whether the critic objects or not. -/
theorem showPattern_objected (critic : Critic ω) (pattern : String) (c : Cabinet ω) :
    ∃ outside, showPattern critic.around pattern c = .ok ⟨⟩ (c.shows pattern outside) ∧
        showPattern critic.toOnlooker.around pattern c = .ok ⟨⟩ (c.shows pattern outside) ∨
      ∃ fault, showPattern critic.around pattern c = .error fault (c.shows pattern outside) ∧
        critic.ObjectsIn fault (c.shows pattern outside) := by
  cases hobserver : c.display.observer with
  | none =>
    refine ⟨c.outside, .inl ?_⟩
    simp [showPattern, Display.showing, displayOf, shows, hobserver]
  | some _ =>
    let shown := { c with display := { c.display with pattern } }
    refine ⟨critic.seen pattern shown, ?_⟩
    cases hobjects : critic.objects pattern (c.shows pattern (critic.seen pattern shown)) with
    | none =>
      left
      simp only [shows, shown, hobserver] at hobjects
      simp [showPattern, Display.showing, displayOf, shows, hobserver, Critic.around,
        Onlooker.around, shown, hobjects]
    | some fault =>
      refine .inr ⟨fault, ?_, pattern, hobjects⟩
      simp only [shows, shown, hobserver] at hobjects
      simp [showPattern, Display.showing, displayOf, shows, hobserver, Critic.around,
        Onlooker.around, shown, hobjects]

/-- Until the critic objects, an act is what it is with the onlooker around. -/
theorem Likewise.until_objection {act act' : Play ω α}
    (h : Likewise critic.around critic.toOnlooker.around act act') (c : Cabinet ω) :
    act c = act' c ∨ ∃ fault c', act c = .error fault c' ∧ critic.ObjectsIn fault c' := by
  induction h generalizing c with
  | aside => exact .inl rfl
  | shows pattern =>
    obtain ⟨outside, ⟨hshown, hseen⟩ | ⟨fault, hfails, hobjects⟩⟩ :=
      showPattern_objected critic pattern c
    · exact .inl (hshown.trans hseen.symm)
    · exact .inr ⟨fault, _, hfails, hobjects⟩
  | bind _ _ ih ihnext =>
    rcases ih c with hsame | ⟨fault, c', hfails, hobjects⟩
    · simp only [bind_apply, hsame]
      split
      · exact ihnext _ _
      · exact .inl rfl
    · exact .inr ⟨fault, c', by rw [bind_apply, hfails], hobjects⟩

/-! ## Lulls -/

/-- Nothing is left to do, and no countdown is pending. -/
def Lull (c : Cabinet ω) : Prop :=
  c.Settled ∧ c.Unarmed

/-- In a lull two acts come to the same, unless the critic stops the first one, which leaves the
lull. -/
def LullsAlike (critic : Critic ω) (act act' : Play ω α) : Prop :=
  ∀ c, c.Lull → act c = act' c ∨
    ∃ fault c', act c = .error fault c' ∧ critic.ObjectsIn fault c' ∧ c'.Lull

namespace LullsAlike

theorem same {act act' : Play ω α} (h : act = act') : LullsAlike critic act act' :=
  fun _ _ => .inl (h ▸ rfl)

/-- An act that does not end the lull, followed by one that may. -/
theorem bind {act act' : Play ω α} {next next' : α → Play ω β}
    (h : Likewise critic.around critic.toOnlooker.around act act') (hkeeps : Keeps Lull act)
    (hnext : ∀ a, LullsAlike critic (next a) (next' a)) :
    LullsAlike critic (act >>= next) (act' >>= next') := by
  intro c hc
  rcases h.until_objection c with hsame | ⟨fault, c', hfails, hobjects⟩
  · cases hact : act c with
    | ok a c' =>
      rw [hact] at hsame
      simp only [bind_apply, hact, ← hsame]
      exact hnext a c' (hkeeps.ok hact hc)
    | error fault c' =>
      rw [hact] at hsame
      left
      simp only [bind_apply, hact, ← hsame]
  · refine .inr ⟨fault, c', ?_, hobjects, hkeeps.error hfails hc⟩
    rw [bind_apply, hfails]

theorem ite {p : Prop} [Decidable p] {act act' other other' : Play ω α}
    (h : LullsAlike critic act act') (hother : LullsAlike critic other other') :
    LullsAlike critic (if p then act else other) (if p then act' else other') := by
  split
  · exact h
  · exact hother

end LullsAlike

/-! ## What leaves a lull -/

/-- A pattern that is shown leaves what it does not concern, whether the critic objects or not. -/
theorem keeps_objected {holds : Cabinet ω → Prop} (critic : Critic ω) (pattern : String)
    (h : ∀ c outside, holds c → holds (c.shows pattern outside)) :
    Keeps holds (showPattern critic.around pattern) := by
  intro c hc
  obtain ⟨outside, ⟨hshown, -⟩ | ⟨fault, hfails, -⟩⟩ := showPattern_objected critic pattern c
  · rw [result_of_ok hshown]
    exact h c outside hc
  · rw [result_of_error hfails]
    exact h c outside hc

theorem keeps_lull_showPattern (critic : Critic ω) (pattern : String) :
    Keeps Lull (showPattern critic.around pattern) :=
  keeps_objected critic pattern fun _ _ hc => hc

theorem keeps_lull_raceOf (act : Act Race α) : Keeps Lull (raceOf.run act : Play ω α) :=
  .run fun _ hc => hc

theorem keeps_lull_updateRace (change : Race → Race) :
    Keeps Lull (raceOf.update change : Play ω Unit) :=
  fun _ hc => hc

theorem keeps_lull_showCharacter (critic : Critic ω) (character : Value) :
    Keeps Lull (showCharacter critic.around character) :=
  (Keeps.lift _).bind fun _ => keeps_lull_showPattern critic _

theorem keeps_lull_showDigit (critic : Critic ω) (value : Value) :
    Keeps Lull (showDigit critic.around value) :=
  (Keeps.lift _).bind fun _ => keeps_lull_showCharacter critic _

theorem keeps_lull_note (record : Record) : Keeps Lull (note record : Play ω Unit) :=
  .modify fun _ hc => hc

theorem keeps_lull_tick (critic : Critic ω) : Keeps Lull (tick critic.around) := by
  refine (keeps_lull_raceOf _).bind fun _ => .get_bind fun c hc => ?_
  dsimp only
  split
  · exact ((keeps_lull_showPattern critic _).bind fun _ => keeps_lull_updateRace _) c hc
  · exact ((Keeps.lift _).bind fun _ => keeps_lull_note _) c hc

theorem keeps_lull_steer (critic : Critic ω) : Keeps Lull (steer critic.around) := by
  refine (keeps_lull_raceOf _).bind fun taken => .get_bind fun c hc => ?_
  refine ((Keeps.lift _).bind fun _ => ?_) c hc
  split
  · exact (keeps_lull_note _).bind fun _ => (keeps_lull_tick critic).bind fun _ => .pure _
  · exact (keeps_lull_note _).bind fun _ => .pure _

theorem keeps_lull_setKind (w : Nat) (kind : Watch.Kind) :
    Keeps Lull (setKind w kind : Play ω Unit) :=
  .modify fun _ hc => hc

theorem keeps_lull_demoSteers : Keeps Lull (demoSteers : Play ω Bool) :=
  .get_bind fun c hc => (Keeps.ite (fun _ => Keeps.bind (fun _ hc => hc) fun _ => .pure _)
    fun _ => .pure _) c hc

theorem keeps_lull_leaveTimer (w : Nat) : Keeps Lull (leaveTimer w : Play ω Unit) :=
  .modify fun _ hc => hc

/-! ## Events in a lull -/

theorem lullsAlike_driveOn :
    LullsAlike critic (driveOn critic.around) (driveOn critic.toOnlooker.around) :=
  .bind .tick (keeps_lull_tick critic) fun _ => .same rfl

theorem lullsAlike_demoOn :
    LullsAlike critic (demoOn critic.around) (demoOn critic.toOnlooker.around) :=
  .bind .tick (keeps_lull_tick critic) fun _ => .same rfl

theorem lullsAlike_demoDrive (w : Nat) (steering : Bool) (loops : Nat) :
    LullsAlike critic (demoDrive critic.around w steering loops)
      (demoDrive critic.toOnlooker.around w steering loops) := by
  refine .bind (.setKind w _) (keeps_lull_setKind w _) fun _ => .ite lullsAlike_demoOn ?_
  refine .bind .demoSteers keeps_lull_demoSteers fun _ => .ite ?_ (.same rfl)
  exact .bind .steer (keeps_lull_steer critic) fun _ => .same rfl

theorem lullsAlike_endFlashing (w : Nat) :
    LullsAlike critic (endFlashing critic.around w) (endFlashing critic.toOnlooker.around w) :=
  .bind (.leaveTimer w) (keeps_lull_leaveTimer w) fun _ =>
    .bind .darken (keeps_lull_showPattern critic _) fun _ => .same rfl

theorem lullsAlike_flash (w : Nat) (event : TimerEvent) (value : Value) (shown : Nat) :
    LullsAlike critic (flash critic.around w event value shown)
      (flash critic.toOnlooker.around w event value shown) := by
  have hnext : LullsAlike critic
      (do
        setKind w (.flashing value (shown + 1))
        if shown + 1 = flashCycles then endFlashing critic.around w
        else enable critic.around (.int flashTicks))
      (do
        setKind w (.flashing value (shown + 1))
        if shown + 1 = flashCycles then endFlashing critic.toOnlooker.around w
        else enable critic.toOnlooker.around (.int flashTicks)) :=
    .bind (.setKind w _) (keeps_lull_setKind w _) fun _ =>
      .ite (lullsAlike_endFlashing w) (.same rfl)
  refine .bind .get (fun _ hc => hc) fun _ => .ite (lullsAlike_endFlashing w) (.ite ?_ ?_)
  · exact .bind (.showDigit _) (keeps_lull_showDigit critic _) fun _ => hnext
  · exact .bind (.showCharacter _) (keeps_lull_showCharacter critic _) fun _ => hnext

/-- A wait other than the countdown of digits shows what it has to show before it arms the timer, so
that an objection leaves the lull in which the event came. -/
theorem lullsAlike_onEvent (critic : Critic ω) {w : Nat} {watch : Watch}
    (hwatch : c.watches[w]? = some watch)
    (hkind : ∀ count flashes, watch.kind ≠ .countdown count flashes) (hlull : c.Lull)
    (event : TimerEvent) : onEvent critic.around w event c =
        onEvent critic.toOnlooker.around w event c ∨
      ∃ fault c', onEvent critic.around w event c = .error fault c' ∧
        critic.ObjectsIn fault c' ∧ c'.Lull := by
  obtain ⟨kind, ending, waiter⟩ := watch
  simp only [onEvent, bind_apply _ _ c, get_apply, hwatch]
  cases kind with
  | countdown count flashes => exact absurd rfl (hkind count flashes)
  | flashing value shown => exact lullsAlike_flash w event value shown c hlull
  | demo steering loops =>
    cases event with
    | disabled => exact .inl rfl
    | elapsed => exact lullsAlike_demoDrive w steering loops c hlull
  | play =>
    cases event with
    | disabled => exact .inl rfl
    | elapsed => exact lullsAlike_driveOn c hlull
  | _ => exact .inl rfl

/-! ## The countdown of digits -/

/-- The countdown of digits arms the timer before it shows anything: if the critic objects, it goes
on all the same. -/
theorem countDown_objected (critic : Critic ω) (hclocked : c.Clocked) (hrate : c.timer.rate ≠ 0)
    (w : Nat) (n : Int) (flashes : Nat) :
    countDown critic.around w (.int n) flashes c =
        countDown critic.toOnlooker.around w (.int n) flashes c ∨
      ∃ (fault : Fault) (m ticks : Int) (pattern : String) (outside : ω),
        countDown critic.around w (.int n) flashes c = .error fault
          ((armedFor critic.toOnlooker ticks
            (c.turnedTo w (.countdown (.int m) flashes))).shows pattern outside) := by
  -- Arming the timer shows nothing, so that nobody can object to it.
  have harmed {m ticks : Int} (hticks : ticks ≤ 50) :
      enable critic.around (.int ticks) (c.turnedTo w (.countdown (.int m) flashes)) =
        .ok ⟨⟩ (armedFor critic.toOnlooker ticks (c.turnedTo w (.countdown (.int m) flashes))) :=
    Clocked.enable_small critic.toOnlooker (c := c.turnedTo w (.countdown (.int m) flashes))
      hclocked hrate hticks
  have hdigit : (digitTicks : Int) ≤ 50 := by decide
  have hflash : (flashTicks : Int) ≤ 50 := by decide
  by_cases hzero : digitAfter n = 0
  · have hother : countDown critic.toOnlooker.around w (.int n) flashes c = _ :=
      countDown_flash hzero (harmed hflash)
    rw [countDown_flash hzero (harmed hflash), hother]
    obtain ⟨outside, ⟨hshown, hseen⟩ | ⟨fault, hfails, -⟩⟩ := showPattern_objected critic
      (Glyph.ofText (if flashes % 2 = 1 then "0" else " "))
      (armedFor critic.toOnlooker flashTicks (c.turnedTo w (.countdown (.int 0) flashes)))
    · left
      simp only [bind_apply, hshown, hseen]
    · refine .inr ⟨fault, 0, flashTicks, Glyph.ofText (if flashes % 2 = 1 then "0" else " "),
        outside, ?_⟩
      simp only [bind_apply, hfails]
  · have hother : countDown critic.toOnlooker.around w (.int n) flashes c = _ :=
      countDown_digit hzero (harmed hdigit)
    rw [countDown_digit hzero (harmed hdigit), hother]
    obtain ⟨outside, ⟨hshown, hseen⟩ | ⟨fault, hfails, -⟩⟩ := showPattern_objected critic
      (digitPattern (digitAfter n)) (armedFor critic.toOnlooker digitTicks
        (c.turnedTo w (.countdown (.int (digitAfter n)) flashes)))
    · exact .inl (hshown.trans hseen.symm)
    · exact .inr ⟨fault, digitAfter n, digitTicks, _, outside, hfails⟩

/-! ## Presses -/

/-- Driving on stops at the segment that the critic objects to. -/
theorem tick_objected (critic : Critic ω) (hsound : c.race.Sound) :
    tick critic.around c = tick critic.toOnlooker.around c ∨
      ∃ (fault : Fault) (pattern : String) (outside : ω), tick critic.around c =
        .error fault (({ c with race := c.race.arrived } : Cabinet ω).shows pattern outside) := by
  have harrive := hsound.arrive_apply
  simp only [tick, bind_apply, run_apply, raceOf, harrive, get_apply]
  cases hbar : c.race.arrived.bar? with
  | none => exact .inl rfl
  | some bar =>
    obtain ⟨outside, ⟨hshown, hseen⟩ | ⟨fault, hfails, -⟩⟩ :=
      showPattern_objected critic bar { c with race := c.race.arrived }
    · left
      simp only [bind_apply, hshown, hseen]
    · refine .inr ⟨fault, bar, outside, ?_⟩
      simp only [bind_apply, hfails]

/-- Steering stops at the segment behind the junction if the critic objects to it. -/
theorem steer_objected (critic : Critic ω) (hsound : c.race.Sound) :
    steer critic.around c = steer critic.toOnlooker.around c ∨
      c.race.atJunction = true ∧ ∃ (fault : Fault) (record : Record) (pattern : String)
        (outside : ω), steer critic.around c = .error fault (({ c with
          race := c.race.turned.arrived
          journal := c.journal.push record } : Cabinet ω).shows pattern outside) := by
  have hturn := hsound.turn_apply
  have hplace := hsound.turned.addressText_eq
  simp only [steer, bind_apply, run_apply, raceOf, hturn, get_apply, hplace, lift_ok_apply]
  cases hjunction : c.race.atJunction with
  | false => exact .inl rfl
  | true =>
    let record : Record := {
      level := .debug, source := "game_vm",
      message := s!"steer to {c.race.turned.place}, score {c.race.turned.score}" }
    simp only [if_true, bind_apply, note, modify_apply]
    rcases tick_objected (c := { c with
        race := c.race.turned
        journal := c.journal.push record }) critic hsound.turned with
      hsame | ⟨fault, pattern, outside, hfails⟩
    · left
      simp only [record] at hsame
      simp only [hsame]
    · refine .inr ⟨trivial, fault, record, pattern, outside, ?_⟩
      simp only [record] at hfails
      simp only [hfails, record]

/-- At an edge only a press in the player's drive shows anything, and if the critic objects the
watch stays. -/
theorem Listening.onEdge_objected {kind : Watch.Kind} {w : Nat} (h : Listening kind w c)
    (critic : Critic ω) (hsound : c.race.Sound) (pressed : Bool) :
    onEdge critic.around w pressed c = onEdge critic.toOnlooker.around w pressed c ∨
      kind = .play ∧ c.race.atJunction = true ∧ ∃ (fault : Fault) (record : Record)
        (pattern : String) (outside : ω), onEdge critic.around w pressed c = .error fault (({ c with
          race := c.race.turned.arrived
          journal := c.journal.push record } : Cabinet ω).shows pattern outside) := by
  simp only [onEdge, bind_apply _ _ c, get_apply, h.watch]
  cases kind with
  | play =>
    cases pressed with
    | false => exact .inl (by simp only [Bool.false_eq_true, if_false])
    | true =>
      simp only [if_true, bind_apply]
      rcases steer_objected critic hsound with
        hsame | ⟨hjunction, fault, record, pattern, outside, hfails⟩
      · exact .inl (by rw [hsame])
      · exact .inr ⟨trivial, hjunction, fault, record, pattern, outside, by rw [hfails]⟩
  | _ => exact .inl rfl

/-! ## Whoever listens is told -/

/-- The key takes the edge over before anyone is told of it, whoever is around. -/
theorem move_objected (critic : Critic ω) (pressed : Bool) (c : Cabinet ω) :
    move critic.around pressed c =
      (c.key.listeners.forM fun w => onEdge critic.around w pressed)
        (moved critic.toOnlooker pressed c) := by
  cases hupdater : c.key.updater <;>
    simp [move, Key.edge, keyOf, moved, Critic.around, Onlooker.around, hupdater]

/-- If the one watch on the timer fails at an event, this is written down. -/
theorem notify_fails {around : Surroundings ω} {event : TimerEvent} {w : Nat} {fault : Fault}
    (h : c.timer.listeners = [w]) (hfails : onEvent around w event c = .error fault c') :
    ((notify around event).result c).2 =
      { c' with journal := c'.journal.push (Timer.failure "?" event fault) } := by
  simp [notify, Timer.tellAll, result, h, hfails, note]

/-- If the one watch on the key fails at an edge, the edge ends there. -/
theorem move_fails {pressed : Bool} {w : Nat} {fault : Fault} (h : c.key.listeners = [w])
    (hfails : onEdge critic.around w pressed (moved critic.toOnlooker pressed c) =
      .error fault c') : ((move critic.around pressed).result c).2 = c' := by
  simp [result, move_objected, h, hfails]

end Cabinet

end DigitRace
