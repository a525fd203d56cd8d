import DigitRace.Proofs.Guise.Run
import DigitRace.Scene

/-!
# The pace of a scene

A scene is the same at every rate of ticks if times are told in ticks: the same patterns at the same
ticks, the same stages, races and numbers, and the same results. Only a number of ticks that is
beyond what can be waited for at one of two rates tells them apart.
-/

namespace DigitRace

/-- Ticks that can be waited for at both of two rates or at neither. -/
def SameReach (rate₁ rate₂ : Int) (ticks : Value) : Prop :=
  ∀ n, ticks.whole = .ok n →
    (Decimal.overflowBound * rate₁.natAbs ≤ n.toNat ↔
      Decimal.overflowBound * rate₂.natAbs ≤ n.toNat)

/-- A wait, a screen or a part of the game, and no self test. If it waits for ticks, both rates are
equal to it. -/
def Routine.Playable (rate₁ rate₂ : Int) : Routine → Prop
  | .forTicks ticks => SameReach rate₁ rate₂ ticks
  | .selfTest _ _ | .secondsRound _ _ _ _ => False
  | _ => True

namespace Scene

/-- What is started is playable, and the ticks that are armed are in reach of both rates or of
neither. -/
def Action.Playable (rate₁ rate₂ : Int) : Action → Prop
  | .start path arguments =>
    ∀ routine, Routine.ofPath path arguments = .ok routine → routine.Playable rate₁ rate₂
  | .enable ticks => SameReach rate₁ rate₂ ticks
  | _ => True

/-- Two scenes that are the same if times are told in ticks. -/
structure SameInTicks (scene₁ scene₂ : Scene) : Prop where
  /-- The player has seen the same patterns at the same ticks, and followed the same rules. -/
  outside : scene₂.outside = scene₁.outside
  time : scene₂.ticksNow = scene₁.ticksNow
  display : scene₂.display = scene₁.display
  pressed : scene₂.key.pressed = scene₁.key.pressed
  armed : scene₂.timer.armed = scene₁.timer.armed
  elapsed : scene₂.timer.elapsed = scene₁.timer.elapsed
  stage : scene₂.stage = scene₁.stage
  race : scene₂.race = scene₁.race
  draws : scene₂.draws = scene₁.draws
  tasks : scene₂.tasks = scene₁.tasks
  journal : scene₂.journal = scene₁.journal

/-- The guise of a scene at another rate. -/
def atRate (rate₁ rate₂ : Int) (h₁ : 0 < rate₁) (h₂ : 0 < rate₂) (chances : Chances) :
    Guise Player where
  scale := rate₁ / rate₂
  pace := rate₁
  rate := rate₂
  chances
  whole := True
  scale_pos := by positivity
  scale_rate := by
    have hrate : (rate₂ : Rat) ≠ 0 := Int.cast_ne_zero.2 h₂.ne'
    field_simp
  pace_ne_zero := h₁.ne'
  games_eq _ := rfl
  played_eq _ := rfl

variable {rate₁ rate₂ : Int} {h₁ : 0 < rate₁} {h₂ : 0 < rate₂} {chances : Chances}

theorem atRate_ticksNow {scene : Scene} (start : Rat)
    (hfits : (atRate rate₁ rate₂ h₁ h₂ chances).Fits scene) :
    ticksNow ((atRate rate₁ rate₂ h₁ h₂ chances).dress start scene) = ticksNow scene := by
  have hrate : (rate₂ : Rat) ≠ 0 := Int.cast_ne_zero.2 h₂.ne'
  have hpace : scene.timer.rate = rate₁ := hfits.pace
  simp only [ticksNow, Guise.dress, Guise.agenda, Guise.time, Guise.timer, atRate, hpace]
  field_simp
  simp

/-! ## The player at another rate -/

/-- A pattern is kept with the same tick. -/
theorem echoes_keep (pattern : String) :
    (atRate rate₁ rate₂ h₁ h₂ chances).Echoes Eq (keep pattern) (keep pattern) :=
  .modify fun _ start hfits =>
    ⟨hfits.congr rfl, start, by
      rw [atRate_ticksNow start hfits]
      rfl⟩

/-- What the player does, now or later. -/
theorem echoes_applyRule {around : Surroundings Player}
    (h : (atRate rate₁ rate₂ h₁ h₂ chances).Suits around around) (pattern : String)
    (number : Nat) :
    (atRate rate₁ rate₂ h₁ h₂ chances).Echoes Eq (applyRule around pattern number)
      (applyRule around pattern number) := by
  refine .get_bind fun scene start hfits => ?_
  have houtside : ((atRate rate₁ rate₂ h₁ h₂ chances).dress start scene).outside =
      scene.outside := rfl
  rw [houtside]
  cases scene.outside.rules[number]? with
  | none => exact .pure rfl
  | some state =>
    refine .ite (fun _ => ?_) fun _ => .pure rfl
    have hset := Guise.Echoes.set (c := { scene with
      outside := { scene.outside with
        rules := scene.outside.rules.setIfInBounds number (taken state).2 } })
      (hfits.congr rfl) start
    refine hset.bind_eq fun _ => .ite (fun _ => .forM_same _ fun deed _ => ?_) fun _ => .pure rfl
    refine .ite (fun _ => ?_) fun _ => ?_
    · cases deed with
      | move pressed => exact h.move pressed
      | disable => exact h.disable
    · exact .modify fun _ start hfits => ⟨hfits.withAgenda _, start, rfl⟩

/-- The player reacts at the same ticks at every rate. -/
theorem suits_around (depth : Nat) :
    (atRate rate₁ rate₂ h₁ h₂ chances).Suits (around depth) (around depth) := by
  induction depth with
  | zero => exact ⟨echoes_keep, fun _ _ => rfl, fun _ _ => rfl⟩
  | succ depth ih =>
    refine ⟨fun pattern => ?_, fun _ _ => rfl, fun _ _ => rfl⟩
    exact (echoes_keep pattern).bind_eq fun _ => .get_bind fun scene _ _ =>
      .forM_same _ fun number _ => echoes_applyRule ih pattern number

/-! ## Actions at another rate -/

variable (h₁ h₂ chances) in
theorem routineFits_of_playable {routine : Routine} (h : routine.Playable rate₁ rate₂) :
    (atRate rate₁ rate₂ h₁ h₂ chances).RoutineFits routine := by
  cases routine with
  | forTicks ticks => exact h
  | selfTest => exact h.elim
  | secondsRound => exact h.elim
  | _ => trivial

/-- A time that is told in ticks is scaled. -/
theorem atRate_span {scene : Scene} (ticks : Rat) (start : Rat)
    (hfits : (atRate rate₁ rate₂ h₁ h₂ chances).Fits scene) :
    span ticks ((atRate rate₁ rate₂ h₁ h₂ chances).dress start scene) =
      (atRate rate₁ rate₂ h₁ h₂ chances).scale * span ticks scene := by
  have hpace : scene.timer.rate = rate₁ := hfits.pace
  rw [span, span, hpace]
  exact Guise.span_eq ticks

/-- Every action comes to the same at both rates. -/
theorem echoes_perform {action : Action} (h : action.Playable rate₁ rate₂) :
    (atRate rate₁ rate₂ h₁ h₂ chances).Echoes Eq (perform action) (perform action) := by
  have hsuits : (atRate rate₁ rate₂ h₁ h₂ chances).Suits theatre theatre := suits_around _
  cases action with
  | start path arguments =>
    cases hroutine : Routine.ofPath path arguments with
    | error fault =>
      simp only [perform, hroutine]
      exact .throw fault
    | ok routine =>
      simp only [perform, hroutine]
      exact .modify
        (Guise.tracks_spawn (routineFits_of_playable h₁ h₂ chances (h routine hroutine)))
  | move pressed => exact hsuits.move pressed
  | enable ticks =>
    exact Guise.echoes_enable (g := atRate rate₁ rate₂ h₁ h₂ chances) h theatre theatre
  | disable => exact hsuits.disable
  | advance ticks =>
    refine .modify fun scene start hfits => ?_
    rw [atRate_span ticks start hfits]
    exact hsuits.advance trivial (span ticks scene) hfits
  | finish ticks =>
    refine .modify fun scene start hfits => ?_
    rw [atRate_span ticks start hfits]
    exact hsuits.finish trivial (span ticks scene) hfits
  | cancel number =>
    refine .get_bind fun scene start _ => ?_
    have hsize : ((atRate rate₁ rate₂ h₁ h₂ chances).dress start scene).tasks.size =
        scene.tasks.size := by simp [Guise.dress]
    rw [hsize]
    exact .ite (fun _ => .modify Guise.tracks_cancel) fun _ => .throw _
  | digit value => exact hsuits.showDigit value
  | reset speed => exact Guise.echoes_resetRace speed
  | tick => exact hsuits.tick
  | steer => exact hsuits.steer.bind_eq fun _ => .pure rfl

/-! ## Whole scenes -/

theorem atRate_task (t : Task) : (atRate rate₁ rate₂ h₁ h₂ chances).task t = t := by
  have hframe : (atRate rate₁ rate₂ h₁ h₂ chances).frame = id := by
    funext f
    cases f <;> rfl
  obtain ⟨state, stack, cancelRequested⟩ := t
  simp only [Guise.task, hframe, List.map_id]
  cases state <;> rfl

/-- A scene in the guise of the other rate is the same in ticks. -/
theorem sameInTicks_dress {scene : Scene} (start : Rat)
    (hfits : (atRate rate₁ rate₂ h₁ h₂ chances).Fits scene) :
    SameInTicks scene ((atRate rate₁ rate₂ h₁ h₂ chances).dress start scene) where
  outside := rfl
  time := atRate_ticksNow start hfits
  display := rfl
  pressed := rfl
  armed := by simp [Guise.dress, Guise.timer, Timer.armed]
  elapsed := rfl
  stage := rfl
  race := rfl
  draws := rfl
  tasks := by
    have htask : (atRate rate₁ rate₂ h₁ h₂ chances).task = id := funext atRate_task
    simp [Guise.dress, htask]
  journal := by simp [Guise.dress, atRate]

/-- A step comes to the same at both rates. -/
theorem step_atRate {actions : List Action}
    (h : ∀ action ∈ actions, action.Playable rate₁ rate₂) {scene : Scene}
    (hfits : (atRate rate₁ rate₂ h₁ h₂ chances).Fits scene) (start : Rat) :
    (atRate rate₁ rate₂ h₁ h₂ chances).Fits (step actions scene).2 ∧
      ∃ start', step actions ((atRate rate₁ rate₂ h₁ h₂ chances).dress start scene) =
        ((step actions scene).1,
          (atRate rate₁ rate₂ h₁ h₂ chances).dress start' (step actions scene).2) := by
  have hsuits : (atRate rate₁ rate₂ h₁ h₂ chances).Suits theatre theatre := suits_around _
  have hcleared : (atRate rate₁ rate₂ h₁ h₂ chances).Fits scene.cleared :=
    hfits.congr rfl
  have hdress : cleared ((atRate rate₁ rate₂ h₁ h₂ chances).dress start scene) =
      (atRate rate₁ rate₂ h₁ h₂ chances).dress start scene.cleared := by
    simp [cleared, Guise.dress, atRate]
  have hact : (atRate rate₁ rate₂ h₁ h₂ chances).Echoes Eq (actions.forM perform)
      (actions.forM perform) :=
    .forM_same actions fun action haction => echoes_perform (h action haction)
  obtain ⟨hafter, houtcome, start₁, hsame⟩ := hact.result hcleared start
  obtain ⟨hsettled, start₂, hsettle⟩ := hsuits.settle trivial _ start₁ hafter
  refine ⟨hsettled, start₂, ?_⟩
  unfold step
  rw [hdress]
  exact Prod.ext houtcome (by simp only [hsame, hsettle])

variable (h₁ h₂) in
/-- The scene that the other rate starts with is the first one in another guise. -/
theorem start_atRate {circuit : Circuit} {observed : Bool} {player : Player} {scene₁ scene₂ : Scene}
    (hstart₁ : Scene.start circuit rate₁ chances observed player = .ok scene₁)
    (hstart₂ : Scene.start circuit rate₂ chances observed player = .ok scene₂) :
    (atRate rate₁ rate₂ h₁ h₂ chances).Fits scene₁ ∧
      scene₂ = (atRate rate₁ rate₂ h₁ h₂ chances).dress 0 scene₁ := by
  unfold Scene.start at hstart₁ hstart₂
  cases hrace : Race.start circuit with
  | error fault => simp [hrace, bind, Except.bind] at hstart₁
  | ok race =>
    simp only [hrace, bind, Except.bind, pure, Except.pure, Except.ok.injEq] at hstart₁ hstart₂
    subst hstart₁ hstart₂
    have hwait : race.wait ≤ Guise.longestWait := by
      unfold Race.start at hrace
      simp only [bind, Except.bind] at hrace
      split at hrace
      · cases hrace
      · split at hrace
        · cases hrace
        · obtain rfl := Except.ok.inj hrace
          exact (Race.waitAt_bounds 0).2
    refine ⟨⟨rfl, hwait, by simp, by simp, fun _ _ => rfl, .inl trivial⟩, ?_⟩
    simp [Guise.dress, Guise.agenda, Guise.time, Guise.key, Guise.timer, atRate, Timer.new]

/-- **The pace of a scene is no matter.** At any two rates the same steps, with times told in ticks,
come to the same scenes. -/
theorem outcomes_in_ticks (h₁ : 0 < rate₁) (h₂ : 0 < rate₂) {circuit : Circuit} {observed : Bool}
    {player : Player} {scene₁ scene₂ : Scene}
    (hstart₁ : Scene.start circuit rate₁ chances observed player = .ok scene₁)
    (hstart₂ : Scene.start circuit rate₂ chances observed player = .ok scene₂)
    {steps : List (List Action)}
    (hplayable : ∀ actions ∈ steps, ∀ action ∈ actions, action.Playable rate₁ rate₂) :
    List.Forall₂ (fun outcome₁ outcome₂ => outcome₂.1 = outcome₁.1 ∧
        SameInTicks outcome₁.2 outcome₂.2)
      (outcomes scene₁ steps) (outcomes scene₂ steps) := by
  obtain ⟨hfits, rfl⟩ := start_atRate h₁ h₂ hstart₁ hstart₂
  clear hstart₁ hstart₂
  generalize (0 : Rat) = start
  induction steps generalizing scene₁ start with
  | nil => exact .nil
  | cons actions rest ih =>
    obtain ⟨hafter, start', hstep⟩ :=
      step_atRate (hplayable actions (List.mem_cons_self ..)) hfits start
    unfold outcomes
    rw [hstep]
    exact .cons ⟨rfl, sameInTicks_dress start' hafter⟩
      (ih (fun actions hactions => hplayable actions (List.mem_cons_of_mem _ hactions)) hafter
        start')

/-- A game on the track is the same at 50 and at 1000 ticks in a second. -/
theorem outcomes_in_ticks_on_track :
    ∃ scene₁ scene₂ : Scene,
      Scene.start Circuit.track 50 (fun _ => 0) true {} = .ok scene₁ ∧
      Scene.start Circuit.track 1000 (fun _ => 0) true {} = .ok scene₂ ∧
      List.Forall₂ (fun outcome₁ outcome₂ => outcome₂.1 = outcome₁.1 ∧
          SameInTicks outcome₁.2 outcome₂.2)
        (outcomes scene₁
          [[.start "game.run" [.int 1]], [.advance 100, .move true], [.enable (.int 7)]])
        (outcomes scene₂
          [[.start "game.run" [.int 1]], [.advance 100, .move true], [.enable (.int 7)]]) := by
  have hroutine : Routine.ofPath "game.run" [.int 1] = .ok (.run (.int 1)) := rfl
  have hreach : SameReach 50 1000 (.int 7) := by
    rintro n ⟨⟩
    decide +kernel
  obtain ⟨scene₁, hstart₁⟩ : ∃ scene, Scene.start Circuit.track 50 (fun _ => 0) true {} =
    .ok scene := ⟨_, rfl⟩
  obtain ⟨scene₂, hstart₂⟩ : ∃ scene, Scene.start Circuit.track 1000 (fun _ => 0) true {} =
    .ok scene := ⟨_, rfl⟩
  refine ⟨scene₁, scene₂, hstart₁, hstart₂, outcomes_in_ticks (by decide) (by decide) hstart₁
    hstart₂ fun actions hactions action haction => ?_⟩
  have hrun : (Action.start "game.run" [.int 1]).Playable 50 1000 := by
    intro routine h
    obtain rfl := Except.ok.inj (hroutine.symm.trans h)
    trivial
  simp only [List.mem_cons, List.not_mem_nil, or_false] at hactions
  obtain rfl | rfl | rfl := hactions <;>
    simp only [List.mem_cons, List.not_mem_nil, or_false] at haction
  · exact haction ▸ hrun
  · obtain rfl | rfl := haction <;> trivial
  · exact haction ▸ hreach

/-- Ticks that take a time beyond all doubles at 50 in a second, and not at 1000, are waited for at
the one rate and not at the other. -/
theorem ticks_tell_rates_apart :
    ∃ scene₁ scene₂ : Scene,
      Scene.start Circuit.track 50 (fun _ => 0) true {} = .ok scene₁ ∧
      Scene.start Circuit.track 1000 (fun _ => 0) true {} = .ok scene₂ ∧
      (outcomes scene₁ [[.start "ui.for_ticks" [.int (10 ^ 310)]]]).map (fun o => o.2.allOver) =
        [true] ∧
      (outcomes scene₂ [[.start "ui.for_ticks" [.int (10 ^ 310)]]]).map (fun o => o.2.allOver) =
        [false] := by
  refine ⟨_, _, rfl, rfl, ?_, ?_⟩
  · decide +kernel
  · decide +kernel

end Scene

end DigitRace
