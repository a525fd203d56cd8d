import DigitRace.Proofs.Cabinet.Onlooker
import DigitRace.Proofs.Upkeep

/-!
# What leaves race and stage alone

Only driving, steering and beginning anew change the race, and only a stage that is entered changes
the stage. Whatever else the game does to its devices and its watches leaves both as they are,
whether it succeeds or fails.
-/

namespace DigitRace

/-- A wait during which no car is driven. -/
def Watch.Kind.Still : Watch.Kind → Prop
  | .demo _ _ | .play => False
  | .event | .release | .edge | .pressOrEvent | .countdown _ _ | .flashing _ _ => True

/-- A routine of the game that neither drives a car nor enters a stage. -/
def Routine.Still : Routine → Prop
  | .run _ | .text _ | .character _ | .pressOrEvent | .keyReleased | .countdown _
  | .flashingDigit _ => True
  | _ => False

/-- A frame of the game that neither drives a car nor enters a stage. -/
def Frame.Still : Frame → Prop
  | .characterShown | .textRest _ | .readyToFlash _ | .countedDown | .carsFlashed | .scoreShown _
  | .nextGame _ _ | .releasedAfterGame _ _ => True
  | _ => False

namespace Cabinet

open Act

variable {ω α : Type}

/-- The race and the stage are these. -/
structure Parked (race : Race) (stage : Option Stage) (c : Cabinet ω) : Prop where
  race : c.race = race
  stage : c.stage = stage

namespace Parked

variable {race : Race} {stage : Option Stage} {w : Nat}

/-! ## Devices -/

theorem get : Keeps (Parked race stage) (MonadState.get : Play ω (Cabinet ω)) := fun _ h => h

theorem note (record : Record) : Keeps (Parked race stage) (note record : Play ω Unit) :=
  fun _ h => ⟨h.race, h.stage⟩

variable (eye : Onlooker ω)

theorem showPattern (pattern : String) :
    Keeps (Parked race stage) (showPattern eye.around pattern) := by
  intro c h
  obtain ⟨outside, hshow⟩ := showPattern_apply eye c pattern
  rw [result_of_ok hshow]
  exact ⟨h.race, h.stage⟩

theorem showCharacter (character : Value) :
    Keeps (Parked race stage) (showCharacter eye.around character) :=
  (Keeps.lift _).bind fun _ => showPattern eye _

theorem showDigit (value : Value) : Keeps (Parked race stage) (showDigit eye.around value) :=
  (Keeps.lift _).bind fun _ => showCharacter eye _

theorem darken : Keeps (Parked race stage) (darken eye.around) := showPattern eye _

theorem enable (ticks : Value) : Keeps (Parked race stage) (enable eye.around ticks) :=
  get.bind fun _ => .run fun _ h => ⟨h.race, h.stage⟩

/-! ## Watches -/

theorem openWatch (kind : Watch.Kind) : Keeps (Parked race stage) (openWatch kind : Play ω Nat) :=
  fun _ h => ⟨h.race, h.stage⟩

theorem watchKey (w : Nat) : Keeps (Parked race stage) (watchKey w : Play ω Unit) :=
  fun _ h => ⟨h.race, h.stage⟩

theorem watchTimer (w : Nat) : Keeps (Parked race stage) (watchTimer w : Play ω Unit) :=
  fun _ h => ⟨h.race, h.stage⟩

theorem setKind (w : Nat) (kind : Watch.Kind) :
    Keeps (Parked race stage) (setKind w kind : Play ω Unit) :=
  fun _ h => ⟨h.race, h.stage⟩

theorem conclude (w : Nat) (answer : Answer) :
    Keeps (Parked race stage) (conclude w answer : Play ω Unit) := by
  refine .modify fun c h => ?_
  split
  · exact ⟨h.race, h.stage⟩
  · exact h

theorem leaveTimer (w : Nat) (answer : Answer) : Keeps (Parked race stage)
    (do leaveTimer w; Cabinet.conclude w answer : Play ω Unit) :=
  Keeps.bind (fun _ h => ⟨h.race, h.stage⟩) fun _ => conclude w answer

theorem leave (w : Nat) (answer : Answer) :
    Keeps (Parked race stage) (leave w answer : Play ω Unit) :=
  Keeps.bind (fun _ h => ⟨h.race, h.stage⟩) fun _ => leaveTimer w answer

theorem endFlashing (w : Nat) : Keeps (Parked race stage) (endFlashing eye.around w) :=
  Keeps.bind (fun _ h => ⟨h.race, h.stage⟩) fun _ => (darken eye).bind fun _ => conclude w _

theorem countDown (w : Nat) (count : Value) (flashes : Nat) :
    Keeps (Parked race stage) (countDown eye.around w count flashes) := by
  refine (setKind w _).bind fun _ => .ite (fun _ => ?_) fun _ => ?_
  · exact (enable eye _).bind fun _ => showDigit eye _
  · exact (enable eye _).bind fun _ => (showCharacter eye _).bind fun _ => (setKind w _).bind
      fun _ => .ite (fun _ => leaveTimer w _) fun _ => .pure _

theorem flash (w : Nat) (event : TimerEvent) (value : Value) (shown : Nat) :
    Keeps (Parked race stage) (flash eye.around w event value shown) := by
  refine get.bind fun c => .ite (fun _ => endFlashing eye w) fun _ => ?_
  have hrest : Keeps (Parked race stage) (do
      Cabinet.setKind w (.flashing value (shown + 1))
      if shown + 1 = flashCycles then Cabinet.endFlashing eye.around w
      else Cabinet.enable eye.around (.int flashTicks) : Play ω Unit) :=
    (setKind w _).bind fun _ => .ite (fun _ => endFlashing eye w) fun _ => enable eye _
  exact .ite (fun _ => (showDigit eye _).bind fun _ => hrest) fun _ =>
    (showCharacter eye _).bind fun _ => hrest

/-! ## Routines and frames -/

theorem awaitRelease : Keeps (Parked race stage) (awaitRelease : Play ω Progress) :=
  get.bind fun _ => .ite (fun _ => .pure _) fun _ => (openWatch _).bind fun _ =>
    (watchKey _).bind fun _ => .pure _

theorem awaitPressOrEvent : Keeps (Parked race stage) (awaitPressOrEvent : Play ω Progress) :=
  get.bind fun _ => .ite (fun _ => .pure _) fun _ => (openWatch _).bind fun _ =>
    (watchKey _).bind fun _ => (watchTimer _).bind fun _ => .pure _

theorem beginCountdown (count : Value) :
    Keeps (Parked race stage) (beginCountdown eye.around count) :=
  (Keeps.lift _).bind fun _ => (openWatch _).bind fun _ => (watchTimer _).bind fun _ =>
    (showDigit eye _).bind fun _ => (enable eye _).bind fun _ => .pure _

theorem beginFlashing (value : Value) :
    Keeps (Parked race stage) (beginFlashing eye.around value) :=
  (openWatch _).bind fun _ => (watchTimer _).bind fun _ => (showDigit eye _).bind fun _ =>
    (enable eye _).bind fun _ => .pure _

/-- A routine of the game that neither drives nor enters a stage leaves both alone. -/
theorem begin {routine : Routine} (h : routine.Still) :
    Keeps (Parked race stage) (begin eye.around routine) := by
  cases routine with
  | run games => exact .pure _
  | text text => exact (Keeps.lift _).bind fun _ => .pure _
  | character character =>
    exact (showCharacter eye _).bind fun _ => (enable eye _).bind fun _ => .pure _
  | pressOrEvent => exact awaitPressOrEvent
  | keyReleased => exact awaitRelease
  | countdown count => exact beginCountdown eye count
  | flashingDigit value => exact (Keeps.lift _).bind fun _ => .pure _
  | _ => exact h.elim

/-- A frame of the game that neither drives nor enters a stage leaves both alone. -/
theorem resume {frame : Frame} (h : frame.Still) (answer : Answer) :
    Keeps (Parked race stage) (resume eye.around answer frame) := by
  cases frame with
  | characterShown =>
    exact .ite (fun _ => .pure _) fun _ => (darken eye).bind fun _ => (enable eye _).bind fun _ =>
      .pure _
  | textRest rest => exact .ite (fun _ => .pure _) fun _ => .pure _
  | readyToFlash value => exact beginFlashing eye value
  | countedDown => exact .pure _
  | carsFlashed =>
    exact get.bind fun _ => .ite (fun _ => (note _).bind fun _ => .pure _) fun _ => .pure _
  | scoreShown text => exact .ite (fun _ => .pure _) fun _ => .pure _
  | nextGame games played =>
    exact (Keeps.lift _).bind fun _ => .ite (fun _ => .pure _) fun _ => .pure _
  | releasedAfterGame games played => exact .pure _
  | _ => exact h.elim

end Parked

variable (eye : Onlooker ω) {c : Cabinet ω} {w : Nat} {watch : Watch}

private theorem result_get_bind {σ : Type} (next : σ → Act σ α) (s : σ) :
    (MonadState.get >>= next).result s = (next s).result s := rfl

/-- What a still watch does at an event of the timer leaves race and stage alone. -/
theorem onEvent_parked (hwatch : c.watches[w]? = some watch) (hstill : watch.kind.Still)
    (event : TimerEvent) :
    Parked c.race c.stage ((onEvent eye.around w event).result c).2 := by
  have hself : Parked c.race c.stage c := ⟨rfl, rfl⟩
  unfold onEvent
  rw [result_get_bind, hwatch]
  obtain ⟨kind, ending, waiter⟩ := watch
  cases kind with
  | event => exact Parked.leaveTimer w _ c hself
  | release => exact hself
  | edge => exact hself
  | pressOrEvent => exact Parked.leave w _ c hself
  | countdown count flashes =>
    cases event with
    | disabled => exact Parked.leaveTimer w _ c hself
    | elapsed => exact Parked.countDown eye w count flashes c hself
  | flashing value shown => exact Parked.flash eye w event value shown c hself
  | demo => exact hstill.elim
  | play => exact hstill.elim

end Cabinet

end DigitRace
