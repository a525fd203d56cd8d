import DigitRace.Proofs.Guise.Reaction

/-!
# Routines in another guise

A routine, or a frame that is handed an answer, comes equally far in another guise. It waits for a
watch of another number, or calls the same routine.
-/

namespace DigitRace.Guise

open Cabinet

variable {ω : Type} {g : Guise ω} {around around' : Surroundings ω}

/-- How far a routine of the other game has come. -/
def progress (g : Guise ω) : Progress → Progress
  | .done answer => .done answer
  | .await w after => .await (g.watch w) (after.map g.frame)
  | .call routine after => .call routine (after.map g.frame)

/-- What is called, or comes after, can be read in the other game. -/
def ProgressFits (g : Guise ω) : Progress → Prop
  | .done _ => True
  | .await _ after => ∀ f ∈ after, g.FrameFits f
  | .call routine after => g.RoutineFits routine ∧ ∀ f ∈ after, g.FrameFits f

/-- Both games have come equally far. -/
def Proceeds (g : Guise ω) (p p' : Progress) : Prop :=
  p' = g.progress p ∧ g.ProgressFits p

theorem proceeds_done (answer : Answer) : g.Proceeds (.done answer) (.done answer) :=
  ⟨rfl, trivial⟩

theorem proceeds_await (w : Nat) : g.Proceeds (.await w none) (.await (g.watch w) none) :=
  ⟨rfl, by simp [ProgressFits]⟩

theorem proceeds_call {routine : Routine} (hroutine : g.RoutineFits routine) :
    g.Proceeds (.call routine none) (.call routine none) :=
  ⟨rfl, hroutine, by simp⟩

theorem proceeds_call_some {routine : Routine} {f f' : Frame} (hroutine : g.RoutineFits routine)
    (hframe : g.FrameFits f) (hsame : f' = g.frame f) :
    g.Proceeds (.call routine (some f)) (.call routine (some f')) :=
  ⟨by rw [hsame]; rfl, hroutine, by simpa using hframe⟩

/-! ## Waits and screens -/

theorem echoes_awaitTicks {ticks : Value} (hreach : g.Reaches ticks)
    (around around' : Surroundings ω) :
    g.Echoes g.Proceeds (awaitTicks around ticks none) (awaitTicks around' ticks none) := by
  refine Echoes.bind (echoes_openWatch trivial) fun w _ hw => ?_
  subst hw
  exact (echoes_watchTimer w).bind_eq fun _ => (echoes_enable hreach around around').bind_eq
    fun _ => .pure (proceeds_await w)

theorem echoes_awaitRelease :
    g.Echoes g.Proceeds (awaitRelease : Play ω Progress) awaitRelease := by
  refine .get_bind fun c start _ => .ite (fun _ => .pure (proceeds_done _)) fun _ => ?_
  refine Echoes.bind (echoes_openWatch trivial) fun w _ hw => ?_
  subst hw
  exact (echoes_watchKey w).bind_eq fun _ => .pure (proceeds_await w)

theorem echoes_awaitPressOrEvent :
    g.Echoes g.Proceeds (awaitPressOrEvent : Play ω Progress) awaitPressOrEvent := by
  refine .get_bind fun c start _ => .ite (fun _ => .pure (proceeds_done _)) fun _ => ?_
  refine Echoes.bind (echoes_openWatch trivial) fun w _ hw => ?_
  subst hw
  exact (echoes_watchKey w).bind_eq fun _ => (echoes_watchTimer w).bind_eq
    fun _ => .pure (proceeds_await w)

theorem Suits.beginCountdown (h : g.Suits around around') (count : Value) :
    g.Echoes g.Proceeds (beginCountdown around count) (beginCountdown around' count) := by
  refine (Echoes.lift _).bind_eq fun count => ?_
  refine Echoes.bind (echoes_openWatch trivial) fun w _ hw => ?_
  subst hw
  have hticks : (if count.truthy then (digitTicks : Int) else flashTicks) ≤ 50 := by
    split <;> decide
  exact (echoes_watchTimer w).bind_eq fun _ => (h.showDigit count).bind_eq fun _ =>
    (echoes_enable_small hticks around around').bind_eq fun _ => .pure (proceeds_await w)

theorem Suits.beginFlashing (h : g.Suits around around') (value : Value) :
    g.Echoes g.Proceeds (beginFlashing around value) (beginFlashing around' value) := by
  refine Echoes.bind (echoes_openWatch trivial) fun w _ hw => ?_
  subst hw
  exact (echoes_watchTimer w).bind_eq fun _ => (h.showDigit value).bind_eq fun _ =>
    (echoes_enable_small (by decide) around around').bind_eq fun _ => .pure (proceeds_await w)

theorem Suits.beginCharacter (h : g.Suits around around') (character : Value) :
    g.Echoes g.Proceeds (beginCharacter around character) (beginCharacter around' character) :=
  (h.showCharacter character).bind_eq fun _ =>
    (echoes_enable_small (by decide) around around').bind_eq fun _ =>
      .pure (proceeds_call_some trivial trivial rfl)

theorem proceeds_continueText (rest : List Value) :
    g.Proceeds (continueText rest) (continueText rest) := by
  cases rest with
  | nil => exact proceeds_done _
  | cons character rest => exact proceeds_call_some trivial trivial rfl

/-! ## The game -/

theorem Suits.beginDrive (h : g.Suits around around') (hwhole : g.whole) :
    g.Echoes g.Proceeds (beginDrive around) (beginDrive around') := by
  refine (echoes_resetRace _).bind_eq fun _ => h.demoOn.bind_eq fun _ =>
    Echoes.bind (echoes_openWatch hwhole) fun w _ hw => ?_
  subst hw
  exact (echoes_watchKey w).bind_eq fun _ => (echoes_watchTimer w).bind_eq
    fun _ => .pure (proceeds_await w)

theorem Suits.beginPlay (h : g.Suits around around') :
    g.Echoes g.Proceeds (beginPlay around) (beginPlay around') := by
  refine (echoes_enter _).bind_eq fun _ => h.driveOn.bind_eq fun _ =>
    Echoes.bind (echoes_openWatch trivial) fun w _ hw => ?_
  subst hw
  exact (echoes_watchKey w).bind_eq fun _ => (echoes_watchTimer w).bind_eq
    fun _ => .pure (proceeds_await w)

/-- Where the other game counts the same games, it plays the next one as well. -/
theorem echoes_continueGames (hwhole : g.whole) (games : Value) (played : Nat) :
    g.Echoes g.Proceeds (continueGames games played : Play ω Progress)
      (continueGames (g.games games) (played + g.played)) := by
  rw [g.games_eq hwhole, g.played_eq hwhole]
  refine (Echoes.lift _).bind_eq fun allowed => .ite (fun _ => .pure ?_)
    fun _ => .pure (proceeds_done _)
  exact proceeds_call_some trivial trivial
    (by rw [frame, g.games_eq hwhole, g.played_eq hwhole])

/-! ## Beginning and going on -/

/-- A routine begins in both games alike. -/
theorem Suits.begin (h : g.Suits around around') {routine : Routine}
    (hroutine : g.RoutineFits routine) :
    g.Echoes g.Proceeds (begin around routine) (begin around' routine) := by
  cases routine with
  | forTicks ticks => exact echoes_awaitTicks hroutine around around'
  | keyReleased => exact echoes_awaitRelease
  | pressOrEvent => exact echoes_awaitPressOrEvent
  | countdown count => exact h.beginCountdown count
  | flashingDigit value =>
    exact (Echoes.lift _).bind_eq fun _ => .pure (proceeds_call_some trivial trivial rfl)
  | character character => exact h.beginCharacter character
  | text text => exact (Echoes.lift _).bind_eq fun _ => .pure (proceeds_continueText _)
  | demo =>
    exact (echoes_enter _).bind_eq fun _ => .pure (proceeds_call_some trivial hroutine rfl)
  | play => exact h.beginPlay
  | game =>
    exact (echoes_resetRace _).bind_eq fun _ => (echoes_enter _).bind_eq fun _ =>
      .pure (proceeds_call_some trivial trivial rfl)
  | score =>
    exact (echoes_enter _).bind_eq fun _ => .get_bind fun _ _ _ =>
      .pure (proceeds_call_some trivial trivial rfl)
  | run games => exact .pure (proceeds_call_some hroutine hroutine rfl)
  | selfTest => exact hroutine.elim
  | secondsRound => exact hroutine.elim

/-- A frame goes on in both games alike. Whether there is another game to play is known only where
the same games are counted. -/
theorem Suits.resume (h : g.Suits around around') {f : Frame} (hframe : g.FrameFits f)
    (hnext : ∀ games played, f = .nextGame games played → g.whole) (answer : Answer) :
    g.Echoes g.Proceeds (resume around answer f) (resume around' answer (g.frame f)) := by
  cases f with
  | characterShown =>
    refine .ite (fun _ => .pure (proceeds_done _)) fun _ => h.darken.bind_eq fun _ => ?_
    exact (echoes_enable_small (by decide) around around').bind_eq fun _ =>
      .pure (proceeds_call trivial)
  | textRest rest =>
    exact .ite (fun _ => .pure (proceeds_done _)) fun _ => .pure (proceeds_continueText rest)
  | readyToFlash value => exact h.beginFlashing value
  | demoTextShown => exact .ite (fun _ => .pure (proceeds_done _)) fun _ => h.beginDrive hframe
  | countedDown => exact .pure (proceeds_call_some trivial trivial rfl)
  | roundPlayed =>
    exact (echoes_enter _).bind_eq fun _ => .get_bind fun _ _ _ =>
      .pure (proceeds_call_some trivial trivial rfl)
  | carsFlashed =>
    refine .get_bind fun c start _ => .ite (fun _ => ?_) fun _ => ?_
    · exact (echoes_note _).bind_eq fun _ => .pure (proceeds_done _)
    · exact .pure (proceeds_call_some trivial trivial rfl)
  | scoreShown text =>
    exact .ite (fun _ => .pure (proceeds_done _)) fun _ =>
      .pure (proceeds_call_some trivial trivial rfl)
  | demoEnded games =>
    refine .ite (fun _ => (echoes_enter _).bind_eq fun _ => .pure ?_) fun _ => .pure ?_
    · exact proceeds_call_some trivial trivial
        (by rw [frame, g.games_eq hframe, g.played_eq hframe]; rfl)
    · exact proceeds_call_some hframe hframe rfl
  | nextGame games played => exact echoes_continueGames (hnext games played rfl) games played
  | gameEnded games played =>
    exact (echoes_enter _).bind_eq fun _ => .pure (proceeds_call_some trivial trivial rfl)
  | releasedAfterGame games played => exact .pure (proceeds_call_some trivial trivial rfl)
  | scoreSeen games played =>
    exact (echoes_enter _).bind_eq fun _ => .pure (proceeds_call_some trivial trivial
      (by rw [frame, Nat.add_right_comm]))
  | cycled | ticksShown | secondPolled | elapsedSeen | edgeSeen => exact hframe.elim

end DigitRace.Guise
