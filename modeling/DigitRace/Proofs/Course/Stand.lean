import DigitRace.Proofs.Cabinet.Reacting
import DigitRace.Proofs.Course.Leg

/-!
# Where the game stands

At each leg of its course the game stands in one of few ways: its task is about to be
called, is carried on, waits, or is over. Which frames the task goes back to is determined
by the leg and by the answer that they take, so the stack of the task is typed by the leg.
That the game stands somewhere at all times is the invariant of its runs.
-/

namespace DigitRace

/-- The frames that take an answer of a sort at a leg. -/
inductive Takes (games : Value) : Leg → Reply → List Frame → Prop
  | characterShown {leg : Leg} {stack : List Frame} (hrest : Takes games leg .flag stack) :
      Takes games leg .flag (.characterShown :: stack)
  | textRest {leg : Leg} {stack : List Frame} {rest : List Value}
      (htext : ∀ character ∈ rest, ∃ s, character = .text s) (hrest : Takes games leg .flag stack) :
      Takes games leg .flag (.textRest rest :: stack)
  | demoTextShown {demos : Nat} :
      Takes games (.demo demos) .flag [.demoTextShown, .demoEnded games]
  | demoEnded {demos : Nat} : Takes games (.demo demos) .flag [.demoEnded games]
  | nextGame {past : Past} :
      Takes games (.rest past) .released [.nextGame games past.games.length]
  | countedDown {past : Past} :
      Takes games (.counting past) .done [.countedDown, .gameEnded games past.games.length]
  | roundPlayed {past : Past} {game : Game} {round : Round} (hfair : round.Fair) :
      Takes games (.racing past game round) .done
        [.roundPlayed, .gameEnded games past.games.length]
  | readyToFlash {past : Past} {game : Game} (n : Int) : Takes games (.lost past game) .released
      [.readyToFlash (.int n), .carsFlashed, .gameEnded games past.games.length]
  | carsFlashed {past : Past} {game : Game} : Takes games (.lost past game) .done
      [.carsFlashed, .gameEnded games past.games.length]
  | gameEnded {past : Past} {game : Game} (hcrashes : game.crashes = Race.fleet) :
      Takes games (.lost past game) .done [.gameEnded games past.games.length]
  | releasedAfterGame {past : Past} {game : Game} :
      Takes games (.gameOver past game) .released [.releasedAfterGame games past.games.length]
  | scoreShown {past : Past} {game : Game} (s : String) : Takes games (.score past game) .flag
      [.scoreShown (.text s), .scoreSeen games past.games.length]
  | scoreSeen {past : Past} {game : Game} :
      Takes games (.score past game) .done [.scoreSeen games past.games.length]
  | returned {past : Past} (hover : Cabinet.allows games past.games.length = .ok false) :
      Takes games (.rest past) .finished []

/-- Between games the task goes back to the next game, or it is over. -/
theorem Takes.at_rest {games : Value} {past : Past} {reply : Reply} {stack : List Frame}
    (h : Takes games (.rest past) reply stack) :
    reply = .released ∧ stack = [.nextGame games past.games.length] ∨
      reply = .finished ∧ stack = [] := by
  generalize hleg : Leg.rest past = leg at h
  induction h with
  | characterShown _ ih =>
    rcases ih hleg with ⟨hreply, -⟩ | ⟨hreply, -⟩ <;> cases hreply
  | textRest _ _ ih =>
    rcases ih hleg with ⟨hreply, -⟩ | ⟨hreply, -⟩ <;> cases hreply
  | nextGame =>
    cases hleg
    exact .inl ⟨rfl, rfl⟩
  | returned =>
    cases hleg
    exact .inr ⟨rfl, rfl⟩
  | _ => cases hleg

/-- A round begins after the countdown, or after a round that left a car. -/
inductive BeginsRound : Leg → Past → Game → Prop
  | first (past : Past) : BeginsRound (.counting past) past []
  | next (past : Past) (game : Game) (hcars : game.crashes < Race.fleet) :
      BeginsRound (.lost past game) past game

/-- A round begins with nothing in it that counts. -/
theorem BeginsRound.racing {leg : Leg} {past : Past} {game : Game}
    (h : BeginsRound leg past game)
    {limit : Value} {cars : Nat} (hholds : leg.Holds limit cars) :
    (Leg.racing past game {}).Holds limit cars ∧
      (Leg.racing past game {}).marks = leg.marks ++ [.entered .playing] := by
  cases h with
  | first past =>
    obtain ⟨hfair, hcars⟩ := hholds
    refine ⟨⟨hfair, by simp, by decide, ?_⟩, ?_⟩
    · rw [Game.crashes_concat, hcars]
      rfl
    · simp [Leg.marks, Game.rounds, Round.opening]
  | next past game hcrashes =>
    obtain ⟨hfair, hrounds, hcars⟩ := hholds
    refine ⟨⟨hfair, hrounds, hcrashes, ?_⟩, ?_⟩
    · rw [Game.crashes_concat]
      simpa using hcars
    · simp [Leg.marks, Round.opening]

/-- The routines that are called at a leg, with the frames that they answer to. -/
inductive Calls (games : Value) : Leg → Routine → List Frame → Prop
  | run : Calls games .start (.run games) []
  | firstDemo : Calls games .start .demo [.demoEnded games]
  | nextDemo (demos : Nat) : Calls games (.demo demos) .demo [.demoEnded games]
  | text {leg : Leg} {stack : List Frame} (s : String) (hrest : Takes games leg .flag stack) :
      Calls games leg (.text (.text s)) stack
  | character {leg : Leg} {stack : List Frame} (s : String) (hrest : Takes games leg .flag stack) :
      Calls games leg (.character (.text s)) stack
  | pressOrEvent {leg : Leg} {stack : List Frame} (hrest : Takes games leg .flag stack) :
      Calls games leg .pressOrEvent stack
  | keyReleased {leg : Leg} {stack : List Frame} (hrest : Takes games leg .released stack) :
      Calls games leg .keyReleased stack
  | game {past : Past} (hallows : Cabinet.allows games past.games.length = .ok true) :
      Calls games (.rest past) .game [.gameEnded games past.games.length]
  | countdown {past : Past} (n : Int) : Calls games (.counting past) (.countdown (.int n))
      [.countedDown, .gameEnded games past.games.length]
  | play {leg : Leg} {past : Past} {game : Game} (hround : BeginsRound leg past game) :
      Calls games leg .play [.roundPlayed, .gameEnded games past.games.length]
  | flashingDigit {past : Past} {game : Game} (n : Int) : Calls games (.lost past game)
      (.flashingDigit (.int n)) [.carsFlashed, .gameEnded games past.games.length]
  | score {past : Past} {game : Game} :
      Calls games (.gameOver past game) .score [.scoreSeen games past.games.length]

/-- Between games the task asks for the key to come up, or for the next game. -/
theorem Calls.at_rest {games : Value} {past : Past} {routine : Routine} {stack : List Frame}
    (h : Calls games (.rest past) routine stack) :
    routine = .keyReleased ∧ stack = [.nextGame games past.games.length] ∨
      routine = .game ∧ Cabinet.allows games past.games.length = .ok true := by
  have hnone {reply : Reply} {stack : List Frame} (hrest : Takes games (.rest past) reply stack)
      (hreleased : reply ≠ .released) (hfinished : reply ≠ .finished) : False := by
    rcases hrest.at_rest with ⟨hreply, -⟩ | ⟨hreply, -⟩
    · exact hreleased hreply
    · exact hfinished hreply
  cases h with
  | text _ hrest => exact (hnone hrest (by simp) (by simp)).elim
  | character _ hrest => exact (hnone hrest (by simp) (by simp)).elim
  | pressOrEvent hrest => exact (hnone hrest (by simp) (by simp)).elim
  | keyReleased hrest =>
    rcases hrest.at_rest with ⟨-, hstack⟩ | ⟨hreply, -⟩
    · exact .inl ⟨rfl, hstack⟩
    · cases hreply
  | game hallows => exact .inr ⟨rfl, hallows⟩
  | play hround => cases hround

/-- A wait that belongs to one stage is at a leg of this stage. -/
def Watch.Kind.Suits (kind : Watch.Kind) (leg : Leg) : Prop :=
  ∀ stage, kind.stage? = some stage → leg.stage = some stage

/-- The waits at a leg, with the frames that they answer to. -/
inductive Waits (games : Value) : Leg → Watch.Kind → List Frame → Prop
  | regular {leg : Leg} {kind : Watch.Kind} {stack : List Frame} (hregular : kind.Regular)
      (hsuits : kind.Suits leg) (hrest : Takes games leg kind.reply stack) :
      Waits games leg kind stack
  | play {past : Past} {game : Game} : Waits games (.racing past game {}) .play
      [.roundPlayed, .gameEnded games past.games.length]

/-- What is not put on the timer waits for the key to come up. -/
theorem Waits.release {games : Value} {leg : Leg} {kind : Watch.Kind} {stack : List Frame}
    (h : Waits games leg kind stack) (hdeaf : kind.hearsTimer = false) : kind = .release := by
  cases h with
  | regular hregular =>
    cases kind with
    | release => rfl
    | edge => exact hregular.elim
    | _ => cases hdeaf
  | play => cases hdeaf

/-- Between games the task waits for nothing but the key to come up. -/
theorem Waits.at_rest {games : Value} {past : Past} {kind : Watch.Kind} {stack : List Frame}
    (h : Waits games (.rest past) kind stack) : kind = .release := by
  cases h with
  | regular _ _ hrest =>
    rcases hrest.at_rest with ⟨hreply, -⟩ | ⟨hreply, -⟩
    · cases kind with
      | release => rfl
      | _ => cases hreply
    · cases kind <;> cases hreply

namespace Cabinet

variable {ω : Type} {c c' : Cabinet ω} {games : Value} {leg leg' : Leg}

/-- The cabinet is at a leg of the course, with a limit for games. -/
structure Upon (games : Value) (leg : Leg) (c : Cabinet ω) : Prop where
  clocked : c.Clocked
  sound : c.race.Sound
  paced : c.timer.rate ≠ 0
  stage : c.stage = leg.stage
  holds : leg.Holds games c.race.cars

/-- The timer runs, or the ticks that it was armed for last take a time that cannot be waited
for. -/
def Ticking (c : Cabinet ω) : Prop :=
  (∃ due, c.EndsAt due) ∨ ∃ fault, Timer.delay c.timer.count c.timer.rate = .error fault

/-- How the game stands at a leg. -/
inductive Stands (games : Value) (leg : Leg) (c : Cabinet ω) : Prop
  | begins (hleg : leg = .start) (hqueued : Queued (.calling (.run games)) [] c)
  | calling {routine : Routine} {stack : List Frame}
      (hcarried : Carried (.calling routine) stack c) (hcalls : Calls games leg routine stack)
      (hends : routine = .pressOrEvent → ∃ due, c.EndsAt due)
  | answering {answer : Answer} {reply : Reply} {stack : List Frame}
      (hcarried : Carried (.answering answer) stack c) (hadmits : reply.Admits answer)
      (htakes : Takes games leg reply stack)
  | waiting {kind : Watch.Kind} {w : Nat} {stack : List Frame} (hlistening : Listening kind w c)
      (htasks : c.tasks = #[{ state := .waiting w, stack }]) (hwaits : Waits games leg kind stack)
      (hticking : kind.hearsTimer = true → c.Ticking)
      (hpressed : kind = .release → c.key.pressed = true)
  | woken {answer : Answer} {reply : Reply} {w : Nat} {stack : List Frame}
      (hqueued : Queued (.waiting w) stack c)
      (hanswer : (c.watches[w]?).bind Watch.ending = some (.answered answer))
      (hadmits : reply.Admits answer) (htakes : Takes games leg reply stack)
  | returned {past : Past} (hleg : leg = .rest past) (hover : Over (.returned .nothing) c)
      (hallows : allows games past.games.length = .ok false)
  | failed {past : Past} {fault : Fault} (hleg : leg = .rest past) (hover : Over (.failed fault) c)
      (hallows : allows games past.games.length = .error fault)

/-- The game has gone on from a leg, and left the marks of this. -/
def Advances (games : Value) (leg : Leg) (c c' : Cabinet ω) : Prop :=
  ∃ leg', Upon games leg' c' ∧ Stands games leg' c' ∧ leg'.marks = leg.marks ++ newMarks c c'

/-! ## Taking over how far the task has come -/

variable {act : Play ω Progress} {state : Task.State} {stack : List Frame} {after : Option Frame}

theorem advances_done {answer : Answer} {reply : Reply} (h : act c = .ok (.done answer) c')
    (hcarried : Carried state stack c') (hupon : Upon games leg' c') (hadmits : reply.Admits answer)
    (htakes : Takes games leg' reply stack) (hmarks : leg'.marks = leg.marks ++ newMarks c c') :
    Advances games leg c (carry 0 act c) := by
  rw [carry_done h hcarried.tasks]
  refine ⟨leg', ⟨hupon.clocked, hupon.sound, hupon.paced, hupon.stage, hupon.holds⟩, ?_, hmarks⟩
  exact .answering (hcarried.goesOver _ _) hadmits htakes

theorem advances_call {routine : Routine} (h : act c = .ok (.call routine after) c')
    (hcarried : Carried state stack c') (hupon : Upon games leg' c')
    (hcalls : Calls games leg' routine (after.toList ++ stack))
    (hends : routine = .pressOrEvent → ∃ due, c'.EndsAt due)
    (hmarks : leg'.marks = leg.marks ++ newMarks c c') :
    Advances games leg c (carry 0 act c) := by
  rw [carry_call h hcarried.tasks]
  refine ⟨leg', ⟨hupon.clocked, hupon.sound, hupon.paced, hupon.stage, hupon.holds⟩, ?_, hmarks⟩
  exact .calling (hcarried.goesOver _ _) hcalls hends

theorem advances_await {kind : Watch.Kind} {w : Nat} (h : act c = .ok (.await w after) c')
    (htasks : c'.tasks = #[{ state, stack }]) (hopened : Opened kind w c')
    (hupon : Upon games leg' c') (hwaits : Waits games leg' kind (after.toList ++ stack))
    (hends : kind.hearsTimer = true → ∃ due, c'.EndsAt due)
    (hpressed : kind = .release → c'.key.pressed = true)
    (hmarks : leg'.marks = leg.marks ++ newMarks c c') :
    Advances games leg c (carry 0 act c) := by
  rw [carry_await h htasks hopened]
  refine ⟨leg', ⟨hupon.clocked, hupon.sound, hupon.paced, hupon.stage, hupon.holds⟩, ?_, hmarks⟩
  exact .waiting (hopened.listening _) rfl hwaits (fun htimer => .inl (hends htimer)) hpressed

end Cabinet

end DigitRace
