import DigitRace.Proofs.Cabinet.Play
import DigitRace.Proofs.Course.Stand

/-!
# Carrying the game on

Wherever the task of the game is, carrying it on by one routine or one frame brings it to
where the game can stand: at the same leg, or at the next one if a stage was entered.
-/

namespace DigitRace

namespace Cabinet

variable {ω : Type} (eye : Onlooker ω) {c c' : Cabinet ω} {games : Value} {leg leg' : Leg}
  {state : Task.State} {stack : List Frame}

/-! ## What does not change -/

theorem marks_same (h : c'.journal = c.journal) : leg.marks = leg.marks ++ newMarks c c' := by
  rw [newMarks_same h, List.append_nil]

theorem marks_none (h : newMarks c c' = []) : leg.marks = leg.marks ++ newMarks c c' := by
  rw [h, List.append_nil]

theorem marks_entered {last : Option Stage} {stage : Stage}
    (h : c'.journal = c.journal.push (stage.note last))
    (hmarks : leg'.marks = leg.marks ++ [.entered stage]) :
    leg'.marks = leg.marks ++ newMarks c c' := by
  rw [newMarks_push h, stage.note_mark, hmarks]
  rfl

/-- A stage that is entered is the one of the next leg. -/
theorem Upon.entered (h : Upon games leg c) {stage : Stage} (hstage : leg'.stage = some stage)
    (hholds : leg'.Holds games c.race.cars) : Upon games leg' (c.entered stage) :=
  ⟨h.clocked, h.sound, h.paced, hstage.symm, hholds⟩

/-- A character or a dark digit is shown, and the timer is armed. -/
theorem Upon.shown (h : Upon games leg c) (ticks : Int) (pattern : String) (outside : ω) :
    Upon games leg (armedFor eye ticks (c.shows pattern outside)) :=
  ⟨.inr ⟨_, armedFor_endsAt eye _ _⟩, h.sound, h.paced, h.stage, h.holds⟩

/-! ## Texts -/

/-- The rest of a text is shown character by character. -/
theorem advances_text {act : Play ω Progress} {rest : List Value}
    (hact : act c = .ok (continueText rest) c) (hcarried : Carried state stack c)
    (hupon : Upon games leg c) (htext : ∀ character ∈ rest, ∃ s, character = .text s)
    (htakes : Takes games leg .flag stack) : Advances games leg c (carry 0 act c) := by
  cases rest with
  | nil => exact advances_done hact hcarried hupon (Reply.admits_flag false) htakes (marks_same rfl)
  | cons character rest =>
    obtain ⟨s, rfl⟩ := htext character (List.mem_cons_self ..)
    have hrest : ∀ character ∈ rest, ∃ s, character = .text s := fun character hmem =>
      htext character (List.mem_cons_of_mem _ hmem)
    exact advances_call hact hcarried hupon (.character s (.textRest hrest htakes)) (by simp)
      (marks_same rfl)

/-- A text begins with its first character. -/
private theorem carry_text (s : String) (hcarried : Carried state stack c)
    (hupon : Upon games leg c) (htakes : Takes games leg .flag stack) :
    Advances games leg c (carry 0 (begin eye.around (.text (.text s))) c) := by
  refine advances_text (begin_text eye s) hcarried hupon ?_ htakes
  intro character hmem
  obtain ⟨char, -, rfl⟩ := List.mem_map.mp hmem
  exact ⟨char.toString, rfl⟩

private theorem carry_character (s : String) (hcarried : Carried state stack c)
    (hupon : Upon games leg c) (htakes : Takes games leg .flag stack) :
    Advances games leg c (carry 0 (begin eye.around (.character (.text s))) c) := by
  obtain ⟨outside, hact⟩ := begin_character eye s hupon.clocked hupon.paced
  exact advances_call hact (hcarried.shown eye _ _ outside) (hupon.shown eye _ _ outside)
    (.pressOrEvent (.characterShown htakes)) (fun _ => ⟨_, armedFor_endsAt eye _ _⟩)
    (marks_same rfl)

private theorem carry_characterShown (pressed : Bool) (hcarried : Carried state stack c)
    (hupon : Upon games leg c) (htakes : Takes games leg .flag stack) :
    Advances games leg c (carry 0 (resume eye.around (.flag pressed) .characterShown) c) := by
  obtain ⟨outside, hact⟩ := resume_characterShown eye pressed hupon.clocked hupon.paced
  cases pressed with
  | true => exact advances_done hact hcarried hupon (Reply.admits_flag true) htakes (marks_same rfl)
  | false =>
    exact advances_call hact (hcarried.shown eye _ _ outside) (hupon.shown eye _ _ outside)
      (.pressOrEvent htakes) (fun _ => ⟨_, armedFor_endsAt eye _ _⟩) (marks_same rfl)

private theorem carry_textRest (pressed : Bool) {rest : List Value}
    (hcarried : Carried state stack c) (hupon : Upon games leg c)
    (htext : ∀ character ∈ rest, ∃ s, character = .text s) (htakes : Takes games leg .flag stack) :
    Advances games leg c (carry 0 (resume eye.around (.flag pressed) (.textRest rest)) c) := by
  have hact := resume_textRest eye (c := c) pressed rest
  cases pressed with
  | true => exact advances_done hact hcarried hupon (Reply.admits_flag true) htakes (marks_same rfl)
  | false => exact advances_text hact hcarried hupon htext htakes

/-! ## Waits -/

private theorem carry_pressOrEvent (hcarried : Carried state stack c) (hupon : Upon games leg c)
    (htakes : Takes games leg .flag stack) (hends : ∃ due, c.EndsAt due) :
    Advances games leg c (carry 0 (begin eye.around .pressOrEvent) c) := by
  have hact := begin_pressOrEvent eye hcarried.deaf
  by_cases hover : (c.key.pressed || c.timer.elapsed) = true
  · rw [if_pos hover] at hact
    exact advances_done hact hcarried hupon (Reply.admits_flag _) htakes (marks_same rfl)
  · rw [if_neg hover] at hact
    have hupon' : Upon games leg (c.opened .pressOrEvent) :=
      ⟨hupon.clocked, hupon.sound, hupon.paced, hupon.stage, hupon.holds⟩
    exact advances_await hact hcarried.tasks (opened_opened _ hcarried.ready) hupon'
      (.regular trivial nofun htakes) (fun _ => hends) (by simp) (marks_same rfl)

private theorem carry_keyReleased (hcarried : Carried state stack c) (hupon : Upon games leg c)
    (htakes : Takes games leg .released stack) :
    Advances games leg c (carry 0 (begin eye.around .keyReleased) c) := by
  have hact := begin_keyReleased eye hcarried.deaf
  by_cases hpressed : c.key.pressed = true
  · rw [if_pos hpressed] at hact
    have hupon' : Upon games leg (c.opened .release) :=
      ⟨hupon.clocked, hupon.sound, hupon.paced, hupon.stage, hupon.holds⟩
    exact advances_await hact hcarried.tasks (opened_opened _ hcarried.ready) hupon'
      (.regular trivial nofun htakes) (by simp [Watch.Kind.hearsTimer]) (fun _ => hpressed)
      (marks_same rfl)
  · rw [if_neg hpressed] at hact
    exact advances_done hact hcarried hupon Reply.admits_released htakes (marks_same rfl)

/-- A watch that shows something first is opened with the timer armed. -/
private theorem Upon.openedShown (h : Upon games leg c) (kind : Watch.Kind) (ticks : Int)
    (pattern : String) (outside : ω) :
    Upon games leg (armedFor eye ticks ((c.opened kind).shows pattern outside)) :=
  ⟨.inr ⟨_, armedFor_endsAt eye _ _⟩, h.sound, h.paced, h.stage, h.holds⟩

private theorem Carried.openedShown (h : Carried state stack c) (kind : Watch.Kind) (ticks : Int)
    (pattern : String) (outside : ω) :
    Opened kind c.watches.size (armedFor eye ticks ((c.opened kind).shows pattern outside)) :=
  have hopened := opened_opened (c := c) kind h.ready
  ⟨hopened.watch, hopened.timer, hopened.key, hopened.ready⟩

private theorem carry_countdown (n : Int) {past : Past}
    (hcarried : Carried state [.countedDown, .gameEnded games past.games.length] c)
    (hupon : Upon games (.counting past) c) : Advances games (.counting past) c
      (carry 0 (begin eye.around (.countdown (.int n))) c) := by
  obtain ⟨outside, ticks, hact⟩ :=
    begin_countdown eye n hcarried.deaf hupon.clocked hupon.paced
  exact advances_await hact hcarried.tasks (hcarried.openedShown eye _ ticks _ outside)
    (hupon.openedShown eye _ ticks _ outside) (.regular ⟨_, rfl⟩ (fun _ => id) .countedDown)
    (fun _ => ⟨_, armedFor_endsAt eye _ _⟩) (by simp) (marks_same rfl)

/-! ## The demo -/

private theorem carry_run (hcarried : Carried state [] c) (hupon : Upon games .start c) :
    Advances games .start c (carry 0 (begin eye.around (.run games)) c) := by
  have hact : begin eye.around (.run games) c = .ok (.call .demo (some (.demoEnded games))) c := rfl
  exact advances_call hact hcarried hupon .firstDemo (by simp) (marks_same rfl)

/-- The demo begins with its text. -/
private theorem carry_demo (demos : Nat) (hcarried : Carried state [.demoEnded games] c)
    (hupon : Upon games leg c) (hmarks : (Leg.demo demos).marks = leg.marks ++ [.entered .demo]) :
    Advances games leg c (carry 0 (begin eye.around .demo) c) := by
  have hupon' : Upon games (.demo demos) (c.entered .demo) := hupon.entered rfl trivial
  exact advances_call (begin_demo eye) (hcarried.entered .demo) hupon'
    (.text startText .demoTextShown) (by simp) (marks_entered rfl hmarks)

private theorem carry_demoTextShown (pressed : Bool) {demos : Nat}
    (hcarried : Carried state [.demoEnded games] c) (hupon : Upon games (.demo demos) c) :
    Advances games (.demo demos) c
      (carry 0 (resume eye.around (.flag pressed) .demoTextShown) c) := by
  cases pressed with
  | true =>
    have hact : resume eye.around (.flag true) .demoTextShown c = .ok (.done (.flag true)) c := by
      simp [resume]
    exact advances_done hact hcarried hupon (Reply.admits_flag true) .demoEnded (marks_same rfl)
  | false =>
    obtain ⟨outside, hact⟩ := resume_demoTextShown eye hcarried.deaf
      hupon.sound.drivable hupon.clocked hupon.paced
    obtain ⟨-, hsound, -, -⟩ := hupon.sound.reset_apply demoSpeed
    let driven := armedFor eye ((c.race.restarted demoSpeed).driven.wait - steerTicks)
      ((c.restarted demoSpeed).ticked outside)
    have hends : ∃ due, EndsAt due (driven.opened (.demo true demoLoops)) :=
      ⟨_, armedFor_endsAt eye _ _⟩
    have hupon' : Upon games (.demo demos) (driven.opened (.demo true demoLoops)) :=
      ⟨.inr hends, hsound.driven, hupon.paced, hupon.stage, trivial⟩
    exact advances_await hact hcarried.tasks
      (opened_opened (c := driven) (.demo true demoLoops) hcarried.ready) hupon'
      (.regular trivial (fun _ => id) .demoEnded) (fun _ => hends) (by simp)
      (marks_none ((newMarks_append rfl).trans (Race.driveNotes_marks _)))

/-- A demo that was ended by a press is followed by the first game, and by another demo if not. -/
private theorem carry_demoEnded (pressed : Bool) {demos : Nat} (hcarried : Carried state [] c)
    (hupon : Upon games (.demo demos) c) : Advances games (.demo demos) c
      (carry 0 (resume eye.around (.flag pressed) (.demoEnded games)) c) := by
  cases pressed with
  | true =>
    have hact : resume eye.around (.flag true) (.demoEnded games) c =
        .ok (.call .keyReleased (some (.nextGame games 0))) (c.entered .demoWaitRelease) := by
      simp [resume, enter_apply]
    have hupon' : Upon games (.rest ⟨demos, []⟩) (c.entered .demoWaitRelease) :=
      hupon.entered rfl ⟨by simp, by simp⟩
    refine advances_call hact (hcarried.entered _) hupon' (.keyReleased .nextGame) (by simp) ?_
    exact marks_entered rfl (by simp [Leg.marks, Past.marks])
  | false =>
    have hact : resume eye.around (.flag false) (.demoEnded games) c =
        .ok (.call .demo (some (.demoEnded games))) c := by simp [resume]
    exact advances_call hact hcarried hupon (.nextDemo demos) (by simp) (marks_same rfl)

/-! ## Games -/

/-- The next game begins if there is one, and else the task has come to its end. -/
private theorem carry_nextGame {past : Past} (hcarried : Carried state [] c)
    (hupon : Upon games (.rest past) c) (answer : Answer) : Advances games (.rest past) c
      (carry 0 (resume eye.around answer (.nextGame games past.games.length)) c) := by
  cases hallows : allows games past.games.length with
  | ok more =>
    cases more with
    | true =>
      have hact : resume eye.around answer (.nextGame games past.games.length) c =
          .ok (.call .game (some (.gameEnded games past.games.length))) c := by
        simp [resume, continueGames, hallows]
      exact advances_call hact hcarried hupon (.game hallows) (by simp) (marks_same rfl)
    | false =>
      have hact : resume eye.around answer (.nextGame games past.games.length) c =
          .ok (.done .nothing) c := by
        simp [resume, continueGames, hallows]
      exact advances_done hact hcarried hupon Reply.admits_finished (.returned hallows)
        (marks_same rfl)
  | error fault =>
    have hact : resume eye.around answer (.nextGame games past.games.length) c =
        .error fault c := by
      simp [resume, continueGames, hallows]
    rw [carry_error hact hcarried.tasks]
    refine ⟨.rest past, ⟨hupon.clocked, hupon.sound, hupon.paced, hupon.stage, hupon.holds⟩,
      .failed rfl ?_ hallows, marks_same rfl⟩
    exact ⟨rfl, rfl, hcarried.ready, hcarried.deaf⟩

/-- A game begins with all cars. -/
private theorem carry_game {past : Past} (hallows : allows games past.games.length = .ok true)
    (hcarried : Carried state [.gameEnded games past.games.length] c)
    (hupon : Upon games (.rest past) c) :
    Advances games (.rest past) c (carry 0 (begin eye.around .game) c) := by
  obtain ⟨-, hsound, -, hcars⟩ := hupon.sound.reset_apply 0
  have hact : begin eye.around .game c = .ok (.call (.countdown (.int 3)) (some .countedDown))
      ((c.restarted 0).entered .countdown) := by
    have hreset := resetRace_apply c hupon.sound 0
    simp only [begin, Act.bind_apply, hreset, enter_apply]
    rfl
  have hcarried' : Carried state [.gameEnded games past.games.length]
      ((c.restarted 0).entered .countdown) :=
    ⟨hcarried.tasks, hcarried.active, hcarried.ready, hcarried.deaf⟩
  have hupon' : Upon games (.counting past) ((c.restarted 0).entered .countdown) :=
    ⟨hupon.clocked, hsound, hupon.paced, rfl, ⟨hupon.holds, hallows⟩, hcars⟩
  exact advances_call hact hcarried' hupon' (.countdown 3) (by simp)
    (marks_entered rfl rfl)

private theorem carry_countedDown (answer : Answer) {past : Past}
    (hcarried : Carried state [.gameEnded games past.games.length] c)
    (hupon : Upon games (.counting past) c) : Advances games (.counting past) c
      (carry 0 (resume eye.around answer .countedDown) c) := by
  have hact : resume eye.around answer .countedDown c =
      .ok (.call .play (some .roundPlayed)) c := rfl
  exact advances_call hact hcarried hupon (.play (.first past)) (by simp) (marks_same rfl)

/-! ## Rounds -/

/-- A round begins by driving on. -/
private theorem carry_play {past : Past} {game : Game} (hround : BeginsRound leg past game)
    (hcarried : Carried state [.roundPlayed, .gameEnded games past.games.length] c)
    (hupon : Upon games leg c) :
    Advances games leg c (carry 0 (begin eye.around .play) c) := by
  obtain ⟨outside, hact⟩ :=
    beginPlay_apply eye hupon.sound hupon.clocked hupon.paced hcarried.deaf
  obtain ⟨hholds, hmarks⟩ := hround.racing hupon.holds
  let driven := armedFor eye c.race.driven.wait ((c.entered .playing).ticked outside)
  have hends : ∃ due, EndsAt due (driven.opened .play) := ⟨_, armedFor_endsAt eye _ _⟩
  have hcars : c.race.driven.cars = c.race.cars := hupon.sound.driven_cars
  have hupon' : Upon games (.racing past game {}) (driven.opened .play) :=
    ⟨.inr hends, hupon.sound.driven, hupon.paced, rfl, by
      change (Leg.racing past game {}).Holds games c.race.driven.cars
      rw [hcars]
      exact hholds⟩
  have hjournal : (driven.opened .play).journal =
      c.journal ++ (Stage.playing.note c.stage :: c.race.driveNotes).toArray := by
    simp [driven, opened, armedFor, ticked, entered]
  have hnew : newMarks c (driven.opened .play) = [.entered .playing] := by
    rw [newMarks_append hjournal, List.filterMap_cons, Stage.note_mark, Race.driveNotes_marks]
  refine advances_await hact hcarried.tasks (opened_opened (c := driven) .play hcarried.ready)
    hupon' .play (fun _ => hends) (by simp) ?_
  rw [hmarks, hnew]

/-- A round that is over is followed by the number of cars. -/
private theorem carry_roundPlayed (answer : Answer) {past : Past} {game : Game} {round : Round}
    (hfair : round.Fair) (hcarried : Carried state [.gameEnded games past.games.length] c)
    (hupon : Upon games (.racing past game round) c) : Advances games (.racing past game round) c
      (carry 0 (resume eye.around answer .roundPlayed) c) := by
  have hact := resume_roundPlayed eye (c := c) answer
  obtain ⟨hpast, hrounds, -, hcars⟩ := hupon.holds
  have hupon' : Upon games (.lost past (game ++ [round])) (c.entered .carLost) := by
    refine hupon.entered rfl ⟨hpast, ?_, hcars⟩
    intro played hmem
    rcases List.mem_append.mp hmem with hbefore | hlast
    · exact hrounds played hbefore
    · rw [List.mem_singleton.mp hlast]
      exact hfair
  refine advances_call hact (hcarried.entered _) hupon' (.flashingDigit _) (by simp) ?_
  exact marks_entered rfl (by simp [Leg.marks, Game.rounds, Round.marks])

private theorem carry_flashingDigit (n : Int) {past : Past} {game : Game}
    (hcarried : Carried state [.carsFlashed, .gameEnded games past.games.length] c)
    (hupon : Upon games (.lost past game) c) : Advances games (.lost past game) c
      (carry 0 (begin eye.around (.flashingDigit (.int n))) c) := by
  exact advances_call (begin_flashingDigit eye n) hcarried hupon (.keyReleased (.readyToFlash _))
    (by simp) (marks_same rfl)

private theorem carry_readyToFlash (answer : Answer) (n : Int) {past : Past} {game : Game}
    (hcarried : Carried state [.carsFlashed, .gameEnded games past.games.length] c)
    (hupon : Upon games (.lost past game) c) : Advances games (.lost past game) c
      (carry 0 (resume eye.around answer (.readyToFlash (.int n))) c) := by
  obtain ⟨outside, hact⟩ :=
    resume_readyToFlash eye answer n hcarried.deaf hupon.clocked hupon.paced
  exact advances_await hact hcarried.tasks (hcarried.openedShown eye _ _ _ outside)
    (hupon.openedShown eye _ _ _ outside) (.regular ⟨n, rfl⟩ (fun _ => id) .carsFlashed)
    (fun _ => ⟨_, armedFor_endsAt eye _ _⟩) (by simp) (marks_same rfl)

/-- With a car left the next round begins, and without one the game is over. -/
private theorem carry_carsFlashed (answer : Answer) {past : Past} {game : Game}
    (hcarried : Carried state [.gameEnded games past.games.length] c)
    (hupon : Upon games (.lost past game) c) : Advances games (.lost past game) c
      (carry 0 (resume eye.around answer .carsFlashed) c) := by
  obtain ⟨-, -, hcars⟩ := hupon.holds
  by_cases hover : c.race.cars = 0
  · let ended := { c with journal := c.journal.push {
      level := .info, source := "game", message := s!"game over, score {c.race.score}" } }
    have hact : resume eye.around answer .carsFlashed c = .ok (.done .nothing) ended := by
      simp [resume, Race.isOver, hover, note, ended]
    have hcarried' : Carried state [.gameEnded games past.games.length] ended :=
      ⟨hcarried.tasks, hcarried.active, hcarried.ready, hcarried.deaf⟩
    have hupon' : Upon games (.lost past game) ended :=
      ⟨hupon.clocked, hupon.sound, hupon.paced, hupon.stage, hupon.holds⟩
    have hcrashes : game.crashes = Race.fleet := by omega
    refine advances_done hact hcarried' hupon' Reply.admits_done (.gameEnded hcrashes) ?_
    exact marks_none ((newMarks_push rfl).trans (by simp [Record.mark?]))
  · have hact : resume eye.around answer .carsFlashed c =
        .ok (.call .play (some .roundPlayed)) c := by
      simp [resume, Race.isOver, hover]
    have hcrashes : game.crashes < Race.fleet := by omega
    exact advances_call hact hcarried hupon (.play (.next past game hcrashes)) (by simp)
      (marks_same rfl)

/-! ## After a game -/

/-- The key is to come up once all cars are lost. -/
private theorem carry_gameEnded (answer : Answer) {past : Past} {game : Game}
    (hcrashes : game.crashes = Race.fleet) (hcarried : Carried state [] c)
    (hupon : Upon games (.lost past game) c) : Advances games (.lost past game) c
      (carry 0 (resume eye.around answer (.gameEnded games past.games.length)) c) := by
  have hact : resume eye.around answer (.gameEnded games past.games.length) c =
      .ok (.call .keyReleased (some (.releasedAfterGame games past.games.length)))
        (c.entered .gameOverWaitRelease) := by
    simp [resume, enter_apply]
  obtain ⟨hpast, hrounds, hcars⟩ := hupon.holds
  have hnone : c.race.cars = 0 := by omega
  have hupon' : Upon games (.gameOver past game) (c.entered .gameOverWaitRelease) :=
    hupon.entered rfl ⟨hpast, ⟨hrounds, hcrashes⟩, hnone⟩
  refine advances_call hact (hcarried.entered _) hupon' (.keyReleased .releasedAfterGame)
    (by simp) ?_
  exact marks_entered rfl (by simp [Leg.marks])

private theorem carry_releasedAfterGame (answer : Answer) {past : Past} {game : Game}
    (hcarried : Carried state [] c) (hupon : Upon games (.gameOver past game) c) :
    Advances games (.gameOver past game) c
      (carry 0 (resume eye.around answer (.releasedAfterGame games past.games.length)) c) := by
  have hact : resume eye.around answer (.releasedAfterGame games past.games.length) c =
      .ok (.call .score (some (.scoreSeen games past.games.length))) c := rfl
  exact advances_call hact hcarried hupon .score (by simp) (marks_same rfl)

/-- The score is shown as a text. -/
private theorem carry_score {past : Past} {game : Game}
    (hcarried : Carried state [.scoreSeen games past.games.length] c)
    (hupon : Upon games (.gameOver past game) c) :
    Advances games (.gameOver past game) c (carry 0 (begin eye.around .score) c) := by
  let text := scoreText c.race.score
  have hact : begin eye.around .score c =
      .ok (.call (.text (.text text)) (some (.scoreShown (.text text))))
        (c.entered .scoreDisplay) := by
    simp [begin, enter_apply, entered, text]
  have hupon' : Upon games (.score past game) (c.entered .scoreDisplay) :=
    hupon.entered rfl hupon.holds
  refine advances_call hact (hcarried.entered _) hupon' (.text text (.scoreShown text)) (by simp) ?_
  exact marks_entered rfl (by simp [Leg.marks])

/-- The score is shown again and again until there is a press. -/
private theorem carry_scoreShown (pressed : Bool) (s : String) {past : Past} {game : Game}
    (hcarried : Carried state [.scoreSeen games past.games.length] c)
    (hupon : Upon games (.score past game) c) : Advances games (.score past game) c
      (carry 0 (resume eye.around (.flag pressed) (.scoreShown (.text s))) c) := by
  cases pressed with
  | true =>
    have hact : resume eye.around (.flag true) (.scoreShown (.text s)) c =
        .ok (.done .nothing) c := by simp [resume]
    exact advances_done hact hcarried hupon Reply.admits_done .scoreSeen (marks_same rfl)
  | false =>
    have hact : resume eye.around (.flag false) (.scoreShown (.text s)) c =
        .ok (.call (.text (.text s)) (some (.scoreShown (.text s)))) c := by simp [resume]
    exact advances_call hact hcarried hupon (.text s (.scoreShown s)) (by simp) (marks_same rfl)

/-- With the score a game is complete. -/
private theorem carry_scoreSeen (answer : Answer) {past : Past} {game : Game}
    (hcarried : Carried state [] c) (hupon : Upon games (.score past game) c) :
    Advances games (.score past game) c
      (carry 0 (resume eye.around answer (.scoreSeen games past.games.length)) c) := by
  have hlength : (past.withGame game).games.length = past.games.length + 1 := by
    simp [Past.withGame]
  have hact : resume eye.around answer (.scoreSeen games past.games.length) c =
      .ok (.call .keyReleased (some (.nextGame games (past.withGame game).games.length)))
        (c.entered .scoreWaitRelease) := by
    rw [hlength]
    simp [resume, enter_apply]
  obtain ⟨hpast, hfair, -⟩ := hupon.holds
  have hpast' : (past.withGame game).Fair games := hpast.withGame hfair
  have hupon' : Upon games (.rest (past.withGame game)) (c.entered .scoreWaitRelease) :=
    hupon.entered (by simp [Leg.stage, Past.withGame]) hpast'
  refine advances_call hact (hcarried.entered _) hupon' (.keyReleased .nextGame) (by simp) ?_
  exact marks_entered rfl (by simp [Leg.marks, Past.marks, Past.withGame, Game.marks])

/-! ## All of it -/

/-- A routine that is called brings the game on. -/
theorem carry_calls {routine : Routine} (hcalls : Calls games leg routine stack)
    (hcarried : Carried (.calling routine) stack c) (hupon : Upon games leg c)
    (hends : routine = .pressOrEvent → ∃ due, c.EndsAt due) :
    Advances games leg c (carry 0 (begin eye.around routine) c) := by
  cases hcalls with
  | run => exact carry_run eye hcarried hupon
  | firstDemo => exact carry_demo eye 0 hcarried hupon rfl
  | nextDemo demos =>
    exact carry_demo eye (demos + 1) hcarried hupon (by simp [Leg.marks, List.replicate_succ'])
  | text s hrest => exact carry_text eye s hcarried hupon hrest
  | character s hrest => exact carry_character eye s hcarried hupon hrest
  | pressOrEvent hrest => exact carry_pressOrEvent eye hcarried hupon hrest (hends rfl)
  | keyReleased hrest => exact carry_keyReleased eye hcarried hupon hrest
  | game hallows => exact carry_game eye hallows hcarried hupon
  | countdown n => exact carry_countdown eye n hcarried hupon
  | play hround => exact carry_play eye hround hcarried hupon
  | flashingDigit n => exact carry_flashingDigit eye n hcarried hupon
  | score => exact carry_score eye hcarried hupon

/-- An answer that a frame takes brings the game on, and without a frame the task is over. -/
theorem carry_takes {answer : Answer} {reply : Reply}
    (htakes : Takes games leg reply stack) (hadmits : reply.Admits answer)
    (hcarried : Carried (.answering answer) stack c) (hupon : Upon games leg c) :
    Advances games leg c (carryOn eye.around 0 c) := by
  cases stack with
  | nil =>
    cases htakes with
    | @returned past hallows =>
      obtain rfl : answer = .nothing := hadmits
      rw [hcarried.carryOn_over]
      refine ⟨.rest past, ⟨hupon.clocked, hupon.sound, hupon.paced, hupon.stage, hupon.holds⟩,
        .returned rfl ?_ hallows, marks_same rfl⟩
      exact ⟨rfl, rfl, hcarried.ready, hcarried.deaf⟩
  | cons frame stack =>
    let popped := { c with tasks := #[{ state := .answering answer, stack }] }
    have hpopped : Carried (.answering answer) stack popped :=
      hcarried.goesOver _ _
    have hupon' : Upon games leg popped :=
      ⟨hupon.clocked, hupon.sound, hupon.paced, hupon.stage, hupon.holds⟩
    rw [hcarried.carryOn_answering]
    change Advances games leg popped (carry 0 (resume eye.around answer frame) popped)
    cases htakes with
    | characterShown hrest =>
      obtain ⟨pressed, rfl⟩ := hadmits
      exact carry_characterShown eye pressed hpopped hupon' hrest
    | textRest htext hrest =>
      obtain ⟨pressed, rfl⟩ := hadmits
      exact carry_textRest eye pressed hpopped hupon' htext hrest
    | demoTextShown =>
      obtain ⟨pressed, rfl⟩ := hadmits
      exact carry_demoTextShown eye pressed hpopped hupon'
    | demoEnded =>
      obtain ⟨pressed, rfl⟩ := hadmits
      exact carry_demoEnded eye pressed hpopped hupon'
    | nextGame => exact carry_nextGame eye hpopped hupon' answer
    | countedDown => exact carry_countedDown eye answer hpopped hupon'
    | roundPlayed hfair => exact carry_roundPlayed eye answer hfair hpopped hupon'
    | readyToFlash n => exact carry_readyToFlash eye answer n hpopped hupon'
    | carsFlashed => exact carry_carsFlashed eye answer hpopped hupon'
    | gameEnded hcrashes => exact carry_gameEnded eye answer hcrashes hpopped hupon'
    | releasedAfterGame => exact carry_releasedAfterGame eye answer hpopped hupon'
    | scoreShown s =>
      obtain ⟨pressed, rfl⟩ := hadmits
      exact carry_scoreShown eye pressed s hpopped hupon'
    | scoreSeen => exact carry_scoreSeen eye answer hpopped hupon'

end Cabinet

end DigitRace
