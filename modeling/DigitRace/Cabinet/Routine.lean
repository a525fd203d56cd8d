import DigitRace.Cabinet.Reaction

/-!
# Routines

What the tasks of the game do between two waits. A routine ends with an answer, waits
for a watch, or calls another routine; where it has more to do afterwards, it leaves a
frame behind, and the answer is handed to that frame. The loops of the game are frames
that call the same routine again.
-/

namespace DigitRace.Cabinet

variable {ω : Type}

/-- How far a routine or a frame has come. -/
inductive Progress where
  /-- It is over. -/
  | done (answer : Answer)
  /-- It waits for a watch, and `after` is handed the answer. -/
  | await (watch : Nat) (after : Option Frame)
  /-- It calls a routine, and `after` is handed the answer. -/
  | call (routine : Routine) (after : Option Frame)

/-- Ticks for which a character of a text is shown. -/
def characterTicks : Nat := ticksPerSecond / 2

/-- Half periods of the zero at the end of a countdown. -/
def countdownFlashes : Nat := ticksPerSecond / flashTicks

/-- The speed at which the demo starts. -/
def demoSpeed : Nat := 50

/-- Junctions that the demo takes before it ends. -/
def demoLoops : Nat := 20

/-- What the demo says. -/
def startText : String := "Press to play "

/-- What is said after a game. -/
def scoreText (score : Nat) : String := s!"Score {score} Press to play again "

/-- Whether a limit allows for more than `n`; nothing allows for all numbers. -/
def allows (limit : Value) (n : Nat) : Except Fault Bool :=
  match limit with
  | .nothing => .ok true
  | other => do return (n : Rat) < (← other.number)

/-! ## Waits and screens -/

/-- Arms the timer and waits for its next event. -/
def awaitTicks (around : Surroundings ω) (ticks : Value) (after : Option Frame) :
    Play ω Progress := do
  let watch ← openWatch .event
  watchTimer watch
  enable around ticks
  return .await watch after

/-- Waits until the key is up, not at all if it is. -/
def awaitRelease : Play ω Progress := do
  if !(← get).key.pressed then return .done .nothing
  let watch ← openWatch .release
  watchKey watch
  return .await watch none

/-- Waits for a press or the end of the countdown, not at all if there was one. -/
def awaitPressOrEvent : Play ω Progress := do
  let cabinet ← get
  if cabinet.key.pressed || cabinet.timer.elapsed then return .done (.flag cabinet.key.pressed)
  let watch ← openWatch .pressOrEvent
  watchKey watch
  watchTimer watch
  return .await watch none

/-- Counts down from a number, at most from 9, a second for each digit. -/
def beginCountdown (around : Surroundings ω) (count : Value) : Play ω Progress := do
  let count ← count.atMost greatestDigit
  let watch ← openWatch (.countdown count countdownFlashes)
  watchTimer watch
  showDigit around count
  enable around (.int (if count.truthy then digitTicks else flashTicks))
  return .await watch none

/-- Flashes a number now that the key is up. -/
def beginFlashing (around : Surroundings ω) (value : Value) : Play ω Progress := do
  let watch ← openWatch (.flashing value 0)
  watchTimer watch
  showDigit around value
  enable around (.int flashTicks)
  return .await watch none

/-- Shows one character for half a second. -/
def beginCharacter (around : Surroundings ω) (character : Value) : Play ω Progress := do
  showCharacter around character
  enable around (.int characterTicks)
  return .call .pressOrEvent (some .characterShown)

/-- Shows the rest of a text, character by character. -/
def continueText : List Value → Progress
  | [] => .done (.flag false)
  | character :: rest => .call (.character character) (some (.textRest rest))

/-! ## The game -/

/-- Lets the car drive itself. -/
def beginDrive (around : Surroundings ω) : Play ω Progress := do
  resetRace (.int demoSpeed)
  demoOn around
  let watch ← openWatch (.demo true demoLoops)
  watchKey watch
  watchTimer watch
  return .await watch none

/-- Lets the player drive. -/
def beginPlay (around : Surroundings ω) : Play ω Progress := do
  enter .playing
  driveOn around
  let watch ← openWatch .play
  watchKey watch
  watchTimer watch
  return .await watch none

/-- Plays the next game if there is one. -/
def continueGames (games : Value) (played : Nat) : Play ω Progress := do
  if ← allows games played then return .call .game (some (.gameEnded games played))
  else return .done .nothing

/-! ## Self tests -/

/-- A pattern for each character of a text. -/
def patternsOf (text : String) (pattern : Char → String) : List String :=
  text.toList.map pattern

/-- Every segment on its own. -/
def segmentCycle : Cycle :=
  ⟨patternsOf "abcdefgp" Char.toString, ticksPerSecond / 2⟩

/-- The loops of the track: around the digit, and an eight. -/
def racingCycle : Cycle :=
  ⟨patternsOf "abcdefabgedcgf" Char.toString, 5⟩

/-- Every character that has a place in the font. -/
def characterCycle : Cycle :=
  ⟨patternsOf "0123456789ABCDEFGHIJKLMNOPQRSTUVWXYZabcdefghijklmnopqrstuvwxyz_-." Glyph.ofChar,
    ticksPerSecond / 2⟩

/-- Ticks of the countdown in the self test of the timer's event. -/
def elapsedTicks : Nat := 15

/-- Shows the last digit of a number. -/
def showLastDigit (around : Surroundings ω) (n : Int) : Play ω Unit :=
  showCharacter around (.text (toString (n % 10)))

/-- Shows the rest of a round of a cycle, or begins the next round. -/
def continueCycle (around : Surroundings ω) (cycle : Cycle) (rest : List String) (round : Nat)
    (rounds : Value) : Play ω Progress := do
  match rest with
  | pattern :: rest =>
    showPattern around pattern
    awaitTicks around (.int cycle.period) (some (.cycled cycle rest round rounds))
  | [] =>
    match cycle.patterns, ← allows rounds round with
    | pattern :: rest, true =>
      showPattern around pattern
      awaitTicks around (.int cycle.period) (some (.cycled cycle rest (round + 1) rounds))
    | _, _ => return .done .nothing

/-- Shows the tick counter, which moves the digit every 8 ticks. -/
def continueTicks (around : Surroundings ω) (round : Nat) (rounds : Value) : Play ω Progress := do
  if ← allows rounds round then
    let cabinet ← get
    showLastDigit around ((← cabinet.timer.ticks (around.clock cabinet)) / 8)
    awaitTicks around (.int 1) (some (.ticksShown (round + 1) rounds))
  else return .done .nothing

/-- The seconds that the timer's clock shows. -/
def readSeconds (around : Surroundings ω) : Play ω Int := do
  let cabinet ← get
  cabinet.timer.seconds (around.clock cabinet)

/-- Moves the digit on once the second is another than the last. -/
def pollSeconds (around : Surroundings ω) (last digit : Int) (round : Nat) (rounds : Value) :
    Play ω Progress := do
  let second ← readSeconds around
  if second = last then
    awaitTicks around (.int 1) (some (.secondPolled last digit round rounds))
  else
    showLastDigit around (digit + 1)
    return .call (.secondsRound second (digit + 1) (round + 1) rounds) none

/-- Arms the next countdown of the self test. -/
def continueElapsed (around : Surroundings ω) (digit : Int) (round : Nat) (rounds : Value) :
    Play ω Progress := do
  if ← allows rounds round then
    awaitTicks around (.int elapsedTicks) (some (.elapsedSeen digit (round + 1) rounds))
  else return .done .nothing

/-- Waits for the next edge of the key. -/
def continueEdges (round : Nat) (rounds : Value) : Play ω Progress := do
  if ← allows rounds round then
    let watch ← openWatch .edge
    watchKey watch
    return .await watch (some (.edgeSeen (round + 1) rounds))
  else return .done .nothing

/-- Makes the free readings of the timer count from now. -/
def resetClock (around : Surroundings ω) : Play ω Unit :=
  modify fun cabinet => { cabinet with timer := cabinet.timer.resetClock (around.clock cabinet) }

/-- Begins a self test. -/
def beginTest (around : Surroundings ω) (test : SelfTest) (rounds : Value) : Play ω Progress := do
  match test with
  | .segments => continueCycle around segmentCycle [] 0 rounds
  | .racing => continueCycle around racingCycle [] 0 rounds
  | .characters => continueCycle around characterCycle [] 0 rounds
  | .ticks =>
    resetClock around
    continueTicks around 0 rounds
  | .seconds =>
    resetClock around
    let second ← readSeconds around
    showLastDigit around 0
    return .call (.secondsRound second 0 0 rounds) none
  | .elapsed =>
    showLastDigit around 0
    continueElapsed around 0 0 rounds
  | .keys =>
    showCharacter around (.text (if (← get).key.pressed then "_" else "n"))
    continueEdges 0 rounds

/-! ## Beginning and going on -/

/-- Begins a routine. -/
def begin (around : Surroundings ω) : Routine → Play ω Progress
  | .forTicks ticks => awaitTicks around ticks none
  | .keyReleased => awaitRelease
  | .pressOrEvent => awaitPressOrEvent
  | .countdown count => beginCountdown around count
  | .flashingDigit value => do
    return .call .keyReleased (some (.readyToFlash (← value.atMost greatestDigit)))
  | .character character => beginCharacter around character
  | .text text => do return continueText (← text.items)
  | .demo => do
    enter .demo
    return .call (.text (.text startText)) (some .demoTextShown)
  | .play => beginPlay around
  | .game => do
    resetRace (.int 0)
    enter .countdown
    return .call (.countdown (.int 3)) (some .countedDown)
  | .score => do
    enter .scoreDisplay
    let text := Value.text (scoreText (← get).race.score)
    return .call (.text text) (some (.scoreShown text))
  | .run games => return .call .demo (some (.demoEnded games))
  | .selfTest test rounds => beginTest around test rounds
  | .secondsRound last digit round rounds => do
    if ← allows rounds round then pollSeconds around last digit round rounds
    else return .done .nothing

/-- Goes on with a frame that is handed an answer. -/
def resume (around : Surroundings ω) (answer : Answer) : Frame → Play ω Progress
  | .characterShown => do
    if answer = .flag true then return .done answer
    darken around
    enable around (.int 1)
    return .call .pressOrEvent none
  | .textRest rest =>
    if answer = .flag true then return .done answer else return continueText rest
  | .readyToFlash value => beginFlashing around value
  | .demoTextShown => do
    if answer = .flag true then return .done answer else beginDrive around
  | .countedDown => return .call .play (some .roundPlayed)
  | .roundPlayed => do
    enter .carLost
    return .call (.flashingDigit (.int (← get).race.cars)) (some .carsFlashed)
  | .carsFlashed => do
    let race := (← get).race
    if race.isOver then
      note { level := .info, source := "game", message := s!"game over, score {race.score}" }
      return .done .nothing
    else return .call .play (some .roundPlayed)
  | .scoreShown text => do
    if answer = .flag true then return .done .nothing
    else return .call (.text text) (some (.scoreShown text))
  | .demoEnded games => do
    if answer = .flag true then
      enter .demoWaitRelease
      return .call .keyReleased (some (.nextGame games 0))
    else return .call .demo (some (.demoEnded games))
  | .nextGame games played => continueGames games played
  | .gameEnded games played => do
    enter .gameOverWaitRelease
    return .call .keyReleased (some (.releasedAfterGame games played))
  | .releasedAfterGame games played => return .call .score (some (.scoreSeen games played))
  | .scoreSeen games played => do
    enter .scoreWaitRelease
    return .call .keyReleased (some (.nextGame games (played + 1)))
  | .cycled cycle rest round rounds => continueCycle around cycle rest round rounds
  | .ticksShown round rounds => continueTicks around round rounds
  | .secondPolled last digit round rounds => pollSeconds around last digit round rounds
  | .elapsedSeen digit round rounds => do
    if answer = .event .elapsed ∧ (← get).timer.elapsed then
      showLastDigit around (digit + 1)
      continueElapsed around (digit + 1) round rounds
    else return .done .nothing
  | .edgeSeen round rounds => do
    showPattern around (if answer = .flag true then "d" else "ceg")
    continueEdges round rounds

end DigitRace.Cabinet
