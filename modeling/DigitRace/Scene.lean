import DigitRace.Cabinet.Names
import DigitRace.Cabinet.Run

/-!
# Scenes

A scene plays the game with a player who follows rules. At every pattern that is shown,
each rule in turn looks at the stage, the pattern and the score; when it holds, the
player moves the key or calls the countdown off, either within the same moment or as
soon as the game has done with it.
-/

namespace DigitRace

/-- What a player does. -/
inductive PlayerDeed where
  | move (pressed : Bool)
  | disable
  deriving DecidableEq

/-- What kind of pattern a rule waits for. -/
inductive Occasion where
  | any
  /-- At least one segment is lit. -/
  | lit
  | junction
  /-- No junction is lit. -/
  | plain
  deriving DecidableEq

/-- When a player does something, and what. -/
structure Rule where
  /-- The names of the stages, `none` for the time before the first one. -/
  stages : Option (List (Option String)) := none
  occasion : Occasion := .any
  patterns : Option (List String) := none
  minScore : Int := 0
  maxScore : Option Int := none
  /-- Occasions that are passed over before the first. -/
  skip : Int := 0
  /-- Occasions that are taken at most. -/
  most : Option Int := none
  deeds : List PlayerDeed
  /-- The player acts within the moment. -/
  atOnce : Bool := false

/-- A rule, and how often it held and was followed. -/
structure RuleState where
  rule : Rule
  held : Nat := 0
  followed : Nat := 0

/-- The player, and the patterns seen with their times in ticks. -/
structure Player where
  rules : Array RuleState := #[]
  writes : Array (Rat × String) := #[]
  /-- All patterns ever seen. -/
  seen : Nat := 0
  /-- Ticks by which the timer's clock runs ahead with every pattern. -/
  ticksPerWrite : Rat := 0

/-- A game with its player. -/
abbrev Scene := Cabinet Player

namespace Scene

open Cabinet

/-- The time in ticks. -/
def ticksNow (scene : Scene) : Rat :=
  scene.agenda.now * scene.timer.rate

/-- What the timer's clock shows. -/
def clock (scene : Scene) : Rat :=
  scene.agenda.now
    + (scene.outside.seen : Rat) * scene.outside.ticksPerWrite / (scene.timer.rate : Rat)

/-- Whether a rule holds when a pattern is shown. -/
def holds (rule : Rule) (pattern : String) (scene : Scene) : Bool :=
  let score : Int := scene.race.score
  rule.stages.all (·.contains (scene.stage.map Stage.name))
    && (match rule.occasion with
      | .any => true
      | .lit => !pattern.isEmpty
      | .junction => scene.race.atJunction
      | .plain => !scene.race.atJunction)
    && rule.patterns.all (·.contains pattern)
    && rule.minScore ≤ score
    && rule.maxScore.all fun bound => score ≤ bound

/-- Does what a player does within the moment. -/
def doNow (around : Surroundings Player) : PlayerDeed → Play Player Unit
  | .move pressed => move around pressed
  | .disable => disable around

/-- The call by which a player's deed is done later. -/
def later : PlayerDeed → Call
  | .move pressed => .move pressed
  | .disable => .disable

/-- Counts an occasion of a rule. Tells whether it is to be taken, and counts that too. -/
def taken (state : RuleState) : Bool × RuleState :=
  let state := { state with held := state.held + 1 }
  if (state.held : Int) ≤ state.rule.skip then (false, state)
  else if state.rule.most.any fun most => most ≤ (state.followed : Int) then (false, state)
  else (true, { state with followed := state.followed + 1 })

/-- Lets the player follow the rule of a number if it holds. -/
def applyRule (around : Surroundings Player) (pattern : String) (number : Nat) :
    Play Player Unit := do
  let scene ← get
  match scene.outside.rules[number]? with
  | none => pure ()
  | some state =>
    if holds state.rule pattern scene then
      let (follow, state) := taken state
      set { scene with
        outside := { scene.outside with rules := scene.outside.rules.setIfInBounds number state } }
      if follow then
        state.rule.deeds.forM fun deed =>
          if state.rule.atOnce then doNow around deed
          else modify fun scene => { scene with agenda := scene.agenda.callSoon (later deed) }

/-- Keeps a pattern with its time. -/
def keep (pattern : String) : Play Player Unit :=
  modify fun scene =>
    { scene with
      outside := { scene.outside with
        writes := scene.outside.writes.push (ticksNow scene, pattern)
        seen := scene.outside.seen + 1 } }

/-- The surroundings of a scene. What the player does within a moment can make the digit show more;
the player reacts to that in the same way, `depth` times within each other. -/
def around : Nat → Surroundings Player
  | 0 => { observe := keep, showEdge := fun _ => pure (), clock := clock }
  | depth + 1 => {
      observe := fun pattern => do
        keep pattern
        let count := (← get).outside.rules.size
        (List.range count).forM (applyRule (around depth) pattern)
      showEdge := fun _ => pure ()
      clock := clock }

/-- How often a player reacts within a reaction. -/
def reactionDepth : Nat := 200

/-- The surroundings that scenes are played in. -/
def theatre : Surroundings Player :=
  around reactionDepth

/-- What can be done in a scene. Times are in ticks. -/
inductive Action where
  | start (path : String) (arguments : List Value)
  | move (pressed : Bool)
  | enable (ticks : Value)
  | disable
  | advance (ticks : Rat)
  | finish (ticks : Rat)
  /-- Cancels the task of a number; numbers below zero count from the last one. -/
  | cancel (number : Int)
  | digit (value : Value)
  | reset (speed : Value)
  | tick
  | steer

/-- The time that a number of ticks takes. -/
def span (ticks : Rat) (scene : Scene) : Rat :=
  ticks / (scene.timer.rate : Rat)

/-- Does an action. -/
def perform : Action → Play Player Unit
  | .start path arguments => do
    let routine ← Routine.ofPath path arguments
    modify (spawn routine)
  | .move pressed => Cabinet.move theatre pressed
  | .enable ticks => Cabinet.enable theatre ticks
  | .disable => Cabinet.disable theatre
  | .advance ticks => modify fun scene => Cabinet.advance theatre (span ticks scene) scene
  | .finish ticks => modify fun scene => Cabinet.finish theatre (span ticks scene) scene
  | .cancel number => do
    let count := (← get).tasks.size
    let place := if number < 0 then number + count else number
    if 0 ≤ place ∧ place < count then modify (Cabinet.cancel place.toNat)
    else throw .outOfRange
  | .digit value => showDigit theatre value
  | .reset speed => resetRace speed
  | .tick => Cabinet.tick theatre
  | .steer => do let _ ← Cabinet.steer theatre

/-- The scene before its next step, with nothing written down yet. -/
def cleared (scene : Scene) : Scene :=
  { scene with journal := #[], outside := { scene.outside with writes := #[] } }

/-- Does the actions of one step up to the first failure, and then all that takes no time. -/
def step (actions : List Action) (scene : Scene) : Except Fault Unit × Scene :=
  let (outcome, after) := Act.result (actions.forM perform) scene.cleared
  (outcome, Cabinet.settle theatre after)

/-- What each of a list of steps comes to, and the scene after it. -/
def outcomes : Scene → List (List Action) → List (Except Fault Unit × Scene)
  | _, [] => []
  | scene, actions :: rest =>
    let (outcome, after) := step actions scene
    (outcome, after) :: outcomes after rest

/-- A scene on a circuit that passes the check. Without an observer the player sees nothing. -/
def start (circuit : Circuit) (rate : Int) (chances : Chances) (observed : Bool)
    (player : Player) : Except Fault Scene := do
  let race ← Race.start circuit
  return {
    race
    display := { pattern := "", observer := if observed then some () else none }
    timer := Timer.new rate 0
    chances
    outside := player }

end Scene

end DigitRace
