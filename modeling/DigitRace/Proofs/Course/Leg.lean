import DigitRace.Proofs.Cabinet.Marks

/-!
# The course of the game

The course is a demo or several, a wait for the key, and then games. A game is a countdown,
rounds, and the screens after it. A round ends with a crash, which is the first thing that
counts in it, or because the countdown was called off. A leg is how far the course has come:
it determines the marks of the journal, the stage and the cars that are left.
-/

namespace DigitRace

/-- A round of a game that is over or under way. -/
structure Round where
  crashed : Bool := false
  /-- How often the countdown was called off during the round. -/
  disables : Nat := 0

namespace Round

/-- A round ends with a crash or because the countdown was called off. -/
def Fair (round : Round) : Prop :=
  round.crashed = false → 0 < round.disables

/-- The marks of a round up to now. -/
def opening (round : Round) : List Mark :=
  .entered .playing ::
    ((if round.crashed then [.crash] else []) ++ List.replicate round.disables .disable)

/-- The marks of a round that is over. -/
def marks (round : Round) : List Mark :=
  round.opening ++ [.entered .carLost]

end Round

/-- The rounds of a game. -/
abbrev Game := List Round

namespace Game

/-- How many cars were lost. -/
def crashes (game : Game) : Nat :=
  game.countP Round.crashed

/-- Every round was ended, and all cars are lost. -/
structure Fair (game : Game) : Prop where
  round : ∀ round ∈ game, round.Fair
  crashes : game.crashes = Race.fleet

theorem crashes_concat (game : Game) (round : Round) :
    crashes (game ++ [round]) = game.crashes + if round.crashed then 1 else 0 := by
  simp [crashes, List.countP_append, List.countP_cons]

/-- The marks of the rounds. -/
def rounds (game : Game) : List Mark :=
  game.flatMap Round.marks

/-- The marks of a game with its countdown and the screens after it. -/
def marks (game : Game) : List Mark :=
  .entered .countdown :: game.rounds ++
    [.entered .gameOverWaitRelease, .entered .scoreDisplay, .entered .scoreWaitRelease]

end Game

/-- What lies behind once the first press has ended the demos. -/
structure Past where
  /-- Demos that played to their end, before the one that was ended by a press. -/
  demos : Nat
  /-- Games that are over. -/
  games : List Game

namespace Past

/-- Every game was allowed and was played to its end. -/
structure Fair (limit : Value) (past : Past) : Prop where
  game : ∀ game ∈ past.games, game.Fair
  allowed : ∀ n < past.games.length, Cabinet.allows limit n = .ok true

/-- One game more is allowed. -/
structure Open (limit : Value) (past : Past) : Prop extends past.Fair limit where
  more : Cabinet.allows limit past.games.length = .ok true

/-- The marks of the demos and the games. -/
def marks (past : Past) : List Mark :=
  List.replicate (past.demos + 1) (.entered .demo) ++
    .entered .demoWaitRelease :: past.games.flatMap Game.marks

/-- The past with one more game. -/
def withGame (past : Past) (game : Game) : Past :=
  { past with games := past.games ++ [game] }

theorem Open.withGame {limit : Value} {past : Past} (h : past.Open limit) {game : Game}
    (hgame : game.Fair) : (past.withGame game).Fair limit where
  game := by
    intro played hmem
    rcases List.mem_append.mp hmem with hbefore | hlast
    · exact h.game played hbefore
    · rw [List.mem_singleton.mp hlast]
      exact hgame
  allowed := by
    intro n hn
    rw [Past.withGame, List.length_append, List.length_singleton] at hn
    rcases Nat.lt_succ_iff_lt_or_eq.mp hn with hbefore | rfl
    · exact h.allowed n hbefore
    · exact h.more

end Past

/-- How far the course of the game has come. -/
inductive Leg where
  | start
  | demo (demos : Nat)
  /-- The key is to come up before the next game. -/
  | rest (past : Past)
  | counting (past : Past)
  | racing (past : Past) (game : Game) (round : Round)
  | lost (past : Past) (game : Game)
  | gameOver (past : Past) (game : Game)
  | score (past : Past) (game : Game)

namespace Leg

/-- The stage of a leg. -/
def stage : Leg → Option Stage
  | start => none
  | demo _ => some .demo
  | rest past => some (if past.games.isEmpty then .demoWaitRelease else .scoreWaitRelease)
  | counting _ => some .countdown
  | racing _ _ _ => some .playing
  | lost _ _ => some .carLost
  | gameOver _ _ => some .gameOverWaitRelease
  | score _ _ => some .scoreDisplay

/-- The marks of all that was before. -/
def marks : Leg → List Mark
  | start => []
  | demo demos => List.replicate (demos + 1) (.entered .demo)
  | rest past => past.marks
  | counting past => past.marks ++ [.entered .countdown]
  | racing past game round => past.marks ++ .entered .countdown :: (game.rounds ++ round.opening)
  | lost past game => past.marks ++ .entered .countdown :: game.rounds
  | gameOver past game =>
    past.marks ++ .entered .countdown :: (game.rounds ++ [.entered .gameOverWaitRelease])
  | score past game => past.marks ++ .entered .countdown ::
      (game.rounds ++ [.entered .gameOverWaitRelease, .entered .scoreDisplay])

/-- So many cars are left at a leg, and all that was before was fair and allowed. -/
def Holds (limit : Value) (cars : Nat) : Leg → Prop
  | start | demo _ => True
  | rest past => past.Fair limit
  | counting past => past.Open limit ∧ cars = Race.fleet
  | racing past game round => past.Open limit ∧ (∀ round ∈ game, round.Fair) ∧
      game.crashes < Race.fleet ∧ cars + (game ++ [round]).crashes = Race.fleet
  | lost past game =>
      past.Open limit ∧ (∀ round ∈ game, round.Fair) ∧ cars + game.crashes = Race.fleet
  | gameOver past game | score past game => past.Open limit ∧ game.Fair ∧ cars = 0

end Leg

end DigitRace
