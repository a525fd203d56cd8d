import DigitRace.Proofs.Course.Leg
import Mathlib.Computability.RegularExpressions

/-!
# The order of the stages

The stages are entered in the order of a regular expression, and the marks of a leg are a
beginning of the marks of complete games. Between the countdown of a game and its score, the
cars that are left and the crashes since the countdown make up the fleet.
-/

namespace DigitRace

open RegularExpression (char)

/-- A whole number allows for as many games as it says. -/
theorem Cabinet.allows_int (g : Int) (n : Nat) :
    allows (.int g) n = .ok (decide ((n : Int) < g)) := by
  have hcast : ((n : Rat) < (g : Rat)) ↔ (n : Int) < g := by exact_mod_cast Iff.rfl
  simp only [allows, Value.number_int, bind, Except.bind, pure, Except.pure, hcast]

/-- The stage that a mark tells of. -/
def Mark.stage? : Mark → Option Stage
  | entered stage => some stage
  | crash | disable => none

/-- The stages that were entered. -/
def stagesOf (marks : List Mark) : List Stage :=
  marks.filterMap Mark.stage?

/-- The crashes since the last countdown began. -/
def recentCrashes (marks : List Mark) : Nat :=
  (marks.rtakeWhile (· ≠ .entered .countdown)).count .crash

/-- How many games were played with the screens after them. -/
def cyclesOf (marks : List Mark) : Nat :=
  marks.count (.entered .scoreWaitRelease)

/-- Whether a game is being played or ends at a stage. -/
def Stage.inGame : Stage → Bool
  | countdown | playing | carLost | gameOverWaitRelease | scoreDisplay => true
  | demo | demoWaitRelease | scoreWaitRelease => false

/-- The stages of a round. -/
def roundOrder : RegularExpression Stage :=
  char .playing * char .carLost

/-- The stages of a game: a countdown, one round or more, and the screens after the last one. -/
def gameOrder : RegularExpression Stage :=
  char .countdown * (roundOrder * roundOrder.star) *
    (char .gameOverWaitRelease * char .scoreDisplay * char .scoreWaitRelease)

/-- The stages of a run: the demo once or more often, a wait for the key, and games. -/
def stageOrder : RegularExpression Stage :=
  char .demo * (char .demo).star * char .demoWaitRelease * gameOrder.star

/-! ## Stages -/

theorem stagesOf_append (marks marks' : List Mark) :
    stagesOf (marks ++ marks') = stagesOf marks ++ stagesOf marks' :=
  List.filterMap_append

theorem Round.stagesOf_marks (round : Round) : stagesOf round.marks = [.playing, .carLost] := by
  obtain ⟨crashed, disables⟩ := round
  cases crashed <;>
    simp [stagesOf, Round.marks, Round.opening, Mark.stage?, List.filterMap_cons]

theorem Round.stages_mem (round : Round) : stagesOf round.marks ∈ roundOrder.matches' := by
  rw [round.stagesOf_marks]
  exact Language.append_mem_mul (a := [Stage.playing]) (b := [Stage.carLost]) rfl rfl

/-- What consists of parts in an order has that order again and again. -/
theorem stagesOf_flatMap_mem {α : Type} {order : RegularExpression Stage} {parts : List α}
    {marks : α → List Mark} (h : ∀ part ∈ parts, stagesOf (marks part) ∈ order.matches') :
    stagesOf (parts.flatMap marks) ∈ order.star.matches' := by
  rw [RegularExpression.matches'_star, Language.mem_kstar]
  refine ⟨parts.map fun part => stagesOf (marks part), ?_, ?_⟩
  · rw [stagesOf, List.filterMap_flatMap, List.flatMap_def]
    rfl
  · intro stages hmem
    obtain ⟨part, hpart, rfl⟩ := List.mem_map.mp hmem
    exact h part hpart

/-- A fair game has a round, since its cars have to be lost. -/
theorem Game.Fair.ne_nil {game : Game} (h : game.Fair) : game ≠ [] := by
  rintro rfl
  exact absurd h.crashes (by decide)

theorem Game.Fair.stages_mem {game : Game} (h : game.Fair) :
    stagesOf game.marks ∈ gameOrder.matches' := by
  obtain ⟨round, rest, rfl⟩ := List.exists_cons_of_ne_nil h.ne_nil
  have hmarks : Game.marks (round :: rest) = [.entered .countdown] ++
      (round.marks ++ Game.rounds rest) ++
      ([.entered .gameOverWaitRelease] ++ [.entered .scoreDisplay] ++
        [.entered .scoreWaitRelease]) := by
    simp [Game.marks, Game.rounds]
  rw [hmarks]
  simp only [stagesOf_append]
  refine Language.append_mem_mul (Language.append_mem_mul rfl ?_) ?_
  · exact Language.append_mem_mul round.stages_mem
      (stagesOf_flatMap_mem fun round _ => round.stages_mem)
  · exact Language.append_mem_mul (Language.append_mem_mul rfl rfl) rfl

theorem Past.Fair.stages_mem {limit : Value} {past : Past} (h : past.Fair limit) :
    stagesOf past.marks ∈ stageOrder.matches' := by
  have hmarks : past.marks = [.entered .demo] ++ List.replicate past.demos (.entered .demo) ++
      [.entered .demoWaitRelease] ++ past.games.flatMap Game.marks := by
    simp [Past.marks, List.replicate_succ]
  rw [hmarks]
  simp only [stagesOf_append]
  refine Language.append_mem_mul (Language.append_mem_mul (Language.append_mem_mul rfl ?_) rfl) ?_
  · rw [← List.flatMap_singleton' (List.replicate past.demos (Mark.entered .demo))]
    apply stagesOf_flatMap_mem
    intro mark hmem
    rw [List.eq_of_mem_replicate hmem]
    rfl
  · exact stagesOf_flatMap_mem fun game hgame => (h.game game hgame).stages_mem

/-! ## What is still to come -/

/-- A round goes on to a fair end. -/
theorem Round.ends (round : Round) :
    ∃ ended : Round, ended.Fair ∧ ∃ rest, ended.marks = round.opening ++ rest := by
  by_cases hfair : round.Fair
  · exact ⟨round, hfair, [.entered .carLost], rfl⟩
  · obtain ⟨crashed, disables⟩ := round
    obtain ⟨rfl, hnone⟩ : crashed = false ∧ ¬ 0 < disables := by simpa [Fair] using hfair
    obtain rfl : disables = 0 := by omega
    exact ⟨{ crashed := true }, by simp [Fair], [.crash, .entered .carLost], rfl⟩

theorem Game.crashes_append (game rest : Game) :
    crashes (game ++ rest) = game.crashes + rest.crashes :=
  List.countP_append

theorem Game.rounds_append (game rest : Game) :
    rounds (game ++ rest) = game.rounds ++ rest.rounds :=
  List.flatMap_append

theorem Past.withGame_marks (past : Past) (game : Game) :
    (past.withGame game).marks = past.marks ++ game.marks := by
  simp [marks, withGame]

/-- A game that is under way goes on until all cars are lost. -/
theorem Past.Open.completes {limit : Value} {past : Past} (h : past.Open limit) {game : Game}
    (hrounds : ∀ round ∈ game, round.Fair) (hcrashes : game.crashes ≤ Race.fleet) :
    ∃ after : Past, after.Fair limit ∧
      ∃ rest, after.marks = past.marks ++ .entered .countdown :: (game.rounds ++ rest) := by
  let lost : Game := List.replicate (Race.fleet - game.crashes) { crashed := true }
  have hlost : lost.crashes = Race.fleet - game.crashes := by
    rw [Game.crashes, List.countP_replicate, if_pos rfl]
  have hfair : Game.Fair (game ++ lost) := by
    constructor
    · intro round hmem
      rcases List.mem_append.mp hmem with hbefore | hlater
      · exact hrounds round hbefore
      · rw [List.eq_of_mem_replicate hlater]
        simp [Round.Fair]
    · rw [Game.crashes_append, hlost]
      omega
  refine ⟨past.withGame (game ++ lost), h.withGame hfair, lost.rounds ++
    [.entered .gameOverWaitRelease, .entered .scoreDisplay, .entered .scoreWaitRelease], ?_⟩
  rw [Past.withGame_marks, Game.marks, Game.rounds_append]
  simp

/-- **The marks of a leg are a beginning of complete games**, all of them fair and allowed. -/
theorem Leg.Holds.completes {limit : Value} {cars : Nat} {leg : Leg} (h : leg.Holds limit cars) :
    ∃ past : Past, past.Fair limit ∧ ∃ rest, past.marks = leg.marks ++ rest := by
  cases leg with
  | start => exact ⟨⟨0, []⟩, ⟨by simp, by simp⟩, _, rfl⟩
  | demo demos => exact ⟨⟨demos, []⟩, ⟨by simp, by simp⟩, [.entered .demoWaitRelease], rfl⟩
  | rest past => exact ⟨past, h, [], (List.append_nil _).symm⟩
  | counting past =>
    have hnone : ∀ round ∈ ([] : Game), round.Fair := by simp
    obtain ⟨after, hfair, rest, hmarks⟩ := h.1.completes hnone (Nat.zero_le _)
    exact ⟨after, hfair, rest, by rw [hmarks]; simp [marks, Game.rounds]⟩
  | racing past game round =>
    obtain ⟨hopen, hrounds, hcrashes, -⟩ := h
    obtain ⟨ended, hended, rest, hround⟩ := round.ends
    have hrounds' : ∀ round ∈ game ++ [ended], round.Fair := by
      intro played hmem
      rcases List.mem_append.mp hmem with hbefore | hlast
      · exact hrounds played hbefore
      · rw [List.mem_singleton.mp hlast]
        exact hended
    have hcrashes' : Game.crashes (game ++ [ended]) ≤ Race.fleet := by
      rw [Game.crashes_concat]
      split <;> omega
    obtain ⟨after, hfair, rest', hmarks⟩ := hopen.completes hrounds' hcrashes'
    refine ⟨after, hfair, rest ++ rest', ?_⟩
    have hlast : Game.rounds [ended] = ended.marks := by simp [Game.rounds]
    rw [hmarks, Game.rounds_append, hlast, hround]
    simp [marks]
  | lost past game =>
    obtain ⟨hopen, hrounds, hcars⟩ := h
    obtain ⟨after, hfair, rest, hmarks⟩ := hopen.completes hrounds (by omega)
    exact ⟨after, hfair, rest, by rw [hmarks]; simp [marks]⟩
  | gameOver past game =>
    obtain ⟨hopen, hgame, -⟩ := h
    refine ⟨past.withGame game, hopen.withGame hgame,
      [.entered .scoreDisplay, .entered .scoreWaitRelease], ?_⟩
    simp [Past.withGame_marks, Game.marks, marks]
  | score past game =>
    obtain ⟨hopen, hgame, -⟩ := h
    refine ⟨past.withGame game, hopen.withGame hgame, [.entered .scoreWaitRelease], ?_⟩
    simp [Past.withGame_marks, Game.marks, marks]

/-! ## Crashes and cycles -/

theorem Round.opening_crashes (round : Round) :
    round.opening.count .crash = if round.crashed then 1 else 0 := by
  obtain ⟨crashed, disables⟩ := round
  cases crashed <;> simp [opening, List.count_replicate]

theorem Game.rounds_crashes (game : Game) : game.rounds.count .crash = game.crashes := by
  induction game with
  | nil => rfl
  | cons round game ih =>
    have hcons : Game.rounds (round :: game) = round.marks ++ Game.rounds game := rfl
    rw [hcons, List.count_append, ih, Round.marks, List.count_append, round.opening_crashes]
    cases hcrashed : round.crashed <;> simp [crashes, hcrashed, Nat.add_comm]

/-- In rounds no stage is entered but those of a round. -/
theorem Game.entered_mem_rounds {game : Game} {stage : Stage}
    (h : .entered stage ∈ game.rounds) : stage = .playing ∨ stage = .carLost := by
  obtain ⟨round, -, hmem⟩ := List.mem_flatMap.mp h
  obtain ⟨crashed, disables⟩ := round
  cases crashed <;> simpa [Round.marks, Round.opening] using hmem

theorem Round.entered_mem_opening {round : Round} {stage : Stage}
    (h : .entered stage ∈ round.opening) : stage = .playing := by
  obtain ⟨crashed, disables⟩ := round
  cases crashed <;> simpa [opening] using h

/-- What follows the last countdown tells the crashes since. -/
theorem recentCrashes_append {front back : List Mark}
    (hback : .entered .countdown ∉ back) :
    recentCrashes (front ++ .entered .countdown :: back) = back.count .crash := by
  rw [recentCrashes, rtakeWhile_append_cons (by simp)]
  intro mark hmem
  simp only [ne_eq, decide_eq_true_eq]
  rintro rfl
  exact hback hmem

/-- **During a game the cars that are left and the crashes make up the fleet.** -/
theorem Leg.Holds.fleet {limit : Value} {cars : Nat} {leg : Leg} (h : leg.Holds limit cars)
    {stage : Stage} (hstage : leg.stage = some stage) (hgame : stage.inGame = true) :
    cars + recentCrashes leg.marks = Race.fleet := by
  have hrounds (game : Game) : .entered .countdown ∉ game.rounds := by
    intro hmem
    rcases Game.entered_mem_rounds hmem with hplaying | hlost
    · cases hplaying
    · cases hlost
  cases leg with
  | start => cases hstage
  | demo demos =>
    obtain rfl := Option.some.inj hstage
    cases hgame
  | rest past =>
    obtain rfl := Option.some.inj hstage
    split at hgame <;> cases hgame
  | counting past =>
    rw [marks, recentCrashes_append (by simp), h.2]
    rfl
  | racing past game round =>
    obtain ⟨-, -, -, hcars⟩ := h
    have hopening : .entered .countdown ∉ round.opening := by
      intro hmem
      cases Round.entered_mem_opening hmem
    rw [marks, recentCrashes_append (by simp [hrounds, hopening]), List.count_append,
      Game.rounds_crashes, round.opening_crashes, ← Game.crashes_concat]
    exact hcars
  | lost past game =>
    obtain ⟨-, -, hcars⟩ := h
    rw [marks, recentCrashes_append (hrounds game), Game.rounds_crashes]
    exact hcars
  | gameOver past game =>
    obtain ⟨-, hgame, rfl⟩ := h
    rw [marks, recentCrashes_append (by simp [hrounds]), List.count_append, Game.rounds_crashes,
      hgame.crashes]
    rfl
  | score past game =>
    obtain ⟨-, hgame, rfl⟩ := h
    rw [marks, recentCrashes_append (by simp [hrounds]), List.count_append, Game.rounds_crashes,
      hgame.crashes]
    rfl

/-- When all cars are lost there are none left. -/
theorem Leg.Holds.none_left {limit : Value} {cars : Nat} {leg : Leg} (h : leg.Holds limit cars)
    (hstage : leg.stage = some .gameOverWaitRelease) : cars = 0 := by
  cases leg with
  | gameOver past game => exact h.2.2
  | rest past =>
    rw [stage] at hstage
    split at hstage <;> cases hstage
  | _ => cases hstage

/-- Between games, and nowhere else, the key is to come up. -/
theorem Leg.rest_of_stage {leg : Leg}
    (h : leg.stage = some .demoWaitRelease ∨ leg.stage = some .scoreWaitRelease) :
    ∃ past, leg = .rest past := by
  cases leg with
  | rest past => exact ⟨past, rfl⟩
  | _ => rcases h with hstage | hstage <;> cases hstage

theorem Game.marks_cycles (game : Game) : cyclesOf game.marks = 1 := by
  have hrounds : .entered .scoreWaitRelease ∉ game.rounds := by
    intro hmem
    rcases Game.entered_mem_rounds hmem with hplaying | hlost
    · cases hplaying
    · cases hlost
  rw [cyclesOf, marks, List.count_append, List.count_cons, List.count_eq_zero.mpr hrounds]
  rfl

/-- The cycles of the past are its games. -/
theorem Past.marks_cycles (past : Past) : cyclesOf past.marks = past.games.length := by
  obtain ⟨demos, games⟩ := past
  have hgames : cyclesOf (games.flatMap Game.marks) = games.length := by
    induction games with
    | nil => rfl
    | cons game games ih =>
      have hgame := game.marks_cycles
      rw [cyclesOf] at hgame ih ⊢
      rw [List.flatMap_cons, List.count_append, hgame, ih, List.length_cons, Nat.add_comm]
  rw [cyclesOf] at hgames ⊢
  rw [marks, List.count_append, List.count_cons, hgames]
  simp [List.count_replicate]

/-- No more games are played than the limit allows for. -/
theorem Past.Fair.games_le {g : Int} {past : Past} (h : past.Fair (.int g)) :
    past.games.length ≤ g.toNat := by
  cases hgames : past.games.length with
  | zero => exact Nat.zero_le _
  | succ n =>
    have hallowed := h.allowed n (by omega)
    rw [Cabinet.allows_int, Except.ok.injEq, decide_eq_true_eq] at hallowed
    omega

theorem Leg.Holds.cycles_le {g : Int} {cars : Nat} {leg : Leg} (h : leg.Holds (.int g) cars) :
    cyclesOf leg.marks ≤ g.toNat := by
  obtain ⟨past, hfair, rest, hmarks⟩ := h.completes
  have hcycles := past.marks_cycles
  rw [hmarks, cyclesOf, List.count_append] at hcycles
  have hgames := hfair.games_le
  rw [cyclesOf]
  omega

end DigitRace
