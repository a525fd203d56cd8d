import DigitRace.Proofs.Acts
import DigitRace.Cabinet.Run
import Mathlib.Data.Rat.Defs
import Mathlib.Algebra.Order.Field.Rat
import Mathlib.Algebra.Order.Field.Basic
import Mathlib.Tactic.FieldSimp
import Mathlib.Tactic.Linarith

/-!
# The game in another guise

The same game can go on by another clock, at another rate of ticks, and with a past of its own:
with watches that have ended, deadlines that were set, records that were written and numbers that
were drawn before. A guise says how to read one such game in the other. What is done to the one is
then echoed by the other, act by act.
-/

namespace DigitRace

/-- How one game is read in another: the other has another clock and another past. -/
structure Guise (ω : Type) where
  /-- How long the other clock takes for a unit of time. -/
  scale : Rat := 1
  /-- What the other clock shows when this one shows 0. -/
  shift : Rat := 0
  /-- Ticks in a second by this clock. -/
  pace : Int
  /-- Ticks in a second by the other clock. -/
  rate : Int
  /-- Deadlines that the other game has set before. -/
  issued : Nat := 0
  /-- Watches that the other game has opened before. -/
  watches : Array Watch := #[]
  /-- What the other game has written down before. -/
  journal : Array Record := #[]
  /-- Numbers that the other game has drawn before. -/
  drawn : Nat := 0
  chances : Chances
  /-- From where the free readings of the other timer count. -/
  base : Rat := 0
  updater : Option Unit := none
  /-- How many games the other game is to play, and how many more it has played. -/
  games : Value → Value := id
  played : Nat := 0
  /-- What the other surroundings keep. -/
  outside : ω → ω := id
  /-- The other game also draws the same numbers, and counts the same games. -/
  whole : Prop
  scale_pos : 0 < scale
  scale_rate : scale * rate = pace
  pace_ne_zero : pace ≠ 0
  games_eq : whole → games = id
  played_eq : whole → played = 0

namespace Guise

open Cabinet

variable {ω α β γ δ ι κ : Type} (g : Guise ω)

/-! ## Reading a cabinet -/

/-- A time by the other clock. -/
def time (t : Rat) : Rat :=
  g.scale * t + g.shift

/-- A deadline by the other clock. -/
def deadline (d : Deadline Call) : Deadline Call :=
  { d with due := g.time d.due, number := d.number + g.issued }

/-- An agenda by the other clock. -/
def agenda (a : Agenda Call) : Agenda Call :=
  { now := g.time a.now
    ready := a.ready
    deadlines := a.deadlines.map g.deadline
    issued := a.issued + g.issued }

/-- The number of a watch in the other game. -/
def watch (w : Nat) : Nat :=
  w + g.watches.size

/-- A frame of the other game. -/
def frame : Frame → Frame
  | .nextGame games played => .nextGame (g.games games) (played + g.played)
  | .gameEnded games played => .gameEnded (g.games games) (played + g.played)
  | .releasedAfterGame games played => .releasedAfterGame (g.games games) (played + g.played)
  | .scoreSeen games played => .scoreSeen (g.games games) (played + g.played)
  | other => other

/-- Where a task of the other game is. -/
def state : Task.State → Task.State
  | .waiting w => .waiting (g.watch w)
  | other => other

/-- A task of the other game. -/
def task (t : Task) : Task :=
  { t with state := g.state t.state, stack := t.stack.map g.frame }

/-- The timer of the other game, armed last when its clock showed `start`. -/
def timer (start : Rat) (t : Timer Rat Nat) : Timer Rat Nat :=
  { t with
    rate := g.rate
    listeners := t.listeners.map g.watch
    handle := t.handle.map (· + g.issued)
    start
    base := g.base }

/-- The key of the other game. -/
def key (k : Key Nat Unit) : Key Nat Unit :=
  { k with listeners := k.listeners.map g.watch, updater := g.updater }

/-- The other game, whose timer was armed last when its clock showed `start`. -/
def dress (start : Rat) (c : Cabinet ω) : Cabinet ω where
  agenda := g.agenda c.agenda
  display := c.display
  key := g.key c.key
  timer := g.timer start c.timer
  race := c.race
  stage := c.stage
  chances := g.chances
  draws := c.draws + g.drawn
  watches := g.watches ++ c.watches
  tasks := c.tasks.map g.task
  active := c.active
  journal := g.journal ++ c.journal
  outside := g.outside c.outside

/-! ## What can be read in the other game -/

/-- The greatest time on a segment, which is the time at standstill. -/
def longestWait : Int := 25

/-- Ticks that take a time that can be waited for at both rates or at neither. -/
def Reaches (ticks : Value) : Prop :=
  ∀ n, ticks.whole = .ok n →
    (Decimal.overflowBound * g.pace.natAbs ≤ n.toNat ↔
      Decimal.overflowBound * g.rate.natAbs ≤ n.toNat)

/-- Watches of this kind draw no numbers, or the numbers are the same. -/
def KindFits : Watch.Kind → Prop
  | .demo _ _ => g.whole
  | _ => True

/-- Routines that do not read the clock, and whose ticks are in reach. -/
def RoutineFits : Routine → Prop
  | .forTicks ticks => g.Reaches ticks
  | .demo | .run _ => g.whole
  | .selfTest _ _ | .secondsRound _ _ _ _ => False
  | _ => True

/-- Frames after which nothing reads the clock. -/
def FrameFits : Frame → Prop
  | .demoTextShown | .demoEnded _ => g.whole
  | .cycled _ _ _ _ | .ticksShown _ _ | .secondPolled _ _ _ _ | .elapsedSeen _ _ _
  | .edgeSeen _ _ => False
  | _ => True

/-- A task is at what can be read in the other game. -/
def TaskFits (t : Task) : Prop :=
  (∀ routine, t.state = .calling routine → g.RoutineFits routine) ∧ ∀ f ∈ t.stack, g.FrameFits f

/-- A cabinet that can be read in the other game. -/
structure Fits (c : Cabinet ω) : Prop where
  pace : c.timer.rate = g.pace
  wait : c.race.wait ≤ longestWait
  kinds : ∀ w ∈ c.watches, g.KindFits w.kind
  tasks : ∀ t ∈ c.tasks, g.TaskFits t
  chances : g.whole → ∀ n, g.chances (n + g.drawn) = c.chances n
  draws : g.whole ∨ c.draws = 0

variable {g} in
/-- Nothing else of a cabinet is looked at. -/
theorem Fits.congr {c c' : Cabinet ω} (h : g.Fits c)
    (hsame : (c'.timer.rate, c'.race.wait, c'.watches, c'.tasks, c'.chances, c'.draws) =
      (c.timer.rate, c.race.wait, c.watches, c.tasks, c.chances, c.draws)) : g.Fits c' := by
  obtain ⟨hrate, hwait, hwatches, htasks, hchances, hdraws⟩ :
      c'.timer.rate = c.timer.rate ∧ c'.race.wait = c.race.wait ∧ c'.watches = c.watches ∧
        c'.tasks = c.tasks ∧ c'.chances = c.chances ∧ c'.draws = c.draws := by simpa using hsame
  exact ⟨hrate ▸ h.pace, hwait ▸ h.wait, hwatches ▸ h.kinds, htasks ▸ h.tasks,
    hchances ▸ h.chances, hdraws ▸ h.draws⟩

/-! ## Echoes -/

/-- What an act came to is what it came to in the other game. -/
inductive Matches (rel : α → β → Prop) :
    EStateM.Result Fault (Cabinet ω) α → EStateM.Result Fault (Cabinet ω) β → Prop
  | ok {a : α} {b : β} {c : Cabinet ω} (hrel : rel a b) (hfits : g.Fits c) (start : Rat) :
      Matches rel (.ok a c) (.ok b (g.dress start c))
  | error {fault : Fault} {c : Cabinet ω} (hfits : g.Fits c) (start : Rat) :
      Matches rel (.error fault c) (.error fault (g.dress start c))

/-- An act is echoed in the other game, up to a relation between the results. -/
def Echoes (rel : α → β → Prop) (act : Play ω α) (act' : Play ω β) : Prop :=
  ∀ c start, g.Fits c → g.Matches rel (act c) (act' (g.dress start c))

variable {g} {rel : α → β → Prop} {rel' : γ → δ → Prop} {act : Play ω α} {act' : Play ω β}

namespace Echoes

theorem pure {a : α} {b : β} (h : rel a b) : g.Echoes rel (Pure.pure a) (Pure.pure b) :=
  fun _ start hfits => .ok h hfits start

theorem throw (fault : Fault) : g.Echoes rel (throw fault : Play ω α) (throw fault : Play ω β) :=
  fun _ start hfits => .error hfits start

/-- What is found without looking at the cabinet is found in the other game as well. -/
theorem lift (e : Except Fault α) :
    g.Echoes Eq (liftM e : Play ω α) (liftM e : Play ω α) := by
  cases e with
  | ok a => exact .pure rfl
  | error fault => exact .throw fault

theorem bind {next : α → Play ω γ} {next' : β → Play ω δ} (h : g.Echoes rel act act')
    (hnext : ∀ a b, rel a b → g.Echoes rel' (next a) (next' b)) :
    g.Echoes rel' (act >>= next) (act' >>= next') := by
  intro c start hfits
  have hact := h c start hfits
  rw [Act.bind_apply, Act.bind_apply]
  generalize act c = r, act' (g.dress start c) = r' at hact
  cases hact with
  | ok hrel hfits start => exact hnext _ _ hrel _ start hfits
  | error hfits start => exact .error hfits start

/-- The same result is handed on in both games. -/
theorem bind_eq {act act' : Play ω α} {next : α → Play ω γ} {next' : α → Play ω δ}
    (h : g.Echoes Eq act act') (hnext : ∀ a, g.Echoes rel' (next a) (next' a)) :
    g.Echoes rel' (act >>= next) (act' >>= next') :=
  h.bind fun a _ hab => hab ▸ hnext a

/-- Each game looks at itself. -/
theorem get_bind {next : Cabinet ω → Play ω γ} {next' : Cabinet ω → Play ω δ}
    (h : ∀ c start, g.Fits c → g.Echoes rel' (next c) (next' (g.dress start c))) :
    g.Echoes rel' (get >>= next) (get >>= next') :=
  fun c start hfits => h c start hfits c start hfits

theorem modify {change change' : Cabinet ω → Cabinet ω}
    (h : ∀ c start, g.Fits c →
      g.Fits (change c) ∧ ∃ start', change' (g.dress start c) = g.dress start' (change c)) :
    g.Echoes Eq (modify change : Play ω PUnit) (modify change' : Play ω PUnit) := by
  intro c start hfits
  obtain ⟨hfits', start', hchange⟩ := h c start hfits
  rw [Act.modify_apply, Act.modify_apply, hchange]
  exact .ok rfl hfits' start'

theorem tryCatch {handle : Fault → Play ω α} {handle' : Fault → Play ω β}
    (h : g.Echoes rel act act') (hhandle : ∀ fault, g.Echoes rel (handle fault) (handle' fault)) :
    g.Echoes rel (tryCatch act handle) (tryCatch act' handle') := by
  intro c start hfits
  have hact := h c start hfits
  rw [Act.tryCatch_apply, Act.tryCatch_apply]
  generalize act c = r, act' (g.dress start c) = r' at hact
  cases hact with
  | ok hrel hfits start => exact .ok hrel hfits start
  | error hfits start => exact hhandle _ _ start hfits

theorem ite {p : Prop} [Decidable p] {other : Play ω α} {other' : Play ω β}
    (h : p → g.Echoes rel act act') (hother : ¬p → g.Echoes rel other other') :
    g.Echoes rel (if p then act else other) (if p then act' else other') := by
  split
  · exact h ‹_›
  · exact hother ‹_›

/-- Acts that are done in turn are echoed in turn. -/
theorem forM {act : ι → Play ω PUnit} {act' : κ → Play ω PUnit} (map : ι → κ) (is : List ι)
    (h : ∀ i ∈ is, g.Echoes Eq (act i) (act' (map i))) :
    g.Echoes Eq (is.forM act) ((is.map map).forM act') := by
  induction is with
  | nil => exact .pure rfl
  | cons i rest ih =>
    exact (h i (List.mem_cons_self ..)).bind_eq fun _ =>
      ih fun j hj => h j (List.mem_cons_of_mem _ hj)

theorem forM_same {act act' : ι → Play ω PUnit} (is : List ι)
    (h : ∀ i ∈ is, g.Echoes Eq (act i) (act' i)) :
    g.Echoes Eq (is.forM act) (is.forM act') := by
  simpa only [List.map_id] using forM id is h

/-- What was worked out from a cabinet is put in its place in both games. -/
theorem set {c : Cabinet ω} (hfits : g.Fits c) (start : Rat) :
    g.Echoes Eq (set c : Play ω PUnit) (set (g.dress start c)) :=
  fun _ _ _ => .ok rfl hfits start

/-- An act that is echoed leaves what is echoed. -/
theorem result {act act' : Play ω α} (h : g.Echoes Eq act act') {c : Cabinet ω}
    (hfits : g.Fits c) (start : Rat) :
    g.Fits (act.result c).2 ∧ (act'.result (g.dress start c)).1 = (act.result c).1 ∧
      ∃ start', (act'.result (g.dress start c)).2 = g.dress start' (act.result c).2 := by
  have hact := h c start hfits
  unfold Act.result
  generalize act c = r, act' (g.dress start c) = r' at hact
  cases hact with
  | ok hrel hfits start => exact ⟨hfits, by rw [hrel], start, rfl⟩
  | error hfits start => exact ⟨hfits, rfl, start, rfl⟩

end Echoes

end Guise

end DigitRace
