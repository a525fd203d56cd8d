import DigitRace.Cabinet.Run
import DigitRace.Proofs.Race.Sound
import DigitRace.Proofs.Segment.Canonical

/-!
# Onlookers

An onlooker sees every pattern and every edge of the key and keeps what they like of it,
but neither fails nor acts on the game. With an onlooker around, and a sound race, nothing
that the game does to its devices fails, and what it does to the cabinet is said here once
for each device; what the onlooker keeps is left open.
-/

namespace DigitRace

/-- Someone who watches the game and only keeps what they see, and a clock to look at. -/
structure Onlooker (ω : Type) where
  /-- What is kept once a pattern is shown. -/
  seen : String → Cabinet ω → ω
  /-- What is kept once the key has moved. -/
  turned : Bool → Cabinet ω → ω
  clock : Cabinet ω → Rat

/-- The surroundings that consist of an onlooker. -/
def Onlooker.around {ω : Type} (eye : Onlooker ω) : Surroundings ω where
  observe pattern := modify fun cabinet => { cabinet with outside := eye.seen pattern cabinet }
  showEdge pressed := modify fun cabinet => { cabinet with outside := eye.turned pressed cabinet }
  clock := eye.clock

/-- Someone who keeps nothing, with a clock that stands still. -/
def Onlooker.idle : Onlooker Unit where
  seen _ _ := ()
  turned _ _ := ()
  clock _ := 0

/-! ## What a race shows and writes down -/

namespace Race

/-- The pattern that is lit once the car was driven on. -/
def driveShows (race : Race) (pattern : String) : String :=
  race.arrived.bar?.getD pattern

/-- The pattern that is lit once the car was steered. -/
def steerShows (race : Race) (pattern : String) : String :=
  if race.atJunction then race.turned.driveShows pattern else pattern

/-- The address as records write it. -/
def place (race : Race) : String :=
  match Cabinet.addressText race.address with
  | .ok text => text
  | .error _ => ""

/-- What is written down when the car is driven on: that nothing could be lit. -/
def driveNotes (race : Race) : List Record :=
  let held := race.arrived
  if held.bar?.isSome then [] else
    [{ level := .error, source := "game_vm",
       message := s!"Invalid VM instruction at {held.place}: {held.current.printed}" }]

/-- The record of a crash. -/
def crashNote (race : Race) : Record :=
  { level := .debug, source := "game_vm",
    message := s!"crash at {race.turned.place}, {race.turned.cars} cars left" }

/-- What is written down when the car is steered: the junction that was taken, or the crash. -/
def steerNotes (race : Race) : List Record :=
  if race.atJunction then
    { level := .debug, source := "game_vm",
      message := s!"steer to {race.turned.place}, score {race.turned.score}" } ::
      race.turned.driveNotes
  else [race.crashNote]

theorem Sound.addressText_eq {race : Race} (h : race.Sound) :
    Cabinet.addressText race.address = .ok race.place := by
  obtain ⟨n, haddress, -⟩ := h.address
  have htext : Cabinet.addressText race.address = .ok (toString (n : Int)) := by
    rw [haddress]
    rfl
  rw [place, htext]

end Race

/-- The record of a stage that is entered. -/
def Stage.note (last : Option Stage) (stage : Stage) : Record :=
  let left := last.elim "None" Stage.name
  { level := .debug, source := "game", message := s!"state {left} -> {stage.name}" }

namespace Cabinet

variable {ω : Type} (eye : Onlooker ω) (c : Cabinet ω)

/-! ## The digit -/

/-- The cabinet with a pattern on the digit. -/
def shows (pattern : String) (outside : ω) (c : Cabinet ω) : Cabinet ω :=
  { c with display := { c.display with pattern }, outside }

/-- A pattern that is shown is on the digit. -/
theorem showPattern_apply (pattern : String) :
    ∃ outside, showPattern eye.around pattern c = .ok ⟨⟩ (c.shows pattern outside) := by
  cases hobserver : c.display.observer with
  | none => exact ⟨c.outside, by simp [showPattern, Display.showing, displayOf, shows, hobserver]⟩
  | some _ =>
    exact ⟨_, by
      simp [showPattern, Display.showing, displayOf, shows, hobserver, Onlooker.around]; rfl⟩

theorem showCharacter_apply (s : String) : ∃ outside,
    showCharacter eye.around (.text s) c = .ok ⟨⟩ (c.shows (Glyph.ofText s) outside) := by
  obtain ⟨outside, h⟩ := showPattern_apply eye c (Glyph.ofText s)
  exact ⟨outside, by simp [showCharacter, Glyph.ofValue_text, h]⟩

/-- The pattern of a whole number, blank unless it has one digit. -/
def digitPattern (n : Int) : String :=
  Glyph.ofText (if 0 ≤ n ∧ n ≤ (greatestDigit : Int) then toString n else "")

/-- A whole number is shown as one pattern, whoever is around. -/
theorem showDigit_eq (around : Surroundings ω) (n : Int) :
    showDigit around (.int n) c = showPattern around (digitPattern n) c := by
  have hrange : ((0 : Rat) ≤ (n : Rat) ∧ (n : Rat) ≤ (greatestDigit : Rat)) ↔
      (0 ≤ n ∧ n ≤ (greatestDigit : Int)) :=
    and_congr (by exact_mod_cast Iff.rfl) (by exact_mod_cast Iff.rfl)
  simp only [showDigit, Value.number_int, Act.bind_apply, Act.lift_ok_apply, hrange, showCharacter,
    Glyph.ofValue_text]
  rfl

theorem showDigit_apply (n : Int) : ∃ outside,
    showDigit eye.around (.int n) c = .ok ⟨⟩ (c.shows (digitPattern n) outside) := by
  rw [showDigit_eq]
  exact showPattern_apply eye c (digitPattern n)

theorem darken_apply : ∃ outside, darken eye.around c = .ok ⟨⟩ (c.shows "" outside) :=
  showPattern_apply eye c ""

/-! ## The race -/

/-- The cabinet once the car was driven on: the bar that is reached is lit, and if there is none,
this is written down. -/
def ticked (outside : ω) (c : Cabinet ω) : Cabinet ω :=
  { c with
    race := c.race.driven
    display := { c.display with pattern := c.race.driveShows c.display.pattern }
    journal := c.journal ++ c.race.driveNotes.toArray
    outside }

/-- The cabinet once the car was steered: the bar that a junction leads to is lit, and what happened
is written down. -/
def steered (outside : ω) (c : Cabinet ω) : Cabinet ω :=
  { c with
    race := c.race.steered
    display := { c.display with pattern := c.race.steerShows c.display.pattern }
    journal := c.journal ++ c.race.steerNotes.toArray
    outside }

/-- Driving on a sound race succeeds. -/
theorem tick_apply (h : c.race.Sound) :
    ∃ outside, tick eye.around c = .ok ⟨⟩ (c.ticked outside) := by
  have harrive := h.arrive_apply
  cases hbar : c.race.arrived.bar? with
  | some bar =>
    obtain ⟨outside, hshow⟩ := showPattern_apply eye { c with race := c.race.arrived } bar
    refine ⟨outside, ?_⟩
    simp [tick, raceOf, harrive, hbar, hshow, shows, ticked, Race.driven, Race.driveShows,
      Race.driveNotes]
  | none =>
    refine ⟨c.outside, ?_⟩
    simp [tick, raceOf, harrive, hbar, h.arrived.addressText_eq, note, ticked, Race.driven,
      Race.driveShows, Race.driveNotes]

/-- Steering in a sound race succeeds, and tells whether there was a junction. -/
theorem steer_apply (h : c.race.Sound) :
    ∃ outside, steer eye.around c = .ok c.race.atJunction (c.steered outside) := by
  have hturn := h.turn_apply
  have hplace := h.turned.addressText_eq
  cases hjunction : c.race.atJunction with
  | true =>
    rw [hjunction] at hturn
    let noted : Cabinet ω := { c with
      race := c.race.turned
      journal := c.journal.push {
        level := .debug, source := "game_vm",
        message := s!"steer to {c.race.turned.place}, score {c.race.turned.score}" } }
    obtain ⟨outside, htick⟩ := tick_apply eye noted h.turned
    refine ⟨outside, ?_⟩
    simp only [steer, raceOf, Act.bind_apply, Act.run_apply, hturn, Act.get_apply, hplace,
      Act.lift_ok_apply, if_true, note, Act.modify_apply]
    rw [htick]
    simp [noted, ticked, steered, Race.steered, Race.steerShows, Race.steerNotes, hjunction]
  | false =>
    rw [hjunction] at hturn
    refine ⟨c.outside, ?_⟩
    simp [steer, raceOf, hturn, hplace, note, steered, Race.steered, Race.steerShows,
      Race.steerNotes, Race.crashNote, hjunction]

/-- The cabinet at the beginning of a game. -/
def restarted (speed : Int) (c : Cabinet ω) : Cabinet ω :=
  { c with race := c.race.restarted speed }

theorem resetRace_apply (h : c.race.Sound) (speed : Int) :
    resetRace (.int speed) c = .ok ⟨⟩ (c.restarted speed) := by
  simp [resetRace, raceOf, restarted, (h.reset_apply speed).1]

/-! ## Stages -/

/-- The cabinet at a stage that was just entered. -/
def entered (stage : Stage) (c : Cabinet ω) : Cabinet ω :=
  { c with stage := some stage, journal := c.journal.push (stage.note c.stage) }

theorem enter_apply (stage : Stage) : enter stage c = .ok ⟨⟩ (c.entered stage) := by
  cases hlast : c.stage <;> simp [enter, note, entered, Stage.note, hlast]

end Cabinet

end DigitRace
