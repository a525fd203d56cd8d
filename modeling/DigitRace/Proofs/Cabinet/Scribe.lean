import DigitRace.Proofs.Cabinet.Screens

/-!
# Before a scribe

A scribe is an onlooker who writes every pattern down with its time. What is written is all that the
game shows, in order; moving the key, arming the timer and letting time pass write nothing.
-/

namespace DigitRace

/-- Patterns, with the times at which they were shown. -/
abbrev Writes := List (Rat × String)

/-- Someone who writes every pattern down with its time. -/
def Onlooker.scribe (clock : Cabinet Writes → Rat) : Onlooker Writes where
  seen pattern c := c.outside ++ [(c.agenda.now, pattern)]
  turned _ c := c.outside
  clock

namespace Cabinet

variable {clock : Cabinet Writes → Rat} {c c' : Cabinet Writes}

/-- The cabinet once a pattern was shown before a scribe. -/
def written (pattern : String) (c : Cabinet Writes) : Cabinet Writes :=
  c.shows pattern
    (c.outside ++ if c.display.observer.isSome then [(c.agenda.now, pattern)] else [])

variable (clock) in
theorem scribe_showPattern (pattern : String) (c : Cabinet Writes) :
    showPattern (Onlooker.scribe clock).around pattern c = .ok ⟨⟩ (c.written pattern) := by
  cases hobserver : c.display.observer <;>
    simp [showPattern, Display.showing, displayOf, written, shows, Onlooker.around,
      Onlooker.scribe, hobserver]

variable (clock) in
theorem scribe_showCharacter (s : String) (c : Cabinet Writes) :
    showCharacter (Onlooker.scribe clock).around (.text s) c =
      .ok ⟨⟩ (c.written (Glyph.ofText s)) := by
  simp [showCharacter, Glyph.ofValue_text, scribe_showPattern]

/-- An observed display is written down. -/
theorem written_outside (hobserved : c.display.observer.isSome = true) (pattern : String) :
    (c.written pattern).outside = c.outside ++ [(c.agenda.now, pattern)] := by
  simp [written, shows, hobserved]

@[simp] theorem moved_outside (pressed : Bool) :
    (moved (Onlooker.scribe clock) pressed c).outside = c.outside := by
  simp [moved, Onlooker.scribe]

/-- What passes by is not written down. -/
theorem Passes.outside_eq {happening : Happening}
    (h : Passes (Onlooker.scribe clock) c happening c') : c'.outside = c.outside := by
  cases h with
  | move pressed => exact moved_outside pressed
  | _ => rfl

/-- A routine is called by nobody before a scribe, while the key is down or up. -/
def calledAlone (routine : Routine) (pressed : Bool) : Cabinet Writes where
  race := .onTrack
  display := { pattern := "", observer := some () }
  key := { pressed }
  timer := Timer.new ticksPerSecond 0
  chances _ := 0
  tasks := #[{ state := .calling routine }]
  active := some 0
  outside := []

theorem calledAlone_carried (routine : Routine) (pressed : Bool) :
    Carried (.calling routine) [] (calledAlone routine pressed) :=
  ⟨rfl, rfl, rfl, rfl, rfl⟩

theorem calledAlone_clocked (routine : Routine) (pressed : Bool) :
    (calledAlone routine pressed).Clocked :=
  .inl ⟨rfl, rfl⟩

end Cabinet

end DigitRace
