import DigitRace.Proofs.Cabinet.Carrying
import DigitRace.Proofs.Cabinet.Marks

/-!
# Waits and screens

The game waits for the key, or for the key and the timer, and shows characters, a countdown
and a digit that flashes. Each of these begins in one way and, while it waits, reacts to
each event in one way; both are said here for the watch that is opened.
-/

namespace DigitRace

namespace Cabinet

variable {ω : Type} (eye : Onlooker ω) {c : Cabinet ω} {w : Nat}

section

variable {state : Task.State} {stack : List Frame}

theorem Carried.entered (h : Carried state stack c) (stage : Stage) :
    Carried state stack (c.entered stage) :=
  ⟨h.tasks, h.active, h.ready, h.deaf⟩

/-- A character or a dark digit is shown, and the timer is armed. -/
theorem Carried.shown (h : Carried state stack c) (ticks : Int) (pattern : String) (outside : ω) :
    Carried state stack (armedFor eye ticks (c.shows pattern outside)) :=
  ⟨h.tasks, h.active, h.ready, h.deaf⟩

end

/-! ## How they begin -/

/-- A release is waited for while the key is down. -/
theorem begin_keyReleased (hdeaf : c.Deaf) : begin eye.around .keyReleased c =
    if c.key.pressed then .ok (.await c.watches.size none) (c.opened .release)
    else .ok (.done .nothing) c := by
  cases hpressed : c.key.pressed <;>
    simp [begin, awaitRelease, hpressed, openWatch, watchKey, keyOf, Key.register, opened,
      Watch.Kind.hearsTimer, Watch.Kind.hearsKey, hdeaf.2, ← hdeaf.1]

/-- A press or the end of the countdown is waited for unless there was one. -/
theorem begin_pressOrEvent (hdeaf : c.Deaf) : begin eye.around .pressOrEvent c =
    if c.key.pressed || c.timer.elapsed then .ok (.done (.flag c.key.pressed)) c
    else .ok (.await c.watches.size none) (c.opened .pressOrEvent) := by
  have hopen := open_both_apply .pressOrEvent hdeaf rfl rfl none
  cases hover : c.key.pressed || c.timer.elapsed
  · simp only [begin, awaitPressOrEvent, Act.bind_apply, Act.get_apply, hover]
    exact hopen
  · simp only [begin, awaitPressOrEvent, Act.bind_apply, Act.get_apply, hover]
    rfl

theorem Clocked.shows (h : c.Clocked) (pattern : String) (outside : ω) :
    (c.shows pattern outside).Clocked := h

/-- The demo begins with its text. -/
theorem begin_demo : begin eye.around .demo c =
    .ok (.call (.text (.text startText)) (some .demoTextShown)) (c.entered .demo) := by
  simp [begin, enter_apply]

/-- A text is shown character by character. -/
theorem begin_text (s : String) : begin eye.around (.text (.text s)) c =
    .ok (continueText (s.toList.map fun char => .text char.toString)) c := by
  simp [begin, Value.items]

/-- A character is shown for half a second. -/
theorem begin_character (s : String) (hclocked : c.Clocked) (hrate : c.timer.rate ≠ 0) :
    ∃ outside, begin eye.around (.character (.text s)) c =
      .ok (.call .pressOrEvent (some .characterShown))
        (armedFor eye characterTicks (c.shows (Glyph.ofText s) outside)) := by
  obtain ⟨outside, hshow⟩ := showCharacter_apply eye c s
  have harmed := (hclocked.shows (Glyph.ofText s) outside).enable_small eye hrate
    (by decide : (characterTicks : Int) ≤ 50)
  refine ⟨outside, ?_⟩
  simp only [begin, beginCharacter, Act.bind_apply, hshow, harmed]
  rfl

/-- At rate 0 a character is shown, and then its task fails. -/
theorem begin_character_fails (s : String) (hclocked : c.Clocked)
    (hrate : c.timer.rate = 0) : ∃ outside, begin eye.around (.character (.text s)) c =
      .error .divisionByZero (refused characterTicks (c.shows (Glyph.ofText s) outside)) := by
  obtain ⟨outside, hshow⟩ := showCharacter_apply eye c s
  have hrefused := (hclocked.shows (Glyph.ofText s) outside).enable_zero eye hrate characterTicks
  refine ⟨outside, ?_⟩
  simp only [begin, beginCharacter, Act.bind_apply, hshow, hrefused]

/-- After a character the digit is dark for a tick, unless there was a press. -/
theorem resume_characterShown (pressed : Bool) (hclocked : c.Clocked) (hrate : c.timer.rate ≠ 0) :
    ∃ outside, resume eye.around (.flag pressed) .characterShown c =
      if pressed then .ok (.done (.flag true)) c
      else .ok (.call .pressOrEvent none) (armedFor eye 1 (c.shows "" outside)) := by
  obtain ⟨outside, hdark⟩ := darken_apply eye c
  have harmed := (hclocked.shows "" outside).enable_small eye hrate (by decide : (1 : Int) ≤ 50)
  refine ⟨outside, ?_⟩
  cases pressed
  · simp only [resume, Answer.flag.injEq, Bool.false_eq_true, if_false, Act.bind_apply, hdark,
      harmed]
    rfl
  · simp [resume]

/-- A press is handed on, and without one the rest of a text is shown. -/
theorem resume_textRest (pressed : Bool) (rest : List Value) :
    resume eye.around (.flag pressed) (.textRest rest) c =
      .ok (if pressed then .done (.flag true) else continueText rest) c := by
  cases pressed <;> simp [resume]

theorem atMost_int (n : Int) (bound : Nat) :
    (Value.int n).atMost bound = .ok (.int (min n bound)) := by
  have hcast : ((bound : Rat) < (n : Rat)) ↔ (bound : Int) < n := by exact_mod_cast Iff.rfl
  simp only [Value.atMost, Value.number_int, bind, Except.bind, pure, Except.pure, hcast]
  split
  · rw [min_eq_right (by omega)]
  · rw [min_eq_left (by omega)]

/-- A watch on the timer alone is opened. -/
theorem open_timer_apply {α : Type} (kind : Watch.Kind) (hdeaf : c.Deaf)
    (htimer : kind.hearsTimer = true) (hkey : kind.hearsKey = false) (next : Nat → Play ω α) :
    (do
      let watch ← openWatch kind
      watchTimer watch
      next watch : Play ω α) c = next c.watches.size (c.opened kind) := by
  have hkeys : { c.key with listeners := [] } = c.key := by rw [← hdeaf.2]
  simp [openWatch, watchTimer, updateTimer, Timer.register, opened, htimer, hkey, hdeaf.1, hkeys]

/-- A countdown shows its first digit, and a digit that flashes is shown at first. Both arm the
timer for the time of this. -/
private theorem open_digit_apply (kind : Watch.Kind) (hdeaf : c.Deaf)
    (htimer : kind.hearsTimer = true) (hkey : kind.hearsKey = false) (hclocked : c.Clocked)
    (hrate : c.timer.rate ≠ 0) (n : Int) {ticks : Int} (hticks : ticks ≤ 50) :
    ∃ outside, (do
      let watch ← openWatch kind
      watchTimer watch
      showDigit eye.around (.int n)
      enable eye.around (.int ticks)
      return .await watch none : Play ω Progress) c =
        .ok (.await c.watches.size none)
          (armedFor eye ticks ((c.opened kind).shows (digitPattern n) outside)) := by
  obtain ⟨outside, hshow⟩ := showDigit_apply eye (c.opened kind) n
  have hopened : (c.opened kind).Clocked := hclocked
  have harmed := (hopened.shows (digitPattern n) outside).enable_small eye hrate hticks
  refine ⟨outside, ?_⟩
  rw [open_timer_apply kind hdeaf htimer hkey]
  simp only [Act.bind_apply, hshow, harmed]
  rfl

theorem begin_countdown (n : Int) (hdeaf : c.Deaf) (hclocked : c.Clocked)
    (hrate : c.timer.rate ≠ 0) : ∃ outside ticks, begin eye.around (.countdown (.int n)) c =
      .ok (.await c.watches.size none) (armedFor eye ticks
        ((c.opened (.countdown (.int (min n greatestDigit)) countdownFlashes)).shows
          (digitPattern (min n greatestDigit)) outside)) := by
  let first : Value := .int (min n greatestDigit)
  let ticks : Int := if first.truthy then (digitTicks : Int) else flashTicks
  have hticks : ticks ≤ 50 := by
    unfold ticks
    cases first.truthy <;> decide
  obtain ⟨outside, h⟩ := open_digit_apply eye (.countdown first countdownFlashes) hdeaf rfl rfl
    hclocked hrate (min n greatestDigit) hticks
  refine ⟨outside, ticks, ?_⟩
  simp only [begin, beginCountdown, atMost_int]
  rw [Act.bind_apply, Act.lift_ok_apply]
  exact h

/-- After a round the cars that are left are shown. -/
theorem resume_roundPlayed (answer : Answer) : resume eye.around answer .roundPlayed c =
    .ok (.call (.flashingDigit (.int c.race.cars)) (some .carsFlashed)) (c.entered .carLost) := by
  simp [resume, enter_apply, entered]

/-- A digit flashes once the key is up. -/
theorem begin_flashingDigit (n : Int) : begin eye.around (.flashingDigit (.int n)) c =
    .ok (.call .keyReleased (some (.readyToFlash (.int (min n greatestDigit))))) c := by
  simp [begin, atMost_int]

theorem resume_readyToFlash (answer : Answer) (n : Int) (hdeaf : c.Deaf) (hclocked : c.Clocked)
    (hrate : c.timer.rate ≠ 0) : ∃ outside,
      resume eye.around answer (.readyToFlash (.int n)) c =
        .ok (.await c.watches.size none) (armedFor eye flashTicks
          ((c.opened (.flashing (.int n) 0)).shows (digitPattern n) outside)) :=
  open_digit_apply eye (.flashing (.int n) 0) hdeaf rfl rfl hclocked hrate n (by decide)

end Cabinet

end DigitRace
