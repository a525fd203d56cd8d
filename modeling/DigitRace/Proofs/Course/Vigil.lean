import DigitRace.Proofs.Course.Run

/-!
# The game never gets stuck

Whenever nothing is left to do and the game is not over, it waits, and what it waits for can
come: the end of a countdown that is pending, or the release of a key that is down. Someone
who arms the timer for a time that is too large calls the countdown off in doing so, and then
the game waits for the key, or for someone to touch the timer again.
-/

namespace DigitRace.Cabinet

variable {ω : Type} {c c' : Cabinet ω} {games : Value}

/-- **The game never gets stuck.** After any happenings, if nothing is left to do and the game is
not over, one watch is on the timer, on the key or on both. If one is on the timer, a countdown is
pending, unless the timer was last armed for more ticks than can be waited for; if one is on the
key alone, the key is down. -/
theorem settled_game_waits (eye : Onlooker ω) (hfresh : c.Fresh) {happenings : List Happening}
    (hrun : Run eye.around inFull (spawn (.run games) c) happenings c') (hsettled : c'.Settled)
    (hpending : c'.allOver = false) :
    c'.timer.listeners.length ≤ 1 ∧ c'.key.listeners.length ≤ 1 ∧
      (c'.timer.listeners ≠ [] ∨ c'.key.listeners ≠ []) ∧
      (c'.timer.listeners ≠ [] → (∃ due, c'.EndsAt due) ∨
        Timer.delay c'.timer.count c'.timer.rate = .error .quotientTooLarge) ∧
      (c'.timer.listeners = [] → c'.key.pressed = true) := by
  obtain ⟨marks, hrun'⟩ := hrun.noting marksOf
  obtain ⟨leg, hcourses, -⟩ := hrun'.courses hfresh
  obtain ⟨kind, w, stack, hlistening, -, hwaits, hticking, hpressed, hupon⟩ :=
    hcourses.waiting hsettled hpending
  have htimer := hlistening.timer
  have hkey := hlistening.key
  refine ⟨?_, ?_, ?_, ?_, ?_⟩
  · rw [htimer]
    split <;> simp
  · rw [hkey]
    split <;> simp
  · rw [htimer, hkey]
    cases kind <;> simp [Watch.Kind.hearsTimer, Watch.Kind.hearsKey]
  · intro hlisteners
    have hhears : kind.hearsTimer = true := by
      by_contra hdeaf
      exact hlisteners (by rw [htimer, if_neg hdeaf])
    rcases hticking hhears with hends | ⟨fault, hdelay⟩
    · exact .inl hends
    · exact .inr (delay_too_large hupon.paced hdelay)
  · intro hlisteners
    have hdeaf : kind.hearsTimer = false := by
      by_contra hhears
      simp [htimer, hhears] at hlisteners
    exact hpressed (hwaits.release hdeaf)

/-- The demo waits with a countdown pending. -/
theorem settled_demo_waits :
    let demo := demoOnTrack .nothing
    demo.Settled ∧ demo.allOver = false ∧ demo.timer.listeners.length ≤ 1 ∧
      demo.key.listeners.length ≤ 1 ∧ ∃ due, demo.EndsAt due := by
  intro demo
  have hfresh := atRest_fresh Race.onTrack_sound
  obtain ⟨happenings, hrun⟩ : ∃ happenings, Run Onlooker.idle.around inFull
      (spawn (.run .nothing) (atRest .onTrack)) happenings demo :=
    demoOnTrack_run inFull .nothing
  have hsettled : demo.Settled := by decide +kernel
  have hpending : demo.allOver = false := by decide +kernel
  obtain ⟨htimer, hkey, -, hticking, -⟩ :=
    settled_game_waits Onlooker.idle hfresh hrun hsettled hpending
  have hlisteners : demo.timer.listeners ≠ [] := by decide +kernel
  have hcount : demo.timer.count = 25 := by decide +kernel
  have hrate : demo.timer.rate = 50 := by decide +kernel
  refine ⟨hsettled, hpending, htimer, hkey, (hticking hlisteners).resolve_right ?_⟩
  obtain ⟨span, hspan⟩ := delay_small (by decide : (50 : Int) ≠ 0) (by decide : (25 : Int) ≤ 50)
  rw [hcount, hrate, show (25 : Nat) = Int.toNat 25 from rfl, hspan]
  simp

/-- Someone who arms the timer for 10 ^ 400 ticks leaves the demo without a countdown. -/
theorem settled_demo_unarmed : ∃ (c c' : Cabinet Unit) (happenings : List Happening),
    c.Fresh ∧ Run Onlooker.idle.around inFull (spawn (.run .nothing) c) happenings c' ∧
      c'.Settled ∧ c'.allOver = false ∧ c'.timer.listeners ≠ [] ∧ c'.timer.armed = false := by
  have hfresh := atRest_fresh Race.onTrack_sound
  obtain ⟨happenings, hrun⟩ := demoOnTrack_run inFull .nothing
  have hactive : (demoOnTrack .nothing).active = none := by decide +kernel
  refine ⟨atRest .onTrack, _, _, hfresh, hrun.next (.enable (10 ^ 400) hactive), ?_, ?_, ?_, ?_⟩
  · decide +kernel
  · decide +kernel
  · decide +kernel
  · decide +kernel

end DigitRace.Cabinet
