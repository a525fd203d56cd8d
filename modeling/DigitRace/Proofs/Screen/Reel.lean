import DigitRace.Proofs.Cabinet.Calling
import DigitRace.Proofs.Cabinet.Scribe

/-!
# Reels

What a screen shows while nothing disturbs it is a reel: shots of one pattern each, one after the
other, each for its number of ticks. While a reel runs before a scribe, the shots that were shown
are written down with their times, and the timer is armed up to the end of the last of them. Where
all that is due has happened, what is written is what the whole reel writes up to that time.
-/

namespace DigitRace

/-- A pattern that is shown for a number of ticks. -/
structure Shot where
  pattern : String
  ticks : Nat
  deriving DecidableEq

/-- Patterns, with the ticks at which they are shown. -/
abbrev Cues := List (Nat × String)

namespace Shot

/-- How long a reel is. -/
def length (reel : List Shot) : Nat :=
  (reel.map Shot.ticks).sum

/-- The patterns of a reel that begins at a tick. -/
def cues (tick : Nat) : List Shot → Cues
  | [] => []
  | shot :: rest => (tick, shot.pattern) :: cues (tick + shot.ticks) rest

@[simp] theorem length_nil : length [] = 0 := rfl

@[simp] theorem length_cons (shot : Shot) (rest : List Shot) :
    length (shot :: rest) = shot.ticks + length rest := by
  simp [length]

@[simp] theorem length_append (reel rest : List Shot) :
    length (reel ++ rest) = length reel + length rest := by
  simp [length]

theorem cues_append (tick : Nat) (reel rest : List Shot) :
    cues tick (reel ++ rest) = cues tick reel ++ cues (tick + length reel) rest := by
  induction reel generalizing tick with
  | nil => rfl
  | cons shot reel ih => simp [cues, ih, Nat.add_assoc]

/-- No shot comes before the reel begins. -/
theorem le_of_mem_cues {tick : Nat} {reel : List Shot} {cue : Nat × String}
    (h : cue ∈ cues tick reel) : tick ≤ cue.1 := by
  induction reel generalizing tick with
  | nil => cases h
  | cons shot rest ih =>
    rcases List.mem_cons.mp h with rfl | hrest
    · exact le_rfl
    · exact (Nat.le_add_right _ _).trans (ih hrest)

/-- No shot comes after the reel is over. -/
theorem mem_cues_le {tick : Nat} {reel : List Shot} {cue : Nat × String}
    (h : cue ∈ cues tick reel) : cue.1 ≤ tick + length reel := by
  induction reel generalizing tick with
  | nil => cases h
  | cons shot rest ih =>
    rw [length_cons]
    rcases List.mem_cons.mp h with rfl | hrest
    · exact Nat.le_add_right _ _
    · have hlater := ih hrest
      omega

end Shot

namespace Cabinet

/-- The time of a tick, where ticks of a rate count from `start`. -/
def tickTime (start : Rat) (rate : Int) (tick : Nat) : Rat :=
  start + pause tick rate

/-- Patterns at their ticks, as a scribe writes them down. -/
def timed (start : Rat) (rate : Int) (cues : Cues) : Writes :=
  cues.map fun cue => (tickTime start rate cue.1, cue.2)

/-- The time so many ticks later. -/
def ticksLater {ω : Type} (ticks : Nat) (c : Cabinet ω) : Rat :=
  tickTime c.agenda.now c.timer.rate ticks

/-- What is written once patterns were shown, at ticks that count from now. -/
def scheduled (cues : Cues) (c : Cabinet Writes) : Writes :=
  c.outside ++ timed c.agenda.now c.timer.rate cues

/-- The patterns among `cues` whose ticks, counted from `first`, come up to a time. -/
def cuesUpTo {ω : Type} (first : Cabinet ω) (time : Rat) (cues : Cues) : Cues :=
  cues.filter fun cue => first.ticksLater cue.1 ≤ time

variable {c c' : Cabinet Writes} {start : Rat} {rate : Int}
  {begun : Writes} {shown : List Shot}

@[simp] theorem tickTime_zero (start : Rat) (rate : Int) : tickTime start rate 0 = start := by
  simp [tickTime, pause]

theorem tickTime_add (start : Rat) (rate : Int) (tick ticks : Nat) :
    tickTime start rate (tick + ticks) = tickTime start rate tick + pause ticks rate := by
  rw [tickTime, Nat.cast_add, pause_add (Int.natCast_nonneg _) (Int.natCast_nonneg _), ← add_assoc]
  rfl

theorem tickTime_mono {tick tick' : Nat} (h : tick ≤ tick') :
    tickTime start rate tick ≤ tickTime start rate tick' :=
  add_le_add_right (pause_mono (Int.natCast_nonneg _) (Int.ofNat_le.mpr h) rate) start

@[simp] theorem timed_append (cues later : Cues) :
    timed start rate (cues ++ later) = timed start rate cues ++ timed start rate later :=
  List.map_append

/-- The shots of a reel that were shown are written down, each at its time, and nothing else is
since the reel began. -/
structure Filmed (start : Rat) (rate : Int) (begun : Writes) (shown : List Shot)
    (c : Cabinet Writes) : Prop where
  outside : c.outside = begun ++ timed start rate (Shot.cues 0 shown)
  past : ∀ cue ∈ Shot.cues 0 shown, tickTime start rate cue.1 ≤ c.agenda.now
  rate : c.timer.rate = rate
  observed : c.display.observer.isSome = true

namespace Filmed

/-- At its beginning nothing of a reel is written. -/
theorem begins (hrate : c.timer.rate = rate) (hobserved : c.display.observer.isSome = true) :
    Filmed c.agenda.now rate c.outside [] c :=
  ⟨by simp [Shot.cues, timed], by simp [Shot.cues], hrate, hobserved⟩

/-- Where nothing is written, what was shown stays the same. -/
theorem kept (h : Filmed start rate begun shown c) (houtside : c'.outside = c.outside)
    (hnow : c.agenda.now ≤ c'.agenda.now) (hrate : c'.timer.rate = c.timer.rate)
    (hdisplay : c'.display = c.display) : Filmed start rate begun shown c' :=
  ⟨houtside.trans h.outside, fun cue hcue => (h.past cue hcue).trans hnow, hrate.trans h.rate,
    hdisplay ▸ h.observed⟩

/-- At the end of a shot, what was shown is past. -/
theorem expired (h : Filmed start rate begun shown c) :
    Filmed start rate begun shown (c.expired (tickTime start rate (Shot.length shown))) :=
  ⟨h.outside, fun _ hcue => tickTime_mono (by simpa using Shot.mem_cues_le hcue), h.rate,
    h.observed⟩

/-- At the end of a shot the next one is shown, and it ends when its ticks are over. -/
theorem shot (h : Filmed start rate begun shown c)
    (hnow : c.agenda.now = tickTime start rate (Shot.length shown)) (next : Shot) :
    Filmed start rate begun (shown ++ [next]) (c.written next.pattern) := by
  refine ⟨?_, fun cue hcue => ?_, h.rate, h.observed⟩
  · rw [written_outside h.observed, h.outside, Shot.cues_append, hnow]
    simp [Shot.cues, timed]
  · rw [Shot.cues_append, List.mem_append] at hcue
    rcases hcue with hearlier | hlast
    · exact h.past cue hearlier
    · obtain rfl : cue = (Shot.length shown, next.pattern) := by simpa [Shot.cues] using hlast
      exact hnow.ge

/-- Where all that is due has happened during a shot, what the whole reel writes up to that time is
written. -/
theorem upTo (h : Filmed start rate begun shown c)
    (hends : c.EndsAt (tickTime start rate (Shot.length shown))) (hcalm : c.Calm)
    (rest : List Shot) : c.outside = begun ++ timed start rate
      ((Shot.cues 0 (shown ++ rest)).filter
        fun cue => tickTime start rate cue.1 ≤ c.agenda.now) := by
  obtain ⟨number, -, hdeadlines⟩ := hends
  have hlater : c.agenda.now < tickTime start rate (Shot.length shown) :=
    hcalm.2 _ (by rw [hdeadlines]; exact List.mem_singleton_self _)
  have hshown : (Shot.cues 0 shown).filter
      (fun cue => tickTime start rate cue.1 ≤ c.agenda.now) = Shot.cues 0 shown :=
    List.filter_eq_self.mpr fun cue hcue => decide_eq_true (h.past cue hcue)
  have hrest : (Shot.cues (Shot.length shown) rest).filter
      (fun cue => tickTime start rate cue.1 ≤ c.agenda.now) = [] :=
    List.filter_eq_nil_iff.mpr fun cue hcue => by
      simpa using hlater.trans_le (tickTime_mono (Shot.le_of_mem_cues hcue))
  rw [Shot.cues_append, List.filter_append, Nat.zero_add, hshown, hrest, List.append_nil]
  exact h.outside

end Filmed

/-- A countdown that is armed at the beginning of a shot for its ticks ends with the shot. -/
theorem endsAt_shot {eye : Onlooker Writes} (hrate : c.timer.rate = rate)
    (hnow : c.agenda.now = tickTime start rate (Shot.length shown)) (next : Shot) :
    (armedFor eye next.ticks c).EndsAt (tickTime start rate (Shot.length (shown ++ [next]))) := by
  have hends := armedFor_endsAt eye next.ticks c
  rw [hnow, hrate, ← tickTime_add] at hends
  simpa using hends

end Cabinet

end DigitRace
