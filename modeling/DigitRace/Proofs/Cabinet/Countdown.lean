import DigitRace.Proofs.Cabinet.Onlooker
import Mathlib.Algebra.Order.Field.Basic
import Mathlib.Algebra.Order.Field.Rat

/-!
# The countdown and its deadline

While nothing but the timer sets deadlines, the agenda holds the deadline of the pending
countdown and no other. Arming the timer then replaces that deadline, calling the countdown
off drops it, and when it is met the timer has run out.
-/

namespace DigitRace

namespace Cabinet

variable {ω : Type} {c : Cabinet ω}

/-- A countdown is pending that ends at `due`. -/
def EndsAt (due : Rat) (c : Cabinet ω) : Prop :=
  ∃ number, c.timer.handle = some number ∧ c.agenda.deadlines = [⟨due, number, .countdownOver⟩]

/-- No countdown is pending. -/
def Unarmed (c : Cabinet ω) : Prop :=
  c.timer.handle = none ∧ c.agenda.deadlines = []

/-- The agenda holds the deadline of the pending countdown and no other. -/
def Clocked (c : Cabinet ω) : Prop :=
  c.Unarmed ∨ ∃ due, c.EndsAt due

theorem EndsAt.clocked {due : Rat} (h : c.EndsAt due) : c.Clocked := .inr ⟨due, h⟩

/-- A countdown has one end. -/
theorem EndsAt.unique {due due' : Rat} (h : c.EndsAt due) (h' : c.EndsAt due') : due = due' := by
  obtain ⟨number, -, hdeadlines⟩ := h
  obtain ⟨number', -, hdeadlines'⟩ := h'
  have hsame := hdeadlines.symm.trans hdeadlines'
  simp only [List.cons.injEq, Deadline.mk.injEq] at hsame
  exact hsame.1.1

theorem Unarmed.not_endsAt (h : c.Unarmed) {due : Rat} : ¬ c.EndsAt due := by
  rintro ⟨number, hhandle, -⟩
  rw [h.1] at hhandle
  cases hhandle

/-! ## Arming -/

/-- The time that a number of ticks takes; a negative number counts as none, and so does a
negative time. -/
def pause (ticks : Int) (rate : Int) : Rat :=
  let span := (ticks.toNat : Rat) / (rate : Rat)
  if span < 0 then 0 else span

theorem pause_of_neg {rate : Int} (h : rate < 0) (ticks : Int) : pause ticks rate = 0 := by
  have hspan : (ticks.toNat : Rat) / (rate : Rat) ≤ 0 :=
    div_nonpos_of_nonneg_of_nonpos (Nat.cast_nonneg _) (Int.cast_nonpos.mpr h.le)
  simp only [pause]
  split
  · rfl
  · rename_i hpositive
    exact le_antisymm hspan (not_lt.mp hpositive)

theorem pause_of_nonneg {rate : Int} (h : 0 ≤ rate) (ticks : Int) :
    pause ticks rate = (ticks.toNat : Rat) / (rate : Rat) :=
  if_neg (not_lt.mpr (div_nonneg (Nat.cast_nonneg _) (Int.cast_nonneg h)))

/-- Ticks can be waited for in two parts. -/
theorem pause_add {ticks ticks' : Int} (h : 0 ≤ ticks) (h' : 0 ≤ ticks') (rate : Int) :
    pause (ticks + ticks') rate = pause ticks rate + pause ticks' rate := by
  by_cases hrate : rate < 0
  · simp only [pause_of_neg hrate, add_zero]
  · simp only [pause_of_nonneg (not_lt.mp hrate), Int.toNat_add h h', Nat.cast_add, add_div]

theorem pause_nonneg (ticks : Int) (rate : Int) : 0 ≤ pause ticks rate := by
  by_cases hrate : rate < 0
  · rw [pause_of_neg hrate]
  · rw [pause_of_nonneg (not_lt.mp hrate)]
    exact div_nonneg (Nat.cast_nonneg _) (Int.cast_nonneg (not_lt.mp hrate))

/-- More ticks take no less time. -/
theorem pause_mono {ticks ticks' : Int} (h : 0 ≤ ticks) (hle : ticks ≤ ticks') (rate : Int) :
    pause ticks rate ≤ pause ticks' rate := by
  have hsum := pause_add h (sub_nonneg.mpr hle) rate
  rw [add_sub_cancel] at hsum
  rw [hsum]
  exact le_add_of_nonneg_right (pause_nonneg _ rate)

/-- The cabinet once the countdown is called off. -/
def cleared (c : Cabinet ω) : Cabinet ω :=
  { c with
    timer := { c.timer with handle := none, elapsed := false }
    agenda := { c.agenda with deadlines := [] } }

/-- The cabinet once the countdown is armed, where nothing else has a deadline. -/
def armedFor (eye : Onlooker ω) (ticks : Int) (c : Cabinet ω) : Cabinet ω :=
  { c with
    timer := { c.timer with
      handle := some c.agenda.issued, elapsed := false, count := ticks.toNat, start := eye.clock c }
    agenda := { c.agenda with
      deadlines :=
        [⟨c.agenda.now + pause ticks c.timer.rate, c.agenda.issued, .countdownOver⟩]
      issued := c.agenda.issued + 1 } }

/-- The cabinet once arming was refused: the ticks are kept, and nothing is pending. -/
def refused (ticks : Int) (c : Cabinet ω) : Cabinet ω :=
  { c.cleared with timer := { c.cleared.timer with count := ticks.toNat } }

theorem armedFor_endsAt (eye : Onlooker ω) (ticks : Int) (c : Cabinet ω) :
    (c.armedFor eye ticks).EndsAt (c.agenda.now + pause ticks c.timer.rate) :=
  ⟨c.agenda.issued, rfl, rfl⟩

theorem cleared_unarmed (c : Cabinet ω) : c.cleared.Unarmed := ⟨rfl, rfl⟩

theorem refused_unarmed (ticks : Int) (c : Cabinet ω) : (c.refused ticks).Unarmed := ⟨rfl, rfl⟩

theorem Clocked.clear_apply (h : c.Clocked) :
    tickingOf.run Timer.clear c = .ok ⟨⟩ c.cleared := by
  rcases h with ⟨hhandle, hdeadlines⟩ | ⟨due, number, hhandle, hdeadlines⟩
  · simp [tickingOf, Timer.clear, cleared, hhandle, ← hdeadlines]
  · simp [tickingOf, Timer.clear, cleared, Agenda.cancel, hhandle, hdeadlines]

/-- Arming succeeds if the ticks take a time that can be waited for. -/
theorem Clocked.enable_apply (eye : Onlooker ω) (h : c.Clocked) {ticks : Int} {span : Rat}
    (hdelay : Timer.delay ticks.toNat c.timer.rate = .ok span) :
    enable eye.around (.int ticks) c = .ok ⟨⟩ (c.armedFor eye ticks) := by
  have hspan : span = (ticks.toNat : Rat) / (c.timer.rate : Rat) := by
    unfold Timer.delay at hdelay
    split at hdelay
    · cases hdelay
    · split at hdelay
      · cases hdelay
      · exact (Except.ok.inj hdelay).symm
  rcases h with ⟨hhandle, hdeadlines⟩ | ⟨due, number, hhandle, hdeadlines⟩ <;>
    simp [enable, tickingOf, Timer.enable, Timer.clear, Agenda.cancel, Agenda.callLater,
      Agenda.place, armedFor, pause, Onlooker.around, hhandle, hdeadlines, hdelay, hspan]

/-- Otherwise it fails, and the countdown is called off all the same. -/
theorem Clocked.enable_refused (eye : Onlooker ω) (h : c.Clocked) {ticks : Int} {fault : Fault}
    (hdelay : Timer.delay ticks.toNat c.timer.rate = .error fault) :
    enable eye.around (.int ticks) c = .error fault (c.refused ticks) := by
  rcases h with ⟨hhandle, hdeadlines⟩ | ⟨due, number, hhandle, hdeadlines⟩
  · simp [enable, tickingOf, Timer.enable, Timer.clear, refused, cleared, Onlooker.around,
      hhandle, ← hdeadlines, hdelay]
  · simp [enable, tickingOf, Timer.enable, Timer.clear, Agenda.cancel, refused, cleared,
      Onlooker.around, hhandle, hdeadlines, hdelay]

/-- Up to 50 ticks can be waited for at every rate but 0. -/
theorem delay_small {rate : Int} (hrate : rate ≠ 0) {ticks : Int} (hticks : ticks ≤ 50) :
    ∃ span, Timer.delay ticks.toNat rate = .ok span := by
  have hbound : 50 < Decimal.overflowBound := by decide +kernel
  have hmul : Decimal.overflowBound * 1 ≤ Decimal.overflowBound * rate.natAbs :=
    Nat.mul_le_mul_left _ (Int.natAbs_pos.mpr hrate)
  have hroom : ¬ Decimal.overflowBound * rate.natAbs ≤ ticks.toNat := by omega
  exact ⟨(ticks.toNat : Rat) / (rate : Rat),
    by simp only [Timer.delay, if_neg hrate, if_neg hroom]⟩

/-- At every rate but 0, ticks cannot be waited for only because their time is too large. -/
theorem delay_too_large {rate : Int} (hrate : rate ≠ 0) {count : Nat} {fault : Fault}
    (h : Timer.delay count rate = .error fault) :
    Timer.delay count rate = .error .quotientTooLarge := by
  simp only [Timer.delay, if_neg hrate] at h ⊢
  split
  · rfl
  · rename_i hroom
    rw [if_neg hroom] at h
    cases h

/-- Arming for at most 50 ticks succeeds at every rate but 0. -/
theorem Clocked.enable_small (eye : Onlooker ω) (h : c.Clocked) (hrate : c.timer.rate ≠ 0)
    {ticks : Int} (hticks : ticks ≤ 50) :
    enable eye.around (.int ticks) c = .ok ⟨⟩ (c.armedFor eye ticks) := by
  obtain ⟨span, hdelay⟩ := delay_small hrate hticks
  exact h.enable_apply eye hdelay

/-- At rate 0 nothing can be waited for. -/
theorem Clocked.enable_zero (eye : Onlooker ω) (h : c.Clocked) (hrate : c.timer.rate = 0)
    (ticks : Int) : enable eye.around (.int ticks) c = .error .divisionByZero (c.refused ticks) :=
  h.enable_refused eye (by simp [Timer.delay, hrate])

end Cabinet

end DigitRace
