import DigitRace.Decimal.Rounding
import Mathlib.Algebra.Order.Field.Rat
import Mathlib.Tactic.Linarith
import Mathlib.Tactic.LinearCombination
import Mathlib.Tactic.Ring

/-!
# Seconds at their ticks

A clock that is looked at every tick shows seconds, rounded. Half way between two seconds the even
one is shown, so that the first second is short, and at even rates long and short seconds alternate.
At every rate each second begins at one tick after the one before it, and none is left out.
-/

namespace DigitRace

namespace Decimal

/-- Fractions are rounded to a number or above it from half way below it on; half way, they are if
this number is even. -/
theorem le_nearest_iff (n : Int) (q : Rat) : n ≤ nearest q ↔
    if n % 2 = 0 then (2 * n - 1) * (q.den : Int) ≤ 2 * q.num
    else (2 * n - 1) * (q.den : Int) < 2 * q.num := by
  have hden : 0 < (q.den : Int) := Int.natCast_pos.mpr q.den_pos
  have hnum := Int.mul_ediv_add_emod q.num q.den
  have hrest := Int.emod_nonneg q.num hden.ne'
  have hless := Int.emod_lt_of_pos q.num hden
  simp only [nearest]
  generalize q.num / (q.den : Int) = low at hnum ⊢
  generalize q.num % (q.den : Int) = rest at hnum hrest hless ⊢
  generalize (q.den : Int) = den at hden hnum hless ⊢
  rw [← hnum]
  rcases lt_trichotomy n (low + 1) with hbelow | rfl | habove
  · have hmul : n * den ≤ low * den := mul_le_mul_of_nonneg_right (by omega) hden.le
    have hlow : n ≤ (if 2 * rest < den then low
        else if 2 * rest = den ∧ low % 2 = 0 then low else low + 1) := by
      split_ifs <;> omega
    refine iff_of_true hlow ?_
    split_ifs <;> linarith
  · have hmid : (2 * (low + 1) - 1) * den = 2 * (den * low) + den := by ring
    rw [hmid]
    split_ifs <;> omega
  · have hmul : (low + 2) * den ≤ n * den := mul_le_mul_of_nonneg_right (by omega) hden.le
    have hhigh : ¬ n ≤ (if 2 * rest < den then low
        else if 2 * rest = den ∧ low % 2 = 0 then low else low + 1) := by
      split_ifs <;> omega
    refine iff_of_false hhigh ?_
    split_ifs <;> linarith

/-- The same comparison with the fraction itself. -/
theorem le_nearest_iff_half_le (n : Int) (q : Rat) : n ≤ nearest q ↔
    if n % 2 = 0 then (2 * n - 1 : Rat) ≤ 2 * q else (2 * n - 1 : Rat) < 2 * q := by
  have hden : (0 : Rat) < q.den := Nat.cast_pos.mpr q.den_pos
  have htwice : ((2 * q.num : Int) : Rat) = 2 * q * q.den := by
    rw [Int.cast_mul, ← Rat.mul_den_eq_num, mul_assoc]
    rfl
  have hodd : (((2 * n - 1) * q.den : Int) : Rat) = (2 * n - 1) * q.den := by push_cast; rfl
  rw [le_nearest_iff, ← Int.cast_le (R := Rat), ← Int.cast_lt (R := Rat), htwice, hodd,
    mul_le_mul_iff_left₀ hden, mul_lt_mul_iff_left₀ hden]

/-- A greater fraction is not rounded to a smaller number. -/
theorem nearest_mono {q r : Rat} (h : q ≤ r) : nearest q ≤ nearest r := by
  have hq := (le_nearest_iff_half_le (nearest q) q).mp le_rfl
  rw [le_nearest_iff_half_le]
  split_ifs at hq ⊢ <;> linarith

theorem nearest_nonneg {q : Rat} (h : 0 ≤ q) : 0 ≤ nearest q := by
  have hzero : nearest 0 = 0 := nearest_intCast 0
  rw [← hzero]
  exact nearest_mono h
end Decimal

variable {rate second tick : Nat}

/-- The second that a clock shows at a tick. -/
def secondAt (rate tick : Nat) : Nat :=
  (Decimal.nearest ((tick : Rat) / (rate : Rat))).toNat

/-- The tick at which a second begins: the first one from half way on to an even second, and the
first one after half way to an odd one. -/
def firstTick (rate second : Nat) : Nat :=
  if second = 0 then 0
  else if second % 2 = 0 then ((2 * second - 1) * rate + 1) / 2
  else (2 * second - 1) * rate / 2 + 1

/-- Ticks are rounded to a second or above it by the same comparison, without a fraction. -/
theorem le_nearest_ticks_iff (n : Int) (hrate : 0 < rate) :
    n ≤ Decimal.nearest ((tick : Rat) / (rate : Rat)) ↔
      if n % 2 = 0 then (2 * n - 1) * rate ≤ 2 * tick else (2 * n - 1) * rate < 2 * tick := by
  rw [Decimal.le_nearest_iff]
  generalize hspan : (tick : Rat) / (rate : Rat) = span
  have hden : 0 < (span.den : Int) := Int.natCast_pos.mpr span.den_pos
  have hpos : 0 < (rate : Int) := Int.natCast_pos.mpr hrate
  have hcross : span.num * rate = tick * span.den := by
    have hratio := (Rat.num_div_den span).trans hspan.symm
    rw [div_eq_div_iff (Nat.cast_ne_zero.mpr span.den_ne_zero)
      (Nat.cast_ne_zero.mpr hrate.ne')] at hratio
    exact_mod_cast hratio
  have hsame : (2 * span.num - (2 * n - 1) * span.den) * rate =
      (2 * tick - (2 * n - 1) * rate) * span.den := by
    linear_combination 2 * hcross
  split_ifs
  · rw [← sub_nonneg, ← mul_nonneg_iff_of_pos_right hpos, hsame,
      mul_nonneg_iff_of_pos_right hden, sub_nonneg]
  · rw [← sub_pos, ← mul_pos_iff_of_pos_right hpos, hsame, mul_pos_iff_of_pos_right hden,
      sub_pos]

/-- No tick is before the second 0. -/
theorem nearest_ticks (hrate : 0 < rate) :
    Decimal.nearest ((tick : Rat) / (rate : Rat)) = (secondAt rate tick : Int) := by
  have hnonneg : 0 ≤ Decimal.nearest ((tick : Rat) / (rate : Rat)) := by
    rw [le_nearest_ticks_iff 0 hrate, if_pos (by decide)]
    omega
  exact (Int.toNat_of_nonneg hnonneg).symm

/-- A second is shown, or a later one, from its first tick on. -/
theorem le_secondAt_iff (hrate : 0 < rate) :
    second ≤ secondAt rate tick ↔ firstTick rate second ≤ tick := by
  rw [← Int.ofNat_le, ← nearest_ticks hrate, le_nearest_ticks_iff _ hrate]
  rcases Nat.eq_zero_or_pos second with rfl | hpos
  · simp [firstTick]
    omega
  · have hcast : (2 * (second : Int) - 1) * rate = ((2 * second - 1) * rate : Nat) := by
      rw [Nat.cast_mul, Nat.cast_sub (by omega)]
      rfl
    rw [hcast, firstTick, if_neg hpos.ne']
    generalize (2 * second - 1) * rate = twice
    split_ifs <;> omega

/-- Each second begins after the one before it. -/
theorem firstTick_lt_succ (hrate : 0 < rate) (second : Nat) :
    firstTick rate second < firstTick rate (second + 1) := by
  rcases Nat.eq_zero_or_pos second with rfl | hpos
  · exact Nat.succ_pos _
  · have hnext : (2 * (second + 1) - 1) * rate = (2 * second - 1) * rate + 2 * rate := by
      rw [show 2 * (second + 1) - 1 = 2 * second - 1 + 2 by omega, Nat.add_mul]
    -- At one tick a second, half way between two seconds lies half way between two ticks.
    have hodd : rate = 1 → (2 * second - 1) * rate % 2 = 1 := by
      rintro rfl
      omega
    rw [firstTick, firstTick, if_neg hpos.ne', if_neg second.succ_ne_zero, hnext]
    generalize (2 * second - 1) * rate = twice at hodd
    split_ifs <;> omega

/-- At its first tick a second is shown. -/
theorem secondAt_firstTick (hrate : 0 < rate) (second : Nat) :
    secondAt rate (firstTick rate second) = second := by
  have hleast := (le_secondAt_iff hrate).mpr (le_refl (firstTick rate second))
  have hmost : ¬ second + 1 ≤ secondAt rate (firstTick rate second) := by
    rw [le_secondAt_iff hrate]
    exact Nat.not_le_of_lt (firstTick_lt_succ hrate second)
  omega

/-- From one tick to the next the second stays, or the next second begins. -/
theorem secondAt_succ (hrate : 0 < rate) (tick : Nat) :
    secondAt rate (tick + 1) = secondAt rate tick ∨
      secondAt rate (tick + 1) = secondAt rate tick + 1 ∧
        tick + 1 = firstTick rate (secondAt rate tick + 1) := by
  have hnow : firstTick rate (secondAt rate tick) ≤ tick := (le_secondAt_iff hrate).mp le_rfl
  have hnext : ¬ firstTick rate (secondAt rate tick + 1) ≤ tick := by
    rw [← le_secondAt_iff hrate]
    omega
  have hstays : secondAt rate tick ≤ secondAt rate (tick + 1) := by
    rw [le_secondAt_iff hrate]
    exact hnow.trans (Nat.le_succ tick)
  -- The second after the next begins later still, so that none is left out.
  have hlater : ¬ secondAt rate tick + 1 + 1 ≤ secondAt rate (tick + 1) := by
    have hlt := firstTick_lt_succ hrate (secondAt rate tick + 1)
    rw [le_secondAt_iff hrate]
    omega
  rcases Nat.eq_or_lt_of_le hstays with hsame | hmore
  · exact .inl hsame.symm
  · have hbegun : firstTick rate (secondAt rate tick + 1) ≤ tick + 1 :=
      (le_secondAt_iff hrate).mp hmore
    exact .inr ⟨by omega, by omega⟩

end DigitRace
