import DigitRace.Proofs.Acts
import DigitRace.Proofs.Timer.Seconds
import DigitRace.Timer
import Mathlib.Algebra.Order.Ring.Rat
import Mathlib.Data.List.Induction

/-!
# What is gone and what is left of a countdown

A timer is read by a clock that goes on and never back. What is gone of its countdown and what is
left of it are read apart, but they make up the stored ticks at every moment, whatever was done to
the timer before. An arming that fails may have stored its ticks and left the countdown to start
when it did; calling it off changes neither. While no ticks are stored, what is gone only grows and
what is left only shrinks.
-/

namespace DigitRace.Timer

/-- A timer in its loop, and the clock that it reads, which shows fractions. -/
structure Station (ι κ : Type) where
  timer : Timer Rat ι
  agenda : Agenda κ := {}
  clock : Rat

/-- What is done to a timer and its clock. -/
inductive Use (ι κ : Type) where
  /-- The countdown is to be armed, in a loop or where there is none. -/
  | enable (inLoop : Bool) (call : κ) (ticks : Value)
  /-- The countdown is called off. What listeners do who are told of it comes next. -/
  | disable
  /-- The countdown runs out. What listeners do who are told of it comes next. -/
  | runOut
  | register (listener : ι)
  | unregister (listener : ι)
  | resetClock
  /-- The clock goes on. -/
  | pass (span : NNRat)

variable {ι κ : Type} {rate : Int} {count : Nat} {s s' s'' : Station ι κ} {use : Use ι κ}
  {uses : List (Use ι κ)}

/-- The ticks that a use stores, if it does: those of an arming, as soon as they are known. A
negative number counts as none. -/
def Use.stored? : Use ι κ → Option Nat
  | enable _ _ ticks => ticks.whole.toOption.map Int.toNat
  | _ => none

theorem Use.stored?_of_ok {inLoop : Bool} {call : κ} {ticks : Value} {n : Int}
    (hwhole : ticks.whole = .ok n) :
    (enable inLoop call ticks : Use ι κ).stored? = some n.toNat := by
  simp [stored?, hwhole, Except.toOption]

theorem Use.stored?_of_error {inLoop : Bool} {call : κ} {ticks : Value} {fault : Fault}
    (hwhole : ticks.whole = .error fault) :
    (enable inLoop call ticks : Use ι κ).stored? = none := by
  simp [stored?, hwhole, Except.toOption]

/-- The ticks that were stored last, 0 before any were. -/
def storedAfter (uses : List (Use ι κ)) : Nat :=
  (uses.filterMap Use.stored?).getLast?.getD 0

theorem storedAfter_concat :
    storedAfter (uses ++ [use]) = use.stored?.getD (storedAfter uses) := by
  cases hstored : use.stored? <;> simp [storedAfter, hstored]

namespace Station

/-- A timer that was made when the clock showed `reading`. -/
def fresh (rate : Int) (reading : Rat) : Station ι κ :=
  { timer := Timer.new rate reading, clock := reading }

/-- What is left of the countdown by the clock. -/
def remaining (s : Station ι κ) : Except Fault Int :=
  s.timer.remainingTicks s.clock

/-- What is gone of the countdown by the clock. -/
def elapsed (s : Station ι κ) : Except Fault Int :=
  s.timer.elapsedTicks s.clock

/-! ## The readings -/

/-- Whole ticks since the countdown started, also those after its end. -/
def ticksGone (s : Station ι κ) : Int :=
  Decimal.nearest ((s.clock - s.timer.start) * (s.timer.rate : Rat))

theorem elapsed_eq (s : Station ι κ) : s.elapsed = .ok (min s.ticksGone s.timer.count) := by
  have hmin : (if s.ticksGone < s.timer.count then s.ticksGone else s.timer.count) =
      min s.ticksGone s.timer.count := by
    split_ifs <;> omega
  rw [← hmin]
  rfl

theorem remaining_eq (s : Station ι κ) :
    s.remaining = .ok (s.timer.count - min s.ticksGone s.timer.count) := by
  have hmin : (if s.ticksGone < s.timer.count then s.timer.count - s.ticksGone else 0) =
      s.timer.count - min s.ticksGone s.timer.count := by
    split_ifs <;> omega
  rw [← hmin]
  rfl

/-! ## Sparing the countdown -/

/-- From one station to another no ticks were stored, the countdown was not started, and the clock
did not go back. -/
structure Spares (s s' : Station ι κ) : Prop where
  rate_eq : s'.timer.rate = s.timer.rate
  count_eq : s'.timer.count = s.timer.count
  start_eq : s'.timer.start = s.timer.start
  clock_le : s.clock ≤ s'.clock

theorem Spares.refl : Spares s s := ⟨rfl, rfl, rfl, le_rfl⟩

theorem Spares.trans (h : Spares s s') (h' : Spares s' s'') : Spares s s'' :=
  ⟨h'.rate_eq.trans h.rate_eq, h'.count_eq.trans h.count_eq, h'.start_eq.trans h.start_eq,
    h.clock_le.trans h'.clock_le⟩

/-- The timer keeps its rate and the ticks that were stored last, and the countdown did not start
later than now. -/
structure Sound (rate : Int) (count : Nat) (s : Station ι κ) : Prop where
  rate_eq : s.timer.rate = rate
  count_eq : s.timer.count = count
  start_le : s.timer.start ≤ s.clock

theorem Spares.sound (h : Spares s s') (hs : Sound rate count s) : Sound rate count s' := by
  refine ⟨h.rate_eq.trans hs.rate_eq, h.count_eq.trans hs.count_eq, ?_⟩
  rw [h.start_eq]
  exact hs.start_le.trans h.clock_le

theorem Sound.ticksGone_nonneg (h : Sound rate count s) (hrate : 0 ≤ rate) : 0 ≤ s.ticksGone := by
  have hrate' : (0 : Rat) ≤ s.timer.rate := by
    rw [h.rate_eq]
    exact_mod_cast hrate
  exact Decimal.nearest_nonneg (mul_nonneg (sub_nonneg.mpr h.start_le) hrate')

theorem Spares.ticksGone_le (h : Spares s s') (hrate : 0 ≤ s.timer.rate) :
    s.ticksGone ≤ s'.ticksGone := by
  have hrate' : (0 : Rat) ≤ s.timer.rate := by exact_mod_cast hrate
  unfold ticksGone
  rw [h.start_eq, h.rate_eq]
  exact Decimal.nearest_mono (mul_le_mul_of_nonneg_right (sub_le_sub_right h.clock_le _) hrate')

/-! ## What a use changes -/

variable [DecidableEq ι]

/-- The timer in its loop. -/
def ticking : Part (Station ι κ) (Timer Rat ι × Agenda κ) where
  get s := (s.timer, s.agenda)
  put pair s := { s with timer := pair.1, agenda := pair.2 }

/-- Does what a use says. -/
def perform : Use ι κ → Act (Station ι κ) Unit
  | .enable inLoop call ticks => do
    let reading := (← get).clock
    ticking.run (Timer.enable inLoop reading call ticks)
  | .disable => ticking.run Timer.clear
  | .runOut => modify fun s => { s with timer := s.timer.ranOut }
  | .register listener => modify fun s => { s with timer := s.timer.register listener }
  | .unregister listener => modify fun s => { s with timer := s.timer.unregister listener }
  | .resetClock => modify fun s => { s with timer := s.timer.resetClock s.clock }
  | .pass span => modify fun s => { s with clock := s.clock + span }

/-- The station after a use, whether it failed or not. -/
def after (s : Station ι κ) (use : Use ι κ) : Station ι κ :=
  ((perform use).result s).2

/-- The station after uses, one after the other. -/
def afterAll (s : Station ι κ) (uses : List (Use ι κ)) : Station ι κ :=
  uses.foldl after s

/-- An arming clears the timer and stores its ticks, if they are known. It succeeds and starts the
countdown now, or it fails and leaves the start as it was. -/
theorem perform_enable_cases (s : Station ι κ) (inLoop : Bool) (call : κ) (ticks : Value) :
    let off := { s.timer with handle := none, elapsed := false }
    (∃ fault agenda, ticks.whole = .error fault ∧
      perform (.enable inLoop call ticks) s = .error fault { s with timer := off, agenda }) ∨
    ∃ n, ticks.whole = .ok n ∧
      ((∃ fault agenda, perform (.enable inLoop call ticks) s =
          .error fault { s with timer := { off with count := n.toNat }, agenda }) ∨
        ∃ handle agenda, perform (.enable inLoop call ticks) s =
          .ok ⟨⟩ { s with timer := { off with count := n.toNat, handle, start := s.clock },
                          agenda }) := by
  intro off
  obtain ⟨bare, hclear⟩ : ∃ bare, clear (s.timer, s.agenda) = .ok ⟨⟩ (off, bare) := ⟨_, rfl⟩
  cases hwhole : ticks.whole with
  | error fault =>
    refine .inl ⟨fault, bare, rfl, ?_⟩
    simp [perform, Timer.enable, ticking, hclear, hwhole]
  | ok n =>
    refine .inr ⟨n, rfl, ?_⟩
    cases inLoop with
    | false =>
      refine .inl ⟨.noLoop, bare, ?_⟩
      simp [perform, Timer.enable, ticking, hclear, hwhole]
    | true =>
      cases hdelay : delay n.toNat s.timer.rate with
      | error fault =>
        refine .inl ⟨fault, bare, ?_⟩
        simp [perform, Timer.enable, ticking, hclear, hwhole, hdelay, off]
      | ok pause =>
        refine .inr ⟨some bare.issued, bare.callLater pause call, ?_⟩
        simp [perform, Timer.enable, ticking, hclear, hwhole, hdelay, off]

/-- An arming that succeeds starts the countdown of its ticks now. -/
theorem perform_enable_ok {inLoop : Bool} {call : κ} {ticks : Value}
    (h : perform (.enable inLoop call ticks) s = .ok ⟨⟩ s') :
    ∃ n, ticks.whole = .ok n ∧ s'.timer.rate = s.timer.rate ∧ s'.timer.count = n.toNat ∧
      s'.timer.start = s.clock := by
  obtain ⟨fault, agenda, -, hfails⟩ | ⟨n, hwhole, ⟨fault, agenda, hfails⟩ | hstarts⟩ :=
    perform_enable_cases s inLoop call ticks
  · cases h.symm.trans hfails
  · cases h.symm.trans hfails
  · obtain ⟨handle, agenda, hstarts⟩ := hstarts
    obtain rfl := (EStateM.Result.ok.inj (h.symm.trans hstarts)).2
    exact ⟨n, hwhole, rfl, rfl, rfl⟩

/-- A use that stores no ticks spares the countdown. -/
theorem spares_after (s : Station ι κ) (hstored : use.stored? = none) : Spares s (s.after use) := by
  cases use with
  | enable inLoop call ticks =>
    obtain ⟨fault, agenda, -, hfails⟩ | ⟨n, hwhole, -⟩ :=
      perform_enable_cases s inLoop call ticks
    · rw [after, Act.result_of_error hfails]
      exact ⟨rfl, rfl, rfl, le_rfl⟩
    · rw [Use.stored?_of_ok hwhole] at hstored
      cases hstored
  | disable | runOut | register _ | unregister _ | resetClock => exact ⟨rfl, rfl, rfl, le_rfl⟩
  | pass span => exact ⟨rfl, rfl, rfl, le_add_of_nonneg_right span.2⟩

theorem spares_afterAll (s : Station ι κ) (hstored : ∀ use ∈ uses, use.stored? = none) :
    Spares s (s.afterAll uses) := by
  induction uses generalizing s with
  | nil => exact .refl
  | cons use rest ih =>
    exact (spares_after s (hstored use List.mem_cons_self)).trans
      (ih (s.after use) fun later hlater => hstored later (List.mem_cons_of_mem _ hlater))

theorem Sound.after (h : Sound rate count s) (use : Use ι κ) :
    Sound rate (use.stored?.getD count) (s.after use) := by
  cases hstored : use.stored? with
  | none => exact (spares_after s hstored).sound h
  | some stored =>
    cases use with
    | enable inLoop call ticks =>
      obtain ⟨fault, agenda, hwhole, -⟩ | ⟨n, hwhole, hfails | hstarts⟩ :=
        perform_enable_cases s inLoop call ticks
      · rw [Use.stored?_of_error hwhole] at hstored
        cases hstored
      · obtain ⟨fault, agenda, hfails⟩ := hfails
        obtain rfl := Option.some.inj ((Use.stored?_of_ok hwhole).symm.trans hstored)
        rw [Station.after, Act.result_of_error hfails]
        exact ⟨h.rate_eq, rfl, h.start_le⟩
      · obtain ⟨handle, agenda, hstarts⟩ := hstarts
        obtain rfl := Option.some.inj ((Use.stored?_of_ok hwhole).symm.trans hstored)
        rw [Station.after, Act.result_of_ok hstarts]
        exact ⟨h.rate_eq, rfl, le_rfl⟩
    | disable | runOut | register _ | unregister _ | resetClock | pass _ => cases hstored

theorem sound_afterAll (rate : Int) (reading : Rat) (uses : List (Use ι κ)) :
    Sound rate (storedAfter uses) ((fresh rate reading).afterAll uses) := by
  induction uses using List.reverseRecOn with
  | nil => exact ⟨rfl, rfl, le_rfl⟩
  | append_singleton uses use ih =>
    rw [storedAfter_concat, afterAll, List.foldl_append]
    exact ih.after use

end Station

/-- What is gone of a countdown and what is left of it make up the ticks that were stored last, at
every moment of every run, and neither is ever less than nothing.

As long as no ticks are stored, what is gone does not shrink and what is left does not grow. Once an
arming has succeeded, what is gone is the time since then in ticks, rounded to the nearest number of
them, as long as it is not more than were stored. -/
theorem readings_make_up_stored [DecidableEq ι] (rate : Int) (hrate : 0 ≤ rate) (reading : Rat)
    (uses : List (Use ι κ)) :
    let s := (Station.fresh rate reading).afterAll uses
    (∃ remaining elapsed, s.remaining = .ok remaining ∧ s.elapsed = .ok elapsed ∧
      remaining + elapsed = storedAfter uses ∧
      0 ≤ remaining ∧ remaining ≤ storedAfter uses ∧ 0 ≤ elapsed ∧ elapsed ≤ storedAfter uses ∧
      ∀ later : List (Use ι κ), (∀ use ∈ later, use.stored? = none) →
        ∃ remaining' elapsed', (s.afterAll later).remaining = .ok remaining' ∧
          (s.afterAll later).elapsed = .ok elapsed' ∧
          remaining' ≤ remaining ∧ elapsed ≤ elapsed') ∧
    ∀ inLoop call ticks armed, Station.perform (.enable inLoop call ticks) s = .ok ⟨⟩ armed →
      ∃ n, ticks.whole = .ok n ∧ ∀ later : List (Use ι κ), (∀ use ∈ later, use.stored? = none) →
        (armed.afterAll later).elapsed = .ok
          (min (Decimal.nearest (((armed.afterAll later).clock - s.clock) * (rate : Rat)))
            n.toNat) := by
  intro s
  have hsound : Station.Sound rate (storedAfter uses) s := Station.sound_afterAll rate reading uses
  have hcount := hsound.count_eq
  have hgone := hsound.ticksGone_nonneg hrate
  constructor
  · refine ⟨_, _, s.remaining_eq, s.elapsed_eq, by omega, by omega, by omega, by omega, by omega,
      fun later hlater => ?_⟩
    have hspares := Station.spares_afterAll s hlater
    have hmore := hspares.ticksGone_le (hsound.rate_eq ▸ hrate)
    have hsame := hspares.count_eq
    exact ⟨_, _, Station.remaining_eq _, Station.elapsed_eq _, by omega, by omega⟩
  · intro inLoop call ticks armed harmed
    obtain ⟨n, hwhole, hrate', hcount', hstart⟩ := Station.perform_enable_ok harmed
    refine ⟨n, hwhole, fun later hlater => ?_⟩
    have hspares := Station.spares_afterAll armed hlater
    rw [Station.elapsed_eq, Station.ticksGone, hspares.count_eq, hspares.start_eq,
      hspares.rate_eq, hcount', hstart, hrate', hsound.rate_eq]

/-- An arming that finds no loop has its ticks stored, and the countdown goes on from where the one
before it started. Two ticks and a half after the next one, two are gone. -/
theorem readings_make_up_stored_of_failed_arming :
    let uses : List (Use String Unit) :=
      [.enable true () (.int 10), .pass (1 / 10), .enable false () (.int 30), .disable]
    let s := (Station.fresh 50 0).afterAll uses
    0 ≤ (50 : Int) ∧ storedAfter uses = 30 ∧
      (∃ remaining elapsed, s.remaining = .ok remaining ∧ s.elapsed = .ok elapsed ∧
        elapsed = 5 ∧ remaining + elapsed = 30 ∧
        ∃ remaining' elapsed', (s.afterAll [.pass 1]).remaining = .ok remaining' ∧
          (s.afterAll [.pass 1]).elapsed = .ok elapsed' ∧
          remaining' ≤ remaining ∧ elapsed ≤ elapsed') ∧
      ∃ armed, Station.perform (.enable true () (.int 7)) s = .ok ⟨⟩ armed ∧
        (armed.afterAll [.pass (1 / 20)]).elapsed = .ok 2 := by
  intro uses s
  obtain ⟨⟨remaining, elapsed, hremaining, helapsed, hsum, -, -, -, -, hlater⟩, harmed⟩ :=
    readings_make_up_stored 50 (by decide) 0 uses
  have hfive : elapsed = 5 := by
    have hgone : min s.ticksGone s.timer.count = 5 := by decide +kernel
    rw [Station.elapsed_eq] at helapsed
    exact (Except.ok.inj helapsed).symm.trans hgone
  obtain ⟨n, hn, hcounts⟩ := harmed true () (.int 7) _ rfl
  obtain rfl : 7 = n := Except.ok.inj hn
  refine ⟨by decide, rfl, ⟨remaining, elapsed, hremaining, helapsed, hfive, hsum,
    hlater [.pass 1] (by simp [Use.stored?])⟩, _, rfl, ?_⟩
  refine (hcounts [.pass (1 / 20)] (by simp [Use.stored?])).trans (congrArg Except.ok ?_)
  decide +kernel

end DigitRace.Timer
