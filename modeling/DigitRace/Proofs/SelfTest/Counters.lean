import DigitRace.Proofs.Course.Order
import DigitRace.Proofs.SelfTest.Polling
import DigitRace.Proofs.Timer.Seconds

/-!
# The self tests of the free readings

One self test shows the reading in ticks at every tick, which begins again at 256 in the middle of
a digit. The other looks at the reading in seconds at every tick, and moves its digit on when
another second is shown: no second is left out, and none is shown twice.
-/

namespace DigitRace

open Cabinet (digitPattern)

/-- The digit of the reading in ticks, at each of so many ticks. -/
def tickCues (n : Nat) : Cues :=
  (List.range n).map fun k => (k, digitPattern (k % 256 / 8 % 10 : Nat))

/-- The digit of each second up to this one, at the first tick of the second. -/
def secondCues (rate n : Nat) : Cues :=
  (List.range (n + 1)).map fun second => (firstTick rate second, digitPattern (second % 10 : Nat))

namespace Cabinet

variable {c c' first : Cabinet Writes} {stack : List Frame} {state : Task.State}
  {rate n tick : Nat}

/-- The last digit of a number is shown. -/
theorem showLastDigit_apply (k : Nat) (c : Cabinet Writes) :
    showLastDigit Onlooker.punctual.around k c =
      .ok ⟨⟩ (c.written (digitPattern (k % 10 : Nat))) := by
  have hdigit : digitPattern (k % 10 : Nat) = Glyph.ofText (toString ((k : Int) % 10)) := by
    rw [digitPattern, if_pos ⟨by omega, by simp only [greatestDigit]; omega⟩]
    rfl
  rw [hdigit]
  exact scribe_showCharacter _ _ c

/-- The cabinet once its free readings were made to count from now. -/
def recounted (c : Cabinet Writes) : Cabinet Writes :=
  { c with timer := c.timer.resetClock c.agenda.now }

namespace Polling

/-- The self test of the reading in ticks. -/
def ofTicks (n : Nat) (stack : List Frame) (first : Cabinet Writes) : Polling where
  face k := if k < n then some (digitPattern (k % 256 / 8 % 10 : Nat)) else none
  last := n
  frame k := .ticksShown (k + 1) (.int n)
  stack
  start := first.agenda.now
  rate := first.timer.rate
  begun := first.outside

/-- The self test of the reading in seconds. -/
def ofSeconds (rate n : Nat) (stack : List Frame) (first : Cabinet Writes) : Polling where
  face k :=
    if k = 0 ∨ secondAt rate k ≠ secondAt rate (k - 1) then
      some (digitPattern (secondAt rate k % 10 : Nat))
    else none
  last := firstTick rate n
  frame k := .secondPolled (secondAt rate k) (secondAt rate k) (secondAt rate k) (.int n)
  stack
  start := first.agenda.now
  rate := first.timer.rate
  begun := first.outside

theorem cues_ofTicks (n : Nat) (stack : List Frame) (first : Cabinet Writes) :
    (ofTicks n stack first).cues (n + 1) = tickCues n := by
  have hbefore {tick : Nat} (hle : tick ≤ n) :
      (ofTicks n stack first).cues tick = tickCues tick := by
    induction tick with
    | zero => rfl
    | succ tick ih =>
      rw [cues_succ, ih (Nat.le_of_succ_le hle), tickCues, tickCues, List.range_succ,
        List.map_append]
      simp [ofTicks, Nat.lt_of_succ_le hle]
  rw [cues_succ, hbefore le_rfl]
  simp [ofTicks]

/-- While a second stays, nothing is shown. -/
theorem face_ofSeconds_stays (h : secondAt rate (tick + 1) = secondAt rate tick) :
    (ofSeconds rate n stack first).face (tick + 1) = none := by
  simp [ofSeconds, h]

/-- When the next second begins, it is shown. -/
theorem face_ofSeconds_begins (h : secondAt rate (tick + 1) = secondAt rate tick + 1) :
    (ofSeconds rate n stack first).face (tick + 1) =
      some (digitPattern (secondAt rate (tick + 1) % 10 : Nat)) := by
  simp [ofSeconds, h]

/-- Up to a tick, the seconds are shown that have begun. -/
theorem cues_ofSeconds (hrate : 0 < rate) (n : Nat) (stack : List Frame) (first : Cabinet Writes)
    (tick : Nat) :
    (ofSeconds rate n stack first).cues (tick + 1) = secondCues rate (secondAt rate tick) := by
  induction tick with
  | zero =>
    have hzero : secondAt rate 0 = 0 := secondAt_firstTick hrate 0
    simp [cues, ofSeconds, secondCues, hzero, firstTick]
  | succ tick ih =>
    rw [cues_succ, ih]
    rcases secondAt_succ hrate tick with hstays | ⟨hbegins, hfirst⟩
    · rw [face_ofSeconds_stays hstays, hstays]
      simp
    · rw [face_ofSeconds_begins hbegins, hbegins, secondCues, secondCues,
        List.range_succ (n := secondAt rate tick + 1), List.map_append, hfirst]
      rfl

section

variable {p : Polling}

/-- At the call the free readings begin to count. -/
theorem ready_recounted (hstart : p.start = first.agenda.now) (hrate : p.rate = first.timer.rate)
    (hbegun : p.begun = first.outside) (hobserved : first.display.observer.isSome = true) :
    p.Ready 0 first.recounted := by
  refine ⟨?_, ?_, hrate.symm, hstart.symm, hobserved⟩
  · simp [recounted, hbegun, cues, timed]
  · simp [recounted, hstart]

/-- The span since the call, at a tick. -/
theorem span_at (hnow : c.agenda.now = tickTime p.start p.rate tick)
    (hbase : c.timer.base = p.start) (hrate : p.rate = (rate : Int)) :
    c.agenda.now - c.timer.base = (tick : Rat) / (rate : Rat) := by
  rw [hnow, hbase, tickTime, hrate, pause_of_nonneg (Int.natCast_nonneg rate)]
  simp

/-- At a tick the reading in ticks is the tick, from 0 again at 256. -/
theorem Ready.ticks (h : p.Ready tick c) (hrate : p.rate = (rate : Int)) (hpos : 0 < rate) :
    c.timer.ticks c.agenda.now = .ok ((tick % 256 : Nat) : Int) := by
  have hspan : (c.agenda.now - c.timer.base) * (c.timer.rate : Rat) = ((tick : Int) : Rat) := by
    have hne : (rate : Rat) ≠ 0 := Nat.cast_ne_zero.mpr hpos.ne'
    rw [span_at h.now h.base hrate, h.rate, hrate]
    push_cast
    exact div_mul_cancel₀ _ hne
  simp only [Timer.ticks, Reading.ticksBetween, hspan, Decimal.nearest_intCast]
  rfl

/-- At a tick the reading in seconds is the second that is shown at it. -/
theorem readSeconds_apply (hnow : c.agenda.now = tickTime p.start p.rate tick)
    (hbase : c.timer.base = p.start) (hrate : p.rate = (rate : Int)) (hpos : 0 < rate) :
    readSeconds Onlooker.punctual.around c = .ok (secondAt rate tick : Int) c := by
  have hreading : c.timer.seconds c.agenda.now = .ok (secondAt rate tick : Int) := by
    simp only [Timer.seconds, Reading.ticksBetween, span_at hnow hbase hrate]
    rw [Int.cast_one, mul_one, nearest_ticks hpos]
  have hclock : Onlooker.punctual.around.clock c = c.agenda.now := rfl
  simp only [readSeconds, Act.bind_apply, Act.get_apply, hclock, hreading]
  rfl

end

theorem carried_written (h : Carried state stack c) (pattern : String) :
    Carried state stack (c.written pattern) :=
  ⟨h.tasks, h.active, h.ready, h.deaf⟩

theorem carried_recounted (h : Carried state stack c) : Carried state stack c.recounted :=
  ⟨h.tasks, h.active, h.ready, h.deaf⟩

theorem allows_rounds (n round : Nat) : allows (.int n) round = .ok (decide (round < n)) := by
  rw [allows_int]
  simp

section

variable (hrate : first.timer.rate = (rate : Int)) (hpos : 0 < rate)

include hrate hpos

theorem rate_ne_zero : first.timer.rate ≠ 0 := by
  rw [hrate]
  exact Int.natCast_ne_zero.mpr hpos.ne'

/-! ## The reading in ticks -/

/-- At a tick the reading is shown and the next tick is waited for, until all rounds are over. -/
theorem ticks_rests {act : Play Writes Progress}
    (hact : act c = continueTicks Onlooker.punctual.around tick (.int n) c')
    (hcarried : Carried state stack c') (hclocked : c'.Clocked)
    (hready : (ofTicks n stack first).Ready tick c') (hle : tick ≤ n) :
    (ofTicks n stack first).Rests tick (carry 0 act c) := by
  by_cases hmore : tick < n
  · have hface : (ofTicks n stack first).face tick =
        some (digitPattern (tick % 256 / 8 % 10 : Nat)) := if_pos hmore
    have hclock : Onlooker.punctual.around.clock c' = c'.agenda.now := rfl
    have heighths : ((tick % 256 : Nat) : Int) / 8 = (tick % 256 / 8 : Nat) := rfl
    have hshown : act c = awaitTicks Onlooker.punctual.around (.int 1)
        (some (.ticksShown (tick + 1) (.int n)))
        (c'.written (digitPattern (tick % 256 / 8 % 10 : Nat))) := by
      rw [hact]
      simp only [continueTicks, allows_rounds, decide_eq_true hmore, Act.bind_apply,
        Act.lift_ok_apply, if_true, Act.get_apply, hclock, hready.ticks hrate hpos, heighths,
        showLastDigit_apply]
    exact (hready.written hface).waits hshown (carried_written hcarried _) hclocked
      (rate_ne_zero hrate hpos) rfl hmore hready.now
  · have hdone : act c = .ok (.done .nothing) c' := by
      rw [hact]
      simp only [continueTicks, allows_rounds, decide_eq_false hmore]
      rfl
    exact (hready.logged (if_neg hmore)).done hdone hcarried
      (Nat.le_antisymm hle (Nat.le_of_not_lt hmore)) hready.now

/-- The self test of the reading in ticks goes on at every tick. -/
theorem ticks_goesOn : (ofTicks n stack first).GoesOn := by
  intro tick c hmore hcarried hclocked hready
  let popped : Cabinet Writes :=
    { c with tasks := #[{ state := .answering (.event .elapsed), stack }] }
  have hpopped : Carried (.answering (.event .elapsed)) stack popped :=
    hcarried.goesOver _ _
  have hact : resume Onlooker.punctual.around (.event .elapsed) (.ticksShown (tick + 1) (.int n))
      popped = continueTicks Onlooker.punctual.around (tick + 1) (.int n) popped := rfl
  refine Rests.comes_before ?_ hcarried.active (by simp [hcarried.isBack_answering])
  rw [hcarried.carryOn_answering]
  exact ticks_rests hrate hpos hact hpopped hclocked (hready.kept rfl rfl rfl rfl rfl) hmore

/-- The self test of the reading in ticks begins at its call. -/
theorem ticks_comes (hcalled : Carried (.calling (.selfTest .ticks (.int n))) stack first)
    (hclocked : first.Clocked) (hobserved : first.display.observer.isSome = true) :
    (ofTicks n stack first).Comes 0 first := by
  have hact : begin Onlooker.punctual.around (.selfTest .ticks (.int n)) first =
      continueTicks Onlooker.punctual.around 0 (.int n) first.recounted := rfl
  refine Rests.comes_before ?_ hcalled.active (hcalled.isBack_calling _)
  rw [hcalled.carryOn_calling]
  exact ticks_rests hrate hpos hact (carried_recounted hcalled) hclocked
    (ready_recounted rfl rfl rfl hobserved) (Nat.zero_le n)

/-! ## The reading in seconds -/

omit hrate hpos in
/-- As long as the second is the last one, the next tick is waited for. -/
theorem pollSeconds_stays {second : Nat}
    (hreads : readSeconds Onlooker.punctual.around c = .ok (second : Int) c) :
    pollSeconds Onlooker.punctual.around second second second (.int n) c =
      awaitTicks Onlooker.punctual.around (.int 1)
        (some (.secondPolled second second second (.int n))) c := by
  simp only [pollSeconds, Act.bind_apply, hreads, if_true]

omit hrate hpos in
/-- The next second is shown, and then its round begins. -/
theorem pollSeconds_begins {second : Nat}
    (hreads : readSeconds Onlooker.punctual.around c = .ok ((second + 1 : Nat) : Int) c) :
    pollSeconds Onlooker.punctual.around second second second (.int n) c =
      .ok (.call (.secondsRound (second + 1 : Nat) (second + 1 : Nat) (second + 1) (.int n)) none)
        (c.written (digitPattern ((second + 1) % 10 : Nat))) := by
  have hother : ((second + 1 : Nat) : Int) ≠ second := by omega
  have hnext : (second : Int) + 1 = (second + 1 : Nat) := rfl
  simp only [pollSeconds, Act.bind_apply, hreads, if_neg hother, hnext, showLastDigit_apply]
  rfl

/-- Once the second was shown, the next tick is waited for, until all rounds are over. -/
theorem seconds_rests (hcarried : Carried (.calling (.secondsRound (secondAt rate tick)
      (secondAt rate tick) (secondAt rate tick) (.int n))) stack c) (hclocked : c.Clocked)
    (hlogged : (ofSeconds rate n stack first).Logged tick c)
    (hnow : c.agenda.now = tickTime first.agenda.now first.timer.rate tick)
    (hle : tick ≤ firstTick rate n) :
    (ofSeconds rate n stack first).Rests tick (carryOn Onlooker.punctual.around 0 c) := by
  rw [hcarried.carryOn_calling]
  by_cases hmore : secondAt rate tick < n
  · have htick : tick < firstTick rate n := by
      rw [← Nat.not_le, ← le_secondAt_iff hpos]
      exact Nat.not_le_of_lt hmore
    have hpoll := pollSeconds_stays (n := n) (readSeconds_apply hnow hlogged.base hrate hpos)
    have hact : begin Onlooker.punctual.around (.secondsRound (secondAt rate tick)
        (secondAt rate tick) (secondAt rate tick) (.int n)) c =
          awaitTicks Onlooker.punctual.around (.int 1) (some (.secondPolled (secondAt rate tick)
            (secondAt rate tick) (secondAt rate tick) (.int n))) c := by
      simp only [begin, allows_rounds, decide_eq_true hmore, Act.bind_apply, Act.lift_ok_apply,
        if_true, hpoll]
    exact hlogged.waits hact hcarried hclocked (rate_ne_zero hrate hpos) rfl htick hnow
  · have htick : firstTick rate n ≤ tick := (le_secondAt_iff hpos).mp (Nat.le_of_not_lt hmore)
    have hact : begin Onlooker.punctual.around (.secondsRound (secondAt rate tick)
        (secondAt rate tick) (secondAt rate tick) (.int n)) c = .ok (.done .nothing) c := by
      simp only [begin, allows_rounds, decide_eq_false hmore]
      rfl
    exact hlogged.done hact hcarried (Nat.le_antisymm hle htick) hnow

/-- A second that was shown at its first tick is followed by its round. -/
theorem seconds_comes_after {act : Play Writes Progress} {pattern : String}
    (hact : act c = .ok (.call (.secondsRound (secondAt rate tick) (secondAt rate tick)
      (secondAt rate tick) (.int n)) none) (c'.written pattern))
    (hcarried : Carried state stack c') (hclocked : c'.Clocked)
    (hready : (ofSeconds rate n stack first).Ready tick c')
    (hface : (ofSeconds rate n stack first).face tick = some pattern)
    (hle : tick ≤ firstTick rate n) :
    (ofSeconds rate n stack first).Comes tick (carry 0 act c) := by
  have hshown := carried_written hcarried pattern
  have hlogged := hready.written hface
  have hcalls : Carried (.calling (.secondsRound (secondAt rate tick) (secondAt rate tick)
      (secondAt rate tick) (.int n))) stack (carry 0 act c) := by
    rw [carry_call hact hshown.tasks]
    exact hshown.goesOver _ _
  refine Rests.comes_before ?_ hcalls.active (hcalls.isBack_calling _)
  rw [carry_call hact hshown.tasks] at hcalls ⊢
  exact seconds_rests hrate hpos hcalls hclocked (hlogged.kept rfl le_rfl rfl rfl rfl)
    hready.now hle

/-- The self test of the reading in seconds goes on at every tick: it waits for the next one, or
shows the second that has begun. -/
theorem seconds_goesOn : (ofSeconds rate n stack first).GoesOn := by
  intro tick c hmore hcarried hclocked hready
  let popped : Cabinet Writes :=
    { c with tasks := #[{ state := .answering (.event .elapsed), stack }] }
  have hpopped : Carried (.answering (.event .elapsed)) stack popped :=
    hcarried.goesOver _ _
  have hready' : (ofSeconds rate n stack first).Ready (tick + 1) popped :=
    hready.kept rfl rfl rfl rfl rfl
  have hreads := readSeconds_apply hready'.now hready'.base hrate hpos
  have hback : Cabinet.isBack stack.length c = false := by
    rw [hcarried.isBack_answering]
    exact decide_eq_false (Nat.not_le_of_lt (Nat.lt_succ_self _))
  have hcarry : carryOn Onlooker.punctual.around 0 c = _ := hcarried.carryOn_answering
  rcases secondAt_succ hpos tick with hstays | ⟨hbegins, -⟩
  · have htick : tick + 1 < firstTick rate n := by
      rw [← Nat.not_le, ← le_secondAt_iff hpos, hstays, le_secondAt_iff hpos]
      exact Nat.not_le_of_lt hmore
    have hframe : (ofSeconds rate n stack first).frame tick =
        (ofSeconds rate n stack first).frame (tick + 1) := by
      simp only [ofSeconds, hstays]
    rw [hstays] at hreads
    refine Rests.comes_before ?_ hcarried.active hback
    rw [hcarry]
    exact (hready'.logged (face_ofSeconds_stays hstays)).waits (pollSeconds_stays hreads) hpopped
      hclocked (rate_ne_zero hrate hpos) hframe htick hready'.now
  · rw [hbegins] at hreads
    have hact := pollSeconds_begins (n := n) hreads
    rw [← hbegins] at hact
    refine Comes.comes_before ?_ hcarried.active hback
    rw [hcarry]
    exact seconds_comes_after hrate hpos hact hpopped hclocked hready'
      (face_ofSeconds_begins hbegins) hmore

/-- The self test of the reading in seconds begins with 0. -/
theorem seconds_comes (hcalled : Carried (.calling (.selfTest .seconds (.int n))) stack first)
    (hclocked : first.Clocked) (hobserved : first.display.observer.isSome = true) :
    (ofSeconds rate n stack first).Comes 0 first := by
  have hready : (ofSeconds rate n stack first).Ready 0 first.recounted :=
    ready_recounted rfl rfl rfl hobserved
  have hzero : secondAt rate 0 = 0 := secondAt_firstTick hpos 0
  have hreads := readSeconds_apply hready.now hready.base hrate hpos
  have hact : begin Onlooker.punctual.around (.selfTest .seconds (.int n)) first =
      .ok (.call (.secondsRound (secondAt rate 0) (secondAt rate 0) (secondAt rate 0) (.int n))
          none) (first.recounted.written (digitPattern (0 % 10 : Nat))) := by
    have hrecounts : resetClock Onlooker.punctual.around first = .ok ⟨⟩ first.recounted := rfl
    have hshow : showLastDigit Onlooker.punctual.around 0 first.recounted =
        .ok ⟨⟩ (first.recounted.written (digitPattern (0 % 10 : Nat))) :=
      showLastDigit_apply 0 first.recounted
    rw [hzero] at hreads ⊢
    simp only [begin, beginTest, Act.bind_apply, hrecounts, hreads, hshow]
    rfl
  refine Comes.comes_before ?_ hcalled.active (hcalled.isBack_calling _)
  rw [hcalled.carryOn_calling]
  exact seconds_comes_after hrate hpos hact (carried_recounted hcalled) hclocked hready
    (by simp [ofSeconds, hzero]) (Nat.zero_le _)

end

end Polling

/-! ## Both tests -/

/-- **The self tests of the free readings are shown as they count.** Let the clock show the time
exactly, at any rate from 1 on, and nobody else be at the timer. For `n` rounds the self test of the
ticks shows the reading at each of the ticks below `n`, and is over at `n`. That of the seconds
shows 0 at once, then each second up to `n` at its first tick, and is over at the last of these. The
first tick of a second is the first one that is rounded to it, and lies before that of the next. -/
theorem counters_shown_at_ticks {n : Nat} (hclocked : first.Clocked)
    (hobserved : first.display.observer.isSome = true) (hrate : first.timer.rate = (rate : Int))
    (hpos : 0 < rate) :
    (Carried (.calling (.selfTest .ticks (.int n))) stack first →
      first.PlaysOut stack (tickCues n) n) ∧
    (Carried (.calling (.selfTest .seconds (.int n))) stack first →
      first.PlaysOut stack (secondCues rate n) (firstTick rate n)) ∧
    ∀ second : Nat, firstTick rate second < firstTick rate (second + 1) ∧
      Decimal.nearest (firstTick rate second / rate) = second ∧
      ∀ tick < firstTick rate second, Decimal.nearest (tick / rate) ≠ second := by
  refine ⟨fun hcalled => ?_, fun hcalled => ?_,
    fun second => ⟨firstTick_lt_succ hpos second, ?_, fun tick hbefore => ?_⟩⟩
  · rw [← Polling.cues_ofTicks n stack first]
    exact Polling.plays rfl rfl rfl (Polling.ticks_comes hrate hpos hcalled hclocked hobserved)
      (Polling.ticks_goesOn hrate hpos)
  · have hcues := Polling.cues_ofSeconds hpos n stack first (firstTick rate n)
    rw [secondAt_firstTick hpos] at hcues
    rw [← hcues]
    exact Polling.plays rfl rfl rfl (Polling.seconds_comes hrate hpos hcalled hclocked hobserved)
      (Polling.seconds_goesOn hrate hpos)
  · rw [nearest_ticks hpos, secondAt_firstTick hpos]
  · rw [nearest_ticks hpos]
    intro hsecond
    have hreached := (le_secondAt_iff hpos).mp (Int.ofNat_inj.mp hsecond).ge
    exact absurd hbefore (Nat.not_lt_of_le hreached)

/-- At 50 ticks a second, the ticks 0 to 2 show a zero; the second 1 begins at the tick 26, and the
second 2 at the tick 75, half way to it. -/
theorem counters_shown_at_ticks_of_a_second :
    (∃ steps c, run Onlooker.punctual.around (fun _ => false) 2 steps
        (calledAlone (.selfTest .ticks (.int (3 : Nat))) false) = c ∧
      Carried (.answering .nothing) [] c ∧ c.agenda.now = 3 / 50 ∧
      c.outside = [(0, "abcdef"), (1 / 50, "abcdef"), (1 / 25, "abcdef")]) ∧
    ∃ steps c, run Onlooker.punctual.around (fun _ => false) 2 steps
        (calledAlone (.selfTest .seconds (.int (2 : Nat))) false) = c ∧
      Carried (.answering .nothing) [] c ∧ c.agenda.now = 3 / 2 ∧
      c.outside = [(0, "abcdef"), (13 / 25, "bc"), (3 / 2, "abdeg")] := by
  let ticks := calledAlone (.selfTest .ticks (.int (3 : Nat))) false
  let seconds := calledAlone (.selfTest .seconds (.int (2 : Nat))) false
  have hrate : ticks.timer.rate = ((50 : Nat) : Int) := rfl
  have hrate' : seconds.timer.rate = ((50 : Nat) : Int) := rfl
  have hticks : ticks.PlaysOut [] (tickCues 3) 3 :=
    (counters_shown_at_ticks (calledAlone_clocked _ _) rfl hrate (by decide)).1
      (calledAlone_carried _ _)
  have hseconds : seconds.PlaysOut [] (secondCues 50 2) (firstTick 50 2) :=
    (counters_shown_at_ticks (calledAlone_clocked _ _) rfl hrate' (by decide)).2.1
      (calledAlone_carried _ _)
  constructor
  · obtain ⟨-, -, hcomes⟩ := hticks ticks .start
    obtain ⟨steps, c, hrun, hcarried, hnow, hshown⟩ := hcomes 2 (by decide +kernel)
    exact ⟨steps, c, hrun, hcarried, hnow.trans (by decide +kernel),
      hshown.trans (by decide +kernel)⟩
  · obtain ⟨-, -, hcomes⟩ := hseconds seconds .start
    obtain ⟨steps, c, hrun, hcarried, hnow, hshown⟩ := hcomes 2 (by decide +kernel)
    exact ⟨steps, c, hrun, hcarried, hnow.trans (by decide +kernel),
      hshown.trans (by decide +kernel)⟩

end Cabinet

end DigitRace
