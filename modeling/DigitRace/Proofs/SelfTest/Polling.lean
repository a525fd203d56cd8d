import DigitRace.Proofs.Screen.Countdown

/-!
# Self tests that poll the timer

Two self tests look at the timer's clock again and again, and wait for one tick in between. Such a
test is given by what it shows at each tick, and by the tick at which it is over. If at every tick
it shows what is given and waits for the next tick, then whatever happens to the key, all that is
written is what is given, each at its tick.
-/

namespace DigitRace

/-- A scribe whose clock shows the time exactly. -/
def Onlooker.punctual : Onlooker Writes :=
  .scribe fun c => c.agenda.now

namespace Cabinet

variable {ω : Type} {around : Surroundings ω} {depth n : Nat}

/-! ## Without an answer -/

/-- Task 0 is carried on so many times without a break, and before the last time there is no answer
for those below `depth` frames. -/
inductive Busy (around : Surroundings ω) (depth : Nat) : Nat → Cabinet ω → Cabinet ω → Prop
  | still (c : Cabinet ω) : Busy around depth 0 c c
  | next {n : Nat} {c c' : Cabinet ω} (hactive : c.active = some 0)
      (hback : isBack depth c = false) (hrest : Busy around depth n (carryOn around 0 c) c') :
      Busy around depth (n + 1) c c'

theorem Busy.unbroken {c c' : Cabinet ω} (h : Busy around depth n c c') :
    Unbroken around n c c' := by
  induction h with
  | still c => exact .still c
  | next hactive _ _ ih => exact .next hactive ih

/-- While a task is carried on, nothing else happens. -/
theorem happens_of_active {c c' : Cabinet ω} {happening : Happening} {number : Nat}
    (hactive : c.active = some number) (hhappens : Happens around c happening c') :
    happening = .carry ∧ c' = carryOn around number c := by
  cases hhappens with
  | carry hnumber =>
    obtain rfl := Option.some.inj (hactive.symm.trans hnumber)
    exact ⟨rfl, rfl⟩
  | _ => simp_all

/-- For the next tick a watch is opened on the timer, which is armed for it. -/
theorem awaitTick_apply (eye : Onlooker ω) {c : Cabinet ω} (after : Option Frame) (hdeaf : c.Deaf)
    (hclocked : c.Clocked) (hrate : c.timer.rate ≠ 0) :
    awaitTicks eye.around (.int 1) after c =
      .ok (.await c.watches.size after) (armedFor eye 1 (c.opened .event)) := by
  have hopened : (c.opened .event).Clocked := hclocked
  have harmed := hopened.enable_small eye hrate (by decide : (1 : Int) ≤ 50)
  refine (open_timer_apply .event hdeaf rfl rfl _).trans ?_
  simp only [Act.bind_apply, harmed]
  rfl

/-! ## What is shown -/

/-- A self test that polls the timer, from its call on. -/
structure Polling where
  /-- The pattern that is shown at a tick, if any. -/
  face : Nat → Option String
  /-- The tick at which the test is over. -/
  last : Nat
  /-- What the test goes on with after it has waited for the tick after this one. -/
  frame : Nat → Frame
  /-- Who called the test. -/
  stack : List Frame
  /-- The time of the call. -/
  start : Rat
  rate : Int
  /-- What was written before the call. -/
  begun : Writes

namespace Polling

variable {p : Polling} {c c' : Cabinet Writes} {tick w : Nat}

/-- All that is shown before a tick. -/
def cues (p : Polling) (tick : Nat) : Cues :=
  (List.range tick).filterMap fun k => (p.face k).map fun pattern => (k, pattern)

theorem cues_succ (p : Polling) (tick : Nat) : p.cues (tick + 1) =
    p.cues tick ++ ((p.face tick).map fun pattern => (tick, pattern)).toList := by
  unfold cues
  rw [List.range_succ, List.filterMap_append]
  cases hface : p.face tick <;> simp [hface]

theorem mem_cues_lt {cue : Nat × String} (h : cue ∈ p.cues tick) : cue.1 < tick := by
  obtain ⟨k, hk, hcue⟩ := List.mem_filterMap.mp h
  obtain ⟨pattern, -, rfl⟩ := Option.map_eq_some_iff.mp hcue
  exact List.mem_range.mp hk

/-- Among all that is shown, what is shown before a tick. -/
theorem filter_cues {last : Nat} (hle : tick ≤ last) {before : Nat → Bool}
    (hbefore : ∀ k, before k = true ↔ k < tick) :
    (p.cues last).filter (fun cue => before cue.1) = p.cues tick := by
  induction last, hle using Nat.le_induction with
  | base => exact List.filter_eq_self.mpr fun cue hcue => (hbefore _).mpr (mem_cues_lt hcue)
  | succ k hk ih =>
    have hlater : before k = false := by
      rw [← Bool.not_eq_true, hbefore]
      exact Nat.not_lt_of_le hk
    rw [cues_succ, List.filter_append, ih]
    cases p.face k <;> simp [hlater]

/-! ## At each tick -/

/-- It is a tick, and what is shown before it is written down. The free readings count from the
call. -/
structure Ready (p : Polling) (tick : Nat) (c : Cabinet Writes) : Prop where
  outside : c.outside = p.begun ++ timed p.start p.rate (p.cues tick)
  now : c.agenda.now = tickTime p.start p.rate tick
  rate : c.timer.rate = p.rate
  base : c.timer.base = p.start
  observed : c.display.observer.isSome = true

/-- What is shown up to a tick is written down. -/
structure Logged (p : Polling) (tick : Nat) (c : Cabinet Writes) : Prop where
  outside : c.outside = p.begun ++ timed p.start p.rate (p.cues (tick + 1))
  past : tickTime p.start p.rate tick ≤ c.agenda.now
  rate : c.timer.rate = p.rate
  base : c.timer.base = p.start
  observed : c.display.observer.isSome = true

/-- The test waits for the tick after this one. -/
structure Waits (p : Polling) (tick w : Nat) (c : Cabinet Writes) : Prop where
  listening : Listening .event w c
  tasks : c.tasks = #[{ state := .waiting w, stack := p.frame tick :: p.stack }]
  logged : p.Logged tick c
  more : tick < p.last
  ends : c.EndsAt (tickTime p.start p.rate (tick + 1))

/-- The test has waited for the tick after this one, and is about to learn of it. -/
structure Told (p : Polling) (tick w : Nat) (c : Cabinet Writes) : Prop where
  queued : Queued (.waiting w) (p.frame tick :: p.stack) c
  answer : (c.watches[w]?).bind Watch.ending = some (.answered (.event .elapsed))
  clocked : c.Clocked
  more : tick < p.last
  ready : p.Ready (tick + 1) c

/-- The test is over. -/
structure Done (p : Polling) (c : Cabinet Writes) : Prop where
  carried : Carried (.answering .nothing) p.stack c
  logged : p.Logged p.last c
  now : c.agenda.now = tickTime p.start p.rate p.last

/-- After all that is to be done at a tick, the test waits for the next one or is over. -/
inductive Rests (p : Polling) (tick : Nat) (c : Cabinet Writes) : Prop
  | waits {w : Nat} (hwaits : p.Waits tick w c)
  | done (hlast : tick = p.last) (hdone : p.Done c)

/-- Without a break, the test comes to do all that is to be done at a tick. -/
def Comes (p : Polling) (tick : Nat) (c : Cabinet Writes) : Prop :=
  ∃ n c', Busy Onlooker.punctual.around p.stack.length (n + 1) c c' ∧ p.Rests tick c'

/-- Whenever the test has waited for a tick, it comes to do all that is to be done at it. -/
def GoesOn (p : Polling) : Prop :=
  ∀ ⦃tick c⦄, tick < p.last →
    Carried (.answering (.event .elapsed)) (p.frame tick :: p.stack) c → c.Clocked →
    p.Ready (tick + 1) c → p.Comes (tick + 1) c

/-- How a test stands that nothing disturbs at the timer. -/
inductive Stands (p : Polling) (c : Cabinet Writes) : Prop
  | rests {tick : Nat} (hrests : p.Rests tick c)
  | told {tick w : Nat} (htold : p.Told tick w c)
  | busy {tick : Nat} (hcomes : p.Comes tick c)

theorem Ready.kept (h : p.Ready tick c) (houtside : c'.outside = c.outside)
    (hnow : c'.agenda.now = c.agenda.now) (hrate : c'.timer.rate = c.timer.rate)
    (hbase : c'.timer.base = c.timer.base) (hdisplay : c'.display = c.display) :
    p.Ready tick c' :=
  ⟨houtside.trans h.outside, hnow.trans h.now, hrate.trans h.rate, hbase.trans h.base,
    hdisplay ▸ h.observed⟩

/-- Where nothing is written, what was shown stays the same. -/
theorem Logged.kept (h : p.Logged tick c) (houtside : c'.outside = c.outside)
    (hnow : c.agenda.now ≤ c'.agenda.now) (hrate : c'.timer.rate = c.timer.rate)
    (hbase : c'.timer.base = c.timer.base) (hdisplay : c'.display = c.display) :
    p.Logged tick c' :=
  ⟨houtside.trans h.outside, h.past.trans hnow, hrate.trans h.rate, hbase.trans h.base,
    hdisplay ▸ h.observed⟩

/-- A pattern that is shown at a tick is written down with it. -/
theorem Ready.written (h : p.Ready tick c) {pattern : String} (hface : p.face tick = some pattern) :
    p.Logged tick (c.written pattern) := by
  refine ⟨?_, h.now.ge, h.rate, h.base, h.observed⟩
  rw [written_outside h.observed, h.outside, h.now, cues_succ, hface]
  simp [timed]

/-- Where nothing is shown at a tick, nothing is to be written down. -/
theorem Ready.logged (h : p.Ready tick c) (hface : p.face tick = none) : p.Logged tick c := by
  refine ⟨?_, h.now.ge, h.rate, h.base, h.observed⟩
  rw [h.outside, cues_succ, hface]
  simp

/-- The end of a tick ends the wait for it. -/
theorem Waits.elapses (h : p.Waits tick w c) {due : Rat} (hdue : c.EndsAt due) :
    p.Told tick w ((notify Onlooker.punctual.around .elapsed).result (c.expired due)).2 := by
  obtain rfl := hdue.unique h.ends
  have hover := h.listening.expired (tickTime p.start p.rate (tick + 1))
  have hanswered := hover.left_answered (.event .elapsed)
  rw [notify_one hover.timer (hover.onEvent_event Onlooker.punctual .elapsed)]
  exact ⟨hanswered.queued h.tasks, hanswered.watch, .inl ⟨rfl, rfl⟩, h.more,
    h.logged.outside, rfl, h.logged.rate, h.logged.base, h.logged.observed⟩

/-- What does not disturb a test leaves it waiting for the same tick. -/
theorem Waits.spared (h : p.Waits tick w c) (hspared : Spares c c') : p.Waits tick w c' :=
  ⟨hspared.kept.listening h.listening, hspared.kept.tasks.trans h.tasks,
    h.logged.kept hspared.outside hspared.past hspared.kept.rate hspared.base
      hspared.kept.display,
    h.more, hspared.endsAt h.listening.ready h.ends⟩

theorem Told.busy (h : p.Told tick w c) : c.agenda.ready ≠ [] := by simp [h.queued.ready]

theorem Told.spared (h : p.Told tick w c) (hspared : Spares c c') (hclocked : c'.Clocked) :
    p.Told tick w c' := by
  refine ⟨hspared.kept.queued h.queued, ?_, hclocked, h.more, h.ready.kept hspared.outside
    (hspared.now h.busy) hspared.kept.rate hspared.base hspared.kept.display⟩
  rw [hspared.kept.watches]
  exact h.answer

/-- A test that learns that it has waited for a tick goes on. -/
theorem Told.wakes (h : p.Told tick w c) (hgoesOn : p.GoesOn) :
    p.Comes (tick + 1) (wake 0 { c with agenda := { c.agenda with ready := [] } }) := by
  obtain ⟨hcarried, hwake⟩ := h.queued.wake_waiting h.answer
  rw [hwake] at hcarried ⊢
  exact hgoesOn h.more hcarried h.clocked (h.ready.kept rfl rfl rfl rfl rfl)

theorem Comes.active (h : p.Comes tick c) : c.active = some 0 := by
  obtain ⟨n, c', hbusy, -⟩ := h
  cases hbusy with
  | next hactive => exact hactive

theorem Comes.isBack (h : p.Comes tick c) : isBack p.stack.length c = false := by
  obtain ⟨n, c', hbusy, -⟩ := h
  cases hbusy with
  | next _ hback => exact hback

/-- What is done in one go. -/
theorem Rests.comes_before (h : p.Rests tick (carryOn Onlooker.punctual.around 0 c))
    (hactive : c.active = some 0) (hback : Cabinet.isBack p.stack.length c = false) :
    p.Comes tick c :=
  ⟨0, _, .next hactive hback (.still _), h⟩

/-- What is done in one go more. -/
theorem Comes.comes_before (h : p.Comes tick (carryOn Onlooker.punctual.around 0 c))
    (hactive : c.active = some 0) (hback : Cabinet.isBack p.stack.length c = false) :
    p.Comes tick c := by
  obtain ⟨n, c', hbusy, hrests⟩ := h
  exact ⟨n + 1, c', .next hactive hback hbusy, hrests⟩

section

variable {act : Play Writes Progress} {state : Task.State}

/-- A test that waits for the next tick rests. -/
theorem Logged.waits {after : Frame} (h : p.Logged tick c')
    (hact : act c = awaitTicks Onlooker.punctual.around (.int 1) (some after) c')
    (hcarried : Carried state p.stack c') (hclocked : c'.Clocked) (hrate : p.rate ≠ 0)
    (hafter : after = p.frame tick) (hmore : tick < p.last)
    (hnow : c'.agenda.now = tickTime p.start p.rate tick) : p.Rests tick (carry 0 act c) := by
  rw [awaitTick_apply Onlooker.punctual _ hcarried.deaf hclocked (h.rate ▸ hrate)] at hact
  have hopened := opened_opened (c := c') .event hcarried.ready
  have harmed : Opened .event c'.watches.size (armedFor Onlooker.punctual 1 (c'.opened .event)) :=
    ⟨hopened.watch, rfl, rfl, hcarried.ready⟩
  have hends := armedFor_endsAt Onlooker.punctual 1 (c'.opened .event)
  rw [carry_await hact hcarried.tasks harmed]
  refine .waits ⟨harmed.listening _, ?_, h.kept rfl le_rfl rfl rfl rfl, hmore, ?_⟩
  · rw [hafter]
    rfl
  · rw [tickTime_add, ← hnow, ← h.rate]
    exact hends

/-- A test that answers nothing at its last tick rests. -/
theorem Logged.done (h : p.Logged tick c') (hact : act c = .ok (.done .nothing) c')
    (hcarried : Carried state p.stack c') (hlast : tick = p.last)
    (hnow : c'.agenda.now = tickTime p.start p.rate tick) : p.Rests tick (carry 0 act c) := by
  subst hlast
  rw [carry_done hact hcarried.tasks]
  exact .done rfl ⟨hcarried.goesOver _ _,
    h.kept rfl le_rfl rfl rfl rfl, hnow⟩

end

/-! ## Whatever happens -/

/-- Whatever happens that does not disturb a test before its end, it stands somewhere. -/
theorem Stands.next (h : p.Stands c) (hgoesOn : p.GoesOn) {happening : Happening}
    (hhappens : Happens Onlooker.punctual.around c happening c')
    (hback : isBack p.stack.length c = false) (hspares : happening.sparesCountdown = true) :
    p.Stands c' := by
  cases h with
  | rests hrests =>
    cases hrests with
    | @waits w hwaits =>
      rcases hwaits.listening.cases hwaits.ends.clocked hhappens with
        ⟨_, hkey, -⟩ | ⟨event, told, -, hannounces, rfl⟩ | ⟨hpasses, hmisses⟩
      · cases hkey
      · cases hannounces with
        | disable => cases hspares
        | expire hdue => exact .told (hwaits.elapses hdue)
      · obtain ⟨hspared, -⟩ := hpasses.spares hhappens hspares <| by
          rintro rfl
          cases hmisses
        exact .rests (.waits (hwaits.spared hspared))
    | done _ hdone => simp [hdone.carried.isBack_answering] at hback
  | @told tick w htold =>
    rcases htold.queued.cases htold.clocked hhappens with hpasses | ⟨rfl, rfl⟩
    · obtain ⟨hspared, -⟩ := hpasses.spares hhappens hspares fun _ => htold.busy
      exact .told (htold.spared hspared (hpasses.clocked htold.clocked))
    · exact .busy (htold.wakes hgoesOn)
  | busy hcomes =>
    obtain ⟨n, c₁, hbusy, hrests⟩ := hcomes
    cases hbusy with
    | next hactive _ hrest =>
      obtain ⟨rfl, rfl⟩ := happens_of_active hactive hhappens
      cases hrest with
      | still => exact .rests hrests
      | next hactive hback hrest => exact .busy ⟨_, c₁, .next hactive hback hrest, hrests⟩

/-- After every undisturbed run a test stands somewhere. -/
theorem Stands.after_run {first : Cabinet Writes} {notes : List Happening} (h : p.Stands first)
    (hgoesOn : p.GoesOn)
    (hrun : Run Onlooker.punctual.around (strays Happening.sparesCountdown p.stack.length)
      first notes c) (hnone : notes = []) : p.Stands c := by
  induction hrun with
  | start => exact h
  | next _ hhappens ih =>
    obtain ⟨hbefore, hnow⟩ := List.append_eq_nil_iff.mp hnone
    obtain ⟨hback, hspares⟩ := strays_eq_nil.mp hnow
    exact (ih hbefore).next hgoesOn hhappens hback hspares

/-- Where all that is due has happened, what is shown up to that time is written. -/
theorem Stands.upTo (h : p.Stands c) (hcalm : c.Calm) : c.outside = p.begun ++
    timed p.start p.rate
      ((p.cues (p.last + 1)).filter fun cue => tickTime p.start p.rate cue.1 ≤ c.agenda.now) := by
  cases h with
  | @rests tick hrests =>
    cases hrests with
    | @waits w hwaits =>
      obtain ⟨number, -, hdeadlines⟩ := hwaits.ends
      have hnext : c.agenda.now < tickTime p.start p.rate (tick + 1) :=
        hcalm.2 _ (by rw [hdeadlines]; exact List.mem_singleton_self _)
      have hpast (k : Nat) :
          decide (tickTime p.start p.rate k ≤ c.agenda.now) = true ↔ k < tick + 1 := by
        rw [decide_eq_true_iff]
        constructor
        · intro hreached
          by_contra hlater
          exact absurd hnext (not_lt.mpr ((tickTime_mono (Nat.le_of_not_lt hlater)).trans hreached))
        · intro hearlier
          exact (tickTime_mono (Nat.le_of_lt_succ hearlier)).trans hwaits.logged.past
      rw [filter_cues (Nat.succ_le_succ hwaits.more.le) hpast]
      exact hwaits.logged.outside
    | done _ hdone => exact absurd hcalm.1 hdone.carried.not_settled
  | told htold => exact absurd hcalm.1 htold.queued.not_settled
  | busy hcomes => simp [Calm, Settled, hcomes.active] at hcalm

/-- A test answers only when it is over. -/
theorem Stands.done {answer : Answer} (h : p.Stands c)
    (hcarried : Carried (.answering answer) p.stack c) : answer = .nothing ∧ p.Done c := by
  cases h with
  | rests hrests =>
    cases hrests with
    | waits hwaits => cases (hcarried.task_eq hwaits.tasks).1
    | done _ hdone =>
      cases (hcarried.task_eq hdone.carried.tasks).1
      exact ⟨rfl, hdone⟩
  | told htold => cases (hcarried.task_eq htold.queued.tasks).1
  | busy hcomes =>
    have hback := hcomes.isBack
    simp [hcarried.isBack_answering] at hback

/-! ## To the end -/

section

variable {horizon : Rat} (hgoesOn : p.GoesOn)
  (hhorizon : tickTime p.start p.rate p.last ≤ horizon)

include hgoesOn hhorizon

/-- By the time of its last tick a test is over. -/
theorem Rests.comes (h : p.Rests tick c) :
    ∃ steps, p.Done (run Onlooker.punctual.around (fun _ => false) horizon steps c) := by
  -- The induction is on the ticks that are left.
  induction hleft : p.last - tick generalizing tick c with
  | zero =>
    cases h with
    | waits hwaits =>
      have hmore := hwaits.more
      omega
    | done _ hdone => exact ⟨0, hdone⟩
  | succ left ih =>
    cases h with
    | @waits w hwaits =>
      have hdue := (tickTime_mono hwaits.more).trans hhorizon
      have hsettled : c.Settled := ⟨hwaits.listening.active, hwaits.listening.ready⟩
      have hstep : step? Onlooker.punctual.around horizon c = some _ :=
        hwaits.ends.step?_eq hsettled hdue
      have htold := hwaits.elapses hwaits.ends
      obtain ⟨n, c', hbusy, hrests⟩ := htold.wakes hgoesOn
      obtain ⟨steps, hdone⟩ := ih hrests (by omega)
      refine ⟨n + 1 + steps + 1 + 1, ?_⟩
      rw [run_step hstep, run_step (htold.queued.step? horizon), run_append,
        hbusy.unbroken.run_eq]
      exact hdone
    | done _ hdone => exact ⟨0, hdone⟩

theorem Comes.comes (h : p.Comes tick c) :
    ∃ steps, p.Done (run Onlooker.punctual.around (fun _ => false) horizon steps c) := by
  obtain ⟨n, c', hbusy, hrests⟩ := h
  obtain ⟨steps, hdone⟩ := hrests.comes hgoesOn hhorizon
  refine ⟨n + 1 + steps, ?_⟩
  rw [run_append, hbusy.unbroken.run_eq]
  exact hdone

theorem Stands.comes (h : p.Stands c) :
    ∃ steps, p.Done (run Onlooker.punctual.around (fun _ => false) horizon steps c) := by
  cases h with
  | rests hrests => exact hrests.comes hgoesOn hhorizon
  | told htold =>
    obtain ⟨steps, hdone⟩ := (htold.wakes hgoesOn).comes hgoesOn hhorizon
    refine ⟨steps + 1, ?_⟩
    rw [run_step (htold.queued.step? horizon)]
    exact hdone
  | busy hcomes => exact hcomes.comes hgoesOn hhorizon

end

end Polling

/-! ## The whole test -/

/-- Undisturbed at the timer, these cues are shown from now on and nothing else, each at its tick,
and the routine that was called above `stack` is over at the tick `last`, to which the program
comes. -/
def PlaysOut (stack : List Frame) (cues : Cues) (last : Nat) (first : Cabinet Writes) : Prop :=
  ∀ c, Run Onlooker.punctual.around (strays Happening.sparesCountdown stack.length) first [] c →
    (c.Calm → c.outside = first.scheduled (cuesUpTo first c.agenda.now cues)) ∧
    (∀ answer, Carried (.answering answer) stack c → answer = .nothing ∧
      c.agenda.now = first.ticksLater last ∧ c.outside = first.scheduled cues) ∧
    ∀ horizon, first.ticksLater last ≤ horizon → ∃ steps c',
      run Onlooker.punctual.around (fun _ => false) horizon steps c = c' ∧
      Carried (.answering .nothing) stack c' ∧ c'.agenda.now = first.ticksLater last ∧
      c'.outside = first.scheduled cues

/-- A test that goes on at every tick is shown as it is given. -/
theorem Polling.plays {p : Polling} {first : Cabinet Writes} (hstart : p.start = first.agenda.now)
    (hrate : p.rate = first.timer.rate) (hbegun : p.begun = first.outside)
    (hcomes : p.Comes 0 first) (hgoesOn : p.GoesOn) :
    first.PlaysOut p.stack (p.cues (p.last + 1)) p.last := by
  intro c hrun
  have hstands := Stands.after_run (.busy hcomes) hgoesOn hrun rfl
  have hends {c : Cabinet Writes} (hdone : p.Done c) :
      c.agenda.now = first.ticksLater p.last ∧
        c.outside = first.scheduled (p.cues (p.last + 1)) := by
    rw [ticksLater, scheduled, ← hstart, ← hrate, ← hbegun]
    exact ⟨hdone.now, hdone.logged.outside⟩
  refine ⟨fun hcalm => ?_, fun answer hcarried => ?_, fun horizon hhorizon => ?_⟩
  · simp only [scheduled, cuesUpTo, ticksLater, ← hstart, ← hrate, ← hbegun]
    exact hstands.upTo hcalm
  · obtain ⟨hnothing, hdone⟩ := hstands.done hcarried
    exact ⟨hnothing, hends hdone⟩
  · rw [ticksLater, ← hstart, ← hrate] at hhorizon
    obtain ⟨steps, hdone⟩ := hstands.comes hgoesOn hhorizon
    exact ⟨steps, _, rfl, hdone.carried, hends hdone⟩

end Cabinet

end DigitRace
