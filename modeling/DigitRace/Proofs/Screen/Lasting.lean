import DigitRace.Proofs.Cabinet.Calling
import DigitRace.Proofs.Cabinet.Reacting
import DigitRace.Proofs.Cabinet.Scribe

/-!
# How many events a countdown lasts

A countdown lasts for a number of timer events, whoever arms the timer between them and however the
key is moved. From 0 on this number is fixed: one event for each digit but the last one, and ten for
the flashes. A countdown from a number below 0 counts on downwards, since it never comes to 0, and
only its call-off ends it.
-/

namespace DigitRace

open Cabinet (greatestDigit countdownFlashes)

/-- What is noted of the timer's events during a countdown. -/
inductive CountdownNote where
  /-- There was an event of the timer while nothing else was left to do. -/
  | event (event : TimerEvent)
  /-- The countdown was over. -/
  | beyond
  deriving DecidableEq

/-- The event that is noted. -/
def CountdownNote.event? : CountdownNote → Option TimerEvent
  | .event told => some told
  | .beyond => none

/-- The events of the timer, in order. -/
def CountdownNote.events (notes : List CountdownNote) : List TimerEvent :=
  notes.filterMap CountdownNote.event?

@[simp] theorem CountdownNote.events_append (notes later : List CountdownNote) :
    events (notes ++ later) = events notes ++ events later :=
  List.filterMap_append

/-- The event of the timer that a happening is. -/
def Happening.timerEvent? : Happening → Option TimerEvent
  | .call .countdownOver => some .elapsed
  | .disable => some .disabled
  | _ => none

/-- The events that are left of a countdown at a digit, with so many flashes to come. At the digit 0
there are only the flashes. -/
def eventsLeft (digit : Int) (flashes : Nat) : Nat :=
  (digit - 1).toNat + flashes

/-- The events that a countdown from a number takes, which counts from 9 at most. -/
def countdownEvents (count : Int) : Nat :=
  eventsLeft (min count greatestDigit) countdownFlashes

/-- After these events a countdown is over: it was called off, or all its events were there. The
events of a countdown from a number below 0 are never all there. -/
def CountdownOver (count : Int) (events : List TimerEvent) : Prop :=
  .disabled ∈ events ∨ 0 ≤ count ∧ countdownEvents count ≤ events.length

/-- There are at most as many events as the digit that is counted from, and ten more. -/
theorem countdownEvents_le (count : Int) :
    (countdownEvents count : Int) ≤ min (max count 0) 9 + 10 := by
  have hgreatest : (greatestDigit : Int) = 9 := rfl
  have hflashes : countdownFlashes = 10 := rfl
  unfold countdownEvents eventsLeft
  rw [hgreatest, hflashes]
  omega

/-- A countdown that is not called off is over when all its events were there. -/
theorem countdownOver_replicate (count : Int) (n : Nat) :
    CountdownOver count (List.replicate n .elapsed) ↔ 0 ≤ count ∧ countdownEvents count ≤ n := by
  have hrunning : TimerEvent.disabled ∉ List.replicate n .elapsed := fun hmem =>
    TimerEvent.noConfusion (List.eq_of_mem_replicate hmem)
  rw [CountdownOver, List.length_replicate, or_iff_right hrunning]

namespace Cabinet

/-- What is noted of a happening during a countdown that was called above `depth` frames. -/
def countdownNotes {ω : Type} (depth : Nat) (c : Cabinet ω) (happening : Happening)
    (_ : Cabinet ω) : List CountdownNote :=
  if isBack depth c then [.beyond]
  else match happening.timerEvent? with
    | some event => if c.Settled then [.event event] else []
    | none => []

variable {ω : Type} {eye : Onlooker ω} {c c' told first : Cabinet ω} {count digit : Int}
  {stack : List Frame} {events : List TimerEvent} {notes : List CountdownNote}
  {happening : Happening} {event : TimerEvent} {w flashes : Nat}

/-- Nothing is left to do but to wait for the timer, and it runs. -/
def AwaitsTimer (c : Cabinet ω) : Prop :=
  c.Settled ∧ ∃ due, c.EndsAt due

/-- How many events are left at a digit. A digit below 0 belongs to a count from below 0, and is
followed by another such digit. -/
structure Remains (count : Int) (events : List TimerEvent) (digit : Int) (flashes : Nat) :
    Prop where
  running : .disabled ∉ events
  left : 0 ≤ count ∧ 0 ≤ digit ∧
      events.length + eventsLeft digit (flashes + 1) = countdownEvents count ∨
    count < 0 ∧ digit < 0

/-- How a countdown stands after these events. -/
inductive InCounting (count : Int) (stack : List Frame) (events : List TimerEvent)
    (c : Cabinet ω) : Prop
  | called (hcarried : Carried (.calling (.countdown (.int count))) stack c) (hnone : events = [])
  | waiting {w flashes : Nat} {digit : Int}
      (hlistening : Listening (.countdown (.int digit) (flashes + 1)) w c)
      (htasks : c.tasks = #[{ state := .waiting w, stack }])
      (hremains : Remains count events digit flashes)
  /-- The last event was there. -/
  | told {w : Nat} (hqueued : Queued (.waiting w) stack c)
      (hanswer : (c.watches[w]?).bind Watch.ending = some (.answered .nothing))
      (hover : CountdownOver count events) (hmost : 0 ≤ count →
        events.length ≤ countdownEvents count)
  | back (hcarried : Carried (.answering .nothing) stack c)
      (hover : CountdownOver count events) (hmost : 0 ≤ count →
        events.length ≤ countdownEvents count)

/-- A countdown stands somewhere, and the timer can be armed. -/
structure Counting (count : Int) (stack : List Frame) (events : List TimerEvent)
    (c : Cabinet ω) : Prop where
  stands : InCounting count stack events c
  clocked : c.Clocked
  rate : c.timer.rate ≠ 0

/-! ## One event -/

/-- What an event leads to while a countdown counts: another digit is shown, or another flash, and
the timer is armed again; the last flash ends the countdown. -/
inductive CountsOn (digit : Int) (flashes w : Nat) (c : Cabinet ω) : Prop
  | goesOn (hmore : digitAfter digit ≠ 0)
      (hlistening : Listening (.countdown (.int (digitAfter digit)) (flashes + 1)) w c)
      (hends : ∃ due, c.EndsAt due)
  | flashes {rest : Nat} (hzero : digitAfter digit = 0) (hrest : flashes = rest + 1)
      (hlistening : Listening (.countdown (.int 0) (rest + 1)) w c) (hends : ∃ due, c.EndsAt due)
  | ends (hzero : digitAfter digit = 0) (hlast : flashes = 0) (hanswered : Answered .nothing w c)
      (hclocked : c.Clocked)

/-- What a countdown does at an event leaves the task and the rate of the timer alone. -/
theorem Listening.countsOn (eye : Onlooker ω)
    (h : Listening (.countdown (.int digit) (flashes + 1)) w c) (hclocked : c.Clocked)
    (hrate : c.timer.rate ≠ 0) :
    ∃ c', onEvent eye.around w TimerEvent.elapsed c = .ok ⟨⟩ c' ∧ CountsOn digit flashes w c' ∧
      c'.tasks = c.tasks ∧ c'.timer.rate = c.timer.rate := by
  have hreact : onEvent eye.around w TimerEvent.elapsed c =
      countDown eye.around w (.int digit) (flashes + 1) c := h.onEvent_countdown eye .elapsed
  rw [hreact]
  by_cases hzero : digitAfter digit = 0
  · obtain ⟨outside, hact⟩ := hclocked.countDown_flash eye w (flashes + 1) hrate hzero
    have hflashed := h.flashCounted eye outside
    have hends : ∃ due, (c.flashCounted eye w outside (flashes + 1)).EndsAt due :=
      ⟨_, armedFor_endsAt eye flashTicks (c.turnedTo w (.countdown (.int 0) (flashes + 1)))⟩
    rw [Nat.add_sub_cancel] at hact hflashed
    rw [hact]
    cases flashes with
    | zero =>
      rw [if_pos rfl, hflashed.leaveTimer_apply rfl]
      exact ⟨_, rfl, .ends hzero rfl (hflashed.left_answered .nothing) (.inr hends), rfl, rfl⟩
    | succ rest =>
      rw [if_neg (Nat.succ_ne_zero rest)]
      exact ⟨_, rfl, .flashes hzero rfl hflashed hends, rfl, rfl⟩
  · obtain ⟨outside, hact⟩ := hclocked.countDown_digit eye w (flashes + 1) hrate hzero
    exact ⟨_, hact, .goesOn hzero (h.digitCounted eye outside _)
      ⟨_, armedFor_endsAt eye digitTicks _⟩, rfl, rfl⟩

/-- Where a countdown goes on after an event, one event less remains. -/
theorem Remains.goesOn (h : Remains count events digit flashes) (hmore : digitAfter digit ≠ 0) :
    Remains count (events ++ [.elapsed]) (digitAfter digit) flashes := by
  obtain ⟨hnone, hleft⟩ := h
  refine ⟨by simp [hnone], ?_⟩
  simp only [List.length_append, List.length_singleton, eventsLeft, digitAfter] at hmore hleft ⊢
  split at hmore
  · exact absurd rfl hmore
  · rename_i hdigit
    rw [if_neg hdigit]
    omega

theorem Remains.flashesOn {rest : Nat} (h : Remains count events digit (rest + 1))
    (hzero : digitAfter digit = 0) : Remains count (events ++ [.elapsed]) 0 rest := by
  obtain ⟨hnone, hleft⟩ := h
  refine ⟨by simp [hnone], ?_⟩
  simp only [List.length_append, List.length_singleton, eventsLeft, digitAfter] at hzero hleft ⊢
  split at hzero <;> omega

/-- The event after the last flash was the last one. -/
theorem Remains.last (h : Remains count events digit 0) (hzero : digitAfter digit = 0) :
    0 ≤ count ∧ (events ++ [TimerEvent.elapsed]).length = countdownEvents count := by
  obtain ⟨-, hleft⟩ := h
  simp only [List.length_append, List.length_singleton, eventsLeft, digitAfter] at hzero hleft ⊢
  split at hzero <;> omega

/-- As long as an event remains, a countdown is not over. -/
theorem Remains.not_over (h : Remains count events digit flashes) :
    ¬ CountdownOver count events := by
  rintro (hdisabled | ⟨hcount, hall⟩)
  · exact h.running hdisabled
  · rcases h.left with ⟨-, -, hleft⟩ | ⟨hbelow, -⟩
    · unfold eventsLeft at hleft
      omega
    · omega

theorem Remains.length_lt (h : Remains count events digit flashes) (hcount : 0 ≤ count) :
    events.length < countdownEvents count := by
  rcases h.left with ⟨-, -, hleft⟩ | ⟨hbelow, -⟩
  · unfold eventsLeft at hleft
    omega
  · omega

/-- At first all events remain. -/
theorem remains_first (count : Int) : Remains count [] (min count greatestDigit) 9 := by
  have hgreatest : (greatestDigit : Int) = 9 := rfl
  have hflashes : countdownFlashes = 9 + 1 := rfl
  refine ⟨List.not_mem_nil, ?_⟩
  rw [countdownEvents, hflashes, hgreatest, List.length_nil, Nat.zero_add]
  omega

/-! ## What is noted -/

theorem countdownNotes_of_event (hback : isBack stack.length c = false) (hsettled : c.Settled)
    (hevent : happening.timerEvent? = some event) :
    countdownNotes stack.length c happening c' = [.event event] := by
  simp [countdownNotes, hback, hsettled, hevent]

/-- Where something else is left to do, or the timer has no event, nothing is noted. -/
theorem countdownNotes_of_none (hback : isBack stack.length c = false)
    (hnone : ¬ c.Settled ∨ happening.timerEvent? = none) :
    countdownNotes stack.length c happening c' = [] := by
  rcases hnone with hunsettled | hevent
  · cases hevent : happening.timerEvent? <;> simp [countdownNotes, hback, hunsettled, hevent]
  · simp [countdownNotes, hback, hevent]

/-- What is announced is an event of the timer. -/
theorem Announces.timerEvent? (h : Announces c happening event told) :
    happening.timerEvent? = some event := by
  cases h <;> rfl

/-- What a wait for the timer misses is no event of the timer. -/
theorem Passes.timerEvent? (h : Passes eye c happening c')
    (hmisses : Watch.Kind.Misses (.countdown (.int digit) flashes) happening) :
    happening.timerEvent? = none := by
  cases h with
  | disable => cases hmisses
  | expire => cases hmisses
  | _ => rfl

/-! ## Whatever happens -/

/-- The call of a countdown shows its first digit and arms the timer. -/
theorem counting_begins (eye : Onlooker ω)
    (hcarried : Carried (.calling (.countdown (.int count))) stack c) (hclocked : c.Clocked)
    (hrate : c.timer.rate ≠ 0) : Counting count stack [] (carryOn eye.around 0 c) ∧
      (carryOn eye.around 0 c).AwaitsTimer := by
  obtain ⟨outside, ticks, hact⟩ := begin_countdown eye count hcarried.deaf hclocked hrate
  have hopened := opened_opened (.countdown (.int (min count greatestDigit)) countdownFlashes)
    hcarried.ready
  have hshown : Opened (.countdown (.int (min count greatestDigit)) countdownFlashes)
      c.watches.size (armedFor eye ticks
        ((c.opened (.countdown (.int (min count greatestDigit)) countdownFlashes)).shows
          (digitPattern (min count greatestDigit)) outside)) :=
    ⟨hopened.watch, hopened.timer, hopened.key, hopened.ready⟩
  have hends := armedFor_endsAt eye ticks
    ((c.opened (.countdown (.int (min count greatestDigit)) countdownFlashes)).shows
      (digitPattern (min count greatestDigit)) outside)
  rw [hcarried.carryOn_calling, carry_await hact hcarried.tasks hshown]
  exact ⟨⟨.waiting (hshown.listening _) rfl (remains_first count), hends.clocked, hrate⟩,
    ⟨rfl, hshown.ready⟩, _, hends⟩

/-- An event that runs out reaches the countdown. -/
theorem counting_elapses (eye : Onlooker ω)
    (h : Listening (.countdown (.int digit) (flashes + 1)) w c)
    (htasks : c.tasks = #[{ state := .waiting w, stack }]) (hclocked : c.Clocked)
    (hrate : c.timer.rate ≠ 0) (hremains : Remains count events digit flashes) :
    Counting count stack (events ++ [.elapsed])
        ((notify eye.around TimerEvent.elapsed).result c).2 ∧
      (¬ CountdownOver count (events ++ [.elapsed]) →
        ((notify eye.around TimerEvent.elapsed).result c).2.AwaitsTimer) := by
  obtain ⟨c', hact, hcounts, hsame, hrate'⟩ := h.countsOn eye hclocked hrate
  rw [notify_one h.timer hact]
  rw [← hsame] at htasks
  rw [← hrate'] at hrate
  cases hcounts with
  | goesOn hmore hlistening hends =>
    obtain ⟨due, hdue⟩ := hends
    exact ⟨⟨.waiting hlistening htasks (hremains.goesOn hmore), hdue.clocked, hrate⟩,
      fun _ => ⟨⟨hlistening.active, hlistening.ready⟩, due, hdue⟩⟩
  | flashes hzero hrest hlistening hends =>
    subst hrest
    obtain ⟨due, hdue⟩ := hends
    exact ⟨⟨.waiting hlistening htasks (hremains.flashesOn hzero), hdue.clocked, hrate⟩,
      fun _ => ⟨⟨hlistening.active, hlistening.ready⟩, due, hdue⟩⟩
  | ends hzero hlast hanswered hclocked =>
    subst hlast
    obtain ⟨hcount, hall⟩ := hremains.last hzero
    have hover : CountdownOver count (events ++ [.elapsed]) := .inr ⟨hcount, hall.ge⟩
    exact ⟨⟨.told (hanswered.queued htasks) hanswered.watch hover fun _ => hall.le, hclocked,
      hrate⟩, fun hmore => absurd hover hmore⟩

/-- A countdown that is called off is over. -/
theorem counting_calledOff (h : Listening (.countdown (.int digit) (flashes + 1)) w c)
    (htasks : c.tasks = #[{ state := .waiting w, stack }]) (hclocked : c.Clocked)
    (hrate : c.timer.rate ≠ 0) (hremains : Remains count events digit flashes) :
    Counting count stack (events ++ [.disabled])
      ((notify eye.around .disabled).result c).2 := by
  have hanswered := h.left_answered .nothing
  rw [notify_one h.timer (h.onEvent_countdown eye .disabled)]
  refine ⟨.told (hanswered.queued htasks) hanswered.watch (.inl (by simp)) fun hcount => ?_,
    hclocked, hrate⟩
  have hroom := hremains.length_lt hcount
  rw [List.length_append, List.length_singleton]
  omega

/-- Whatever happens before a countdown is over, it stands somewhere with the events that there
were. -/
theorem Counting.next (h : Counting count stack events c)
    (hhappens : Happens eye.around c happening c')
    (hbeyond : .beyond ∉ countdownNotes stack.length c happening c') :
    Counting count stack
      (events ++ CountdownNote.events (countdownNotes stack.length c happening c')) c' := by
  obtain ⟨hstands, hclocked, hrate⟩ := h
  cases hstands with
  | called hcarried hnone =>
    obtain ⟨rfl, rfl⟩ := hcarried.cases hhappens
    rw [countdownNotes_of_none (hcarried.isBack_calling _) (.inl hcarried.not_settled), hnone]
    exact (counting_begins eye hcarried hclocked hrate).1
  | @waiting w flashes digit hlistening htasks hremains =>
    have hback := isBack_of_waiting htasks stack.length
    rcases hlistening.cases hclocked hhappens with
      ⟨_, hkey, -⟩ | ⟨event, told, -, hannounces, rfl⟩ | ⟨hpasses, hmisses⟩
    · cases hkey
    · have hkept := hannounces.kept
      have htold := hkept.listening hlistening
      have hunarmed : told.Clocked := .inl hannounces.unarmed
      rw [← hkept.tasks] at htasks
      rw [← hkept.rate] at hrate
      rw [countdownNotes_of_event hback ⟨hlistening.active, hlistening.ready⟩
        hannounces.timerEvent?]
      cases event with
      | elapsed => exact (counting_elapses eye htold htasks hunarmed hrate hremains).1
      | disabled => exact counting_calledOff htold htasks hunarmed hrate hremains
    · have hkept := hpasses.kept
      rw [countdownNotes_of_none hback (.inr (hpasses.timerEvent? hmisses))]
      refine ⟨.waiting (hkept.listening hlistening) (hkept.tasks.trans htasks) ?_,
        hpasses.clocked hclocked, by rwa [hkept.rate]⟩
      simpa [CountdownNote.events] using hremains
  | told hqueued hanswer hover hmost =>
    have hnotes : countdownNotes stack.length c happening c' = [] :=
      countdownNotes_of_none (isBack_of_waiting hqueued.tasks _) (.inl hqueued.not_settled)
    rw [hnotes, show CountdownNote.events [] = [] from rfl, List.append_nil]
    rcases hqueued.cases hclocked hhappens with hpasses | ⟨rfl, rfl⟩
    · have hkept := hpasses.kept
      rw [← hkept.watches] at hanswer
      exact ⟨.told (hkept.queued hqueued) hanswer hover hmost, hpasses.clocked hclocked,
        by rwa [hkept.rate]⟩
    · obtain ⟨hcarried, hwake⟩ := hqueued.wake_waiting hanswer
      rw [hwake] at hcarried ⊢
      exact ⟨.back hcarried hover hmost, hclocked, hrate⟩
  | back hcarried =>
    simp [countdownNotes, hcarried.isBack_answering] at hbeyond

/-- A countdown stands somewhere after every run that does not lead beyond it. -/
theorem Run.counting (hrun : Run eye.around (countdownNotes stack.length) first notes c)
    (hcalled : Carried (.calling (.countdown (.int count))) stack first)
    (hclocked : first.Clocked) (hrate : first.timer.rate ≠ 0) (hbeyond : .beyond ∉ notes) :
    Counting count stack (CountdownNote.events notes) c := by
  induction hrun with
  | start => exact ⟨.called hcalled rfl, hclocked, hrate⟩
  | next _ hhappens ih =>
    rw [List.mem_append, not_or] at hbeyond
    rw [CountdownNote.events_append]
    exact (ih hbeyond.1).next hhappens hbeyond.2

/-! ## The end, or none -/

theorem Counting.length_le (h : Counting count stack events c) (hcount : 0 ≤ count) :
    events.length ≤ countdownEvents count := by
  cases h.stands with
  | called _ hnone =>
    rw [hnone]
    exact Nat.zero_le _
  | waiting _ _ hremains => exact (hremains.length_lt hcount).le
  | told _ _ _ hmost => exact hmost hcount
  | back _ _ hmost => exact hmost hcount

/-- Before any event, nothing is over. -/
theorem not_countdownOver_nil (count : Int) : ¬ CountdownOver count [] :=
  (remains_first count).not_over

/-- A countdown that is over comes to its answer with the next step. -/
theorem Counting.soon (h : Counting count stack events c) (hover : CountdownOver count events)
    (horizon : Rat) : Soon eye.around horizon 1 (Carried (.answering .nothing) stack) c := by
  cases h.stands with
  | called _ hnone =>
    rw [hnone] at hover
    exact absurd hover (not_countdownOver_nil count)
  | waiting _ _ hremains => exact absurd hover hremains.not_over
  | told hqueued hanswer =>
    obtain ⟨hcarried, hwake⟩ := hqueued.wake_waiting hanswer
    apply Soon.step (hqueued.step? horizon)
    · rw [hwake]
    · rw [hwake]
    · exact .now hcarried
  | back hcarried => exact .now hcarried

/-- An answer comes only when the countdown is over. -/
theorem Counting.over_of_answering {answer : Answer} (h : Counting count stack events c)
    (hcarried : Carried (.answering answer) stack c) : CountdownOver count events := by
  cases h.stands with
  | called hother => cases (hcarried.task_eq hother.tasks).1
  | waiting _ htasks => cases (hcarried.task_eq htasks).1
  | told hqueued => cases (hcarried.task_eq hqueued.tasks).1
  | back _ hover => exact hover

/-- A countdown of the timer may run out when nothing else is left to do. -/
theorem EndsAt.elapses {due : Rat} (h : c.EndsAt due) (around : Surroundings ω)
    (hsettled : c.Settled) : Happens around c (.call .countdownOver)
      ((notify around .elapsed).result (c.expired due)).2 := by
  obtain ⟨number, -, hdeadlines⟩ := h
  have hnext : c.agenda.next? due =
      some (.countdownOver, { c.agenda with now := due, deadlines := [] }) := by
    simp [Agenda.next?, hsettled.2, hdeadlines]
  have hhappens : Happens around c (.call .countdownOver) _ := .call hsettled.1 hnext
  simpa [perform, countdownOver, updateTimer, Act.result, expired] using hhappens

/-- Where a countdown waits for the timer, there may be another event, and unless this is the last
one the countdown waits for the timer again. -/
theorem Counting.elapses (eye : Onlooker ω) (h : Counting count stack events c)
    (hawaits : c.AwaitsTimer) :
    ∃ c', Happens eye.around c (.call .countdownOver) c' ∧
      countdownNotes stack.length c (.call .countdownOver) c' = [.event .elapsed] ∧
      Counting count stack (events ++ [.elapsed]) c' ∧
      (¬ CountdownOver count (events ++ [.elapsed]) → c'.AwaitsTimer) := by
  obtain ⟨hsettled, due, hends⟩ := hawaits
  cases h.stands with
  | called hcarried => exact absurd hsettled hcarried.not_settled
  | @waiting w flashes digit hlistening htasks hremains =>
    obtain ⟨hcounting, hagain⟩ := counting_elapses eye (hlistening.expired due) htasks
      (.inl (expired_unarmed due c)) h.rate hremains
    exact ⟨_, hends.elapses eye.around hsettled,
      countdownNotes_of_event (isBack_of_waiting htasks _) hsettled rfl, hcounting, hagain⟩
  | told hqueued => exact absurd hsettled hqueued.not_settled
  | back hcarried => exact absurd hsettled hcarried.not_settled

/-- If the timer does nothing but run out, there are as many events as the countdown takes, and any
number of them if it counts from below 0. -/
theorem counting_elapsed (eye : Onlooker ω)
    (hcalled : Carried (.calling (.countdown (.int count))) stack first)
    (hclocked : first.Clocked) (hrate : first.timer.rate ≠ 0) {n : Nat}
    (hn : 0 ≤ count → n ≤ countdownEvents count) :
    ∃ c, Run eye.around (countdownNotes stack.length) first
        (List.replicate n (.event .elapsed)) c ∧
      Counting count stack (List.replicate n .elapsed) c ∧
      (¬ CountdownOver count (List.replicate n .elapsed) → c.AwaitsTimer) := by
  induction n with
  | zero =>
    obtain ⟨hcounting, hawaits⟩ := counting_begins eye hcalled hclocked hrate
    have hrun : Run eye.around (countdownNotes stack.length) first _ (carryOn eye.around 0 first) :=
      Run.start.next (.carry hcalled.active)
    rw [countdownNotes_of_none (hcalled.isBack_calling _) (.inl hcalled.not_settled)] at hrun
    exact ⟨_, hrun, hcounting, fun _ => hawaits⟩
  | succ n ih =>
    obtain ⟨c, hrun, hcounting, hawaits⟩ := ih fun hcount => (Nat.le_succ n).trans (hn hcount)
    have hmore : ¬ CountdownOver count (List.replicate n .elapsed) := by
      rw [countdownOver_replicate]
      rintro ⟨hcount, hall⟩
      have hroom := hn hcount
      omega
    obtain ⟨c', hhappens, hnotes, hcounts, hagain⟩ := hcounting.elapses eye (hawaits hmore)
    have hnext := hrun.next hhappens
    rw [hnotes, ← List.replicate_succ'] at hnext
    rw [← List.replicate_succ'] at hcounts hagain
    exact ⟨c', hnext, hcounts, hagain⟩

/-! ## The countdown -/

/-- **A countdown lasts for its events.** Call a countdown from any whole number, and let anything
happen up to its end, at the key and at the timer. From 0 on there are at most as many events of the
timer as the digit that is counted from, and ten more. The countdown answers only when all its
events were there or it was called off, and then with the next step of the program. If the timer
does nothing but run out, the events of a countdown from 0 on are all there; but a countdown from
below 0 takes any number of them, and waits for the timer again after each. -/
theorem countdown_answers_after_its_events (eye : Onlooker ω)
    (hcalled : Carried (.calling (.countdown (.int count))) stack first)
    (hclocked : first.Clocked) (hrate : first.timer.rate ≠ 0)
    (hrun : Run eye.around (countdownNotes stack.length) first notes c)
    (hbeyond : .beyond ∉ notes) :
    (0 ≤ count → ((CountdownNote.events notes).length : Int) ≤ min (max count 0) 9 + 10) ∧
    (CountdownOver count (CountdownNote.events notes) → ∀ horizon,
      Soon eye.around horizon 1 (Carried (.answering .nothing) stack) c) ∧
    (∀ answer, Carried (.answering answer) stack c →
      CountdownOver count (CountdownNote.events notes)) ∧
    ∀ n, (0 ≤ count → n ≤ countdownEvents count) →
      ∃ c', Run eye.around (countdownNotes stack.length) first
          (List.replicate n (.event .elapsed)) c' ∧
        ((0 ≤ count → n < countdownEvents count) → c'.AwaitsTimer) := by
  have hcounting := hrun.counting hcalled hclocked hrate hbeyond
  refine ⟨fun hcount => ?_, hcounting.soon, fun _ => hcounting.over_of_answering,
    fun n hn => ?_⟩
  · have hmost := hcounting.length_le hcount
    have hbound := countdownEvents_le count
    omega
  · obtain ⟨c', hrun', -, hawaits⟩ := counting_elapsed eye hcalled hclocked hrate hn
    refine ⟨c', hrun', fun hmore => hawaits ?_⟩
    rw [countdownOver_replicate]
    rintro ⟨hcount, hall⟩
    exact absurd (hmore hcount) (Nat.not_lt_of_le hall)

/-- A countdown from 12 counts from 9, and answers after 18 events. -/
theorem countdown_answers_after_its_events_from_twelve : ∃ c,
    Run (Onlooker.scribe fun _ => 0).around (countdownNotes 0)
      (calledAlone (.countdown (.int 12)) false) (List.replicate 18 (.event .elapsed)) c ∧
    ∀ horizon, Soon (Onlooker.scribe fun _ => 0).around horizon 1
      (Carried (.answering .nothing) []) c := by
  have hcalled := calledAlone_carried (.countdown (.int 12)) false
  have hclocked := calledAlone_clocked (.countdown (.int 12)) false
  have hrate : (calledAlone (.countdown (.int 12)) false).timer.rate ≠ 0 := by decide
  obtain ⟨-, -, -, hlasts⟩ := countdown_answers_after_its_events (Onlooker.scribe fun _ => 0)
    hcalled hclocked hrate .start List.not_mem_nil
  obtain ⟨c, hrun, -⟩ := hlasts 18 (by decide)
  obtain ⟨-, hsoon, -⟩ := countdown_answers_after_its_events (Onlooker.scribe fun _ => 0)
    hcalled hclocked hrate hrun (by decide)
  exact ⟨c, hrun, hsoon (.inr (by decide))⟩

/-- A countdown from -1 takes more events than any bound that holds from 0 on, and still waits. -/
theorem countdown_from_below_zero_waits : ∃ c,
    Run (Onlooker.scribe fun _ => 0).around (countdownNotes 0)
      (calledAlone (.countdown (.int (-1))) false) (List.replicate 11 (.event .elapsed)) c ∧
    min (max (-1) 0) 9 + 10 < (11 : Int) ∧ c.AwaitsTimer ∧
      ∀ answer, ¬ Carried (.answering answer) [] c := by
  obtain ⟨c, hrun, hcounting, hawaits⟩ := counting_elapsed (n := 11) (Onlooker.scribe fun _ => 0)
    (calledAlone_carried (.countdown (.int (-1))) false)
    (calledAlone_clocked (.countdown (.int (-1))) false) (by decide) (by decide)
  have hmore : ¬ CountdownOver (-1) (List.replicate 11 .elapsed) := by
    rw [countdownOver_replicate]
    decide
  exact ⟨c, hrun, by decide, hawaits hmore,
    fun answer hcarried => hmore (hcounting.over_of_answering hcarried)⟩

end Cabinet

end DigitRace
