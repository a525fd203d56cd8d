import DigitRace.Proofs.Cabinet.Reacting
import DigitRace.Proofs.Screen.Reel

/-!
# A countdown on the digit

A countdown shows its digits down to 1, each for a second, and then flashes the zero: it is dark and
lit in turn, ten times. One watch does all this as its countdowns run out, and the key does not
concern it. As long as nobody else is at the timer, the countdown is a reel; if it is called off, it
is over at once, with nothing more shown.
-/

namespace DigitRace

open Cabinet (digitPattern digitTicks flashTicks countdownFlashes greatestDigit)

/-- The digits from a number down to 1, each for a second. -/
def digitReel : Nat → List Shot
  | 0 => []
  | n + 1 => ⟨digitPattern (n + 1), digitTicks⟩ :: digitReel n

/-- So many half periods of a zero that flashes, the lit one last. The last of them is over when it
begins. -/
def flashReel : Nat → List Shot
  | 0 => []
  | n + 1 =>
    ⟨Glyph.ofText (if (n + 1) % 2 = 1 then "0" else " "), if n = 0 then 0 else flashTicks⟩ ::
      flashReel n

/-- The shots of a countdown. -/
def countdownReel : Nat → List Shot
  | 0 => ⟨digitPattern 0, flashTicks⟩ :: flashReel countdownFlashes
  | n + 1 => digitReel (n + 1) ++ flashReel countdownFlashes

/-- Ten flashes, 5 ticks apart. -/
def flashCues (tick : Nat) : Cues :=
  (List.range 10).map fun j => (tick + 5 * j, if j % 2 = 0 then "" else digitPattern 0)

/-- Digits, 50 ticks apart, and flashes after the last of them. If there is none, a zero is shown
for 5 ticks first. -/
def countdownCues (count : Nat) : Cues :=
  if count = 0 then (0, digitPattern 0) :: flashCues 5
  else (List.range count).map (fun i => (50 * i, digitPattern (count - i : Nat))) ++
    flashCues (50 * count)

/-- The tick at which a countdown is over. -/
def countdownEnd (count : Nat) : Nat :=
  if count = 0 then 50 else 50 * count + 45

theorem length_digitReel (n : Nat) : Shot.length (digitReel n) = 50 * n := by
  induction n with
  | zero => rfl
  | succ n ih =>
    rw [digitReel, Shot.length_cons, ih]
    simp only [digitTicks, ticksPerSecond]
    omega

theorem length_countdownReel (count : Nat) :
    Shot.length (countdownReel count) = countdownEnd count := by
  cases count with
  | zero => rfl
  | succ n =>
    rw [countdownReel, Shot.length_append, length_digitReel]
    rfl

theorem cues_digitReel (tick n : Nat) : Shot.cues tick (digitReel n) =
    (List.range n).map fun i => (tick + 50 * i, digitPattern (n - i : Nat)) := by
  induction n generalizing tick with
  | zero => rfl
  | succ n ih =>
    rw [List.range_succ_eq_map, List.map_cons, List.map_map, digitReel, Shot.cues, ih]
    refine congrArg₂ _ rfl (List.map_congr_left fun i _ => ?_)
    simp only [Function.comp_apply, digitTicks, ticksPerSecond, Nat.succ_eq_add_one, mul_add,
      Nat.add_sub_add_right]
    congr 1
    omega

theorem cues_flashReel (tick : Nat) :
    Shot.cues tick (flashReel countdownFlashes) = flashCues tick := by
  rfl

theorem cues_countdownReel (count : Nat) :
    Shot.cues 0 (countdownReel count) = countdownCues count := by
  cases count with
  | zero => rfl
  | succ n =>
    rw [countdownReel, Shot.cues_append, cues_digitReel, cues_flashReel, length_digitReel]
    simp [countdownCues]

/-- The happenings that do not disturb a countdown: the key may move, and nobody else is at the
timer. -/
def Happening.sparesCountdown : Happening → Bool
  | .disable | .enable _ => false
  | _ => true

namespace Cabinet

variable {clock : Cabinet Writes → Rat} {c c' : Cabinet Writes} {start : Rat} {rate : Int}
  {begun : Writes} {whole shown : List Shot} {stack : List Frame} {w n flashes : Nat}

/-- The watch of a countdown, with the digit that was shown last and the flashes that are left. -/
def countdownWatch (digit flashes : Nat) : Watch.Kind :=
  .countdown (.int digit) flashes

/-- How a countdown stands that nothing has disturbed, so many steps of the program before its
answer. The shots that were shown are a part of the whole. -/
inductive InCountdown (start : Rat) (rate : Int) (begun : Writes) (whole : List Shot)
    (stack : List Frame) (c : Cabinet Writes) : Nat → Prop
  | called {count : Nat} (hcarried : Carried (.calling (.countdown (.int count))) stack c)
      (hfilmed : Filmed start rate begun [] c)
      (hwhole : countdownReel (min count greatestDigit) = whole) (hnow : c.agenda.now = start) :
      InCountdown start rate begun whole stack c (whole.length + 1)
  | waiting {w digit flashes : Nat} {shown : List Shot}
      (hlistening : Listening (countdownWatch digit (flashes + 1)) w c)
      (htasks : c.tasks = #[{ state := .waiting w, stack }])
      (hfilmed : Filmed start rate begun shown c)
      (hwhole : shown ++ (digitReel (digit - 1) ++ flashReel (flashes + 1)) = whole)
      (hends : c.EndsAt (tickTime start rate (Shot.length shown))) :
      InCountdown start rate begun whole stack c
        ((digitReel (digit - 1) ++ flashReel (flashes + 1)).length + 1)
  /-- The last flash was shown. -/
  | told {w : Nat} (hqueued : Queued (.waiting w) stack c)
      (hanswer : (c.watches[w]?).bind Watch.ending = some (.answered .nothing))
      (hfilmed : Filmed start rate begun whole c)
      (hnow : c.agenda.now = tickTime start rate (Shot.length whole)) :
      InCountdown start rate begun whole stack c 1
  | back (hcarried : Carried (.answering .nothing) stack c)
      (hfilmed : Filmed start rate begun whole c)
      (hnow : c.agenda.now = tickTime start rate (Shot.length whole)) :
      InCountdown start rate begun whole stack c 0

/-- A countdown stands somewhere undisturbed. -/
structure Counted (start : Rat) (rate : Int) (begun : Writes) (whole : List Shot)
    (stack : List Frame) (n : Nat) (c : Cabinet Writes) : Prop where
  stands : InCountdown start rate begun whole stack c n
  clocked : c.Clocked

/-! ## One shot after the other -/

/-- The ticks for which the first digit of a countdown is shown. -/
def firstTicks (count : Nat) : Nat :=
  if count = 0 then flashTicks else digitTicks

variable (clock) in
/-- The first digit is shown, and its time is counted. -/
theorem scribe_countdown (count : Nat) (hdeaf : c.Deaf) (hclocked : c.Clocked)
    (hrate : c.timer.rate ≠ 0) :
    begin (Onlooker.scribe clock).around (.countdown (.int count)) c =
      .ok (.await c.watches.size none)
        (armedFor (Onlooker.scribe clock) (firstTicks (min count greatestDigit))
          ((c.opened (countdownWatch (min count greatestDigit) countdownFlashes)).written
            (digitPattern (min count greatestDigit : Nat)))) := by
  have hfirst : (Value.int count).atMost greatestDigit =
      .ok (.int (min count greatestDigit : Nat)) := by
    rw [atMost_int, Nat.cast_min]
  generalize min count greatestDigit = first at hfirst ⊢
  let shown := (c.opened (countdownWatch first countdownFlashes)).written (digitPattern first)
  have hticks : (if (Value.int first).truthy then (digitTicks : Int) else flashTicks) =
      firstTicks first := by
    cases first <;> rfl
  have hshow := scribe_showPattern clock (digitPattern first)
    (c.opened (countdownWatch first countdownFlashes))
  rw [← showDigit_eq] at hshow
  have hshown : shown.Clocked := hclocked
  have hsmall : (firstTicks first : Int) ≤ 50 := by
    unfold firstTicks
    split <;> decide
  have harmed := hshown.enable_small (Onlooker.scribe clock) hrate hsmall
  simp only [begin, beginCountdown, hfirst]
  rw [Act.bind_apply, Act.lift_ok_apply]
  refine (open_timer_apply (countdownWatch first countdownFlashes) hdeaf rfl rfl _).trans ?_
  simp only [Act.bind_apply, hshow, hticks]
  exact harmed ▸ rfl

variable (clock) in
/-- After a digit from 2 on the next one is shown, for a second. -/
theorem scribe_countDown_digit (digit : Nat) (hclocked : c.Clocked) (hrate : c.timer.rate ≠ 0) :
    countDown (Onlooker.scribe clock).around w (.int (digit + 2 : Nat)) flashes c =
      .ok ⟨⟩ ((armedFor (Onlooker.scribe clock) digitTicks
        (c.turnedTo w (countdownWatch (digit + 1) flashes))).written
          (digitPattern (digit + 1 : Nat))) := by
  have hafter : digitAfter (digit + 2 : Nat) = (digit + 1 : Nat) := by
    simp only [digitAfter]
    omega
  let counted := c.turnedTo w (countdownWatch (digit + 1) flashes)
  have hcounted : counted.Clocked := hclocked
  have harmed := hcounted.enable_small (Onlooker.scribe clock) hrate
    (by decide : (digitTicks : Int) ≤ 50)
  have hmore : digitAfter (digit + 2 : Nat) ≠ 0 := by omega
  rw [countDown_digit hmore (by rw [hafter]; exact harmed), hafter]
  exact scribe_showPattern clock _ _

variable (clock) in
/-- After the digit 1 the zero flashes, and with the last flash the countdown is over. -/
theorem scribe_countDown_flash {digit : Nat} (hdigit : digit ≤ 1) (hclocked : c.Clocked)
    (hrate : c.timer.rate ≠ 0) :
    countDown (Onlooker.scribe clock).around w (.int digit) (flashes + 1) c =
      (if flashes = 0 then do leaveTimer w; conclude w .nothing else pure ⟨⟩ : Play Writes Unit)
        (((armedFor (Onlooker.scribe clock) flashTicks
          (c.turnedTo w (countdownWatch 0 (flashes + 1)))).written
            (Glyph.ofText (if (flashes + 1) % 2 = 1 then "0" else " "))).turnedTo w
              (countdownWatch 0 flashes)) := by
  have hzero : digitAfter digit = 0 := by
    simp only [digitAfter]
    omega
  let counted := c.turnedTo w (countdownWatch 0 (flashes + 1))
  have hcounted : counted.Clocked := hclocked
  have harmed := hcounted.enable_small (Onlooker.scribe clock) hrate
    (by decide : (flashTicks : Int) ≤ 50)
  rw [countDown_flash hzero harmed]
  simp only [Act.bind_apply, scribe_showPattern, setKind_apply, Nat.add_sub_cancel]
  rfl

variable (clock) in
/-- A countdown waits with its first digit shown. -/
theorem counted_begins {count : Nat}
    (hcarried : Carried (.calling (.countdown (.int count))) stack c) (hclocked : c.Clocked)
    (hrate : rate ≠ 0) (hfilmed : Filmed start rate begun [] c)
    (hwhole : countdownReel (min count greatestDigit) = whole) (hnow : c.agenda.now = start) :
    Counted start rate begun whole stack whole.length
      (carryOn (Onlooker.scribe clock).around 0 c) := by
  have hact := scribe_countdown clock count hcarried.deaf hclocked (hfilmed.rate ▸ hrate)
  generalize min count greatestDigit = first at hact hwhole
  let opening := c.opened (countdownWatch first countdownFlashes)
  let next : Shot := ⟨digitPattern first, firstTicks first⟩
  have hreel : countdownReel first =
      next :: (digitReel (first - 1) ++ flashReel (countdownFlashes - 1 + 1)) := by
    cases first <;> rfl
  have hbegins : opening.agenda.now = tickTime start rate (Shot.length []) :=
    hnow.trans (tickTime_zero start rate).symm
  have hopening : Filmed start rate begun [] opening := hfilmed.kept rfl le_rfl rfl rfl
  have hshown : Filmed start rate begun ([] ++ [next]) (opening.written next.pattern) :=
    hopening.shot hbegins next
  have hopened : Opened (countdownWatch first countdownFlashes) c.watches.size
      (armedFor (Onlooker.scribe clock) next.ticks (opening.written next.pattern)) :=
    ⟨(opened_opened _ hcarried.ready).watch, rfl, rfl, hcarried.ready⟩
  have hends : (armedFor (Onlooker.scribe clock) next.ticks
      (opening.written next.pattern)).EndsAt (tickTime start rate (Shot.length ([] ++ [next]))) :=
    endsAt_shot (c := opening.written next.pattern) hfilmed.rate hbegins next
  rw [hcarried.carryOn_calling, carry_await hact hcarried.tasks hopened, ← hwhole, hreel]
  exact ⟨.waiting (hopened.listening _) rfl (hshown.kept rfl le_rfl rfl rfl) rfl hends,
    hends.clocked⟩

variable (clock) in
/-- At the end of a shot the countdown shows the next one, or its last. -/
theorem counted_elapses {digit : Nat}
    (hlistening : Listening (countdownWatch digit (flashes + 1)) w c)
    (htasks : c.tasks = #[{ state := .waiting w, stack }]) (hclocked : c.Clocked) (hrate : rate ≠ 0)
    (hfilmed : Filmed start rate begun shown c)
    (hwhole : shown ++ (digitReel (digit - 1) ++ flashReel (flashes + 1)) = whole)
    (hnow : c.agenda.now = tickTime start rate (Shot.length shown)) :
    ∃ c', onEvent (Onlooker.scribe clock).around w .elapsed c = .ok ⟨⟩ c' ∧
      Counted start rate begun whole stack
        (digitReel (digit - 1) ++ flashReel (flashes + 1)).length c' := by
  have hreact : onEvent (Onlooker.scribe clock).around w .elapsed c =
      countDown (Onlooker.scribe clock).around w (.int digit) (flashes + 1) c :=
    hlistening.onEvent_countdown _ .elapsed
  rw [hreact]
  subst hwhole
  obtain hlow | ⟨d, rfl⟩ : digit ≤ 1 ∨ ∃ d, digit = d + 2 := by
    rcases Nat.lt_or_ge 1 digit with hmore | hlow
    · exact .inr ⟨digit - 2, by omega⟩
    · exact .inl hlow
  · let next : Shot := ⟨Glyph.ofText (if (flashes + 1) % 2 = 1 then "0" else " "),
      if flashes = 0 then 0 else flashTicks⟩
    have hreel : digitReel (digit - 1) ++ flashReel (flashes + 1) = next :: flashReel flashes := by
      rw [Nat.sub_eq_zero_of_le hlow]
      rfl
    let counted := c.turnedTo w (countdownWatch 0 (flashes + 1))
    let flashed := ((armedFor (Onlooker.scribe clock) flashTicks counted).written
      next.pattern).turnedTo w (countdownWatch 0 flashes)
    have hshown : Filmed start rate begun (shown ++ [next]) flashed :=
      (hfilmed.shot hnow next).kept rfl le_rfl rfl rfl
    have hcounted : Listening (countdownWatch 0 (flashes + 1)) w counted :=
      hlistening.turnedTo rfl rfl
    have hflashed : Listening (countdownWatch 0 flashes) w flashed :=
      ((hcounted.armed (Onlooker.scribe clock) _).shows _ _).turnedTo rfl rfl
    have hticking := (armedFor_endsAt (Onlooker.scribe clock) flashTicks counted).clocked
    rw [hreel, scribe_countDown_flash clock hlow hclocked (hfilmed.rate ▸ hrate)]
    cases flashes with
    | zero =>
      have hanswered := hflashed.left_answered .nothing
      refine ⟨_, hflashed.leaveTimer_apply rfl .nothing,
        .told (hanswered.queued htasks) hanswered.watch (hshown.kept rfl le_rfl rfl rfl)
          (hnow.trans (by simp [next, flashReel])), hticking⟩
    | succ flashes =>
      have hends : (armedFor (Onlooker.scribe clock) flashTicks counted).EndsAt
          (tickTime start rate (Shot.length (shown ++ [next]))) :=
        endsAt_shot (c := counted) hfilmed.rate hnow next
      exact ⟨_, rfl, .waiting hflashed htasks hshown (by simp [digitReel]) hends, hticking⟩
  · let next : Shot := ⟨digitPattern (d + 1 : Nat), digitTicks⟩
    let counted := c.turnedTo w (countdownWatch (d + 1) (flashes + 1))
    have hshown : Filmed start rate begun (shown ++ [next]) (c.written next.pattern) :=
      hfilmed.shot hnow next
    have hcounted : Listening (countdownWatch (d + 1) (flashes + 1)) w counted :=
      hlistening.turnedTo rfl rfl
    have hends : (armedFor (Onlooker.scribe clock) next.ticks counted).EndsAt
        (tickTime start rate (Shot.length (shown ++ [next]))) :=
      endsAt_shot (c := counted) hfilmed.rate hnow next
    refine ⟨_, scribe_countDown_digit clock d hclocked (hfilmed.rate ▸ hrate), ?_, hends.clocked⟩
    exact .waiting ((hcounted.armed (Onlooker.scribe clock) _).shows _ _) htasks
      (hshown.kept rfl le_rfl rfl rfl) (by simp [digitReel]; rfl) hends

/-! ## Whatever happens -/

/-- What does not disturb a countdown and is not the end of its time: nothing is written, and while
nothing is left to do, the timer and its deadline stay the same. While something is left to do, no
time passes. -/
structure Spares (c c' : Cabinet Writes) : Prop where
  kept : Kept c c'
  outside : c'.outside = c.outside
  base : c'.timer.base = c.timer.base
  timer : c.agenda.ready = [] → c'.timer = c.timer ∧ c'.agenda.deadlines = c.agenda.deadlines
  past : c.agenda.now ≤ c'.agenda.now
  now : c.agenda.ready ≠ [] → c'.agenda.now = c.agenda.now

theorem Passes.spares {happening : Happening} (h : Passes (Onlooker.scribe clock) c happening c')
    (hhappens : Happens (Onlooker.scribe clock).around c happening c')
    (hspares : happening.sparesCountdown = true)
    (hexpires : happening = .call .countdownOver → c.agenda.ready ≠ []) :
    Spares c c' ∧ happening.isStep = false := by
  have hkept := h.kept
  cases h with
  | move pressed =>
    exact ⟨⟨hkept, moved_outside pressed, rfl, fun _ => ⟨rfl, rfl⟩, le_rfl, fun _ => rfl⟩, rfl⟩
  | disable => cases hspares
  | enable => cases hspares
  | refuse => cases hspares
  | expire hready => exact absurd hready (hexpires rfl)
  | overdue hbusy =>
    exact ⟨⟨hkept, rfl, rfl, fun hready => absurd hready hbusy, le_rfl, fun _ => rfl⟩, rfl⟩
  | wait time =>
    obtain ⟨hready, hnow, -⟩ := hhappens.wait_cases
    exact ⟨⟨hkept, rfl, rfl, fun _ => ⟨rfl, rfl⟩, hnow, fun hbusy => absurd hready hbusy⟩, rfl⟩

theorem Spares.endsAt {due : Rat} (h : Spares c c') (hready : c.agenda.ready = [])
    (hends : c.EndsAt due) : c'.EndsAt due := by
  obtain ⟨htimer, hdeadlines⟩ := h.timer hready
  rwa [EndsAt, htimer, hdeadlines]

theorem Spares.filmed (h : Spares c c') (hfilmed : Filmed start rate begun shown c) :
    Filmed start rate begun shown c' :=
  hfilmed.kept h.outside h.past h.kept.rate h.kept.display

variable (clock start begun whole stack) in
/-- Whatever happens that does not disturb a countdown, it stands somewhere. -/
theorem counted_nears (hrate : rate ≠ 0) : Nears (Onlooker.scribe clock).around
    Happening.sparesCountdown stack.length (Counted start rate begun whole stack) := by
  rintro n c happening c' ⟨hstands, hclocked⟩ hhappens hback hspares
  cases hstands with
  | called hcarried hfilmed hwhole hnow =>
    obtain ⟨rfl, rfl⟩ := hcarried.cases hhappens
    exact ⟨_, counted_begins clock hcarried hclocked hrate hfilmed hwhole hnow, rfl⟩
  | @waiting w digit flashes shown hlistening htasks hfilmed hwhole hends =>
    rcases hlistening.cases hclocked hhappens with
      ⟨_, hkey, -⟩ | ⟨event, told, -, hannounces, rfl⟩ | ⟨hpasses, hmisses⟩
    · cases hkey
    · cases hannounces with
      | disable => cases hspares
      | expire hdue =>
        obtain rfl := hdue.unique hends
        have hunarmed := expired_unarmed (tickTime start rate (Shot.length shown)) c
        have hover := hlistening.expired (tickTime start rate (Shot.length shown))
        obtain ⟨c', hact, hcounted⟩ := counted_elapses clock hover htasks (.inl hunarmed) hrate
          hfilmed.expired hwhole rfl
        rw [notify_one hover.timer hact]
        exact ⟨_, hcounted, rfl⟩
    · obtain ⟨hspared, hstep⟩ := hpasses.spares hhappens hspares <| by
        rintro rfl
        cases hmisses
      rw [hstep]
      exact ⟨_, ⟨.waiting (hspared.kept.listening hlistening) (hspared.kept.tasks.trans htasks)
        (hspared.filmed hfilmed) hwhole (hspared.endsAt hlistening.ready hends),
        hpasses.clocked hclocked⟩, rfl⟩
  | told hqueued hanswer hfilmed hnow =>
    rcases hqueued.cases hclocked hhappens with hpasses | ⟨rfl, rfl⟩
    · have hbusy : c.agenda.ready ≠ [] := by simp [hqueued.ready]
      obtain ⟨hspared, hstep⟩ := hpasses.spares hhappens hspares fun _ => hbusy
      rw [hstep]
      rw [← hspared.kept.watches] at hanswer
      exact ⟨_, ⟨.told (hspared.kept.queued hqueued) hanswer (hspared.filmed hfilmed)
        ((hspared.now hbusy).trans hnow), hpasses.clocked hclocked⟩, rfl⟩
    · obtain ⟨hcarried, hwake⟩ := hqueued.wake_waiting hanswer
      rw [hwake] at hcarried ⊢
      exact ⟨_, ⟨.back hcarried (hfilmed.kept rfl le_rfl rfl rfl) hnow, hclocked⟩, rfl⟩
  | back hcarried => simp [hcarried.isBack_answering] at hback

/-- Where nothing is left to do, the countdown waits during a shot. -/
theorem Counted.waits (h : Counted start rate begun whole stack n c) (hsettled : c.Settled) :
    ∃ w digit flashes shown rest, Listening (countdownWatch digit (flashes + 1)) w c ∧
      c.tasks = #[{ state := .waiting w, stack }] ∧ Filmed start rate begun shown c ∧
      shown ++ rest = whole ∧ c.EndsAt (tickTime start rate (Shot.length shown)) := by
  cases h.stands with
  | waiting hlistening htasks hfilmed hwhole hends =>
    exact ⟨_, _, _, _, _, hlistening, htasks, hfilmed, hwhole, hends⟩
  | told hqueued => exact absurd hsettled hqueued.not_settled
  | called hcarried => exact absurd hsettled hcarried.not_settled
  | back hcarried => exact absurd hsettled hcarried.not_settled

/-- Where all that is due has happened, what the countdown shows up to that time is written. -/
theorem Counted.upTo (h : Counted start rate begun whole stack n c) (hcalm : c.Calm) :
    c.outside = begun ++ timed start rate
      ((Shot.cues 0 whole).filter fun cue => tickTime start rate cue.1 ≤ c.agenda.now) := by
  obtain ⟨w, digit, flashes, shown, rest, -, -, hfilmed, hwhole, hends⟩ := h.waits hcalm.1
  exact hwhole ▸ hfilmed.upTo hends hcalm rest

/-- A countdown that nothing has disturbed is over once it was shown. -/
theorem Counted.answers {answer : Answer} (h : Counted start rate begun whole stack n c)
    (hcarried : Carried (.answering answer) stack c) : answer = .nothing ∧
      c.agenda.now = tickTime start rate (Shot.length whole) ∧
      c.outside = begun ++ timed start rate (Shot.cues 0 whole) := by
  cases h.stands with
  | called hother => cases (hcarried.task_eq hother.tasks).1
  | waiting _ htasks => cases (hcarried.task_eq htasks).1
  | told hqueued => cases (hcarried.task_eq hqueued.tasks).1
  | back hother hfilmed hnow =>
    cases (hcarried.task_eq hother.tasks).1
    exact ⟨rfl, hnow, hfilmed.outside⟩

variable (clock) in
/-- By the end of its reel, a countdown that is not over goes on. -/
theorem Counted.goesOn (h : Counted start rate begun whole stack (n + 1) c) {horizon : Rat}
    (hhorizon : tickTime start rate (Shot.length whole) ≤ horizon) :
    isBack stack.length c = false ∧
      ∃ c', step? (Onlooker.scribe clock).around horizon c = some c' := by
  obtain ⟨hstands, -⟩ := h
  generalize hsteps : n + 1 = steps at hstands
  cases hstands with
  | called hcarried => exact ⟨hcarried.isBack_calling _, _, hcarried.step? horizon⟩
  | waiting hlistening htasks _ hwhole hends =>
    subst hwhole
    rw [Shot.length_append] at hhorizon
    exact ⟨isBack_of_waiting htasks _, hends.step? ⟨hlistening.active, hlistening.ready⟩
      ((tickTime_mono (Nat.le_add_right _ _)).trans hhorizon)⟩
  | told hqueued => exact ⟨isBack_of_waiting hqueued.tasks _, _, hqueued.step? horizon⟩
  | back => cases hsteps

theorem Counted.back (h : Counted start rate begun whole stack 0 c) :
    Carried (.answering .nothing) stack c := by
  obtain ⟨hstands, -⟩ := h
  generalize hsteps : 0 = steps at hstands
  cases hstands with
  | back hcarried => exact hcarried
  | _ => cases hsteps

variable (clock) in
/-- By the end of its reel, a countdown that nothing disturbs is over. -/
theorem Counted.comes (h : Counted start rate begun whole stack n c) {horizon : Rat}
    (hhorizon : tickTime start rate (Shot.length whole) ≤ horizon) (hrate : rate ≠ 0) :
    Counted start rate begun whole stack 0
      (run (Onlooker.scribe clock).around (fun _ => false) horizon n c) := by
  refine (counted_nears clock start begun whole stack hrate).comes (fun happening hisStep => ?_)
    (fun n c h => h.goesOn clock hhorizon) h
  cases happening <;> first | rfl | cases hisStep

/-- A countdown that is called off while nothing else is left to do is over at once. -/
theorem Counted.calledOff (h : Counted start rate begun whole stack n c) (hsettled : c.Settled)
    (hdisable : Happens (Onlooker.scribe clock).around c .disable c') (horizon : Rat) :
    ∃ c₁, run (Onlooker.scribe clock).around (fun _ => false) horizon 1 c' = c₁ ∧
      Carried (.answering .nothing) stack c₁ ∧ c₁.outside = c.outside ∧
      c₁.agenda.now = c.agenda.now := by
  obtain ⟨w, digit, flashes, shown, rest, hlistening, htasks, -⟩ := h.waits hsettled
  have hcleared := hlistening.cleared
  have hleft : onEvent (Onlooker.scribe clock).around w .disabled c.cleared =
      .ok ⟨⟩ (left w .nothing c.cleared) := hcleared.onEvent_countdown _ .disabled
  have hafter : c' = left w .nothing c.cleared := by
    cases hdisable
    rw [h.clocked.disable_eq, notify_one hcleared.timer hleft]
  have hanswered := hcleared.left_answered .nothing
  have hqueued := hanswered.queued htasks
  obtain ⟨hcarried, hwake⟩ := hqueued.wake_waiting hanswered.watch
  subst hafter
  refine ⟨_, run_step (hqueued.step? horizon) 0, hcarried, ?_, ?_⟩
  · rw [hwake]
    rfl
  · rw [hwake]
    rfl

/-! ## The countdown -/

/-- **A countdown is shown as scheduled, up to its call-off.** Call a countdown from any number, and
let anything happen but that someone else is at the timer. It counts from 9 at most. Where all that
is due has happened, the digits and flashes of the schedule up to that time are written and nothing
else, whatever was done to the key; the countdown is over at the end of the schedule, and the
program comes to it by then. If it is called off while nothing else is left to do, it is over with
the next step of the program, and nothing more is written. -/
theorem countdown_shown_up_to_disable (clock : Cabinet Writes → Rat) {first : Cabinet Writes}
    {count : Nat} (hcalled : Carried (.calling (.countdown (.int count))) stack first)
    (hclocked : first.Clocked) (hobserved : first.display.observer.isSome = true)
    (hrate : first.timer.rate ≠ 0)
    (hrun : Run (Onlooker.scribe clock).around (strays Happening.sparesCountdown stack.length)
      first [] c) :
    (c.Calm → c.outside =
      first.scheduled (cuesUpTo first c.agenda.now (countdownCues (min count 9)))) ∧
    (∀ answer, Carried (.answering answer) stack c → answer = .nothing ∧
      c.agenda.now = first.ticksLater (countdownEnd (min count 9)) ∧
      c.outside = first.scheduled (countdownCues (min count 9))) ∧
    (∀ horizon, first.ticksLater (countdownEnd (min count 9)) ≤ horizon → ∃ steps c',
      run (Onlooker.scribe clock).around (fun _ => false) horizon steps c = c' ∧
      Carried (.answering .nothing) stack c' ∧
      c'.agenda.now = first.ticksLater (countdownEnd (min count 9)) ∧
      c'.outside = first.scheduled (countdownCues (min count 9))) ∧
    (c.Settled → ∀ disabled, Happens (Onlooker.scribe clock).around c .disable disabled →
      ∀ horizon, ∃ c', run (Onlooker.scribe clock).around (fun _ => false) horizon 1 disabled = c' ∧
        Carried (.answering .nothing) stack c' ∧ c'.outside = c.outside ∧
        c'.agenda.now = c.agenda.now) := by
  let whole := countdownReel (min count greatestDigit)
  have hlength : Shot.length whole = countdownEnd (min count 9) := length_countdownReel _
  have hcues : Shot.cues 0 whole = countdownCues (min count 9) := cues_countdownReel _
  obtain ⟨n, hcounted⟩ := (counted_nears clock first.agenda.now first.outside whole stack hrate).run
    hrun rfl ⟨.called hcalled (.begins rfl hobserved) rfl rfl, hclocked⟩
  have hanswers {c : Cabinet Writes} {n : Nat} {answer : Answer}
      (h : Counted first.agenda.now first.timer.rate first.outside whole stack n c)
      (hcarried : Carried (.answering answer) stack c) := h.answers hcarried
  rw [hlength, hcues] at hanswers
  refine ⟨fun hcalm => hcues ▸ hcounted.upTo hcalm, fun answer => hanswers hcounted,
    fun horizon hhorizon => ?_,
    fun hsettled disabled hdisable horizon => hcounted.calledOff hsettled hdisable horizon⟩
  have hlast := hcounted.comes clock (hlength ▸ hhorizon) hrate
  exact ⟨n, _, rfl, hlast.back, (hanswers hlast hlast.back).2⟩

/-- A countdown from 1 shows the 1 for a second, and then flashes ten times. If it is called off
after a press, the 1 stays. -/
theorem countdown_shown_up_to_disable_from_one :
    (∃ steps c, run (Onlooker.scribe fun _ => 0).around (fun _ => false) 2 steps
        (calledAlone (.countdown (.int (1 : Nat))) false) = c ∧
      Carried (.answering .nothing) [] c ∧ c.agenda.now = 19 / 10 ∧
      c.outside = [(0, "bc"), (1, ""), (11 / 10, "abcdef"), (6 / 5, ""), (13 / 10, "abcdef"),
        (7 / 5, ""), (3 / 2, "abcdef"), (8 / 5, ""), (17 / 10, "abcdef"), (9 / 5, ""),
        (19 / 10, "abcdef")]) ∧
    ∃ c disabled, Run (Onlooker.scribe fun _ => 0).around (strays Happening.sparesCountdown 0)
        (calledAlone (.countdown (.int (1 : Nat))) false) [] c ∧ c.key.pressed = true ∧
      Happens (Onlooker.scribe fun _ => 0).around c .disable disabled ∧
      ∃ c', run (Onlooker.scribe fun _ => 0).around (fun _ => false) 0 1 disabled = c' ∧
        Carried (.answering .nothing) [] c' ∧ c'.outside = [(0, "bc")] := by
  let called := calledAlone (.countdown (.int (1 : Nat))) false
  have hcalled : Carried (.calling (.countdown (.int (1 : Nat)))) [] called :=
    calledAlone_carried _ _
  have hclocked : called.Clocked := calledAlone_clocked _ _
  have hrate : called.timer.rate ≠ 0 := by decide
  constructor
  · obtain ⟨-, -, hcomes, -⟩ :=
      countdown_shown_up_to_disable (fun _ => 0) hcalled hclocked rfl hrate .start
    obtain ⟨steps, c, hrun, hcarried, hnow, hshown⟩ := hcomes 2 (by decide +kernel)
    exact ⟨steps, c, hrun, hcarried, hnow.trans (by decide +kernel),
      hshown.trans (by decide +kernel)⟩
  · let pressed := deedsNoted (Onlooker.scribe fun _ => 0).around
      (strays Happening.sparesCountdown 0) [.steps 5, .move true] called
    have hrun : Run (Onlooker.scribe fun _ => 0).around (strays Happening.sparesCountdown 0)
        called pressed.1 pressed.2 := Run.start.deedsNoted [.steps 5, .move true]
    have hnone : pressed.1.isEmpty = true := by decide +kernel
    rw [List.isEmpty_iff.mp hnone] at hrun
    have hsettled : pressed.2.Settled := by decide +kernel
    have hdown : pressed.2.key.pressed = true := by decide +kernel
    have houtside : pressed.2.outside = [(0, "bc")] := by decide +kernel
    have hdisable : Happens (Onlooker.scribe fun _ => 0).around pressed.2 .disable _ :=
      .disable hsettled.1
    obtain ⟨-, -, -, hoff⟩ :=
      countdown_shown_up_to_disable (fun _ => 0) hcalled hclocked rfl hrate hrun
    obtain ⟨c', hends, hcarried, hwritten, -⟩ := hoff hsettled _ hdisable 0
    exact ⟨pressed.2, _, hrun, hdown, hdisable, c', hends, hcarried, hwritten.trans houtside⟩

end Cabinet

end DigitRace
