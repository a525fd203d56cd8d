import DigitRace.Proofs.Cabinet.Critic
import DigitRace.Proofs.Course.Sequence

/-!
# Objections

A critic may object to any pattern that the game shows. An objection to what the task itself shows
ends the task. One to what a watch shows is written down, and whether the game goes on depends on
the timer: while a countdown is pending it does, and in a lull it is frozen, since nothing is left
that would arm the timer.
-/

namespace DigitRace

/-- The critic never objects in a lull. -/
def Critic.Timely {ω : Type} (critic : Critic ω) : Prop :=
  ∀ fault c, critic.ObjectsIn fault c → ¬ c.Lull

namespace Cabinet

open Act

variable {ω : Type} {critic : Critic ω} {c c' : Cabinet ω} {games : Value} {leg : Leg}
  {happening : Happening} {w : Nat} {kind : Watch.Kind} {stack : List Frame} {fault : Fault}

/-! ## The task -/

/-- The task has failed with a fault. -/
structure Fallen (fault : Fault) (c : Cabinet ω) : Prop where
  tasks : c.tasks = #[{ state := .ended (.failed fault) }]
  active : c.active = none

/-- An act of the game leaves the tasks as they are, also if the critic objects. -/
theorem Likewise.tasks_error {α : Type} {act act' : Play ω α}
    (h : Likewise critic.around critic.toOnlooker.around act act')
    (hfails : act c = .error fault c') : c'.tasks = c.tasks :=
  (h.keeps (fun _ _ haside htasks => haside.tasks.trans htasks) fun pattern =>
    keeps_objected critic pattern fun _ _ htasks => htasks).error hfails rfl

/-- The task goes on as with the onlooker around, or an objection ends it. -/
theorem carry_objected {act act' : Play ω Progress} {state : Task.State}
    (h : Likewise critic.around critic.toOnlooker.around act act')
    (htasks : c.tasks = #[{ state, stack }]) : carry 0 act c = carry 0 act' c ∨
      ∃ fault, Fallen fault (carry 0 act c) ∧ critic.Raises fault := by
  rcases h.until_objection c with hsame | ⟨fault, c', hfails, hobjects⟩
  · left
    rw [carry, carry, hsame]
  · right
    rw [carry_error hfails ((h.tasks_error hfails).trans htasks)]
    exact ⟨fault, ⟨rfl, rfl⟩, hobjects.raises⟩

theorem Carried.carryOn_objected {state : Task.State} (h : Carried state stack c)
    (critic : Critic ω) :
    carryOn critic.around 0 c = carryOn critic.toOnlooker.around 0 c ∨
      ∃ fault, Fallen fault (carryOn critic.around 0 c) ∧ critic.Raises fault := by
  cases state with
  | calling routine =>
    rw [h.carryOn_calling, h.carryOn_calling]
    exact carry_objected (.begin critic.clock_around routine) h.tasks
  | answering answer =>
    cases stack with
    | nil =>
      left
      rw [h.carryOn_over, h.carryOn_over]
    | cons frame rest =>
      rw [h.carryOn_answering, h.carryOn_answering]
      exact carry_objected (.resume critic.clock_around answer frame) rfl
  | waiting w => exact .inl (by simp [carryOn, h.tasks])
  | ended ending => exact .inl (by simp [carryOn, h.tasks])

/-- What the critic objects to leaves the task where it ended. -/
private theorem fallen_outward : Outward (Fallen (ω := ω) fault) :=
  fun _ _ haside h => ⟨haside.tasks.trans h.tasks, haside.active.trans h.active⟩

private theorem keeps_fallen (critic : Critic ω) (pattern : String) :
    Keeps (Fallen fault) (showPattern critic.around pattern) :=
  keeps_objected critic pattern fun _ _ h => ⟨h.tasks, h.active⟩

private theorem keeps_fallen_move (critic : Critic ω) (pressed : Bool) :
    Keeps (Fallen fault) (move critic.around pressed) :=
  keeps_move fallen_outward (keeps_fallen critic) pressed (fun _ h => ⟨h.tasks, h.active⟩)
    (.modify fun _ h => ⟨h.tasks, h.active⟩)

/-- A call leaves a task that has failed where it ended. -/
theorem Fallen.perform (h : Fallen fault c) (critic : Critic ω) (call : Call) :
    Fallen fault (perform critic.around call c) := by
  have hwake (number : Nat) : wake number c = c := by
    cases number <;> simp [wake, h.tasks]
  cases call with
  | task number =>
    change Fallen fault (wake number c)
    rwa [hwake number]
  | countdownOver => exact keeps_countdownOver fallen_outward (keeps_fallen critic) _ h
  | move pressed => exact keeps_fallen_move critic pressed _ h
  | disable => exact keeps_disable fallen_outward (keeps_fallen critic) _ h
  | pauseOver | window => exact h

/-- A task that has failed is not called back. -/
theorem Fallen.next (h : Fallen fault c) (hhappens : Happens critic.around c happening c') :
    Fallen fault c' := by
  cases hhappens with
  | carry hactive => simp [h.active] at hactive
  | @call _ call agenda =>
    have hcalled : Fallen fault { c with agenda } := ⟨h.tasks, h.active⟩
    exact hcalled.perform critic call
  | @due call agenda =>
    have hcalled : Fallen fault { c with agenda } := ⟨h.tasks, h.active⟩
    exact hcalled.perform critic call
  | move pressed => exact keeps_fallen_move critic pressed c h
  | disable => exact keeps_disable fallen_outward (keeps_fallen critic) c h
  | enable ticks =>
    exact (Likewise.enable rfl _ : Likewise critic.around critic.around _ _).keeps fallen_outward
      (keeps_fallen critic) c h
  | wait => exact ⟨h.tasks, h.active⟩

/-! ## Where nobody listens -/

theorem notify_alike {around : Surroundings ω} (critic : Critic ω) (h : c.timer.listeners = [])
    (event : TimerEvent) : notify critic.around event c = notify around event c := by
  simp [notify, Timer.tellAll, h]

theorem move_alike (critic : Critic ω) (h : c.key.listeners = []) (pressed : Bool) :
    move critic.around pressed c = move critic.toOnlooker.around pressed c := by
  rw [move_objected, moved_apply, h, forM_nil_apply, forM_nil_apply]

theorem disable_alike (critic : Critic ω) (h : c.timer.listeners = []) :
    disable critic.around c = disable critic.toOnlooker.around c := by
  simp only [disable, Timer.clear, bind_apply, run_apply, modify_apply]
  refine notify_alike critic ?_ .disabled
  exact h

/-- Where nobody listens, the critic makes no difference to a call. -/
theorem Deaf.perform_alike (h : c.Deaf) (critic : Critic ω) (call : Call) :
    perform critic.around call c = perform critic.toOnlooker.around call c := by
  cases call with
  | countdownOver =>
    simp only [perform, countdownOver, updateTimer, result, bind_apply, modify_apply]
    rw [notify_alike critic (by exact h.1)]
  | move pressed =>
    simp only [perform, result]
    rw [move_alike critic h.2]
  | disable =>
    simp only [perform, result]
    rw [disable_alike critic h.1]
  | task | pauseOver | window => rfl

/-- Where nobody listens, nothing is shown outside the task, and the critic makes no difference. -/
theorem Deaf.happens (h : c.Deaf) (hactive : c.active = none)
    (hhappens : Happens critic.around c happening c') :
    Happens critic.toOnlooker.around c happening c' := by
  have hdeaf (agenda : Agenda Call) : Deaf { c with agenda } := h
  cases hhappens with
  | carry hnumber => simp [hactive] at hnumber
  | call _ hnext =>
    rw [(hdeaf _).perform_alike]
    exact .call hactive hnext
  | due _ hready hdue =>
    rw [(hdeaf _).perform_alike]
    exact .due hactive hready hdue
  | move pressed =>
    rw [result, move_alike critic h.2]
    exact .move pressed hactive
  | disable =>
    rw [result, disable_alike critic h.1]
    exact .disable hactive
  | enable ticks => exact .enable ticks hactive
  | wait _ hready hnow hdue => exact .wait hactive hready hnow hdue

/-! ## Where a watch listens -/

/-- A lull has come over a task that still waits, because the critic objected in one. -/
structure Frozen (critic : Critic ω) (c c' : Cabinet ω) : Prop where
  tasks : c'.tasks = c.tasks
  lull : c'.Lull
  objected : ∃ fault c₁, critic.ObjectsIn fault c₁ ∧ c₁.Lull

/-- In a lull nothing happens but the passing of time, and time does not end it: someone has to move
the key or to touch the timer. -/
theorem Lull.next {around : Surroundings ω} (h : c.Lull)
    (hhappens : Happens around c happening c') :
    (∃ time, happening = .wait time ∧ c'.Lull ∧ c'.tasks = c.tasks) ∨
      (∃ pressed, happening = .move pressed) ∨ happening = .disable ∨
      ∃ ticks, happening = .enable ticks := by
  obtain ⟨⟨hactive, hready⟩, hhandle, hdeadlines⟩ := h
  cases hhappens with
  | carry hnumber => simp [hactive] at hnumber
  | call _ hnext => simp [Agenda.next?, hready, hdeadlines] at hnext
  | due _ hlate => exact absurd hready hlate
  | move pressed => exact .inr (.inl ⟨pressed, rfl⟩)
  | disable => exact .inr (.inr (.inl rfl))
  | enable ticks => exact .inr (.inr (.inr ⟨ticks, rfl⟩))
  | wait => exact .inl ⟨_, rfl, ⟨⟨hactive, hready⟩, hhandle, hdeadlines⟩, rfl⟩

/-- An event of the timer reaches a watch other than the countdown of digits as with nobody
objecting, or the game is frozen. -/
theorem Listening.notify_frozen (h : Listening kind w c) (critic : Critic ω)
    (htimer : kind.hearsTimer = true) (hkind : ∀ count flashes, kind ≠ .countdown count flashes)
    (hunarmed : c.Unarmed) (event : TimerEvent) :
    ((notify critic.around event).result c).2 =
        ((notify critic.toOnlooker.around event).result c).2 ∨
      Frozen critic c ((notify critic.around event).result c).2 := by
  have hlisteners : c.timer.listeners = [w] := by simpa [htimer] using h.timer
  rcases lullsAlike_onEvent critic h.watch hkind ⟨⟨h.active, h.ready⟩, hunarmed⟩ event with
    hsame | ⟨fault, c₁, hfails, hobjects, hlull⟩
  · left
    simp [notify, Timer.tellAll, result, hlisteners, hsame]
  · right
    have htasks := (Likewise.onEvent critic.clock_around w event).tasks_error hfails
    rw [notify_fails hlisteners hfails]
    exact ⟨htasks, hlull, fault, c₁, hobjects, hlull⟩

theorem Listening.noted (h : Listening kind w c) (journal : Array Record) :
    Listening kind w { c with journal } :=
  ⟨h.watch, h.timer, h.key, h.ready, h.active⟩

/-- The game stands at a leg of its course. -/
def AtLeg (games : Value) (leg : Leg) (c : Cabinet ω) : Prop :=
  Upon games leg c ∧ Stands games leg c

section

variable (hupon : Upon games leg c) (hlistening : Listening kind w c)
  (htasks : c.tasks = #[{ state := .waiting w, stack }]) (hwaits : Waits games leg kind stack)

include hupon hlistening htasks hwaits

/-- A countdown of digits that is told of an event goes on as with nobody objecting, or with the
timer armed and the digit counted down. -/
private theorem countdown_objected (critic : Critic ω) {count : Value} {flashes : Nat}
    (hkind : kind = .countdown count flashes) {event : TimerEvent} {told : Cabinet ω}
    (hannounces : Announces c happening event told) :
    ((notify critic.around event).result told).2 =
        ((notify critic.toOnlooker.around event).result told).2 ∨
      AtLeg games leg ((notify critic.around event).result told).2 := by
  subst hkind
  have hkept := hannounces.kept
  have htold := hkept.listening hlistening
  obtain ⟨hregular, hsuits, htakes⟩ : (Watch.Kind.countdown count flashes).Regular ∧
      (Watch.Kind.countdown count flashes).Suits leg ∧ Takes games leg .done stack := by
    cases hwaits with
    | regular hregular hsuits htakes => exact ⟨hregular, hsuits, htakes⟩
  obtain ⟨n, rfl⟩ := hregular
  have halike (hsame : onEvent critic.around w event told =
      onEvent critic.toOnlooker.around w event told) :
      ((notify critic.around event).result told).2 =
        ((notify critic.toOnlooker.around event).result told).2 := by
    simp [notify, Timer.tellAll, result, htold.timer, Watch.Kind.hearsTimer, hsame]
  cases event with
  | disabled =>
    left
    apply halike
    simp only [onEvent, bind_apply _ _ told, get_apply, htold.watch]
  | elapsed =>
    have hopen {around : Surroundings ω} :
        onEvent around w .elapsed told = countDown around w (.int n) flashes told := by
      simp only [onEvent, bind_apply _ _ told, get_apply, htold.watch]
    rcases countDown_objected critic (.inl hannounces.unarmed)
      (by rw [hkept.rate]; exact hupon.paced) w n flashes with
      hsame | ⟨fault, m, ticks, pattern, outside, hfails⟩
    · exact .inl (halike (by rw [hopen, hopen, hsame]))
    · right
      rw [notify_fails htold.timer (hopen.trans hfails)]
      let counted := told.turnedTo w (.countdown (.int m) flashes)
      have hcounted : Listening (.countdown (.int m) flashes) w counted := htold.turnedTo rfl rfl
      have hends := armedFor_endsAt critic.toOnlooker ticks counted
      refine ⟨⟨.inr ⟨_, hends⟩, ?_, ?_, ?_, ?_⟩, .waiting
        (((hcounted.armed critic.toOnlooker ticks).shows pattern outside).noted _)
        (hkept.tasks.trans htasks) (.regular ⟨m, rfl⟩ hsuits htakes) (fun _ => .inl ⟨_, hends⟩)
        (by simp)⟩
      · exact hkept.race ▸ hupon.sound
      · exact hkept.rate ▸ hupon.paced
      · exact hkept.stage ▸ hupon.stage
      · exact hkept.race ▸ hupon.holds

/-- An edge of the key comes to what it comes to with nobody objecting, or the car stands at the
segment behind the junction and the drive goes on. -/
private theorem edge_objected (critic : Critic ω) (hticking : kind.hearsTimer = true → c.Ticking)
    (pressed : Bool) :
    ((move critic.around pressed).result c).2 =
        ((move critic.toOnlooker.around pressed).result c).2 ∨
      AtLeg games leg ((move critic.around pressed).result c).2 := by
  have hheld := hlistening.moved critic.toOnlooker pressed
  cases hkey : kind.hearsKey with
  | false =>
    left
    rw [result, move_alike critic (by simpa [hkey] using hlistening.key)]
    rfl
  | true =>
    have hlisteners : c.key.listeners = [w] := by simpa [hkey] using hlistening.key
    rcases hheld.onEdge_objected critic hupon.sound pressed with
      hsame | ⟨rfl, hjunction, fault, record, pattern, outside, hfails⟩
    · left
      simp [result, move_objected, moved_apply, hlisteners, hsame]
    · right
      have hturned := hupon.sound.turn_junction hjunction
      have hcars : c.race.turned.arrived.cars = c.race.cars :=
        hturned.2.1.arrived_cars.trans hturned.2.2.2.1
      rw [move_fails hlisteners hfails]
      refine ⟨⟨hupon.clocked, hturned.2.1.arrived, hupon.paced, hupon.stage, ?_⟩,
        .waiting ⟨hheld.watch, hheld.timer, hheld.key, hheld.ready, hheld.active⟩ htasks hwaits
          (fun htimer => hticking htimer) (by simp)⟩
      change leg.Holds games c.race.turned.arrived.cars
      rw [hcars]
      exact hupon.holds

/-- An event of the timer comes to what it comes to with nobody objecting, or the game stands at the
same leg, or it is frozen. -/
private theorem event_objected (critic : Critic ω) {event : TimerEvent} {told : Cabinet ω}
    (hannounces : Announces c happening event told) :
    ((notify critic.around event).result told).2 =
        ((notify critic.toOnlooker.around event).result told).2 ∨
      AtLeg games leg ((notify critic.around event).result told).2 ∨
      Frozen critic c ((notify critic.around event).result told).2 := by
  have htold := hannounces.kept.listening hlistening
  cases htimer : kind.hearsTimer with
  | false =>
    left
    rw [result, notify_alike critic (by simpa [htimer] using htold.timer)]
    rfl
  | true =>
    by_cases hdigits : ∃ count flashes, kind = .countdown count flashes
    · obtain ⟨count, flashes, hkind⟩ := hdigits
      rcases countdown_objected hupon hlistening htasks hwaits critic hkind hannounces with
        hsame | hstands
      · exact .inl hsame
      · exact .inr (.inl hstands)
    · have hkind : ∀ count flashes, kind ≠ .countdown count flashes :=
        fun count flashes hkind => hdigits ⟨count, flashes, hkind⟩
      rcases htold.notify_frozen critic htimer hkind hannounces.unarmed event with
        hsame | hfrozen
      · exact .inl hsame
      · exact .inr (.inr ⟨hfrozen.tasks.trans hannounces.kept.tasks, hfrozen.lull,
          hfrozen.objected⟩)

/-- **What an objection does to a wait.** Whatever happens to a wait comes to what it comes to with
nobody objecting, or the game stands at the same leg, or, if the critic has objected in a lull, it
is frozen. -/
theorem waiting_objected (hticking : kind.hearsTimer = true → c.Ticking)
    (hhappens : Happens critic.around c happening c') :
    Happens critic.toOnlooker.around c happening c' ∨ AtLeg games leg c' ∨ Frozen critic c c' := by
  have hactive := hlistening.active
  cases hhappens with
  | carry hnumber => simp [hactive] at hnumber
  | call _ hnext =>
    obtain ⟨due, hends, rfl, hperform⟩ := hupon.clocked.next? hlistening.ready hnext
    obtain ⟨due', hends', -, hquiet⟩ : ∃ due, c.EndsAt due ∧ _ ∧
        perform critic.toOnlooker.around _ _ = ((notify _ .elapsed).result (c.expired due)).2 :=
      hupon.clocked.next? hlistening.ready hnext
    obtain rfl := hends.unique hends'
    rw [hperform]
    rcases event_objected hupon hlistening htasks hwaits critic (.expire hends) with
      hsame | hother
    · left
      rw [hsame, ← hquiet]
      exact .call hactive hnext
    · exact .inr hother
  | due _ hready => exact absurd hlistening.ready hready
  | move pressed =>
    rcases edge_objected hupon hlistening htasks hwaits critic hticking pressed with
      hsame | hstands
    · left
      rw [hsame]
      exact .move pressed hactive
    · exact .inr (.inl hstands)
  | disable =>
    rw [hupon.clocked.disable_eq]
    rcases event_objected hupon hlistening htasks hwaits critic .disable with hsame | hother
    · left
      rw [hsame, ← hupon.clocked.disable_eq]
      exact .disable hactive
    · exact .inr hother
  | enable ticks => exact .inl (.enable ticks hactive)
  | wait _ hready hnow hdue => exact .inl (.wait hactive hready hnow hdue)

end

/-! ## The course under objections -/

/-- How a game stands whose critic never objects in a lull: at its course, or it has failed with
what the critic raised. -/
inductive Endures (critic : Critic ω) (games : Value) (c : Cabinet ω) : Prop
  | courses {leg : Leg} (hcourses : Courses games leg c)
  | fallen {fault : Fault} (hfallen : Fallen fault c) (hraises : critic.Raises fault)

/-- The game goes on along its course as with nobody objecting. -/
private theorem Courses.endures_next (h : Courses games leg c)
    (hhappens : Happens critic.toOnlooker.around c happening c') : Endures critic games c' := by
  obtain ⟨leg', hcourses, -⟩ := h.next hhappens
  exact .courses hcourses

/-- The task is carried on, or an objection ends it. -/
private theorem Courses.endures_carry {state : Task.State} (h : Courses games leg c)
    (hcarried : Carried state stack c) (hhappens : Happens critic.around c happening c') :
    Endures critic games c' := by
  obtain ⟨rfl, rfl⟩ := hcarried.cases hhappens
  rcases hcarried.carryOn_objected critic with hsame | ⟨fault, hfallen, hraises⟩
  · rw [hsame]
    exact h.endures_next (.carry hcarried.active)
  · exact .fallen hfallen hraises

theorem Courses.endures (h : Courses games leg c) (htimely : critic.Timely)
    (hhappens : Happens critic.around c happening c') : Endures critic games c' := by
  have hdeaf (hdeaf : c.Deaf) (hactive : c.active = none) : Endures critic games c' :=
    h.endures_next (hdeaf.happens hactive hhappens)
  have hcourses := h
  cases h with
  | stands hupon hstands =>
    cases hstands with
    | begins _ hqueued => exact hdeaf hqueued.deaf hqueued.active
    | calling hcarried => exact hcourses.endures_carry hcarried hhappens
    | answering hcarried => exact hcourses.endures_carry hcarried hhappens
    | waiting hlistening htasks hwaits hticking =>
      rcases waiting_objected hupon hlistening htasks hwaits hticking hhappens with
        hquiet | ⟨hupon', hstands'⟩ | hfrozen
      · exact hcourses.endures_next hquiet
      · exact .courses (.stands hupon' hstands')
      · obtain ⟨fault, c₁, hobjects, hlull⟩ := hfrozen.objected
        exact (htimely fault c₁ hobjects hlull).elim
    | woken hqueued => exact hdeaf hqueued.deaf hqueued.active
    | returned _ hover => exact hdeaf hover.deaf hover.active
    | failed _ hover => exact hdeaf hover.deaf hover.active
  | stalls hhalted hstalls =>
    cases hstalls with
    | begins _ hqueued => exact hdeaf hqueued.deaf hqueued.active
    | calling hcarried => exact hcourses.endures_carry hcarried hhappens
    | failed _ hover => exact hdeaf hover.deaf hover.active

/-- Whatever happens, the game endures a critic who never objects in a lull. -/
theorem Endures.next (h : Endures critic games c) (htimely : critic.Timely)
    (hhappens : Happens critic.around c happening c') : Endures critic games c' := by
  cases h with
  | courses hcourses => exact hcourses.endures htimely hhappens
  | fallen hfallen hraises => exact .fallen (hfallen.next hhappens) hraises

theorem Run.endures (htimely : critic.Timely) (hfresh : c.Fresh) {happenings : List Happening}
    (hrun : Run critic.around inFull (spawn (.run games) c) happenings c') :
    Endures critic games c' := by
  induction hrun with
  | start => exact .courses (hfresh.courses games)
  | next _ hhappens ih => exact ih.next htimely hhappens

theorem allOver_of_ended {ending : Task.Ending} (h : c.tasks = #[{ state := .ended ending }]) :
    c.allOver = true := by
  rw [allOver, h, ← Array.all_toList]
  rfl

/-- Once the task of a game is over, it has ended. -/
theorem Courses.over (h : Courses games leg c) (hover : c.allOver = true) :
    ∃ ending, c.tasks = #[{ state := .ended ending }] := by
  have hpending {task : Task} (htasks : c.tasks = #[task]) : task.isOver = true := by
    simpa [allOver, htasks, ← Array.all_toList] using hover
  cases h with
  | stands _ hstands =>
    cases hstands with
    | begins _ hqueued => cases hpending hqueued.tasks
    | calling hcarried => cases hpending hcarried.tasks
    | answering hcarried => cases hpending hcarried.tasks
    | waiting _ htasks => cases hpending htasks
    | woken hqueued => cases hpending hqueued.tasks
    | returned _ hended => exact ⟨_, hended.tasks⟩
    | failed _ hended => exact ⟨_, hended.tasks⟩
  | stalls _ hstalls =>
    cases hstalls with
    | begins _ hqueued => cases hpending hqueued.tasks
    | calling hcarried => cases hpending hcarried.tasks
    | failed _ hended => exact ⟨_, hended.tasks⟩

/-- **A display that fails does not freeze the game**, unless it fails in a lull. After any
happenings, if nothing is left to do, the task has ended with what the critic raised, or as it ends
with nobody objecting, or it waits. If it waits for the timer, a countdown is pending, unless the
timer was last armed for more ticks than can be waited for. -/
theorem objected_game_waits (critic : Critic ω) (htimely : critic.Timely) (hfresh : c.Fresh)
    {happenings : List Happening}
    (hrun : Run critic.around inFull (spawn (.run games) c) happenings c')
    (hsettled : c'.Settled) :
    (∃ fault, c'.tasks = #[{ state := .ended (.failed fault) }] ∧ critic.Raises fault) ∨
      (∃ ending, c'.tasks = #[{ state := .ended ending }] ∧ (ending = .returned .nothing ∨
        (∃ played fault, ending = .failed fault ∧ allows games played = .error fault) ∨
        c'.timer.rate = 0 ∧ ending = .failed .divisionByZero)) ∨
      c'.allOver = false ∧ (c'.timer.listeners ≠ [] ∨ c'.key.listeners ≠ []) ∧
        (c'.timer.listeners ≠ [] → (∃ due, c'.EndsAt due) ∨
          Timer.delay c'.timer.count c'.timer.rate = .error .quotientTooLarge) ∧
        (c'.timer.listeners = [] → c'.key.pressed = true) := by
  cases hrun.endures htimely hfresh with
  | fallen hfallen hraises => exact .inl ⟨_, hfallen.tasks, hraises⟩
  | courses hcourses =>
    right
    cases hover : c'.allOver with
    | true =>
      left
      obtain ⟨ending, hended⟩ := hcourses.over hover
      refine ⟨ending, hended, ?_⟩
      rcases hcourses.ended hended with
        ⟨-, -, hreturned, -⟩ | ⟨past, fault, -, hfailed, hallows⟩ | hhalted
      · exact .inl hreturned
      · exact .inr (.inl ⟨_, fault, hfailed, hallows⟩)
      · exact .inr (.inr hhalted)
    | false =>
      obtain ⟨kind, w, stack, hlistening, -, hwaits, hticking, hpressed, hupon⟩ :=
        hcourses.waiting hsettled hover
      have htimer := hlistening.timer
      refine .inr ⟨rfl, ?_, ?_, ?_⟩
      · rw [htimer, hlistening.key]
        cases kind <;> simp [Watch.Kind.hearsTimer, Watch.Kind.hearsKey]
      · intro hlisteners
        have hhears : kind.hearsTimer = true := by
          by_contra hdeaf
          exact hlisteners (by rw [htimer, if_neg hdeaf])
        rcases hticking hhears with hends | ⟨fault, hdelay⟩
        · exact .inl hends
        · exact .inr (delay_too_large hupon.paced hdelay)
      · intro hlisteners
        have hdeaf : kind.hearsTimer = false := by
          by_contra hhears
          simp [htimer, hhears] at hlisteners
        exact hpressed (hwaits.release hdeaf)

end Cabinet

/-- Someone who counts the patterns and objects to one of them, under a condition. -/
def Critic.once (number : Nat) (condition : Cabinet Nat → Bool) : Critic Nat where
  seen _ c := c.outside + 1
  turned _ c := c.outside
  clock _ := 0
  objects _ c := if c.outside = number ∧ condition c = true then some .drawFailed else none

namespace Cabinet

/-- A cabinet on the track in which nothing has begun, with someone who counts the patterns. -/
def countedTrack : Cabinet Nat where
  race := .onTrack
  timer := Timer.new ticksPerSecond 0
  chances _ := 0
  display := { pattern := "", observer := some () }
  outside := 0

/-- The first game on the track: a press ends the demo, and the release begins the game. -/
def gameOnTrack (critic : Critic Nat) (horizon : Rat) (limit : Nat) : Cabinet Nat :=
  let demo := run critic.around (fun _ => false) 0 20 (spawn (.run .nothing) countedTrack)
  let held := run critic.around (fun _ => false) 0 20 ((move critic.around true).result demo).2
  run critic.around (fun _ => false) horizon limit ((move critic.around false).result held).2

theorem countedTrack_fresh : countedTrack.Fresh :=
  ⟨⟨rfl, rfl, rfl, ⟨rfl, rfl⟩, .inl ⟨rfl, rfl⟩⟩, Race.onTrack_sound, rfl⟩

theorem gameOnTrack_run (critic : Critic Nat) (horizon : Rat) (limit : Nat)
    (hdemo : (run critic.around (fun _ => false) 0 20
      (spawn (.run .nothing) countedTrack)).active = none)
    (hheld : (run critic.around (fun _ => false) 0 20 ((move critic.around true).result
      (run critic.around (fun _ => false) 0 20
        (spawn (.run .nothing) countedTrack))).2).active = none) :
    ∃ happenings, Run critic.around inFull (spawn (.run .nothing) countedTrack) happenings
      (gameOnTrack critic horizon limit) := by
  obtain ⟨_, hbegun⟩ := (Run.start : Run critic.around inFull _ [] _).run (fun _ => false) 0 20
  obtain ⟨_, hended⟩ := (hbegun.next (.move true hdemo)).run (fun _ => false) 0 20
  exact (hended.next (.move false hheld)).run (fun _ => false) horizon limit

/-- The countdown goes on although its digit 2 is objected to. -/
theorem objected_game_waits_for_next_digit :
    let critic := Critic.once 3 fun c => c.timer.armed
    let game := gameOnTrack critic 1 40
    critic.Timely ∧ game.Settled ∧ game.outside = 3 ∧ ∃ due, game.EndsAt due := by
  intro critic game
  have htimely : critic.Timely := by
    rintro fault c ⟨pattern, hobjects⟩ hlull
    have harmed : c.timer.armed = true := by
      by_contra hunarmed
      simp [critic, Critic.once, hunarmed] at hobjects
    simp [Timer.armed, hlull.2.1] at harmed
  obtain ⟨happenings, hrun⟩ :=
    gameOnTrack_run critic 1 40 (by decide +kernel) (by decide +kernel)
  have hsettled : game.Settled := by decide +kernel
  have hcount : game.timer.count = 50 := by decide +kernel
  have hrate : game.timer.rate = 50 := by decide +kernel
  have hpending : (gameOnTrack critic 1 40).allOver = false := by decide +kernel
  refine ⟨htimely, hsettled, by decide +kernel, ?_⟩
  rcases objected_game_waits critic htimely countedTrack_fresh hrun hsettled with
    ⟨fault, hended, -⟩ | ⟨ending, hended, -⟩ | ⟨-, -, hticking, -⟩
  · cases hpending.symm.trans (allOver_of_ended hended)
  · cases hpending.symm.trans (allOver_of_ended hended)
  · refine (hticking (by decide +kernel)).resolve_right ?_
    obtain ⟨span, hspan⟩ := delay_small (by decide : (50 : Int) ≠ 0) (by decide : (50 : Int) ≤ 50)
    rw [hcount, hrate, show (50 : Nat) = Int.toNat 50 from rfl, hspan]
    simp

/-- If the second segment of the first round is objected to, the car stays there, and nothing is
left that would drive it on. -/
theorem objected_segment_freezes_game :
    ∃ (critic : Critic Nat) (c c' : Cabinet Nat) (happenings : List Happening),
      c.Fresh ∧ Run critic.around inFull (spawn (.run .nothing) c) happenings c' ∧
        c'.Settled ∧ c'.allOver = false ∧ c'.timer.listeners ≠ [] ∧ c'.timer.armed = false ∧
        ∃ span, Timer.delay c'.timer.count c'.timer.rate = .ok span := by
  let critic := Critic.once 16 fun _ => true
  obtain ⟨happenings, hrun⟩ :=
    gameOnTrack_run critic 5 80 (by decide +kernel) (by decide +kernel)
  have hcount : (gameOnTrack critic 5 80).timer.count = 25 := by decide +kernel
  have hrate : (gameOnTrack critic 5 80).timer.rate = 50 := by decide +kernel
  refine ⟨critic, countedTrack, _, happenings, countedTrack_fresh, hrun, ?_, ?_, ?_, ?_, ?_⟩
  · decide +kernel
  · decide +kernel
  · decide +kernel
  · decide +kernel
  · rw [hcount, hrate]
    exact delay_small (by decide) (by decide : (25 : Int) ≤ 50)

end Cabinet

end DigitRace
