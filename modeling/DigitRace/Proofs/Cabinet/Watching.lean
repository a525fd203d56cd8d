import DigitRace.Proofs.Cabinet.Happening

/-!
# Watches at their devices

While the one task of the game waits, one watch is registered: at the key, at the timer or
at both, as its kind asks for, and the task is its waiter. Whatever reaches the watch either
leaves it there or ends it. Its end takes it off both devices at once, so nothing that comes
later reaches it, and it makes the task ready.
-/

namespace DigitRace

/-- Whether a watch of a kind is put on the timer. -/
def Watch.Kind.hearsTimer : Watch.Kind → Bool
  | .release | .edge => false
  | _ => true

/-- Whether a watch of a kind is put on the key. -/
def Watch.Kind.hearsKey : Watch.Kind → Bool
  | .release | .edge | .pressOrEvent | .demo _ _ | .play => true
  | _ => false

/-- A watch of a kind does not hear of a happening. -/
def Watch.Kind.Misses (kind : Watch.Kind) : Happening → Prop
  | .move _ => kind.hearsKey = false
  | .disable | .call .countdownOver | .due .countdownOver => kind.hearsTimer = false
  | _ => True

namespace Cabinet

variable {ω : Type} (eye : Onlooker ω) {c : Cabinet ω} {w : Nat} {kind : Watch.Kind}

/-- A watch waits for task 0, and nothing else waits or is about to happen. -/
structure Listening (kind : Watch.Kind) (w : Nat) (c : Cabinet ω) : Prop where
  watch : c.watches[w]? = some { kind, waiter := some 0 }
  timer : c.timer.listeners = if kind.hearsTimer then [w] else []
  key : c.key.listeners = if kind.hearsKey then [w] else []
  ready : c.agenda.ready = []
  active : c.active = none

/-- Nobody listens to the timer or to the key. -/
def Deaf (c : Cabinet ω) : Prop :=
  c.timer.listeners = [] ∧ c.key.listeners = []

/-- A watch has ended with an answer, and task 0 is about to learn of it. -/
structure Answered (answer : Answer) (w : Nat) (c : Cabinet ω) : Prop where
  watch : (c.watches[w]?).bind Watch.ending = some (.answered answer)
  deaf : c.Deaf
  ready : c.agenda.ready = [.task 0]
  active : c.active = none

/-- The cabinet once a watch was taken off both devices and ended. -/
def left (w : Nat) (answer : Answer) (c : Cabinet ω) : Cabinet ω :=
  { c with
    key := { c.key with listeners := [] }
    timer := { c.timer with listeners := [] }
    watches := c.watches.modify w fun watch => { watch with ending := some (.answered answer) }
    agenda := c.agenda.callSoon (.task 0) }

/-- The cabinet once a watch is up to something else. -/
def turnedTo (w : Nat) (kind : Watch.Kind) (c : Cabinet ω) : Cabinet ω :=
  { c with watches := c.watches.modify w fun watch => { watch with kind } }

theorem setKind_apply (w : Nat) (kind : Watch.Kind) :
    setKind w kind c = .ok ⟨⟩ (c.turnedTo w kind) := rfl

/-- The cabinet once the key was moved, before the watches learn of it. -/
def moved (pressed : Bool) (c : Cabinet ω) : Cabinet ω :=
  let held := { c with key := { c.key with pressed } }
  { held with outside := if c.key.updater.isSome then eye.turned pressed held else c.outside }

/-! ## The end of a watch -/

private theorem filter_own {hears : Bool} {listeners : List Nat}
    (h : listeners = if hears then [w] else []) : listeners.filter (· ≠ w) = [] := by
  cases hears <;> simp [h]

theorem Listening.left_answered (h : Listening kind w c) (answer : Answer) :
    Answered answer w (left w answer c) where
  watch := by simp [left, Array.getElem?_modify, h.watch]
  deaf := ⟨rfl, rfl⟩
  ready := by simp [left, Agenda.callSoon, h.ready]
  active := h.active

/-- A watch that leaves both devices has ended. -/
theorem Listening.leave_apply (h : Listening kind w c) (answer : Answer) :
    leave w answer c = .ok ⟨⟩ (left w answer c) := by
  have hkey : c.key.unregister w = { c.key with listeners := [] } := by
    rw [Key.unregister, filter_own h.key]
  have htimer : c.timer.unregister w = { c.timer with listeners := [] } := by
    rw [Timer.unregister, filter_own h.timer]
  simp [leave, leaveKey, leaveTimer, conclude, updateTimer, keyOf, left, hkey, htimer, h.watch]

/-- A watch on the timer alone has nothing to leave but the timer. -/
theorem Listening.leaveTimer_apply (h : Listening kind w c) (hkind : kind.hearsKey = false)
    (answer : Answer) :
    (do leaveTimer w; conclude w answer : Play ω Unit) c = .ok ⟨⟩ (left w answer c) := by
  have hempty : c.key.listeners = [] := by simpa [hkind] using h.key
  have hkey : c.key.unregister w = c.key := by
    rw [Key.unregister, filter_own h.key, ← hempty]
  have hleave := h.leave_apply answer
  simpa [leave, leaveKey, keyOf, hkey] using hleave

/-- A watch on the key alone has nothing to leave but the key. -/
theorem Listening.leaveKey_apply (h : Listening kind w c) (hkind : kind.hearsTimer = false)
    (answer : Answer) :
    (do leaveKey w; conclude w answer : Play ω Unit) c = .ok ⟨⟩ (left w answer c) := by
  have hempty : c.timer.listeners = [] := by simpa [hkind] using h.timer
  have htimer : c.timer.unregister w = c.timer := by
    rw [Timer.unregister, filter_own h.timer, ← hempty]
  have hleave := h.leave_apply answer
  simpa [leave, leaveKey, leaveTimer, updateTimer, htimer, keyOf] using hleave

theorem Listening.turnedTo (h : Listening kind w c) {kind' : Watch.Kind}
    (htimer : kind'.hearsTimer = kind.hearsTimer) (hkey : kind'.hearsKey = kind.hearsKey) :
    Listening kind' w (c.turnedTo w kind') where
  watch := by simp [Cabinet.turnedTo, Array.getElem?_modify, h.watch]
  timer := by rw [htimer]; exact h.timer
  key := by rw [hkey]; exact h.key
  ready := h.ready
  active := h.active

/-! ## What a watch does not see -/

theorem Listening.shows (h : Listening kind w c) (pattern : String) (outside : ω) :
    Listening kind w (c.shows pattern outside) :=
  ⟨h.watch, h.timer, h.key, h.ready, h.active⟩

theorem Listening.armed (h : Listening kind w c) (ticks : Int) :
    Listening kind w (c.armedFor eye ticks) :=
  ⟨h.watch, h.timer, h.key, h.ready, h.active⟩

theorem Listening.cleared (h : Listening kind w c) : Listening kind w c.cleared :=
  ⟨h.watch, h.timer, h.key, h.ready, h.active⟩

theorem Listening.expired (h : Listening kind w c) (due : Rat) :
    Listening kind w (c.expired due) :=
  ⟨h.watch, h.timer, h.key, h.ready, h.active⟩

theorem Listening.moved (h : Listening kind w c) (pressed : Bool) :
    Listening kind w (moved eye pressed c) :=
  ⟨h.watch, h.timer, h.key, h.ready, h.active⟩

theorem Listening.ticked (h : Listening kind w c) (outside : ω) :
    Listening kind w (c.ticked outside) :=
  ⟨h.watch, h.timer, h.key, h.ready, h.active⟩

theorem Listening.steered (h : Listening kind w c) (outside : ω) :
    Listening kind w (c.steered outside) :=
  ⟨h.watch, h.timer, h.key, h.ready, h.active⟩

/-! ## What reaches a watch -/

/-- Where nobody listens to the timer, its events change nothing. -/
theorem notify_nil {around : Surroundings ω} {event : TimerEvent} (h : c.timer.listeners = []) :
    ((notify around event).result c).2 = c := by
  simp [notify, Timer.tellAll, Act.result, h]

/-- The one watch on the timer is told of an event. -/
theorem notify_one {around : Surroundings ω} {event : TimerEvent} {c' : Cabinet ω}
    (h : c.timer.listeners = [w]) (hdone : onEvent around w event c = .ok ⟨⟩ c') :
    ((notify around event).result c).2 = c' := by
  simp [notify, Timer.tellAll, Act.result, h, hdone]

theorem moved_apply (pressed : Bool) :
    move eye.around pressed c =
      (c.key.listeners.forM fun w => onEdge eye.around w pressed) (moved eye pressed c) := by
  cases hupdater : c.key.updater <;>
    simp [move, Key.edge, keyOf, moved, Onlooker.around, hupdater]

/-- Where nobody listens to the key, moving it does nothing else. -/
theorem move_nil (pressed : Bool) (h : c.key.listeners = []) :
    ((move eye.around pressed).result c).2 = moved eye pressed c := by
  simp [Act.result, moved_apply, h]

/-- The one watch on the key is told of an edge. -/
theorem move_one {pressed : Bool} {c' : Cabinet ω} (h : c.key.listeners = [w])
    (hdone : onEdge eye.around w pressed (moved eye pressed c) = .ok ⟨⟩ c') :
    ((move eye.around pressed).result c).2 = c' := by
  simp [Act.result, moved_apply, h, hdone]

/-- Calling the countdown off tells the watches that it was disabled. -/
theorem Clocked.disable_eq {around : Surroundings ω} (h : c.Clocked) :
    ((disable around).result c).2 = ((notify around .disabled).result c.cleared).2 := by
  simp only [disable, Act.result, Act.bind_apply]
  rw [h.clear_apply]

/-! ## Where nobody listens -/

/-- What a happening comes to where nobody listens: the key, the countdown and the time change, and
nothing else. -/
inductive Passes (c : Cabinet ω) : Happening → Cabinet ω → Prop
  | move (pressed : Bool) : Passes c (.move pressed) (moved eye pressed c)
  | disable : Passes c .disable c.cleared
  | enable (ticks : Int) : Passes c (.enable ticks) (armedFor eye ticks c)
  | refuse (ticks : Int) {fault : Fault}
      (hdelay : Timer.delay ticks.toNat c.timer.rate = .error fault) :
      Passes c (.enable ticks) (refused ticks c)
  | expire {due : Rat} (hready : c.agenda.ready = []) (hends : c.EndsAt due) :
      Passes c (.call .countdownOver) (c.expired due)
  | overdue {due : Rat} (hready : c.agenda.ready ≠ []) (hdue : due ≤ c.agenda.now)
      (hends : c.EndsAt due) : Passes c (.due .countdownOver) (c.expired c.agenda.now)
  | wait (time : Rat) : Passes c (.wait time) { c with agenda := { c.agenda with now := time } }

/-- What does not change where nobody listens. -/
structure Kept (c c' : Cabinet ω) : Prop where
  tasks : c'.tasks = c.tasks
  watches : c'.watches = c.watches
  active : c'.active = c.active
  ready : c'.agenda.ready = c.agenda.ready
  timer : c'.timer.listeners = c.timer.listeners
  key : c'.key.listeners = c.key.listeners
  rate : c'.timer.rate = c.timer.rate
  race : c'.race = c.race
  stage : c'.stage = c.stage
  display : c'.display = c.display
  journal : c'.journal = c.journal

theorem Kept.refl (c : Cabinet ω) : Kept c c := by
  constructor <;> rfl

variable {eye} {c' c'' : Cabinet ω} {happening : Happening}

theorem Kept.trans (h : Kept c c') (h' : Kept c' c'') : Kept c c'' where
  tasks := h'.tasks.trans h.tasks
  watches := h'.watches.trans h.watches
  active := h'.active.trans h.active
  ready := h'.ready.trans h.ready
  timer := h'.timer.trans h.timer
  key := h'.key.trans h.key
  rate := h'.rate.trans h.rate
  race := h'.race.trans h.race
  stage := h'.stage.trans h.stage
  display := h'.display.trans h.display
  journal := h'.journal.trans h.journal

theorem Passes.kept (h : Passes eye c happening c') : Kept c c' := by
  cases h <;> constructor <;> rfl

theorem Passes.clocked (h : Passes eye c happening c') (hclocked : c.Clocked) : c'.Clocked := by
  cases h with
  | move => exact hclocked
  | disable => exact .inl c.cleared_unarmed
  | enable ticks => exact (armedFor_endsAt eye ticks c).clocked
  | refuse ticks => exact .inl (refused_unarmed ticks c)
  | expire | overdue => exact .inl (expired_unarmed _ c)
  | wait => exact hclocked

theorem Kept.deaf (h : Kept c c') (hdeaf : c.Deaf) : c'.Deaf :=
  ⟨h.timer.trans hdeaf.1, h.key.trans hdeaf.2⟩

theorem Kept.listening (h : Kept c c') (hlistening : Listening kind w c) :
    Listening kind w c' where
  watch := by rw [h.watches]; exact hlistening.watch
  timer := h.timer.trans hlistening.timer
  key := h.key.trans hlistening.key
  ready := h.ready.trans hlistening.ready
  active := h.active.trans hlistening.active

/-- Arming from outside succeeds, or the ticks take a time that cannot be waited for. -/
theorem Clocked.enable_eq (eye : Onlooker ω) (h : c.Clocked) (ticks : Int) :
    ((enable eye.around (.int ticks)).result c).2 = armedFor eye ticks c ∨
      ((enable eye.around (.int ticks)).result c).2 = refused ticks c ∧
        ∃ fault, Timer.delay ticks.toNat c.timer.rate = .error fault := by
  cases hdelay : Timer.delay ticks.toNat c.timer.rate with
  | ok span =>
    left
    rw [Act.result_of_ok (h.enable_apply eye hdelay)]
  | error fault =>
    right
    rw [Act.result_of_error (h.enable_refused eye hdelay)]
    exact ⟨rfl, fault, rfl⟩

/-- While no task is carried on and nobody listens, a task that is ready is called, or the happening
passes. -/
theorem Clocked.passes (hclocked : c.Clocked) (hdeaf : c.Deaf) (hactive : c.active = none)
    (h : Happens eye.around c happening c') :
    Passes eye c happening c' ∨ ∃ call rest, c.agenda.ready = call :: rest ∧
      happening = .call call ∧
        c' = perform eye.around call { c with agenda := { c.agenda with ready := rest } } := by
  cases h with
  | carry hcarried => simp [hactive] at hcarried
  | @call horizon call agenda _ hnext =>
    cases hready : c.agenda.ready with
    | nil =>
      obtain ⟨due, hends, rfl, hperform⟩ := hclocked.next? hready hnext
      left
      rw [hperform, notify_nil (by exact hdeaf.1)]
      exact .expire hready hends
    | cons first rest =>
      obtain ⟨rfl, rfl⟩ := Agenda.next?_ready hready hnext
      exact .inr ⟨_, rest, rfl, rfl, rfl⟩
  | due _ hready hoverdue =>
    obtain ⟨due, hdue, hends, rfl, hperform⟩ := hclocked.overdue? hoverdue
    left
    rw [hperform, notify_nil (by exact hdeaf.1)]
    exact .overdue hready hdue hends
  | move pressed =>
    left
    rw [move_nil eye pressed hdeaf.2]
    exact .move pressed
  | disable =>
    left
    rw [hclocked.disable_eq, notify_nil (by exact hdeaf.1)]
    exact .disable
  | enable ticks =>
    left
    rcases hclocked.enable_eq eye ticks with harmed | ⟨hrefused, fault, hdelay⟩
    · rw [harmed]
      exact .enable ticks
    · rw [hrefused]
      exact .refuse ticks hdelay
  | wait => exact .inl (.wait _)

/-! ## Where a watch listens -/

/-- A happening that is an event of the timer, and the cabinet in which it is announced. -/
inductive Announces (c : Cabinet ω) : Happening → TimerEvent → Cabinet ω → Prop
  | expire {due : Rat} (hends : c.EndsAt due) :
      Announces c (.call .countdownOver) .elapsed (c.expired due)
  | disable : Announces c .disable .disabled c.cleared

theorem Announces.unarmed {event : TimerEvent} (h : Announces c happening event c') :
    c'.Unarmed := by
  cases h with
  | expire => exact expired_unarmed _ c
  | disable => exact c.cleared_unarmed

/-- Before the watches are told of an event, only the countdown and the time have changed. -/
theorem Announces.kept {event : TimerEvent} (h : Announces c happening event c') : Kept c c' := by
  cases h <;> constructor <;> rfl

/-- While a watch listens, a happening reaches it by the key or by the timer, or it passes. -/
theorem Listening.cases (h : Listening kind w c) (hclocked : c.Clocked)
    (hhappens : Happens eye.around c happening c') :
    (∃ pressed, kind.hearsKey = true ∧ happening = .move pressed ∧
        c' = ((move eye.around pressed).result c).2) ∨
      (∃ event told, kind.hearsTimer = true ∧ Announces c happening event told ∧
        c' = ((notify eye.around event).result told).2) ∨
      (Passes eye c happening c' ∧ kind.Misses happening) := by
  have hsilent : kind.hearsTimer = false → c.timer.listeners = [] := by
    intro htimer
    simpa [htimer] using h.timer
  cases hhappens with
  | carry hcarried => simp [h.active] at hcarried
  | call _ hnext =>
    obtain ⟨due, hends, rfl, hperform⟩ := hclocked.next? h.ready hnext
    rw [hperform]
    cases htimer : kind.hearsTimer with
    | true => exact .inr (.inl ⟨_, _, rfl, .expire hends, rfl⟩)
    | false =>
      rw [notify_nil (by exact hsilent htimer)]
      exact .inr (.inr ⟨.expire h.ready hends, htimer⟩)
  | due _ hready _ => exact absurd h.ready hready
  | move pressed =>
    cases hkey : kind.hearsKey with
    | true => exact .inl ⟨pressed, rfl, rfl, rfl⟩
    | false =>
      have hlisteners : c.key.listeners = [] := by simpa [hkey] using h.key
      rw [move_nil eye pressed hlisteners]
      exact .inr (.inr ⟨.move pressed, hkey⟩)
  | disable =>
    rw [hclocked.disable_eq]
    cases htimer : kind.hearsTimer with
    | true => exact .inr (.inl ⟨_, _, rfl, .disable, rfl⟩)
    | false =>
      rw [notify_nil (by exact hsilent htimer)]
      exact .inr (.inr ⟨.disable, htimer⟩)
  | enable ticks =>
    rcases hclocked.enable_eq eye ticks with harmed | ⟨hrefused, fault, hdelay⟩
    · rw [harmed]
      exact .inr (.inr ⟨.enable ticks, trivial⟩)
    · rw [hrefused]
      exact .inr (.inr ⟨.refuse ticks hdelay, trivial⟩)
  | wait => exact .inr (.inr ⟨.wait _, trivial⟩)

end Cabinet

end DigitRace
