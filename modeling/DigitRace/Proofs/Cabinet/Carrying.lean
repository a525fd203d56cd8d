import DigitRace.Proofs.Cabinet.Watching

/-!
# Carrying the one task on

With one task in the cabinet, each thing that can be done with it is an equation: waking it,
carrying it on by a routine or a frame, and taking over how far it has come. A watch that
the task has opened and waits for listens from then on.
-/

namespace DigitRace.Cabinet

variable {ω : Type} {around : Surroundings ω} {c c' : Cabinet ω} {state : Task.State}
  {stack : List Frame} {w : Nat} {kind : Watch.Kind}

/-- Nothing has begun: there is no task, and nobody waits for anything. -/
structure Vacant (c : Cabinet ω) : Prop where
  tasks : c.tasks = #[]
  active : c.active = none
  ready : c.agenda.ready = []
  deaf : c.Deaf
  clocked : c.Clocked

/-- Task 0 is about to be called, and nobody waits for anything. -/
structure Queued (state : Task.State) (stack : List Frame) (c : Cabinet ω) : Prop where
  tasks : c.tasks = #[{ state, stack }]
  active : c.active = none
  ready : c.agenda.ready = [.task 0]
  deaf : c.Deaf

/-- Task 0 is carried on, and nobody waits for anything. -/
structure Carried (state : Task.State) (stack : List Frame) (c : Cabinet ω) : Prop where
  tasks : c.tasks = #[{ state, stack }]
  active : c.active = some 0
  ready : c.agenda.ready = []
  deaf : c.Deaf

/-- Task 0 is over, and nobody waits for anything. -/
structure Over (ending : Task.Ending) (c : Cabinet ω) : Prop where
  tasks : c.tasks = #[{ state := .ended ending }]
  active : c.active = none
  ready : c.agenda.ready = []
  deaf : c.Deaf

/-- A watch was opened and put on its devices, and nothing is about to happen. -/
structure Opened (kind : Watch.Kind) (w : Nat) (c : Cabinet ω) : Prop where
  watch : c.watches[w]? = some { kind }
  timer : c.timer.listeners = if kind.hearsTimer then [w] else []
  key : c.key.listeners = if kind.hearsKey then [w] else []
  ready : c.agenda.ready = []

/-- The cabinet with a new watch on its devices. -/
def opened (kind : Watch.Kind) (c : Cabinet ω) : Cabinet ω :=
  { c with
    watches := c.watches.push { kind }
    timer := { c.timer with listeners := if kind.hearsTimer then [c.watches.size] else [] }
    key := { c.key with listeners := if kind.hearsKey then [c.watches.size] else [] } }

theorem opened_opened (kind : Watch.Kind) (hready : c.agenda.ready = []) :
    Opened kind c.watches.size (c.opened kind) where
  watch := by simp [opened]
  timer := rfl
  key := rfl
  ready := hready

/-- A cabinet for a race, in which nothing has begun, with nobody to see it. -/
def atRest (race : Race) : Cabinet Unit where
  race
  timer := Timer.new ticksPerSecond 0
  chances _ := 0
  outside := ()

theorem atRest_vacant (race : Race) : (atRest race).Vacant :=
  ⟨rfl, rfl, rfl, ⟨rfl, rfl⟩, .inl ⟨rfl, rfl⟩⟩

theorem Vacant.spawn (h : c.Vacant) (routine : Routine) :
    Queued (.calling routine) [] (spawn routine c) where
  tasks := by simp [Cabinet.spawn, h.tasks]
  active := h.active
  ready := by simp [Cabinet.spawn, Agenda.callSoon, h.ready, h.tasks]
  deaf := h.deaf

theorem Kept.queued (h : Kept c c') (hqueued : Queued state stack c) : Queued state stack c' where
  tasks := h.tasks.trans hqueued.tasks
  active := h.active.trans hqueued.active
  ready := h.ready.trans hqueued.ready
  deaf := h.deaf hqueued.deaf

theorem Kept.ended {ending : Task.Ending} (h : Kept c c') (hover : Over ending c) :
    Over ending c' where
  tasks := h.tasks.trans hover.tasks
  active := h.active.trans hover.active
  ready := h.ready.trans hover.ready
  deaf := h.deaf hover.deaf

theorem Answered.queued {answer : Answer} (h : Answered answer w c)
    (htasks : c.tasks = #[{ state := .waiting w, stack := stack }]) :
    Queued (.waiting w) stack c :=
  ⟨htasks, h.active, h.ready, h.deaf⟩

/-- One task stands in one way. -/
theorem Carried.task_eq {state' : Task.State} {frames : List Frame} (h : Carried state stack c)
    (htasks : c.tasks = #[{ state := state', stack := frames }]) :
    state' = state ∧ frames = stack := by
  have hsame := htasks.symm.trans h.tasks
  simpa using hsame

/-- While the task is to be carried on or called, something is left to do. -/
theorem Carried.not_settled (h : Carried state stack c) : ¬ c.Settled := by
  simp [Settled, h.active]

theorem Queued.not_settled (h : Queued state stack c) : ¬ c.Settled := by
  simp [Settled, h.ready]

theorem Over.allOver {ending : Task.Ending} (h : Over ending c) : c.allOver = true := by
  rw [Cabinet.allOver, h.tasks, ← Array.all_toList]
  rfl

/-! ## While the task does not wait -/

section

variable {eye : Onlooker ω} {happening : Happening}

/-- A task that is about to be called is called, or the happening passes it by. -/
theorem Queued.cases (h : Queued state stack c) (hclocked : c.Clocked)
    (hhappens : Happens eye.around c happening c') :
    Passes eye c happening c' ∨ happening = .call (.task 0) ∧
      c' = wake 0 { c with agenda := { c.agenda with ready := [] } } := by
  rcases hclocked.passes h.deaf h.active hhappens with
    hpasses | ⟨call, rest, hready, rfl, rfl⟩
  · exact .inl hpasses
  · obtain ⟨rfl, rfl⟩ : call = .task 0 ∧ rest = [] := by simpa [h.ready, eq_comm] using hready
    exact .inr ⟨rfl, rfl⟩

/-- After the end of the task everything passes. -/
theorem Over.passes {ending : Task.Ending} (h : Over ending c) (hclocked : c.Clocked)
    (hhappens : Happens eye.around c happening c') : Passes eye c happening c' := by
  rcases hclocked.passes h.deaf h.active hhappens with hpasses | ⟨call, rest, hready, -, -⟩
  · exact hpasses
  · simp [h.ready] at hready

/-- While the task is carried on, nothing else happens. -/
theorem Carried.cases (h : Carried state stack c) (hhappens : Happens around c happening c') :
    happening = .carry ∧ c' = carryOn around 0 c := by
  cases hhappens with
  | carry hnumber =>
    obtain rfl := Option.some.inj (h.active.symm.trans hnumber)
    exact ⟨rfl, rfl⟩
  | _ => simp_all [h.active]

end

/-! ## Waking -/

/-- A task that has not begun begins. -/
theorem Queued.wake_calling {routine : Routine} (h : Queued (.calling routine) stack c) :
    Carried (.calling routine) stack (wake 0 { c with agenda := { c.agenda with ready := [] } }) ∧
      wake 0 { c with agenda := { c.agenda with ready := [] } } =
        { c with agenda := { c.agenda with ready := [] }, active := some 0 } := by
  have hwake : wake 0 { c with agenda := { c.agenda with ready := [] } } =
      { c with agenda := { c.agenda with ready := [] }, active := some 0 } := by
    simp [wake, h.tasks]
  rw [hwake]
  exact ⟨⟨h.tasks, rfl, rfl, h.deaf⟩, rfl⟩

/-- A task whose watch was answered takes the answer over. -/
theorem Queued.wake_waiting {answer : Answer} (h : Queued (.waiting w) stack c)
    (hanswer : (c.watches[w]?).bind Watch.ending = some (.answered answer)) :
    Carried (.answering answer) stack (wake 0 { c with agenda := { c.agenda with ready := [] } }) ∧
      wake 0 { c with agenda := { c.agenda with ready := [] } } =
        { c with
          agenda := { c.agenda with ready := [] }
          active := some 0
          tasks := #[{ state := .answering answer, stack }] } := by
  have hwake : wake 0 { c with agenda := { c.agenda with ready := [] } } =
      { c with
        agenda := { c.agenda with ready := [] }
        active := some 0
        tasks := #[{ state := .answering answer, stack }] } := by
    simp [wake, h.tasks, hanswer, updateTask]
  rw [hwake]
  exact ⟨⟨rfl, rfl, rfl, h.deaf⟩, rfl⟩

/-! ## Carrying on -/

theorem Carried.carryOn_calling {routine : Routine} (h : Carried (.calling routine) stack c) :
    carryOn around 0 c = carry 0 (begin around routine) c := by
  simp [carryOn, h.tasks]

theorem Carried.carryOn_answering {answer : Answer} {frame : Frame}
    (h : Carried (.answering answer) (frame :: stack) c) :
    carryOn around 0 c = carry 0 (resume around answer frame)
      { c with tasks := #[{ state := .answering answer, stack }] } := by
  simp [carryOn, h.tasks, updateTask]

/-- A task that is carried on and goes over to something else is still carried on. -/
theorem Carried.goesOver (h : Carried state stack c) (next : Task.State) (rest : List Frame) :
    Carried next rest { c with tasks := #[{ state := next, stack := rest }] } :=
  ⟨rfl, h.active, h.ready, h.deaf⟩

/-- A task that has an answer and no frame to go back to is over. -/
theorem Carried.carryOn_over {answer : Answer} (h : Carried (.answering answer) [] c) :
    carryOn around 0 c = { c with
      tasks := #[{ state := .ended (.returned answer) }]
      active := none } := by
  simp [carryOn, h.tasks, updateTask, endTask]

section

variable {act : Play ω Progress}

theorem carry_done {answer : Answer} (h : act c = .ok (.done answer) c')
    (htasks : c'.tasks = #[{ state, stack }]) :
    carry 0 act c = { c' with tasks := #[{ state := .answering answer, stack }] } := by
  simp [carry, h, proceed, updateTask, htasks]

theorem carry_call {routine : Routine} {after : Option Frame}
    (h : act c = .ok (.call routine after) c') (htasks : c'.tasks = #[{ state, stack }]) :
    carry 0 act c =
      { c' with tasks := #[{ state := .calling routine, stack := after.toList ++ stack }] } := by
  cases after <;> simp [carry, h, proceed, pushFrame, updateTask, htasks]

theorem carry_error {fault : Fault} (h : act c = .error fault c')
    (htasks : c'.tasks = #[{ state, stack }]) :
    carry 0 act c = { c' with
      tasks := #[{ state := .ended (.failed fault) }]
      active := none } := by
  simp [carry, h, endTask, updateTask, htasks]

/-- The task waits for the watch that it has opened. -/
theorem carry_await {after : Option Frame} (h : act c = .ok (.await w after) c')
    (htasks : c'.tasks = #[{ state, stack }]) (hopened : Opened kind w c') :
    carry 0 act c = { c' with
      tasks := #[{ state := .waiting w, stack := after.toList ++ stack }]
      active := none
      watches := c'.watches.modify w fun watch => { watch with waiter := some 0 } } := by
  cases after <;>
    simp [carry, h, proceed, pushFrame, updateTask, awaitWatch, htasks, hopened.watch]

end

/-- A watch that is waited for listens. -/
theorem Opened.listening (h : Opened kind w c) (task : Task) : Listening kind w { c with
    tasks := #[task]
    active := none
    watches := c.watches.modify w fun watch => { watch with waiter := some 0 } } where
  watch := by simp [Array.getElem?_modify, h.watch]
  timer := h.timer
  key := h.key
  ready := h.ready
  active := rfl

/-! ## The end of the task -/

/-- A task that has come to its last answer ends in so many steps. -/
inductive Closing (c : Cabinet ω) : Nat → Prop
  | queued {w : Nat} (hqueued : Queued (.waiting w) [] c)
      (hanswer : (c.watches[w]?).bind Watch.ending = some (.answered .nothing)) : Closing c 2
  | carried (hcarried : Carried (.answering .nothing) [] c) : Closing c 1
  | ended (hover : Over (.returned .nothing) c) : Closing c 0

/-- A step that can be taken is taken. -/
theorem run_step {horizon : Rat} (h : step? around horizon c = some c') (limit : Nat) :
    run around (fun _ => false) horizon (limit + 1) c =
      run around (fun _ => false) horizon limit c' := by
  rw [run, Bool.and_false, if_neg Bool.false_ne_true, h]

/-- Steps can be taken in two parts. -/
theorem run_append (horizon : Rat) (n limit : Nat) (c : Cabinet ω) :
    run around (fun _ => false) horizon (n + limit) c =
      run around (fun _ => false) horizon limit (run around (fun _ => false) horizon n c) := by
  induction n generalizing c with
  | zero => rw [Nat.zero_add, run]
  | succ n ih =>
    rw [Nat.succ_add]
    cases hstep : step? around horizon c with
    | some next => rw [run_step hstep, run_step hstep, ih]
    | none =>
      have hstays (steps : Nat) : run around (fun _ => false) horizon steps c = c := by
        cases steps with
        | zero => rfl
        | succ steps => simp [run, hstep]
      rw [hstays, hstays, hstays]

theorem Queued.step? (h : Queued state stack c) (horizon : Rat) :
    step? around horizon c = some (wake 0 { c with agenda := { c.agenda with ready := [] } }) := by
  simp [Cabinet.step?, h.active, Agenda.next?, h.ready, perform]

theorem Carried.step? (h : Carried state stack c) (horizon : Rat) :
    step? around horizon c = some (carryOn around 0 c) := by
  simp [Cabinet.step?, h.active]

/-- A task that has come to its last answer ends at the next opportunity, and nothing calls it
back. -/
theorem Closing.run {eye : Onlooker ω} {steps limit : Nat} (h : Closing c steps)
    (hclocked : c.Clocked) (hlimit : steps ≤ limit) (horizon : Rat) :
    Over (.returned .nothing) (run eye.around (fun _ => false) horizon limit c) := by
  induction limit generalizing c steps with
  | zero =>
    obtain rfl : steps = 0 := by omega
    cases h with
    | ended hover => exact hover
  | succ limit ih =>
    cases h with
    | queued hqueued hanswer =>
      obtain ⟨hcarried, hwake⟩ := hqueued.wake_waiting hanswer
      rw [run_step (hqueued.step? horizon)]
      refine ih (.carried hcarried) ?_ (by omega)
      rw [hwake]
      exact hclocked
    | carried hcarried =>
      rw [run_step (hcarried.step? horizon), hcarried.carryOn_over]
      exact ih (.ended ⟨rfl, rfl, hcarried.ready, hcarried.deaf⟩) hclocked (by omega)
    | ended hover =>
      cases hstep : Cabinet.step? eye.around horizon c with
      | none =>
        rw [Cabinet.run, Bool.and_false, if_neg Bool.false_ne_true, hstep]
        exact hover
      | some next =>
        obtain ⟨happening, -, hhappens⟩ := happens_of_step? hstep
        have hpasses := hover.passes hclocked hhappens
        rw [run_step hstep]
        exact ih (.ended (hpasses.kept.ended hover)) (hpasses.clocked hclocked) (Nat.zero_le _)

/-! ## Opening watches -/

/-- A watch of each kind is opened on the devices that its kind asks for. -/
theorem open_both_apply (kind : Watch.Kind) (hdeaf : c.Deaf) (htimer : kind.hearsTimer = true)
    (hkey : kind.hearsKey = true) (after : Option Frame) :
    (do
      let watch ← openWatch kind
      watchKey watch
      watchTimer watch
      return .await watch after : Play ω Progress) c =
      .ok (.await c.watches.size after) (c.opened kind) := by
  simp [openWatch, watchKey, watchTimer, updateTimer, keyOf, Key.register, Timer.register,
    opened, hdeaf.1, hdeaf.2, htimer, hkey]

end DigitRace.Cabinet
