import DigitRace.Proofs.Cabinet.Carrying
import DigitRace.Proofs.Cabinet.Parting

/-!
# Any number of tasks

Tasks of all kinds begin at any time and share one timer, one key and one digit. In every state the
watches on a device are those that have not ended, each once, and each of them has a task that waits
for it, unless a task has failed. A watch ends once, when it is told of something, and once all
tasks have returned, nobody is left on a device.
-/

namespace DigitRace.Cabinet

open Act

variable {ω : Type} {around : Surroundings ω} {eye : Onlooker ω} {first c c₁ c' : Cabinet ω}
  {number w : Nat} {happening : Happening} {told : List Nat}

/-- What comes of a cabinet in which tasks begin at any time, whatever else happens. -/
inductive Evolves (around : Surroundings ω) (first : Cabinet ω) : Cabinet ω → Prop
  | start : Evolves around first first
  | begins (routine : Routine) {c : Cabinet ω} (h : Evolves around first c) :
      Evolves around first (spawn routine c)
  | next {c c' : Cabinet ω} {happening : Happening} (h : Evolves around first c)
      (hhappens : Happens around c happening c') : Evolves around first c'

/-- The steps that the program takes are among what may come. -/
theorem Evolves.run (h : Evolves around first c) (stop : Cabinet ω → Bool) (horizon : Rat)
    (limit : Nat) : Evolves around first (run around stop horizon limit c) := by
  induction limit generalizing c with
  | zero => exact h
  | succ limit ih =>
    unfold Cabinet.run
    split
    · exact h
    · split
      · rename_i after hstep
        obtain ⟨happening, -, hhappens⟩ := happens_of_step? hstep
        exact ih (h.next hhappens)
      · exact h

/-- The watches that a call is told to: those that are on its device. -/
def heardBy (c : Cabinet ω) : Call → List Nat
  | .move _ => c.key.listeners
  | .disable | .countdownOver => c.timer.listeners
  | .task _ | .pauseOver | .window => []

/-- The watches that a happening is told to. -/
def audience (c : Cabinet ω) : Happening → List Nat
  | .move _ => c.key.listeners
  | .disable => c.timer.listeners
  | .call made | .due made => c.heardBy made
  | .carry | .enable _ | .wait _ => []

/-- A task waits for a watch, and the end of the watch calls it. -/
def Awaited (c : Cabinet ω) (w : Nat) (watch : Watch) : Prop :=
  ∃ number task, watch.waiter = some number ∧ c.tasks[number]? = some task ∧
    task.state = .waiting w

/-- A task has failed. -/
def HasFailed (c : Cabinet ω) : Prop :=
  ∃ (number : Nat) (task : Task) (fault : Fault), c.tasks[number]? = some task ∧
    task.state = .ended (.failed fault)

/-- The listeners are in order, nobody was cancelled, each task that waits is the waiter of its
watch, and each open watch is waited for. -/
structure Tended (c : Cabinet ω) : Prop where
  attended : c.Attended
  patient : ∀ (number : Nat) (task : Task), c.tasks[number]? = some task →
    task.cancelRequested = false
  waits : ∀ (number : Nat) (task : Task) (w : Nat), c.tasks[number]? = some task →
    task.state = .waiting w → ∃ watch, c.watches[w]? = some watch ∧ watch.waiter = some number
  awaited : ∀ (w : Nat) (watch : Watch), c.watches[w]? = some watch → watch.ending = none →
    c.Awaited w watch ∨ c.HasFailed

/-- Each watch has ended as it had, or it was told of something and has got its answer. -/
def Answers (told : List Nat) (c c' : Cabinet ω) : Prop :=
  ∀ w before, c.watches[w]? = some before → ∃ after, c'.watches[w]? = some after ∧
    (after.ending = before.ending ∨ w ∈ told ∧ before.ending = none ∧
      ∃ answer, after.ending = some (.answered answer))

theorem answers_of_watches (h : c'.watches = c.watches) : Answers told c c' :=
  fun _ before hw => ⟨before, by rw [h, hw], .inl rfl⟩

/-- A task is not over, and if it waits, it waits for a watch that has ended. -/
def Free (number : Nat) (c : Cabinet ω) : Prop :=
  ∃ task, c.tasks[number]? = some task ∧ (∀ ending, task.state ≠ .ended ending) ∧
    ∀ w, task.state = .waiting w → ∃ watch, c.watches[w]? = some watch ∧ watch.ending.isSome

/-- A task does not wait for anything. -/
def Going (number : Nat) (c : Cabinet ω) : Prop :=
  ∀ task w, c.tasks[number]? = some task → task.state ≠ .waiting w

theorem going_of_update (change : Task → Task) (h : c'.tasks = c.tasks.modify number change)
    (hchange : ∀ task w, (change task).state ≠ .waiting w) : Going number c' := by
  intro task w htask
  rw [h, Array.getElem?_modify, if_pos rfl] at htask
  obtain ⟨before, -, rfl⟩ := Option.map_eq_some_iff.mp htask
  exact hchange before w

/-- A task that is not over and does not wait is free. -/
theorem free_of_state {task : Task} (htask : c.tasks[number]? = some task)
    (hrunning : ∀ ending, task.state ≠ .ended ending) (hgoing : ∀ w, task.state ≠ .waiting w) :
    Free number c :=
  ⟨task, htask, hrunning, fun w hwaits => absurd hwaits (hgoing w)⟩

theorem Undisturbed.free (h : Undisturbed c c') (hfree : Free number c) : Free number c' := by
  obtain ⟨task, htask, hrunning, hwaits⟩ := hfree
  exact ⟨task, by rw [h.tasks, htask], hrunning, by rw [h.watches]; exact hwaits⟩

theorem Undisturbed.tended (h : Undisturbed c c') (hc : c.Tended) : c'.Tended where
  attended := h.attended hc.attended
  patient := by rw [h.tasks]; exact hc.patient
  waits := by rw [h.tasks, h.watches]; exact hc.waits
  awaited w watch := by
    have hawaited := hc.awaited w watch
    simpa only [Awaited, HasFailed, h.tasks, h.watches] using hawaited

/-! ## A task that goes on -/

/-- One task at most has changed, and it is cancelled if it was. -/
structure Turns (number : Nat) (c c' : Cabinet ω) : Prop where
  others : ∀ m, m ≠ number → c'.tasks[m]? = c.tasks[m]?
  own : ∀ task', c'.tasks[number]? = some task' → ∃ task, c.tasks[number]? = some task ∧
    task'.cancelRequested = task.cancelRequested

theorem Turns.trans (h : Turns number c c₁) (h' : Turns number c₁ c') : Turns number c c' where
  others m hm := (h'.others m hm).trans (h.others m hm)
  own task' htask' := by
    obtain ⟨between, hbetween, hsame'⟩ := h'.own task' htask'
    obtain ⟨task, htask, hsame⟩ := h.own between hbetween
    exact ⟨task, htask, hsame'.trans hsame⟩

theorem turns_of_tasks (h : c'.tasks = c.tasks) : Turns number c c' where
  others m _ := by rw [h]
  own task' htask' := ⟨task', by rw [← h, htask'], rfl⟩

theorem turns_update (change : Task → Task) (h : c'.tasks = c.tasks.modify number change)
    (hchange : ∀ task, (change task).cancelRequested = task.cancelRequested) :
    Turns number c c' where
  others m hm := by rw [h, Array.getElem?_modify, if_neg (Ne.symm hm)]
  own task' htask' := by
    rw [h, Array.getElem?_modify, if_pos rfl] at htask'
    obtain ⟨task, htask, rfl⟩ := Option.map_eq_some_iff.mp htask'
    exact ⟨task, htask, hchange task⟩

theorem turns_pushFrame (frame : Option Frame) (c : Cabinet ω) :
    Turns number c (pushFrame number frame c) := by
  cases frame with
  | none => exact turns_of_tasks rfl
  | some frame =>
    exact turns_update (fun task => { task with stack := frame :: task.stack }) rfl
      fun _ => rfl

/-- Whoever has failed is not the one that goes on. -/
theorem Turns.hasFailed (h : Turns number c c') (hfree : Free number c) (hc : c.HasFailed) :
    c'.HasFailed := by
  obtain ⟨m, task, fault, htask, hstate⟩ := hc
  obtain ⟨own, hown, hrunning, -⟩ := hfree
  have hne : m ≠ number := by
    rintro rfl
    obtain rfl := Option.some.inj (hown.symm.trans htask)
    exact hrunning _ hstate
  exact ⟨m, task, fault, by rw [h.others m hne, htask], hstate⟩

/-- Whoever waits for an open watch is not the one that goes on. -/
theorem Turns.awaited (h : Turns number c c') (hfree : Free number c) {watch : Watch}
    (hwatch : c.watches[w]? = some watch) (hopen : watch.ending = none)
    (hc : c.Awaited w watch) : c'.Awaited w watch := by
  obtain ⟨m, task, hwaiter, htask, hstate⟩ := hc
  obtain ⟨own, hown, -, hwaits⟩ := hfree
  have hne : m ≠ number := by
    rintro rfl
    obtain rfl := Option.some.inj (hown.symm.trans htask)
    obtain ⟨ended, hended, hsome⟩ := hwaits w hstate
    obtain rfl := Option.some.inj (hwatch.symm.trans hended)
    simp [hopen] at hsome
  exact ⟨m, task, hwaiter, by rw [h.others m hne, htask], hstate⟩

theorem Turns.patient (h : Turns number c c') (hc : c.Tended) (m : Nat) (task : Task)
    (htask : c'.tasks[m]? = some task) : task.cancelRequested = false := by
  by_cases hm : m = number
  · subst hm
    obtain ⟨own, hown, hsame⟩ := h.own task htask
    rw [hsame]
    exact hc.patient m own hown
  · rw [h.others m hm] at htask
    exact hc.patient m task htask

/-- A task that goes on and leaves watches and listeners alone leaves all in order. -/
theorem Tended.turned (hc : c.Tended) (told : List Nat) (hfree : Free number c)
    (hturns : Turns number c c') (hgoing : Going number c') (hwatches : c'.watches = c.watches)
    (htimer : c'.timer = c.timer) (hkey : c'.key = c.key) : c'.Tended ∧ Answers told c c' := by
  refine ⟨⟨?_, hturns.patient hc, fun m task w htask hstate => ?_, fun w watch hw hopen => ?_⟩,
    answers_of_watches hwatches⟩
  · exact ⟨by rw [htimer, hwatches, hc.attended.timer], by rw [hkey, hwatches, hc.attended.key]⟩
  · by_cases hm : m = number
    · subst hm
      exact absurd hstate (hgoing task w htask)
    · rw [hturns.others m hm] at htask
      rw [hwatches]
      exact hc.waits m task w htask hstate
  · rw [hwatches] at hw
    rcases hc.awaited w watch hw hopen with hawaited | hfailed
    · exact .inl (hturns.awaited hfree hw hopen hawaited)
    · exact .inr (hturns.hasFailed hfree hfailed)

theorem turns_endTask (ending : Task.Ending) (c : Cabinet ω) :
    Turns number c (endTask number ending c) :=
  turns_update (fun task => { task with state := .ended ending, stack := [] }) rfl
    fun _ => rfl

theorem going_endTask (ending : Task.Ending) (c : Cabinet ω) :
    Going number (endTask number ending c) :=
  going_of_update (fun task => { task with state := .ended ending, stack := [] }) rfl (by simp)

/-- A task that ends with a fault has failed. -/
theorem Free.hasFailed (h : Free number c) (fault : Fault) :
    (endTask number (.failed fault) c).HasFailed := by
  obtain ⟨task, htask, -, -⟩ := h
  refine ⟨number, { task with state := .ended (.failed fault), stack := [] }, fault, ?_, rfl⟩
  simp [endTask, updateTask, Array.getElem?_modify, htask]

/-! ### A watch that is opened -/

theorem getElem?_joined (kind : Watch.Kind) {watch : Watch} (hwatch : c.watches[w]? = some watch) :
    (c.joined kind).watches[w]? = some watch := by
  have hlt : w < c.watches.size := (Array.getElem?_eq_some_iff.mp hwatch).1
  simp only [joined, Array.getElem?_push_lt hlt]
  rw [← hwatch, Array.getElem?_eq_getElem hlt]

theorem Free.joined (h : Free number c) (kind : Watch.Kind) : Free number (c.joined kind) := by
  obtain ⟨task, htask, hrunning, hwaits⟩ := h
  refine ⟨task, htask, hrunning, fun w hstate => ?_⟩
  obtain ⟨watch, hwatch, hended⟩ := hwaits w hstate
  exact ⟨watch, getElem?_joined kind hwatch, hended⟩

/-- A watch that a task forsakes as it fails stays on its devices. -/
theorem Tended.forsaken (hc : c.Tended) (hfree : Free number c) {kind : Watch.Kind} (fault : Fault)
    (hu : Undisturbed (c.joined kind) c₁) :
    (endTask number (.failed fault) c₁).Tended ∧
      Answers [] c (endTask number (.failed fault) c₁) := by
  have hsame : c₁.tasks = c.tasks := hu.tasks
  have hturns : Turns number c (endTask number (.failed fault) c₁) :=
    (turns_of_tasks hsame).trans (turns_endTask _ _)
  have hattended : (endTask number (.failed fault) c₁).Attended := by
    obtain ⟨htimer, hkey⟩ := hu.attended (hc.attended.joined kind)
    exact ⟨htimer, hkey⟩
  have hfree₁ : Free number c₁ := hu.free (hfree.joined kind)
  have hold {v : Nat} {watch : Watch} (hv : c.watches[v]? = some watch) :
      c₁.watches[v]? = some watch := by
    rw [hu.watches]
    exact getElem?_joined kind hv
  refine ⟨⟨hattended, hturns.patient hc, fun m task w htask hstate => ?_,
    fun _ _ _ _ => .inr (hfree₁.hasFailed fault)⟩, fun w before hw => ⟨before, hold hw, .inl rfl⟩⟩
  by_cases hm : m = number
  · subst hm
    exact absurd hstate (going_endTask _ _ task w htask)
  · rw [hturns.others m hm] at htask
    obtain ⟨watch, hwatch, hwaiter⟩ := hc.waits m task w htask hstate
    exact ⟨watch, hold hwatch, hwaiter⟩

/-- A task that waits for an open watch is noted there as its waiter. -/
theorem awaitWatch_open (hopen : (c.watches[w]?).bind Watch.ending = none)
    (h : awaitWatch number w c = c') :
    c'.watches = c.watches.modify w (fun watch => { watch with waiter := some number }) ∧
      c'.tasks = c.tasks.modify number (fun task => { task with state := .waiting w }) ∧
      c'.timer = c.timer ∧ c'.key = c.key := by
  subst h
  simp [awaitWatch, hopen, updateTask]

/-- A task waits for a watch that was opened for it, and nothing else has changed. -/
structure WaitsAnew (number : Nat) (kind : Watch.Kind) (c c' : Cabinet ω) : Prop where
  attended : c'.Attended
  turns : Turns number c c'
  task : ∃ task, c'.tasks[number]? = some task ∧ task.state = .waiting c.watches.size
  watches : ∀ w, c'.watches[w]? = if w = c.watches.size
    then some { kind, waiter := some number } else c.watches[w]?

/-- A frame that is pushed leaves the task where it is. -/
private theorem Free.pushed (h : Free number c) (frame : Option Frame) :
    ∃ task, (pushFrame number frame c).tasks[number]? = some task := by
  obtain ⟨task, htask, -, -⟩ := h
  cases frame with
  | none => exact ⟨task, htask⟩
  | some frame => exact ⟨_, by simp [pushFrame, updateTask, Array.getElem?_modify, htask]; rfl⟩

/-- A task that has opened a watch waits for it. -/
theorem Free.waitsAnew (hfree : Free number c) (hc : c.Attended) {kind : Watch.Kind}
    (frame : Option Frame) (hu : Undisturbed (c.joined kind) c₁) :
    WaitsAnew number kind c (awaitWatch number c.watches.size (pushFrame number frame c₁)) := by
  have hpush : Turns number c₁ (pushFrame number frame c₁) := turns_pushFrame frame c₁
  obtain ⟨before, hbefore⟩ := (hu.free (hfree.joined kind)).pushed frame
  obtain ⟨hwatches₁, htimer₁, hkey₁⟩ :
      (pushFrame number frame c₁).watches = c₁.watches ∧
        (pushFrame number frame c₁).timer = c₁.timer ∧
          (pushFrame number frame c₁).key = c₁.key := by
    cases frame <;> exact ⟨rfl, rfl, rfl⟩
  generalize pushFrame number frame c₁ = pushed at *
  have hopen : (pushed.watches[c.watches.size]?).bind Watch.ending = none := by
    simp [hwatches₁, hu.watches, Cabinet.joined]
  generalize hawait : awaitWatch number c.watches.size pushed = c'
  obtain ⟨hwatches, htasks, htimer, hkey⟩ := awaitWatch_open hopen hawait
  have hsame : c₁.tasks = c.tasks := hu.tasks
  have hc₁ : c₁.Attended := hu.attended (hc.joined kind)
  have hlisten (hears : Watch.Kind → Bool) :
      openOn hears c'.watches = openOn hears c₁.watches := by
    rw [hwatches, hwatches₁]
    exact openOn_modify fun _ _ => rfl
  refine ⟨⟨?_, ?_⟩, ?_, ?_, fun w => ?_⟩
  · rw [hlisten, htimer, htimer₁, hc₁.timer]
  · rw [hlisten, hkey, hkey₁, hc₁.key]
  · exact (turns_of_tasks hsame).trans (hpush.trans (turns_update _ htasks fun _ => rfl))
  · exact ⟨_, by rw [htasks, Array.getElem?_modify, if_pos rfl, hbefore]; rfl, rfl⟩
  · rw [hwatches, Array.getElem?_modify, hwatches₁, hu.watches]
    simp only [Cabinet.joined, Array.getElem?_push]
    by_cases hw : w = c.watches.size
    · simp [hw]
    · simp [hw, Ne.symm hw]

/-- A watch that was there before is as it was. -/
theorem WaitsAnew.old {kind : Watch.Kind} (h : WaitsAnew number kind c c') {watch : Watch}
    (hw : c.watches[w]? = some watch) : c'.watches[w]? = some watch := by
  have hlt : w < c.watches.size := (Array.getElem?_eq_some_iff.mp hw).1
  rw [h.watches, if_neg (by omega), hw]

/-- A task that waits for a watch that it has opened is called by it. -/
theorem WaitsAnew.tended {kind : Watch.Kind} (h : WaitsAnew number kind c c') (hc : c.Tended)
    (hfree : Free number c) : c'.Tended ∧ Answers [] c c' := by
  refine ⟨⟨h.attended, h.turns.patient hc, fun m task w htask hstate => ?_,
    fun w watch hw hunended => ?_⟩, fun w before hw => ⟨before, h.old hw, .inl rfl⟩⟩
  · by_cases hm : m = number
    · subst hm
      obtain ⟨waiting, hwaiting, hopened⟩ := h.task
      obtain rfl := Option.some.inj (htask.symm.trans hwaiting)
      obtain rfl := Task.State.waiting.inj (hstate.symm.trans hopened)
      exact ⟨_, by rw [h.watches, if_pos rfl], rfl⟩
    · rw [h.turns.others m hm] at htask
      obtain ⟨watch, hwatch, hwaiter⟩ := hc.waits m task w htask hstate
      exact ⟨watch, h.old hwatch, hwaiter⟩
  · rw [h.watches] at hw
    by_cases hopened : w = c.watches.size
    · rw [if_pos hopened] at hw
      obtain rfl := Option.some.inj hw
      obtain ⟨task, htask, hstate⟩ := h.task
      exact .inl ⟨number, task, rfl, htask, by rw [hstate, hopened]⟩
    · rw [if_neg hopened] at hw
      rcases hc.awaited w watch hw hunended with hawaited | hfailed
      · exact .inl (h.turns.awaited hfree hw hunended hawaited)
      · exact .inr (h.turns.hasFailed hfree hfailed)

/-! ### One step -/

theorem Answers.after (h : c₁.watches = c.watches) (hanswers : Answers told c₁ c') :
    Answers told c c' := by
  intro w before hw
  rw [← h] at hw
  exact hanswers w before hw

/-- A task that is free does what it has to do next, and leaves all in order. -/
theorem Tended.carry {act : Play ω Progress} (hc : c.Tended) (hfree : Free number c)
    (hopens : Opens act) : (carry number act c).Tended ∧ Answers [] c (carry number act c) := by
  have hgoes {after between : Cabinet ω} (hu : Undisturbed c between)
      (hturns : Turns number between after) (hgoing : Going number after)
      (hwatches : after.watches = between.watches) (htimer : after.timer = between.timer)
      (hkey : after.key = between.key) : after.Tended ∧ Answers [] c after := by
    obtain ⟨htended, hanswers⟩ :=
      (hu.tended hc).turned [] (hu.free hfree) hturns hgoing hwatches htimer hkey
    exact ⟨htended, hanswers.after hu.watches⟩
  have hcomes := hopens c
  cases hact : act c with
  | ok progress between =>
    have hcarry : Cabinet.carry number act c = proceed number progress between := by
      simp only [Cabinet.carry, hact]
    rw [result_of_ok hact] at hcomes
    rw [hcarry]
    cases hcomes with
    | done answer hu =>
      let change (task : Task) : Task := { task with state := .answering answer }
      exact hgoes hu (turns_update change rfl fun _ => rfl)
        (going_of_update change rfl (by simp [change])) rfl rfl rfl
    | call routine frame hu =>
      let change (task : Task) : Task := { task with state := .calling routine }
      have hcall : Turns number (pushFrame number frame between)
          (proceed number (.call routine frame) between) :=
        turns_update change rfl fun _ => rfl
      have hgoing : Going number (proceed number (.call routine frame) between) :=
        going_of_update (c := pushFrame number frame between) change rfl (by simp [change])
      cases frame with
      | none => exact hgoes hu ((turns_pushFrame _ _).trans hcall) hgoing rfl rfl rfl
      | some frame => exact hgoes hu ((turns_pushFrame _ _).trans hcall) hgoing rfl rfl rfl
    | awaits kind frame hu => exact (hfree.waitsAnew hc.attended frame hu).tended hc hfree
  | error fault between =>
    have hcarry : Cabinet.carry number act c = endTask number (.failed fault) between := by
      simp only [Cabinet.carry, hact]
    rw [result_of_error hact] at hcomes
    rw [hcarry]
    cases hcomes with
    | fails fault hu => exact hgoes hu (turns_endTask _ _) (going_endTask _ _) rfl rfl rfl
    | forsakes fault kind hu => exact hc.forsaken hfree fault hu

/-- The task that is carried on leaves all in order. -/
theorem Tended.carryOn (hc : c.Tended) :
    (carryOn eye.around number c).Tended ∧ Answers [] c (carryOn eye.around number c) := by
  have hleft : { c with active := none }.Tended ∧ Answers [] c { c with active := none } :=
    ⟨⟨⟨hc.attended.timer, hc.attended.key⟩, hc.patient, hc.waits, hc.awaited⟩,
      answers_of_watches rfl⟩
  unfold Cabinet.carryOn
  cases htask : c.tasks[number]? with
  | none => exact hleft
  | some task =>
    obtain ⟨state, stack, cancelRequested⟩ := task
    cases state with
    | calling routine =>
      have hfree : Free number c := free_of_state htask (by simp) (by simp)
      exact hc.carry hfree (.begin eye routine)
    | answering answer =>
      have hfree : Free number c := free_of_state htask (by simp) (by simp)
      cases stack with
      | nil => exact hc.turned [] hfree (turns_endTask _ _) (going_endTask _ _) rfl rfl rfl
      | cons frame rest =>
        let popped := updateTask number (fun task => { task with stack := rest }) c
        have hturns : Turns number c popped :=
          turns_update (fun task => { task with stack := rest }) rfl fun _ => rfl
        have htask' : popped.tasks[number]? =
            some { state := .answering answer, stack := rest, cancelRequested } := by
          simp [popped, updateTask, Array.getElem?_modify, htask]
        have hgoing : Going number popped := by
          intro task w hown
          obtain rfl := Option.some.inj (htask'.symm.trans hown)
          simp
        have hpopped : popped.Tended :=
          (hc.turned [] hfree hturns hgoing rfl rfl rfl).1
        have hfree' : Free number popped := free_of_state htask' (by simp) (by simp)
        obtain ⟨htended, hanswers⟩ := hpopped.carry hfree' (.resume eye answer frame)
        exact ⟨htended, hanswers.after rfl⟩
    | waiting => exact hleft
    | ended => exact hleft

/-- A call that reaches a task leaves all in order. -/
theorem Tended.wake (hc : c.Tended) : (wake number c).Tended ∧ Answers [] c (wake number c) := by
  have hsame : c.Tended ∧ Answers [] c c := ⟨hc, answers_of_watches rfl⟩
  have hactive : { c with active := some number }.Tended ∧
      Answers [] c { c with active := some number } :=
    ⟨⟨⟨hc.attended.timer, hc.attended.key⟩, hc.patient, hc.waits, hc.awaited⟩,
      answers_of_watches rfl⟩
  unfold Cabinet.wake
  cases htask : c.tasks[number]? with
  | none => exact hsame
  | some task =>
    have hpatient := hc.patient number task htask
    obtain ⟨state, stack, cancelRequested⟩ := task
    subst hpatient
    cases state with
    | calling => exact hactive
    | answering => exact hactive
    | ended => exact hsame
    | waiting w =>
      have hfree {ending : Watch.Ending}
          (hended : (c.watches[w]?).bind Watch.ending = some ending) : Free number c := by
        obtain ⟨watch, hwatch, hending⟩ := Option.bind_eq_some_iff.mp hended
        refine ⟨_, htask, by simp, fun v hstate => ?_⟩
        cases hstate
        exact ⟨watch, hwatch, by simp [hending]⟩
      cases hended : (c.watches[w]?).bind Watch.ending with
      | none => simpa [hended] using hsame
      | some ending =>
        cases ending with
        | answered answer =>
          let change (task : Task) : Task := { task with state := .answering answer }
          let called : Cabinet ω := { updateTask number change c with active := some number }
          have hturns : Turns number c called := turns_update change rfl fun _ => rfl
          have hgoing : Going number called := going_of_update change rfl (by simp [change])
          simpa [hended] using hc.turned [] (hfree hended) hturns hgoing rfl rfl rfl
        | dropped =>
          simpa [hended] using hc.turned [] (hfree hended) (turns_endTask .cancelled c)
            (going_endTask _ _) rfl rfl rfl

theorem Reacted.tended (h : Reacted told c c') (hc : c.Tended) :
    c'.Tended ∧ Answers told c c' := by
  refine ⟨⟨h.attended, by rw [h.tasks]; exact hc.patient, fun n task w htask hstate => ?_,
    fun w watch hw hopen => ?_⟩, fun w before hw => ?_⟩
  · rw [h.tasks] at htask
    obtain ⟨before, hbefore, hwaiter⟩ := hc.waits n task w htask hstate
    obtain ⟨after, hafter, hgoes⟩ := h.goes w before hbefore
    exact ⟨after, hafter, hgoes.waiter.trans hwaiter⟩
  · have hlt : w < c.watches.size := by
      rw [← h.size]
      exact (Array.getElem?_eq_some_iff.mp hw).1
    have hbefore : c.watches[w]? = some c.watches[w] := Array.getElem?_eq_getElem hlt
    obtain ⟨after, hafter, hgoes⟩ := h.goes w _ hbefore
    obtain rfl := Option.some.inj (hw.symm.trans hafter)
    have hwasopen : c.watches[w].ending = none := by
      rcases hgoes.ending with hsame | ⟨-, hopen', -⟩
      · rw [← hsame, hopen]
      · exact hopen'
    have hawaited := hc.awaited w _ hbefore hwasopen
    simpa only [Awaited, HasFailed, h.tasks, hgoes.waiter] using hawaited
  · obtain ⟨after, hafter, hgoes⟩ := h.goes w before hw
    exact ⟨after, hafter, hgoes.ending⟩

/-- What does not disturb the watches leaves all in order. -/
theorem Tended.undisturbed (hc : c.Tended) (hu : Undisturbed c c') :
    c'.Tended ∧ Answers told c c' :=
  ⟨hu.tended hc, answers_of_watches hu.watches⟩

/-- A call leaves all in order, whatever becomes of the agenda, and ends only watches that are told
of it. -/
theorem Tended.perform (hc : c.Tended) (agenda : Agenda Call) (call : Call) :
    (perform eye.around call { c with agenda }).Tended ∧
      Answers (c.heardBy call) c (perform eye.around call { c with agenda }) := by
  have hu : Undisturbed c { c with agenda } := ⟨rfl, rfl, rfl, rfl, rfl⟩
  have hcalled : { c with agenda }.Tended := hu.tended hc
  cases call with
  | task number => exact hcalled.wake
  | countdownOver => exact (countdownOver_reacted eye hcalled.attended).tended hcalled
  | move pressed => exact (move_reacted eye pressed hcalled.attended).tended hcalled
  | disable => exact (disable_reacted eye hcalled.attended).tended hcalled
  | pauseOver | window => exact hc.undisturbed hu

/-- Whatever happens leaves all in order, and ends only watches that are told of it. -/
theorem Tended.next (hc : c.Tended) (h : Happens eye.around c happening c') :
    c'.Tended ∧ Answers (c.audience happening) c c' := by
  cases h with
  | carry hactive => exact hc.carryOn
  | call | due => exact hc.perform _ _
  | move pressed => exact (move_reacted eye pressed hc.attended).tended hc
  | disable => exact (disable_reacted eye hc.attended).tended hc
  | enable ticks => exact hc.undisturbed (Quiet.enable eye _ c)
  | wait => exact hc.undisturbed ⟨rfl, rfl, rfl, rfl, rfl⟩

/-- A task that begins has nobody waiting for it yet. -/
theorem Tended.spawn (hc : c.Tended) (routine : Routine) : (spawn routine c).Tended where
  attended := ⟨hc.attended.timer, hc.attended.key⟩
  patient n task htask := by
    rw [Cabinet.spawn, Array.getElem?_push] at htask
    split at htask
    · obtain rfl := Option.some.inj htask
      rfl
    · exact hc.patient n task htask
  waits n task w htask hstate := by
    rw [Cabinet.spawn, Array.getElem?_push] at htask
    split at htask
    · obtain rfl := Option.some.inj htask
      cases hstate
    · exact hc.waits n task w htask hstate
  awaited w watch hw hopen := by
    have hkept {n : Nat} {task : Task} (htask : c.tasks[n]? = some task) :
        (Cabinet.spawn routine c).tasks[n]? = some task := by
      have hlt : n < c.tasks.size := (Array.getElem?_eq_some_iff.mp htask).1
      rw [Cabinet.spawn, Array.getElem?_push, if_neg (by omega), htask]
    rcases hc.awaited w watch hw hopen with
      ⟨n, task, hwaiter, htask, hstate⟩ | ⟨n, task, fault, htask, hstate⟩
    · exact .inl ⟨n, task, hwaiter, hkept htask, hstate⟩
    · exact .inr ⟨n, task, fault, hkept htask, hstate⟩

/-! ## All that may come -/

/-- A cabinet without tasks, in which nobody waits for anything. -/
structure Unused (c : Cabinet ω) : Prop where
  tasks : c.tasks = #[]
  watches : c.watches = #[]
  deaf : c.Deaf

theorem Unused.tended (h : c.Unused) : c.Tended where
  attended := ⟨by rw [h.deaf.1, h.watches]; rfl, by rw [h.deaf.2, h.watches]; rfl⟩
  patient n task htask := by simp [h.tasks] at htask
  waits n task w htask := by simp [h.tasks] at htask
  awaited w watch hw := by simp [h.watches] at hw

theorem Evolves.tended (h : Evolves eye.around first c) (hfirst : first.Tended) : c.Tended := by
  induction h with
  | start => exact hfirst
  | begins routine _ ih => exact ih.spawn routine
  | next _ hhappens ih => exact (ih.next hhappens).1

/-- A watch that has ended stays so. -/
theorem Evolves.ending (h : Evolves eye.around c c') (hc : c.Tended) {ending : Watch.Ending}
    (hended : (c.watches[w]?).bind Watch.ending = some ending) :
    (c'.watches[w]?).bind Watch.ending = some ending := by
  induction h with
  | start => exact hended
  | begins routine _ ih => exact ih
  | next hevolves hhappens ih =>
    obtain ⟨before, hbefore, hending⟩ := Option.bind_eq_some_iff.mp ih
    obtain ⟨after, hafter, hsame | ⟨-, hopen, -⟩⟩ :=
      ((hevolves.tended hc).next hhappens).2 w before hbefore
    · rw [hafter, Option.bind_some, hsame, hending]
    · rw [hopen] at hending
      cases hending

/-- Once all tasks have returned, no watch is open. -/
theorem Tended.openOn_eq_nil (hc : c.Tended) (hears : Watch.Kind → Bool)
    (hreturned : ∀ (n : Nat) (task : Task), c.tasks[n]? = some task →
      ∃ answer, task.state = .ended (.returned answer)) : openOn hears c.watches = [] := by
  refine List.eq_nil_iff_forall_not_mem.mpr fun w hw => ?_
  obtain ⟨watch, hwatch, hopen, -⟩ := mem_openOn.mp hw
  rcases hc.awaited w watch hwatch hopen with
    ⟨n, task, -, htask, hstate⟩ | ⟨n, task, fault, htask, hstate⟩
  · obtain ⟨answer, hended⟩ := hreturned n task htask
    rw [hstate] at hended
    cases hended
  · obtain ⟨answer, hended⟩ := hreturned n task htask
    rw [hstate] at hended
    cases hended

/-- However many tasks share the devices, and whatever happens: the listeners of the timer and of
the key are the open watches that ask for them, each once. A task that waits is the waiter of its
watch, and an open watch has a task that waits for it unless a task has failed. A happening ends a
watch only if the watch was open and is told of it, and a watch that has ended stays so. Once all
tasks have returned, nobody listens. -/
theorem listeners_are_open_waits (eye : Onlooker ω) (hunused : first.Unused)
    (h : Evolves eye.around first c) :
    (c.timer.listeners = openOn Watch.Kind.hearsTimer c.watches ∧ c.timer.listeners.Nodup) ∧
      (c.key.listeners = openOn Watch.Kind.hearsKey c.watches ∧ c.key.listeners.Nodup) ∧
      (∀ (n : Nat) (task : Task) (w : Nat), c.tasks[n]? = some task → task.state = .waiting w →
        ∃ watch, c.watches[w]? = some watch ∧ watch.waiter = some n) ∧
      (∀ (w : Nat) (watch : Watch), c.watches[w]? = some watch → watch.ending = none →
        c.Awaited w watch ∨ c.HasFailed) ∧
      (∀ happening c', Happens eye.around c happening c' → Answers (c.audience happening) c c') ∧
      (∀ c', Evolves eye.around c c' → ∀ (w : Nat) (ending : Watch.Ending),
        (c.watches[w]?).bind Watch.ending = some ending →
          (c'.watches[w]?).bind Watch.ending = some ending) ∧
      ((∀ (n : Nat) (task : Task), c.tasks[n]? = some task →
        ∃ answer, task.state = .ended (.returned answer)) → c.Deaf) := by
  have hc : c.Tended := h.tended hunused.tended
  refine ⟨⟨hc.attended.timer, ?_⟩, ⟨hc.attended.key, ?_⟩, hc.waits, hc.awaited, ?_, ?_, ?_⟩
  · rw [hc.attended.timer]
    exact nodup_openOn
  · rw [hc.attended.key]
    exact nodup_openOn
  · intro happening c' hhappens
    exact (hc.next hhappens).2
  · intro c' hevolves w ending hended
    exact hevolves.ending hc hended
  · intro hreturned
    exact ⟨by rw [hc.attended.timer, hc.openOn_eq_nil _ hreturned],
      by rw [hc.attended.key, hc.openOn_eq_nil _ hreturned]⟩

/-- A countdown and a wait for the key share the timer. -/
def countdownAndKey : Cabinet Unit :=
  run Onlooker.idle.around (fun _ => false) 0 20
    (spawn .pressOrEvent (spawn (.countdown (.int 3)) (atRest .onTrack)))

/-- The watch of the countdown and the other watch are on the timer, the other one is on the key as
well, and a press is told to it alone. -/
theorem listeners_are_open_waits_countdownAndKey :
    (atRest .onTrack).Unused ∧ Evolves Onlooker.idle.around (atRest .onTrack) countdownAndKey ∧
      openOn Watch.Kind.hearsTimer countdownAndKey.watches = [0, 1] ∧
      openOn Watch.Kind.hearsKey countdownAndKey.watches = [1] ∧
      Answers [1] countdownAndKey
        ((move Onlooker.idle.around true).result countdownAndKey).2 := by
  have hunused : (atRest .onTrack).Unused := ⟨rfl, rfl, rfl, rfl⟩
  have hevolves : Evolves Onlooker.idle.around (atRest .onTrack) countdownAndKey :=
    ((Evolves.start.begins _).begins _).run _ _ _
  obtain ⟨⟨htimer, -⟩, ⟨hkey, -⟩, -, -, hanswers, -⟩ :=
    listeners_are_open_waits Onlooker.idle hunused hevolves
  have htimers : countdownAndKey.timer.listeners = [0, 1] := by decide +kernel
  have hkeys : countdownAndKey.key.listeners = [1] := by decide +kernel
  have hidle : countdownAndKey.active = none := by decide +kernel
  refine ⟨hunused, hevolves, by rw [← htimer, htimers], by rw [← hkey, hkeys], ?_⟩
  rw [← hkeys]
  exact hanswers _ _ (.move true hidle)

end DigitRace.Cabinet
