import DigitRace.Proofs.Demo.Text

/-!
# From a call to the answer

A routine of task 0 lasts from its call until there is an answer for whoever called it. An
undisturbed run is one in which nothing strays from what is allowed meanwhile. What every happening
keeps holds after all of them; and a routine that is so many steps of the program away from its
answer comes to it.
-/

namespace DigitRace

namespace Cabinet

variable {ω : Type} {around : Surroundings ω} {first c c' : Cabinet ω} {state : Task.State}
  {stack frames : List Frame} {w : Nat}

/-- Whether task 0 has an answer for the last `depth` of its frames, or has ended. -/
def isBack (depth : Nat) (c : Cabinet ω) : Bool :=
  (c.tasks[0]?).any (Task.isBack depth)

theorem isBack_of_tasks (h : c.tasks = #[{ state, stack := frames }]) (depth : Nat) :
    isBack depth c = Task.isBack depth { state, stack := frames } := by
  simp [isBack, h]

/-- While the task waits or is about to, there is no answer. -/
theorem isBack_of_waiting (h : c.tasks = #[{ state := .waiting w, stack := frames }])
    (depth : Nat) : isBack depth c = false :=
  isBack_of_tasks h depth

theorem Carried.isBack_calling {routine : Routine} (h : Carried (.calling routine) frames c)
    (depth : Nat) : isBack depth c = false :=
  isBack_of_tasks h.tasks depth

/-- An answer is for the frame on top, and for none below. -/
theorem Carried.isBack_answering {answer : Answer} (h : Carried (.answering answer) frames c)
    (depth : Nat) : isBack depth c = decide (frames.length ≤ depth) :=
  isBack_of_tasks h.tasks depth

/-- All that is due by now has happened. -/
def Calm (c : Cabinet ω) : Prop :=
  c.Settled ∧ ∀ d ∈ c.agenda.deadlines, c.agenda.now < d.due

/-- Time passes only while nothing is ready, and no further than to the next deadline. -/
theorem Happens.wait_cases {time : Rat} (h : Happens around c (.wait time) c') :
    c.agenda.ready = [] ∧ c.agenda.now ≤ time ∧ ∀ d ∈ c.agenda.deadlines, time ≤ d.due := by
  cases h with
  | wait _ hready hnow hdue => exact ⟨hready, hnow, hdue⟩

/-- Whatever strays from what is allowed between the call of a routine above `depth` frames and its
answer. -/
def strays (allowed : Happening → Bool) (depth : Nat) (c : Cabinet ω) (happening : Happening)
    (_ : Cabinet ω) : List Happening :=
  if isBack depth c || !allowed happening then [happening] else []

theorem strays_eq_nil {allowed : Happening → Bool} {depth : Nat} {happening : Happening} :
    strays allowed depth c happening c' = [] ↔
      isBack depth c = false ∧ allowed happening = true := by
  simp [strays]

/-- A countdown that ends by a time is the next to be called. -/
theorem EndsAt.step?_eq {due horizon : Rat} (h : c.EndsAt due) (hsettled : c.Settled)
    (hdue : due ≤ horizon) : Cabinet.step? around horizon c =
      some ((notify around .elapsed).result (c.expired due)).2 := by
  obtain ⟨number, -, hdeadlines⟩ := h
  simp [Cabinet.step?, hsettled.1, Agenda.next?, hsettled.2, hdeadlines, hdue, perform,
    countdownOver, updateTimer, Act.result, expired]

/-- A countdown that ends by a time runs out by then. -/
theorem EndsAt.step? {due horizon : Rat} (h : c.EndsAt due) (hsettled : c.Settled)
    (hdue : due ≤ horizon) : ∃ c', Cabinet.step? around horizon c = some c' :=
  ⟨_, h.step?_eq hsettled hdue⟩

/-! ## Nearer to the answer -/

/-- Whatever is allowed leaves a routine so many steps of the program away from its answer, and a
step of the program brings it nearer by one. -/
def Nears (around : Surroundings ω) (allowed : Happening → Bool) (depth : Nat)
    (away : Nat → Cabinet ω → Prop) : Prop :=
  ∀ n c happening c', away n c → Happens around c happening c' → isBack depth c = false →
    allowed happening = true → ∃ m, away m c' ∧ n = m + if happening.isStep then 1 else 0

section

variable {allowed : Happening → Bool} {depth n : Nat} {away : Nat → Cabinet ω → Prop}
  (h : Nears around allowed depth away)

include h

/-- After every undisturbed run a routine is some steps away from its answer. -/
theorem Nears.run {notes : List Happening}
    (hrun : Run around (strays allowed depth) first notes c) (hnone : notes = [])
    (hfirst : away n first) : ∃ m, away m c := by
  induction hrun with
  | start => exact ⟨n, hfirst⟩
  | next _ hhappens ih =>
    obtain ⟨hbefore, hnow⟩ := List.append_eq_nil_iff.mp hnone
    obtain ⟨m, haway⟩ := ih hbefore
    obtain ⟨hback, hallowed⟩ := strays_eq_nil.mp hnow
    obtain ⟨m', hnext, -⟩ := h m _ _ _ haway hhappens hback hallowed
    exact ⟨m', hnext⟩

/-- A routine that always goes on by a time comes to its answer by then. -/
theorem Nears.comes {horizon : Rat}
    (hsteps : ∀ happening : Happening, happening.isStep = true → allowed happening = true)
    (hgoesOn : ∀ n c, away (n + 1) c → isBack depth c = false ∧
      ∃ c', step? around horizon c = some c')
    (haway : away n c) : away 0 (Cabinet.run around (fun _ => false) horizon n c) := by
  induction n generalizing c with
  | zero => exact haway
  | succ n ih =>
    obtain ⟨hback, c', hstep⟩ := hgoesOn n c haway
    obtain ⟨happening, hisStep, hhappens⟩ := happens_of_step? hstep
    obtain ⟨m, hnext, hm⟩ := h (n + 1) c happening c' haway hhappens hback (hsteps _ hisStep)
    rw [if_pos hisStep] at hm
    obtain rfl : n = m := by omega
    rw [run_step hstep]
    exact ih hnext

end

/-! ## At once -/

/-- So many steps of the program at most, which take no time and leave the key as it is, lead to
something. -/
def Soon (around : Surroundings ω) (horizon : Rat) (limit : Nat)
    (reached : Cabinet ω → Prop) (c : Cabinet ω) : Prop :=
  ∃ steps ≤ limit, (run around (fun _ => false) horizon steps c).agenda.now = c.agenda.now ∧
    (run around (fun _ => false) horizon steps c).key.pressed = c.key.pressed ∧
    reached (run around (fun _ => false) horizon steps c)

section

variable {horizon : Rat} {limit : Nat} {reached : Cabinet ω → Prop}

theorem Soon.now (h : reached c) : Soon around horizon limit reached c :=
  ⟨0, Nat.zero_le _, rfl, rfl, h⟩

/-- What is soon after a step is soon before it. -/
theorem Soon.step (hstep : step? around horizon c = some c')
    (hnow : c'.agenda.now = c.agenda.now) (hkey : c'.key.pressed = c.key.pressed)
    (h : Soon around horizon limit reached c') : Soon around horizon (limit + 1) reached c := by
  obtain ⟨steps, hsteps, hsame, hpressed, hreached⟩ := h
  refine ⟨steps + 1, Nat.succ_le_succ hsteps, ?_⟩
  rw [run_step hstep]
  exact ⟨hsame.trans hnow, hpressed.trans hkey, hreached⟩

theorem Soon.mono {limit' : Nat} (h : Soon around horizon limit reached c)
    (hlimit : limit ≤ limit') : Soon around horizon limit' reached c := by
  obtain ⟨steps, hsteps, hreached⟩ := h
  exact ⟨steps, hsteps.trans hlimit, hreached⟩

theorem Soon.imp {reached' : Cabinet ω → Prop} (h : Soon around horizon limit reached c)
    (himp : ∀ c', reached c' → reached' c') : Soon around horizon limit reached' c := by
  obtain ⟨steps, hsteps, hnow, hkey, hreached⟩ := h
  exact ⟨steps, hsteps, hnow, hkey, himp _ hreached⟩

end

/-! ## Without a break -/

/-- Task 0 is carried on so many times without a break. -/
inductive Unbroken (around : Surroundings ω) : Nat → Cabinet ω → Cabinet ω → Prop
  | still (c : Cabinet ω) : Unbroken around 0 c c
  | next {n : Nat} {c c' : Cabinet ω} (hactive : c.active = some 0)
      (hrest : Unbroken around n (carryOn around 0 c) c') : Unbroken around (n + 1) c c'

/-- What is carried on without a break is done by the program in one go. -/
theorem Unbroken.run_eq {n : Nat} (h : Unbroken around n c c') (horizon : Rat) :
    run around (fun _ => false) horizon n c = c' := by
  induction h with
  | still => rfl
  | @next n c c' hactive _ ih =>
    have hstep : Cabinet.step? around horizon c = some (carryOn around 0 c) := by
      simp [Cabinet.step?, hactive]
    rw [run_step hstep]
    exact ih

/-- A press is handed on by the frames of a text without a break. -/
theorem Carried.unbroken_pressed (eye : Onlooker ω) {texts : List Frame}
    (htexts : ∀ frame ∈ texts, frame.OfText)
    (h : Carried (.answering (.flag true)) (texts ++ stack) c) :
    Unbroken eye.around texts.length c
      { c with tasks := #[{ state := .answering (.flag true), stack }] } := by
  induction texts generalizing c with
  | nil =>
    have htasks : c.tasks = #[{ state := .answering (.flag true), stack }] := h.tasks
    rw [← htasks]
    exact .still c
  | cons frame texts ih =>
    refine .next h.active ?_
    rw [h.carryOn_pressed eye (htexts frame List.mem_cons_self)]
    exact ih (fun frame hmem => htexts frame (List.mem_cons_of_mem _ hmem))
      ⟨rfl, h.active, h.ready, h.deaf⟩

end Cabinet

end DigitRace
