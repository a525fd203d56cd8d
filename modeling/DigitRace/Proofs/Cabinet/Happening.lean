import DigitRace.Proofs.Cabinet.Countdown

/-!
# What can happen

Between two calls of the agenda anyone may move the key, arm the timer or call the countdown
off, and time may pass up to the next deadline; while a task is carried on, nothing else
happens. A deadline that is due may be met before what is ready is called, so that a countdown can
run out between the end of a wait and the moment at which the task goes on; but time passes only
where nothing is ready. A run is a sequence of such happenings in any order, and of each of them
something may be noted. Every run of the program, with a horizon and a limit, is one of these runs.
A game lasts through such happenings until the task goes on to the next game.
-/

namespace DigitRace

/-- Something that happens to a cabinet. -/
inductive Happening where
  /-- The active task is carried on by one routine or one frame. -/
  | carry
  /-- The agenda's next call is made. -/
  | call (call : Call)
  /-- A deadline that is due is met ahead of what is ready. -/
  | due (call : Call)
  /-- Someone moves the key. -/
  | move (pressed : Bool)
  /-- Someone calls the countdown off. -/
  | disable
  /-- Someone arms the timer. -/
  | enable (ticks : Int)
  /-- Nothing happens up to a time. -/
  | wait (time : Rat)
  deriving DecidableEq

/-- Whether a happening is a step of the program. -/
def Happening.isStep : Happening → Bool
  | .carry | .call _ => true
  | _ => false

namespace Cabinet

variable {ω α : Type}

/-- A happening, with the cabinets before and after it. -/
inductive Happens (around : Surroundings ω) (c : Cabinet ω) : Happening → Cabinet ω → Prop
  | carry {number : Nat} (hactive : c.active = some number) :
      Happens around c .carry (carryOn around number c)
  | call {horizon : Rat} {call : Call} {agenda : Agenda Call} (hactive : c.active = none)
      (hnext : c.agenda.next? horizon = some (call, agenda)) :
      Happens around c (.call call) (perform around call { c with agenda })
  | due {call : Call} {agenda : Agenda Call} (hactive : c.active = none)
      (hready : c.agenda.ready ≠ []) (hdue : c.agenda.overdue? = some (call, agenda)) :
      Happens around c (.due call) (perform around call { c with agenda })
  | move (pressed : Bool) (hactive : c.active = none) :
      Happens around c (.move pressed) ((move around pressed).result c).2
  | disable (hactive : c.active = none) :
      Happens around c .disable ((disable around).result c).2
  | enable (ticks : Int) (hactive : c.active = none) :
      Happens around c (.enable ticks) ((enable around (.int ticks)).result c).2
  | wait {time : Rat} (hactive : c.active = none) (hready : c.agenda.ready = [])
      (hnow : c.agenda.now ≤ time) (hdue : ∀ d ∈ c.agenda.deadlines, time ≤ d.due) :
      Happens around c (.wait time) { c with agenda := { c.agenda with now := time } }

/-- Happenings that lead from one cabinet to another, and what is noted of them. -/
inductive Run (around : Surroundings ω) (noted : Cabinet ω → Happening → Cabinet ω → List α)
    (first : Cabinet ω) : List α → Cabinet ω → Prop
  | start : Run around noted first [] first
  | next {notes : List α} {before after : Cabinet ω} {happening : Happening} :
      Run around noted first notes before → Happens around before happening after →
      Run around noted first (notes ++ noted before happening after) after

/-- All that happens is noted. -/
def inFull (_ : Cabinet ω) (happening : Happening) (_ : Cabinet ω) : List Happening :=
  [happening]

/-- Nothing is left to do until time passes or someone acts. -/
def Settled (c : Cabinet ω) : Prop :=
  c.active = none ∧ c.agenda.ready = []

instance (c : Cabinet ω) : Decidable c.Settled :=
  decidable_of_iff (c.active.isNone ∧ c.agenda.ready.isEmpty) (by simp [Settled])

variable {around : Surroundings ω} {noted : Cabinet ω → Happening → Cabinet ω → List α}
  {first c c' : Cabinet ω}

/-! ## What happens is determined -/

/-- What is before a happening determines what is after it. -/
theorem Happens.unique {happening : Happening} {c'' : Cabinet ω}
    (h : Happens around c happening c') (h' : Happens around c happening c'') : c' = c'' := by
  cases h with
  | carry hactive =>
    cases h' with
    | carry hactive' => rw [Option.some.inj (hactive.symm.trans hactive')]
  | call hactive hnext =>
    cases h' with
    | call hactive' hnext' =>
      obtain ⟨-, rfl⟩ := Prod.mk.inj (Agenda.next?_unique hnext hnext')
      rfl
  | due _ _ hdue =>
    cases h' with
    | due _ _ hdue' =>
      obtain ⟨-, rfl⟩ := Prod.mk.inj (Option.some.inj (hdue.symm.trans hdue'))
      rfl
  | move => cases h'; rfl
  | disable => cases h'; rfl
  | enable => cases h'; rfl
  | wait => cases h'; rfl

/-! ## Up to the next game -/

/-- A task is about to go on to the next game, if there is one. -/
def AtNextGame (number : Nat) (c : Cabinet ω) : Prop :=
  ∃ task answer games played rest, c.tasks[number]? = some task ∧
    task.state = .answering answer ∧ task.stack = .nextGame games played :: rest

/-- The active task is about to go on to the next game, if there is one. -/
def LeavesGame (c : Cabinet ω) : Prop :=
  ∃ number, c.active = some number ∧ AtNextGame number c

/-- Happenings that lead from one cabinet to another, none of them after the game was left. -/
inductive Lasts (around : Surroundings ω) : Cabinet ω → List Happening → Cabinet ω → Prop
  | still (c : Cabinet ω) : Lasts around c [] c
  | step {c between c' : Cabinet ω} {event : Happening} {rest : List Happening}
      (hleaves : ¬ LeavesGame c) (hhappens : Happens around c event between)
      (hrest : Lasts around between rest c') : Lasts around c (event :: rest) c'

/-- So all that happens determines what it leads to. -/
theorem Lasts.unique {events : List Happening} {c'' : Cabinet ω} (h : Lasts around c events c')
    (h' : Lasts around c events c'') : c' = c'' := by
  induction h with
  | still => cases h'; rfl
  | step _ hhappens _ ih =>
    cases h' with
    | step _ hhappens' hrest' =>
      obtain rfl := hhappens.unique hhappens'
      exact ih hrest'

/-! ## The program runs so -/

/-- A step of the program is a happening. -/
theorem happens_of_step? {horizon : Rat} (h : step? around horizon c = some c') :
    ∃ happening, happening.isStep = true ∧ Happens around c happening c' := by
  unfold step? at h
  split at h
  · rename_i number hactive
    obtain rfl := Option.some.inj h
    exact ⟨_, rfl, .carry hactive⟩
  · rename_i hactive
    split at h
    · rename_i call agenda hnext
      obtain rfl := Option.some.inj h
      exact ⟨_, rfl, .call hactive hnext⟩
    · cases h

/-- The steps that the program takes go on with a run. -/
theorem Run.run {notes : List α} (h : Run around noted first notes c)
    (stop : Cabinet ω → Bool) (horizon : Rat) (limit : Nat) :
    ∃ notes', Run around noted first notes' (run around stop horizon limit c) := by
  induction limit generalizing c notes with
  | zero => exact ⟨notes, h⟩
  | succ limit ih =>
    unfold Cabinet.run
    split
    · exact ⟨notes, h⟩
    · split
      · rename_i after hstep
        obtain ⟨happening, -, hhappens⟩ := happens_of_step? hstep
        exact ih (h.next hhappens)
      · exact ⟨notes, h⟩

/-! ## Runs that are computed -/

/-- What someone does at the key or the timer, or so many steps of the program, or fewer if nothing
is left to do, or the passing of time, or a deadline that is met ahead of what is ready. -/
inductive Deed where
  | steps (limit : Nat)
  | move (pressed : Bool)
  | disable
  | wait (time : Rat)
  | due

section

variable (around : Surroundings ω) (noted : Cabinet ω → Happening → Cabinet ω → List α)

/-- So many steps of the program that take no time, with what is noted of them. -/
def stepsNoted : Nat → Cabinet ω → List α × Cabinet ω
  | 0, c => ([], c)
  | limit + 1, c => match c.active with
    | some number =>
      let after := carryOn around number c
      let rest := stepsNoted limit after
      (noted c .carry after ++ rest.1, rest.2)
    | none => match c.agenda.next? c.agenda.now with
      | some (call, agenda) =>
        let after := perform around call { c with agenda }
        let rest := stepsNoted limit after
        (noted c (.call call) after ++ rest.1, rest.2)
      | none => ([], c)

/-- The next deadline, met ahead of what is ready if it is due, with what is noted of it. -/
def overdueNoted (c : Cabinet ω) : List α × Cabinet ω :=
  match c.agenda.ready, c.agenda.overdue? with
  | _ :: _, some (call, agenda) =>
    let after := perform around call { c with agenda }
    (noted c (.due call) after, after)
  | _, _ => ([], c)

/-- Time up to the next deadline, if nothing is ready, with what is noted of it. -/
def waitNoted (time : Rat) (c : Cabinet ω) : List α × Cabinet ω :=
  if c.agenda.ready.isEmpty ∧ c.agenda.now ≤ time ∧ ∀ d ∈ c.agenda.deadlines, time ≤ d.due then
    let after := { c with agenda := { c.agenda with now := time } }
    (noted c (.wait time) after, after)
  else ([], c)

/-- A deed, with what is noted of it. Nobody can do anything while a task is carried on. -/
def deedNoted (deed : Deed) (c : Cabinet ω) : List α × Cabinet ω :=
  match deed, c.active with
  | .steps limit, _ => stepsNoted around noted limit c
  | .move pressed, none =>
    let after := ((Cabinet.move around pressed).result c).2
    (noted c (.move pressed) after, after)
  | .disable, none =>
    let after := ((Cabinet.disable around).result c).2
    (noted c .disable after, after)
  | .wait time, none => waitNoted noted time c
  | .due, none => overdueNoted around noted c
  | _, some _ => ([], c)

/-- One deed after the other, with what is noted of them. -/
def deedsNoted : List Deed → Cabinet ω → List α × Cabinet ω
  | [], c => ([], c)
  | deed :: rest, c =>
    let first := deedNoted around noted deed c
    let later := deedsNoted rest first.2
    (first.1 ++ later.1, later.2)

end

theorem Run.stepsNoted {notes : List α} (h : Run around noted first notes c) (limit : Nat) :
    Run around noted first (notes ++ (stepsNoted around noted limit c).1)
      (stepsNoted around noted limit c).2 := by
  induction limit generalizing c notes with
  | zero => simpa [Cabinet.stepsNoted] using h
  | succ limit ih =>
    unfold Cabinet.stepsNoted
    split
    · rename_i number hactive
      rw [← List.append_assoc]
      exact ih (h.next (.carry hactive))
    · rename_i hactive
      split
      · rename_i call agenda hnext
        rw [← List.append_assoc]
        exact ih (h.next (.call hactive hnext))
      · simpa using h

theorem Run.overdueNoted {notes : List α} (h : Run around noted first notes c)
    (hactive : c.active = none) :
    Run around noted first (notes ++ (overdueNoted around noted c).1)
      (overdueNoted around noted c).2 := by
  unfold Cabinet.overdueNoted
  split
  · rename_i hready hdue
    exact h.next (.due hactive (by simp [hready]) hdue)
  · simpa using h

theorem Run.waitNoted {notes : List α} (h : Run around noted first notes c)
    (hactive : c.active = none) (time : Rat) :
    Run around noted first (notes ++ (waitNoted noted time c).1) (waitNoted noted time c).2 := by
  unfold Cabinet.waitNoted
  split
  · rename_i hwaits
    obtain ⟨hready, hnow, hdue⟩ := hwaits
    exact h.next (.wait hactive (List.isEmpty_iff.mp hready) hnow hdue)
  · simpa using h

theorem Run.deedNoted {notes : List α} (h : Run around noted first notes c) (deed : Deed) :
    Run around noted first (notes ++ (deedNoted around noted deed c).1)
      (deedNoted around noted deed c).2 := by
  cases deed with
  | steps limit => exact h.stepsNoted limit
  | move pressed =>
    cases hactive : c.active with
    | none => simpa [Cabinet.deedNoted, hactive] using h.next (.move pressed hactive)
    | some number => simpa [Cabinet.deedNoted, hactive] using h
  | disable =>
    cases hactive : c.active with
    | none => simpa [Cabinet.deedNoted, hactive] using h.next (.disable hactive)
    | some number => simpa [Cabinet.deedNoted, hactive] using h
  | wait time =>
    cases hactive : c.active with
    | none => simpa [Cabinet.deedNoted, hactive] using h.waitNoted hactive time
    | some number => simpa [Cabinet.deedNoted, hactive] using h
  | due =>
    cases hactive : c.active with
    | none => simpa [Cabinet.deedNoted, hactive] using h.overdueNoted hactive
    | some number => simpa [Cabinet.deedNoted, hactive] using h

/-- What deeds lead to is reached by a run. -/
theorem Run.deedsNoted {notes : List α} (h : Run around noted first notes c) (deeds : List Deed) :
    Run around noted first (notes ++ (deedsNoted around noted deeds c).1)
      (deedsNoted around noted deeds c).2 := by
  induction deeds generalizing c notes with
  | nil => simpa [Cabinet.deedsNoted] using h
  | cons deed rest ih =>
    unfold Cabinet.deedsNoted
    rw [← List.append_assoc]
    exact ih (h.deedNoted deed)

/-! ## The end of the countdown -/

/-- The cabinet at the end of its countdown, before anyone is told. -/
def expired (due : Rat) (c : Cabinet ω) : Cabinet ω :=
  { c with
    timer := c.timer.ranOut
    agenda := { c.agenda with now := due, deadlines := [] } }

theorem expired_unarmed (due : Rat) (c : Cabinet ω) : (c.expired due).Unarmed := ⟨rfl, rfl⟩

/-- If nothing is ready, the next call is the end of the pending countdown. -/
theorem Clocked.next? {agenda : Agenda Call} {call : Call} {horizon : Rat} (hclocked : c.Clocked)
    (hready : c.agenda.ready = []) (h : c.agenda.next? horizon = some (call, agenda)) :
    ∃ due, c.EndsAt due ∧ call = .countdownOver ∧
      perform around call { c with agenda } =
        ((notify around .elapsed).result (c.expired due)).2 := by
  rcases Agenda.next?_cases h with ⟨_, hready', -⟩ | ⟨d, rest, -, hdeadlines, -, rfl, rfl⟩
  · cases hready.symm.trans hready'
  · rcases hclocked with ⟨-, hnone⟩ | ⟨due, number, hhandle, hends⟩
    · cases hnone.symm.trans hdeadlines
    · obtain ⟨rfl, rfl⟩ := List.cons.inj (hends.symm.trans hdeadlines)
      refine ⟨due, ⟨number, hhandle, hends⟩, rfl, ?_⟩
      simp only [perform, countdownOver, updateTimer, Act.result, Act.bind_apply,
        Act.modify_apply, expired, hready]

/-- Nothing but the end of the pending countdown can be due ahead of what is ready. -/
theorem Clocked.overdue? {agenda : Agenda Call} {call : Call} (hclocked : c.Clocked)
    (h : c.agenda.overdue? = some (call, agenda)) :
    ∃ due ≤ c.agenda.now, c.EndsAt due ∧ call = .countdownOver ∧
      perform around call { c with agenda } =
        ((notify around .elapsed).result (c.expired c.agenda.now)).2 := by
  rcases hclocked with ⟨-, hdeadlines⟩ | ⟨due, number, hhandle, hdeadlines⟩
  · simp [Agenda.overdue?, hdeadlines] at h
  · simp only [Agenda.overdue?, hdeadlines] at h
    split at h
    · rename_i hdue
      simp only [Option.some.injEq, Prod.mk.injEq] at h
      obtain ⟨rfl, rfl⟩ := h
      refine ⟨due, hdue, ⟨number, hhandle, hdeadlines⟩, rfl, ?_⟩
      simp only [perform, countdownOver, updateTimer, Act.result, Act.bind_apply,
        Act.modify_apply, expired]
    · cases h

end Cabinet

end DigitRace
