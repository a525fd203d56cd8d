import DigitRace.Proofs.Cabinet.Calling
import DigitRace.Proofs.Demo.Driver

/-!
# The presses that the demo hears

The demo hears a press while it waits and nothing else is left to do, and a wait of its text that
begins while the key is down finds it. Such a press ends the demo without delay, and the demo
answers yes if there was one and no if there was none. Between the end of a wait and the call that
wakes the task nobody listens to the key, so a press is missed there, unless the key is still down
when the text waits again. The drive does not look whether the key is down.
-/

namespace DigitRace

/-- The answer of a task that goes back to nobody, if it is yes or no. -/
def Task.verdict? : Task → Option Bool
  | { state := .answering (.flag verdict), stack := [], cancelRequested := false } => some verdict
  | _ => none

theorem Task.eq_of_verdict? {task : Task} {verdict : Bool} (h : task.verdict? = some verdict) :
    task = { state := .answering (.flag verdict) } := by
  unfold verdict? at h
  split at h
  · rw [Option.some.inj h]
  · cases h

namespace Cabinet

variable {ω : Type} {eye : Onlooker ω} {first c c' : Cabinet ω} {rate : Int}
  {stack frames : List Frame} {notes : List DemoNote} {answer : Answer}

/-! ## The answer -/

/-- The demo says yes if it heard a press; else it was called off, or came to its last junction. -/
theorem DemoEnd.verdict_eq {pressed : Bool} (h : DemoEnd rate c pressed notes) :
    pressed = decide (.heard ∈ notes) ∧
      (.heard ∉ notes → .calledOff ∈ notes ∨ c.race.score = 20) := by
  cases h with
  | text => simp
  | pressed => simp
  | calledOff => simp
  | last _ hscore => exact ⟨by simp, fun _ => .inr hscore⟩

/-- A demo that has an answer for whoever called it is over. -/
theorem InDemo.back_of_answering (h : InDemo rate stack notes c)
    (hcarried : Carried (.answering answer) stack c) :
    ∃ pressed, answer = .flag pressed ∧ DemoEnd rate c pressed notes := by
  cases h with
  | calling hother => cases (hcarried.task_eq hother.tasks).1
  | waiting _ htasks => cases (hcarried.task_eq htasks).1
  | told hqueued => cases (hcarried.task_eq hqueued.tasks).1
  | telling hother hscrolls =>
    have hlength := hscrolls.length_lt
    rw [(hcarried.task_eq hother.tasks).2] at hlength
    exact absurd hlength (Nat.lt_irrefl _)
  | driving _ htasks => cases (hcarried.task_eq htasks).1
  | ending hqueued => cases (hcarried.task_eq hqueued.tasks).1
  | back hother hend =>
    cases (hcarried.task_eq hother.tasks).1
    exact ⟨_, rfl, hend⟩
  | failed hover => cases (hcarried.task_eq hover.tasks).1

/-! ## The way of a press -/

/-- A press comes through the text to whoever called the demo. -/
theorem pressed_run (eye : Onlooker ω) (h : Scrolls stack frames)
    (hcarried : Carried (.answering (.flag true)) frames c) (horizon : Rat) :
    ∃ steps ≤ 3, Carried (.answering (.flag true)) stack
      (run eye.around (fun _ => false) horizon steps c) := by
  obtain ⟨texts, rfl, htexts, hlength⟩ := h.texts
  refine ⟨texts.length, hlength, ?_⟩
  rw [(hcarried.unbroken_pressed eye htexts).run_eq horizon]
  exact hcarried.goesOver _ _

/-- A press that was heard ends the demo at the next opportunity. -/
theorem InDemo.heard_run (h : InDemo rate stack notes c) (hheard : .heard ∈ notes)
    (horizon : Rat) : ∃ steps ≤ 4, Carried (.answering (.flag true)) stack
      (run eye.around (fun _ => false) horizon steps c) := by
  have hyes {pressed : Bool} (hnotes : notes = DemoNote.ofPress pressed) : pressed = true := by
    cases pressed with
    | true => rfl
    | false => simp [hnotes, DemoNote.ofPress] at hheard
  cases h with
  | told hqueued hanswer hscrolls _ hnotes =>
    obtain rfl := hyes hnotes
    obtain ⟨hcarried, -⟩ := hqueued.wake_waiting hanswer
    obtain ⟨steps, hsteps, hrun⟩ := pressed_run eye hscrolls hcarried horizon
    refine ⟨steps + 1, by omega, ?_⟩
    rw [run_step (hqueued.step? horizon)]
    exact hrun
  | telling hcarried hscrolls _ hnotes =>
    obtain rfl := hyes hnotes
    obtain ⟨steps, hsteps, hrun⟩ := pressed_run eye hscrolls hcarried horizon
    exact ⟨steps, by omega, hrun⟩
  | ending hqueued hanswer hend =>
    rw [hend.verdict_eq.1, decide_eq_true hheard] at hanswer
    obtain ⟨hcarried, -⟩ := hqueued.wake_waiting hanswer
    refine ⟨1, by decide, ?_⟩
    rw [run_step (hqueued.step? horizon)]
    exact hcarried
  | back hcarried hend =>
    rw [hend.verdict_eq.1, decide_eq_true hheard] at hcarried
    exact ⟨0, by decide, hcarried⟩
  | _ => simp_all

/-- While no task is carried on, nothing is left to do, or task 0 is about to be called. -/
theorem InDemo.ready (h : InDemo rate stack notes c) (hactive : c.active = none) :
    c.agenda.ready = [] ∨ c.agenda.ready = [.task 0] := by
  cases h with
  | calling hcarried => simp [hcarried.active] at hactive
  | waiting hlistening => exact .inl hlistening.ready
  | told hqueued => exact .inr hqueued.ready
  | telling hcarried => simp [hcarried.active] at hactive
  | driving hlistening => exact .inl hlistening.ready
  | ending hqueued => exact .inr hqueued.ready
  | back hcarried => simp [hcarried.active] at hactive
  | failed hover => exact .inl hover.ready

/-! ## What the demo hears -/

/-- **A press that is heard ends the demo.** Call the demo on a circuit that passes the check, and
let anything happen up to its answer but that someone else arms the timer. If the demo comes to an
answer, it says whether a press was heard; if none was, the countdown of its drive was called off,
or 20 junctions were taken. Once a press was heard, the demo comes to say so in 4 steps at most,
whenever the program goes on. A press is heard at all times but one: while task 0 is about to be
called. -/
theorem demo_hears_presses (eye : Onlooker ω) (hcalled : Carried (.calling .demo) stack first)
    (hclocked : first.Clocked) (hwhole : first.race.circuit.Whole)
    (hcheck : first.race.circuit.check = .ok ())
    (hrun : Run eye.around (demoNotes stack.length) first notes c) (hbeyond : .beyond ∉ notes) :
    (∀ answer, Carried (.answering answer) stack c → answer = .flag (decide (.heard ∈ notes)) ∧
      (.heard ∉ notes → .calledOff ∈ notes ∨ c.race.score = 20)) ∧
    (.heard ∈ notes → ∀ horizon, ∃ steps ≤ 4, Carried (.answering (.flag true)) stack
      (run eye.around (fun _ => false) horizon steps c)) ∧
    ∀ c', Happens eye.around c (.move true) c' →
      .beyond ∉ demoNotes stack.length c (.move true) c' →
      .heard ∈ demoNotes stack.length c (.move true) c' ∨ c.agenda.ready = [.task 0] := by
  obtain ⟨hfit, hstands⟩ := hrun.inDemo hcalled (fit_of_check hclocked hwhole hcheck) hbeyond
  refine ⟨fun answer hanswering => ?_, fun hheard horizon => hstands.heard_run hheard horizon,
    fun c' hhappens hbefore => ?_⟩
  · obtain ⟨pressed, rfl, hend⟩ := hstands.back_of_answering hanswering
    obtain ⟨hverdict, hnone⟩ := hend.verdict_eq
    exact ⟨by rw [hverdict], hnone⟩
  · cases hhappens with
    | move _ hactive =>
      rcases hstands.ready hactive with hready | hready
      · left
        cases hover : demoOver stack.length c with
        | true => simp [demoNotes, hover] at hbefore
        | false => simp [demoNotes, hover, Settled, hactive, hready]
      · exact .inr hready

/-- On the track, the demo says so when a press comes during the wait for the second character. -/
theorem demo_hears_presses_on_track : Carried (.calling .demo) [] (demoCalled .onTrack) ∧
    (demoCalled .onTrack).Clocked ∧ Circuit.Whole Circuit.track ∧
    Circuit.check Circuit.track = .ok () ∧
    ∃ notes c, Run Onlooker.idle.around (demoNotes 0) (demoCalled .onTrack) notes c ∧
      .beyond ∉ notes ∧ .heard ∈ notes ∧ ∃ steps ≤ 4, Carried (.answering (.flag true)) []
        (run Onlooker.idle.around (fun _ => false) 0 steps c) := by
  have hcalled := demoCalled_carried .onTrack
  have hclocked : (demoCalled .onTrack).Clocked := .inl ⟨rfl, rfl⟩
  have hcheck : Circuit.check Circuit.track = .ok () := rfl
  let pressed := deedsNoted Onlooker.idle.around (demoNotes 0) (textDeeds 2 ++ [.move true])
    (demoCalled .onTrack)
  have hrun : Run Onlooker.idle.around (demoNotes 0) (demoCalled .onTrack) pressed.1 pressed.2 :=
    Run.start.deedsNoted (textDeeds 2 ++ [.move true])
  have hnotes : pressed.1 = [.heard] := by decide +kernel
  have hbeyond : .beyond ∉ pressed.1 := by
    rw [hnotes]
    decide
  have hheard : .heard ∈ pressed.1 := by
    rw [hnotes]
    exact List.mem_singleton_self _
  obtain ⟨-, hends, -⟩ := demo_hears_presses Onlooker.idle hcalled hclocked Circuit.track_whole
    hcheck hrun hbeyond
  exact ⟨hcalled, hclocked, Circuit.track_whole, hcheck, pressed.1, pressed.2, hrun, hbeyond,
    hheard, hends hheard 0⟩

/-- The edges of the key, heard or not. -/
def edgesOf (_ : Cabinet ω) (happening : Happening) (_ : Cabinet ω) : List Bool :=
  match happening with
  | .move pressed => [pressed]
  | _ => []

/-- A press comes when the last wait of the text is over and the task is not yet awake, and the key
stays down; later the drive is called off. -/
def pressInBetween : List Deed :=
  textDeeds 27 ++ [.disable, .move true, .steps 10, .disable, .steps 1]

/-- That press is missed: the key is down at the end, and the demo says no. -/
theorem demo_misses_press_in_between : ∃ edges c,
    Run Onlooker.idle.around edgesOf (demoCalled .onTrack) edges c ∧ edges = [true] ∧
      c.key.pressed = true ∧ Carried (.answering (.flag false)) [] c ∧
      ¬∀ answer, Carried (.answering answer) [] c → answer = .flag true := by
  let last := deedsNoted Onlooker.idle.around edgesOf pressInBetween (demoCalled .onTrack)
  have hrun : Run Onlooker.idle.around edgesOf (demoCalled .onTrack) last.1 last.2 :=
    Run.start.deedsNoted pressInBetween
  have hedges : last.1 = [true] := by decide +kernel
  have hpressed : last.2.key.pressed = true := by decide +kernel
  have hsize : last.2.tasks.size = 1 := by decide +kernel
  have hverdict : (last.2.tasks[0]?).bind Task.verdict? = some false := by decide +kernel
  have hactive : last.2.active = some 0 := by decide +kernel
  have hready : last.2.agenda.ready.isEmpty = true := by decide +kernel
  have hdeaf : last.2.timer.listeners = [] ∧ last.2.key.listeners = [] := by decide +kernel
  obtain ⟨task, htask, hanswer⟩ := Option.bind_eq_some_iff.mp hverdict
  obtain ⟨only, honly⟩ := Array.size_eq_one_iff.mp hsize
  have htasks : last.2.tasks = #[{ state := .answering (.flag false) }] := by
    rw [← Task.eq_of_verdict? hanswer, honly]
    simpa [honly] using htask
  have hcarried : Carried (.answering (.flag false)) [] last.2 :=
    ⟨htasks, hactive, List.isEmpty_iff.mp hready, hdeaf⟩
  exact ⟨last.1, last.2, hrun, hedges, hpressed, hcarried, fun h => by cases h _ hcarried⟩

end Cabinet

end DigitRace
