import DigitRace.Proofs.Cabinet.Happening
import DigitRace.Proofs.Guise.Routine

/-!
# Runs in another guise

Every step of the one game is a step of the other, up to the point at which a game is over and only
the other game may go on to the next. What is ready goes first by either clock, and what is due by a
time is due by that time by the other clock.
-/

namespace DigitRace.Guise

open Cabinet

variable {ω : Type} {g : Guise ω} {around around' : Surroundings ω} {c : Cabinet ω} {start : Rat}
  {number : Nat}

/-- A change of the one game, and what it is in the other. -/
def Tracks (g : Guise ω) (change change' : Cabinet ω → Cabinet ω) : Prop :=
  ∀ c start, g.Fits c →
    g.Fits (change c) ∧ ∃ start', change' (g.dress start c) = g.dress start' (change c)

theorem Tracks.comp {change₁ change₁' change₂ change₂' : Cabinet ω → Cabinet ω}
    (h₂ : g.Tracks change₂ change₂') (h₁ : g.Tracks change₁ change₁') :
    g.Tracks (fun c => change₂ (change₁ c)) (fun c => change₂' (change₁' c)) := by
  intro c start hfits
  obtain ⟨hfits₁, start₁, hchange₁⟩ := h₁ c start hfits
  simp only [hchange₁]
  exact h₂ _ start₁ hfits₁

/-! ## Tasks -/

theorem Fits.task (h : g.Fits c) {task : Task} (htask : c.tasks[number]? = some task) :
    g.TaskFits task :=
  h.tasks _ (Array.mem_of_getElem? htask)

theorem dress_tasks_getElem? (number : Nat) :
    (g.dress start c).tasks[number]? = (c.tasks[number]?).map g.task := by
  simp [dress]

theorem TaskFits.state {task : Task} (h : g.TaskFits task) {state : Task.State}
    (hstate : ∀ routine, state = .calling routine → g.RoutineFits routine) :
    g.TaskFits { task with state } :=
  ⟨hstate, h.2⟩

/-- A change of a task that the other game makes as well. -/
theorem tracks_updateTask {change change' : Task → Task}
    (hfits : ∀ t, g.TaskFits t → g.TaskFits (change t))
    (hchange : ∀ t, change' (g.task t) = g.task (change t)) :
    g.Tracks (updateTask number change : Cabinet ω → Cabinet ω) (updateTask number change') := by
  intro c start h
  refine ⟨⟨h.pace, h.wait, h.kinds, fun t ht => ?_, h.chances, h.draws⟩, start, ?_⟩
  · obtain ⟨i, hi⟩ := Array.mem_iff_getElem?.1 ht
    simp only [updateTask, Array.getElem?_modify] at hi
    split at hi
    · obtain ⟨before, hbefore, rfl⟩ := Option.map_eq_some_iff.1 hi
      exact hfits _ (h.task hbefore)
    · exact h.task hi
  · have htasks : (c.tasks.map g.task).modify number change' =
        (c.tasks.modify number change).map g.task := by
      refine Array.ext_getElem? fun i => ?_
      rw [Array.getElem?_modify, Array.getElem?_map, Array.getElem?_map, Array.getElem?_modify]
      split
      · cases c.tasks[i]? <;> simp [hchange]
      · rfl
    simp only [updateTask, dress, htasks]

theorem tracks_idle : g.Tracks (fun c : Cabinet ω => { c with active := none })
    (fun c => { c with active := none }) :=
  fun _ start h => ⟨h.congr rfl, start, rfl⟩

/-- A task that is elsewhere now. -/
theorem tracks_state (state : Task.State)
    (hstate : ∀ routine, state = .calling routine → g.RoutineFits routine) :
    g.Tracks (updateTask number fun task => { task with state } : Cabinet ω → Cabinet ω)
      (updateTask number fun task => { task with state := g.state state }) :=
  tracks_updateTask (fun _ h => h.state hstate) fun _ => rfl

theorem tracks_answering (answer : Answer) :
    g.Tracks
      (updateTask number fun task => { task with state := .answering answer } :
        Cabinet ω → Cabinet ω)
      (updateTask number fun task => { task with state := .answering answer }) :=
  tracks_state (.answering answer) nofun

theorem tracks_endTask (ending : Task.Ending) :
    g.Tracks (endTask number ending : Cabinet ω → Cabinet ω) (endTask number ending) :=
  tracks_idle.comp (tracks_updateTask (fun _ _ => ⟨nofun, by simp⟩) fun _ => rfl)

theorem dress_ending (w : Nat) :
    ((g.dress start c).watches[g.watch w]?).bind Watch.ending =
      (c.watches[w]?).bind Watch.ending := by
  rw [dress, append_getElem?]

theorem tracks_awaitWatch (w : Nat) :
    g.Tracks (awaitWatch number w : Cabinet ω → Cabinet ω) (awaitWatch number (g.watch w)) := by
  intro c start h
  unfold awaitWatch
  rw [dress_ending]
  split
  · exact tracks_answering _ c start h
  · exact tracks_endTask _ c start h
  · have hwaits : g.Tracks
        (fun c : Cabinet ω => { c with
          active := none
          watches := c.watches.modify w fun watch => { watch with waiter := some number } })
        (fun c => { c with
          active := none
          watches := c.watches.modify (g.watch w) fun watch =>
            { watch with waiter := some number } }) := by
      intro c start h
      have hwaiter := h.modifyWatch w (fun watch => { watch with waiter := some number })
        fun _ hkind => hkind
      exact ⟨hwaiter.congr rfl, start, by simp only [dress, append_modify]⟩
    exact hwaits.comp (tracks_state (.waiting w) fun _ hstate => by cases hstate) c start h

theorem tracks_pushFrame {after : Option Frame} (hframe : ∀ f ∈ after, g.FrameFits f) :
    g.Tracks (pushFrame number after : Cabinet ω → Cabinet ω)
      (pushFrame number (after.map g.frame)) := by
  cases after with
  | none => exact fun c start h => ⟨h, start, rfl⟩
  | some f =>
    refine tracks_updateTask (fun t h => ⟨h.1, fun f' hf' => ?_⟩) fun _ => rfl
    obtain rfl | hold := List.mem_cons.1 hf'
    · exact hframe _ rfl
    · exact h.2 _ hold

/-- A task that has come equally far in both games goes on alike. -/
theorem tracks_proceed {p p' : Progress} (h : g.Proceeds p p') :
    g.Tracks (proceed number p : Cabinet ω → Cabinet ω) (proceed number p') := by
  obtain ⟨rfl, hfits⟩ := h
  cases p with
  | done answer => exact tracks_answering answer
  | await w after => exact (tracks_awaitWatch w).comp (tracks_pushFrame hfits)
  | call routine after =>
    refine (tracks_state (.calling routine) ?_).comp (tracks_pushFrame hfits.2)
    rintro _ ⟨⟩
    exact hfits.1

theorem tracks_carry {act act' : Play ω Progress} (h : g.Echoes g.Proceeds act act') :
    g.Tracks (carry number act) (carry number act') := by
  intro c start hfits
  have hact := h c start hfits
  unfold carry
  generalize act c = r, act' (g.dress start c) = r' at hact
  cases hact with
  | ok hrel hfits start => exact tracks_proceed hrel _ start hfits
  | error hfits start => exact tracks_endTask _ _ start hfits

/-! ## Steps -/

/-- The active task is carried on in both games alike. -/
theorem Suits.carryOn (h : g.Suits around around') (hfits : g.Fits c)
    (hnext : AtNextGame number c → g.whole) (start : Rat) :
    g.Fits (carryOn around number c) ∧
      ∃ start', carryOn around' number (g.dress start c) =
        g.dress start' (carryOn around number c) := by
  unfold Cabinet.carryOn
  rw [dress_tasks_getElem?]
  cases htask : c.tasks[number]? with
  | none => exact tracks_idle c start hfits
  | some task =>
    have htaskFits := hfits.task htask
    obtain ⟨state, stack, cancelRequested⟩ := task
    cases state with
    | calling routine => exact tracks_carry (h.begin (htaskFits.1 routine rfl)) c start hfits
    | answering answer =>
      cases stack with
      | nil => exact tracks_endTask _ c start hfits
      | cons f rest =>
        have hresume := h.resume (htaskFits.2 f (List.mem_cons_self ..))
          (fun games played hf => hnext ⟨_, answer, games, played, rest, htask, rfl, by rw [hf]⟩)
          answer
        have hpop : g.Tracks (updateTask number fun task => { task with stack := rest })
            (updateTask number fun task => { task with stack := rest.map g.frame } :
              Cabinet ω → Cabinet ω) :=
          tracks_updateTask
            (fun t ht => ⟨ht.1, fun f' hf' => htaskFits.2 f' (List.mem_cons_of_mem _ hf')⟩)
            fun _ => rfl
        exact (tracks_carry hresume).comp hpop c start hfits
    | waiting w => exact tracks_idle c start hfits
    | ended ending => exact tracks_idle c start hfits

theorem tracks_active : g.Tracks (fun c : Cabinet ω => { c with active := some number })
    (fun c => { c with active := some number }) :=
  fun _ start h => ⟨h.congr rfl, start, rfl⟩

theorem tracks_wake : g.Tracks (wake number : Cabinet ω → Cabinet ω) (wake number) := by
  intro c start h
  unfold wake
  rw [dress_tasks_getElem?]
  cases c.tasks[number]? with
  | none => exact ⟨h, start, rfl⟩
  | some task =>
    obtain ⟨state, stack, cancelRequested⟩ := task
    cases state with
    | ended ending => exact ⟨h, start, rfl⟩
    | calling | answering =>
      cases cancelRequested with
      | true => exact tracks_endTask _ c start h
      | false => exact tracks_active c start h
    | waiting w =>
      cases cancelRequested with
      | true => exact tracks_endTask _ c start h
      | false =>
        simp only [Option.map_some, task, state, Bool.false_eq_true, if_false, dress_ending]
        split
        · exact tracks_active.comp (tracks_answering _) c start h
        · exact tracks_endTask _ c start h
        · exact ⟨h, start, rfl⟩

/-- A call is made in both games alike. -/
theorem Suits.perform (h : g.Suits around around') (call : Call) :
    g.Tracks (perform around call) (perform around' call) := by
  intro c start hfits
  cases call with
  | task number => exact tracks_wake c start hfits
  | countdownOver =>
    obtain ⟨hfits', -, hsame⟩ := h.countdownOver.result hfits start
    exact ⟨hfits', hsame⟩
  | move pressed =>
    obtain ⟨hfits', -, hsame⟩ := (h.move pressed).result hfits start
    exact ⟨hfits', hsame⟩
  | disable =>
    obtain ⟨hfits', -, hsame⟩ := h.disable.result hfits start
    exact ⟨hfits', hsame⟩
  | pauseOver | window => exact ⟨hfits, start, rfl⟩

theorem Fits.withAgenda (h : g.Fits c) (agenda : Agenda Call) : g.Fits { c with agenda } :=
  h.congr rfl

theorem Fits.idle (h : g.Fits c) (agenda : Agenda Call) :
    g.Fits { c with agenda, active := none } :=
  h.congr rfl

/-- A step of the one game is a step of the other, and where the one has none to take by a time,
neither has the other. -/
theorem Suits.step? (h : g.Suits around around') (hwhole : g.whole) (horizon : Rat)
    (hfits : g.Fits c) (start : Rat) :
    match step? around horizon c with
    | none => step? around' (g.time horizon) (g.dress start c) = none
    | some after => g.Fits after ∧ ∃ start',
        step? around' (g.time horizon) (g.dress start c) = some (g.dress start' after) := by
  have hactive : (g.dress start c).active = c.active := rfl
  have hagenda : (g.dress start c).agenda = g.agenda c.agenda := rfl
  unfold Cabinet.step?
  rw [hactive, hagenda, agenda_next?]
  cases c.active with
  | some number =>
    obtain ⟨hafter, start', hsame⟩ := h.carryOn hfits (fun _ => hwhole) start
    exact ⟨hafter, start', congrArg some hsame⟩
  | none =>
    cases c.agenda.next? horizon with
    | none => rfl
    | some next =>
      obtain ⟨hafter, start', hsame⟩ := h.perform next.1 _ start (hfits.idle next.2)
      exact ⟨hafter, start', congrArg some hsame⟩

/-- As many steps lead to the same point in both games. -/
theorem Suits.run (h : g.Suits around around') (hwhole : g.whole) (stop stop' : Cabinet ω → Bool)
    (hstop : ∀ c start, stop' (g.dress start c) = stop c) (horizon : Rat) (limit : Nat) :
    g.Tracks (run around stop horizon limit) (run around' stop' (g.time horizon) limit) := by
  induction limit with
  | zero => exact fun c start hfits => ⟨hfits, start, rfl⟩
  | succ limit ih =>
    intro c start hfits
    have hactive : (g.dress start c).active = c.active := rfl
    have hstep := h.step? hwhole horizon hfits start
    unfold Cabinet.run
    rw [hactive, hstop]
    split
    · exact ⟨hfits, start, rfl⟩
    · cases hnext : Cabinet.step? around horizon c with
      | none =>
        rw [hnext] at hstep
        rw [hstep]
        exact ⟨hfits, start, rfl⟩
      | some after =>
        rw [hnext] at hstep
        obtain ⟨hafter, start', hsame⟩ := hstep
        rw [hsame]
        exact ih after start' hafter

theorem Suits.settle (h : g.Suits around around') (hwhole : g.whole) :
    g.Tracks (settle around) (settle around') :=
  fun c start hfits => h.run hwhole _ _ (fun _ _ => rfl) c.agenda.now patience c start hfits

/-- The other clock is ahead by a time that is scaled. -/
theorem Suits.advance (h : g.Suits around around') (hwhole : g.whole) (seconds : Rat)
    (hfits : g.Fits c) : g.Fits (advance around seconds c) ∧
      ∃ start', advance around' (g.scale * seconds) (g.dress start c) =
        g.dress start' (advance around seconds c) := by
  have hhorizon : (g.dress start c).agenda.now + g.scale * seconds =
      g.time (c.agenda.now + seconds) := (time_add _ _).symm
  obtain ⟨hafter, start', hsame⟩ := h.run hwhole (fun _ => false) (fun _ => false) (fun _ _ => rfl)
    (c.agenda.now + seconds) patience c start hfits
  refine ⟨hafter.withAgenda _, start', ?_⟩
  simp only [Cabinet.advance, hhorizon, hsame]
  rfl

theorem dress_allOver : (g.dress start c).allOver = c.allOver := by
  have htask (t : Task) : (g.task t).isOver = t.isOver := by
    obtain ⟨state, stack, cancelRequested⟩ := t
    cases state <;> rfl
  simp only [allOver, dress, Array.all_map]
  exact congrArg (c.tasks.all ·) (funext htask)

theorem Suits.finish (h : g.Suits around around') (hwhole : g.whole) (seconds : Rat)
    (hfits : g.Fits c) : g.Fits (finish around seconds c) ∧
      ∃ start', finish around' (g.scale * seconds) (g.dress start c) =
        g.dress start' (finish around seconds c) := by
  have hhorizon : (g.dress start c).agenda.now + g.scale * seconds =
      g.time (c.agenda.now + seconds) := (time_add _ _).symm
  unfold Cabinet.finish
  rw [hhorizon]
  exact h.run hwhole _ _ (fun _ _ => dress_allOver) _ patience c start hfits

/-! ## Tasks from outside -/

theorem tracks_spawn {routine : Routine} (hroutine : g.RoutineFits routine) :
    g.Tracks (spawn routine : Cabinet ω → Cabinet ω) (spawn routine) := by
  intro c start h
  refine ⟨⟨h.pace, h.wait, h.kinds, fun t ht => ?_, h.chances, h.draws⟩, start, ?_⟩
  · obtain hold | rfl := Array.mem_push.1 ht
    · exact h.tasks _ hold
    · refine ⟨?_, by simp⟩
      rintro _ ⟨⟩
      exact hroutine
  · simp [spawn, dress, task, state, Agenda.callSoon, agenda]

theorem tracks_cancel : g.Tracks (cancel number : Cabinet ω → Cabinet ω) (cancel number) := by
  have hrequest : g.Tracks
      (updateTask number fun task => { task with cancelRequested := true } : Cabinet ω → Cabinet ω)
      (updateTask number fun task => { task with cancelRequested := true }) :=
    tracks_updateTask (fun _ h => h) fun _ => rfl
  intro c start h
  unfold Cabinet.cancel
  rw [dress_tasks_getElem?]
  cases c.tasks[number]? with
  | none => exact ⟨h, start, rfl⟩
  | some task =>
    obtain ⟨state, stack, cancelRequested⟩ := task
    cases state with
    | ended => exact ⟨h, start, rfl⟩
    | calling | answering => exact hrequest c start h
    | waiting w =>
      simp only [Option.map_some, task, state, dress_ending]
      cases (c.watches[w]?).bind Watch.ending with
      | some ending => exact hrequest c start h
      | none =>
        have hdropped := h.modifyWatch w (fun watch => { watch with ending := some .dropped })
          fun _ hkind => hkind
        refine ⟨hdropped.withAgenda _, start, ?_⟩
        simp only [dress, append_modify]
        rfl

end DigitRace.Guise
