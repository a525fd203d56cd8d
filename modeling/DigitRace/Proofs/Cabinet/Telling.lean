import DigitRace.Proofs.Cabinet.Entering

/-!
# What is shown as the score

One routine shows the score as a text, and one frame shows the same text again. Nothing else that
the tasks do calls a text whose end this frame awaits, so a task that has one text to show as the
score goes on with this text, whatever it does.
-/

namespace DigitRace

namespace Act

variable {σ α β : Type} {holds : α → Prop}

/-- Every result of an act has a property. -/
def Yields (holds : α → Prop) (act : Act σ α) : Prop :=
  ∀ s a s', act s = .ok a s' → holds a

namespace Yields

theorem pure {a : α} (h : holds a) : Yields holds (Pure.pure a : Act σ α) := by
  intro s a' s' hact
  obtain ⟨rfl, -⟩ := EStateM.Result.ok.inj hact
  exact h

theorem bind {act : Act σ β} {next : β → Act σ α} (h : ∀ b, Yields holds (next b)) :
    Yields holds (act >>= next) := by
  intro s a s' hact
  rw [bind_apply] at hact
  cases hfirst : act s with
  | ok b between =>
    simp only [hfirst] at hact
    exact h b between a s' hact
  | error => simp [hfirst] at hact

theorem ite {p : Prop} [Decidable p] {act other : Act σ α} (h : Yields holds act)
    (hother : Yields holds other) : Yields holds (if p then act else other) := by
  split
  · exact h
  · exact hother

end Yields

end Act

/-- A frame that shows a text as the score shows this one. -/
@[simp]
def Frame.Tells (text : Value) : Frame → Prop
  | .scoreShown shown => shown = text
  | _ => True

/-- A task that shows a text as the score shows this one. -/
structure Task.Tells (text : Value) (task : Task) : Prop where
  calls : ∀ t shown rest, task.state = .calling (.text t) →
    task.stack = .scoreShown shown :: rest → t = text
  stack : ∀ frame ∈ task.stack, frame.Tells text

/-- A task with a frame put on its stack and a state to go on with. -/
def Task.onward (state : Task.State) (after : Option Frame) : Task → Task :=
  fun task => { task with state, stack := after.toList ++ task.stack }

theorem Task.Tells.onward {text : Value} {state : Task.State} {after : Option Frame} {task : Task}
    (h : task.Tells text) (hafter : ∀ frame ∈ after, frame.Tells text)
    (hstate : ∀ t, state = .calling (.text t) → ∃ frame, after = some frame ∧
      ∀ shown, frame = .scoreShown shown → t = text) :
    (Task.onward state after task).Tells text where
  calls t shown rest hcalls hstack := by
    obtain ⟨frame, rfl, htext⟩ := hstate t hcalls
    obtain ⟨rfl, -⟩ := List.cons.inj hstack
    exact htext shown rfl
  stack frame hmem := by
    rcases List.mem_append.mp hmem with hmem | hmem
    · exact hafter frame (Option.mem_toList.mp hmem)
    · exact h.stack frame hmem

namespace Cabinet

open Act

variable {ω : Type} {c c' : Cabinet ω} {text : Value} {number : Nat}

/-- What a task goes on with shows no other text as the score. -/
@[simp]
def Progress.Tells (text : Value) : Progress → Prop
  | .done _ => True
  | .await _ after => ∀ frame ∈ after, frame.Tells text
  | .call (.text t) after =>
    ∃ frame, after = some frame ∧ frame.Tells text ∧ ∀ shown, frame = .scoreShown shown → t = text
  | .call _ after => ∀ frame ∈ after, frame.Tells text

/-! ## Routines and frames -/

namespace Progress.Tells

variable {around : Surroundings ω}

theorem awaitTicks (ticks : Value) {after : Option Frame}
    (h : ∀ frame ∈ after, frame.Tells text) :
    Yields (Progress.Tells text) (awaitTicks around ticks after) :=
  .bind fun _ => .bind fun _ => .bind fun _ => .pure h

theorem continueText (items : List Value) :
    Yields (Progress.Tells text) (pure (continueText items) : Play ω Progress) := by
  cases items with
  | nil => exact .pure trivial
  | cons character rest => exact .pure (by simp [Cabinet.continueText])

theorem continueGames (games : Value) (played : Nat) :
    Yields (Progress.Tells text) (continueGames games played : Play ω Progress) :=
  .bind fun _ => .ite (.pure (by simp)) (.pure trivial)

theorem continueCycle (cycle : Cycle) (rest : List String) (round : Nat) (rounds : Value) :
    Yields (Progress.Tells text) (continueCycle around cycle rest round rounds) := by
  unfold Cabinet.continueCycle
  split
  · exact .bind fun _ => awaitTicks _ (by simp)
  · refine .bind fun more => ?_
    split
    · exact .bind fun _ => awaitTicks _ (by simp)
    · exact .pure trivial

theorem continueTicks (round : Nat) (rounds : Value) :
    Yields (Progress.Tells text) (continueTicks around round rounds) :=
  .bind fun _ => .ite
    (.bind fun _ => .bind fun _ => .bind fun _ => awaitTicks _ (by simp))
    (.pure trivial)

theorem pollSeconds (last digit : Int) (round : Nat) (rounds : Value) :
    Yields (Progress.Tells text) (pollSeconds around last digit round rounds) :=
  .bind fun _ => .ite (awaitTicks _ (by simp))
    (.bind fun _ => .pure (by simp))

theorem continueElapsed (digit : Int) (round : Nat) (rounds : Value) :
    Yields (Progress.Tells text) (continueElapsed around digit round rounds) :=
  .bind fun _ => .ite (awaitTicks _ (by simp)) (.pure trivial)

theorem continueEdges (round : Nat) (rounds : Value) :
    Yields (Progress.Tells text) (continueEdges round rounds : Play ω Progress) :=
  .bind fun _ => .ite
    (.bind fun _ => .bind fun _ => .pure (by simp)) (.pure trivial)

theorem beginTest (test : SelfTest) (rounds : Value) :
    Yields (Progress.Tells text) (beginTest around test rounds) := by
  cases test with
  | segments => exact continueCycle segmentCycle [] 0 rounds
  | racing => exact continueCycle racingCycle [] 0 rounds
  | characters => exact continueCycle characterCycle [] 0 rounds
  | ticks => exact .bind fun _ => continueTicks _ _
  | seconds => exact .bind fun _ => .bind fun _ => .bind fun _ => .pure (by simp)
  | elapsed => exact .bind fun _ => continueElapsed _ _ _
  | keys => exact .bind fun _ => .bind fun _ => continueEdges _ _

/-- No other routine shows a text as the score. -/
theorem begin {routine : Routine} (h : routine ≠ .score) :
    Yields (Progress.Tells text) (begin around routine) := by
  have hnone : ∀ frame ∈ (none : Option Frame), frame.Tells text := nofun
  cases routine with
  | forTicks ticks => exact awaitTicks ticks hnone
  | keyReleased =>
    exact .bind fun _ => .ite (.pure trivial) (.bind fun _ => .bind fun _ => .pure hnone)
  | pressOrEvent =>
    exact .bind fun _ => .ite (.pure trivial)
      (.bind fun _ => .bind fun _ => .bind fun _ => .pure hnone)
  | countdown count =>
    exact .bind fun _ => .bind fun _ => .bind fun _ => .bind fun _ => .bind fun _ => .pure hnone
  | flashingDigit value => exact .bind fun _ => .pure (by simp)
  | character character =>
    exact .bind fun _ => .bind fun _ => .pure (by simp)
  | text text => exact .bind fun items => continueText items
  | demo => exact .bind fun _ => .pure (by simp)
  | play =>
    exact .bind fun _ => .bind fun _ => .bind fun _ => .bind fun _ => .bind fun _ => .pure hnone
  | game => exact .bind fun _ => .bind fun _ => .pure (by simp)
  | score => exact absurd rfl h
  | run games => exact .pure (by simp)
  | selfTest test rounds => exact beginTest test rounds
  | secondsRound last digit round rounds =>
    exact .bind fun _ => .ite (pollSeconds _ _ _ _) (.pure trivial)

/-- The score is shown as it is. -/
theorem begin_score {progress : Progress} (h : Cabinet.begin around .score c = .ok progress c') :
    progress.Tells (.text (scoreText c.race.score)) := by
  simp only [Cabinet.begin, bind_apply, enter_apply, get_apply, pure_apply] at h
  obtain ⟨rfl, -⟩ := EStateM.Result.ok.inj h
  exact ⟨_, rfl, rfl, fun _ _ => rfl⟩

/-- A frame goes on with the text that it has shown. -/
theorem resume {frame : Frame} (h : frame.Tells text) (answer : Answer) :
    Yields (Progress.Tells text) (resume around answer frame) := by
  cases frame with
  | characterShown =>
    exact .ite (.pure trivial) (.bind fun _ => .bind fun _ => .pure (by simp))
  | textRest rest => exact .ite (.pure trivial) (continueText rest)
  | readyToFlash value =>
    exact .bind fun _ => .bind fun _ => .bind fun _ => .bind fun _ => .pure (by simp)
  | demoTextShown =>
    exact .ite (.pure trivial) (.bind fun _ => .bind fun _ => .bind fun _ => .bind fun _ =>
      .bind fun _ => .pure (by simp))
  | countedDown => exact .pure (by simp)
  | roundPlayed => exact .bind fun _ => .bind fun _ => .pure (by simp)
  | carsFlashed =>
    exact .bind fun _ => .ite (.bind fun _ => .pure trivial)
      (.pure (by simp))
  | scoreShown shown =>
    exact .ite (.pure trivial) (.pure ⟨_, rfl, h, fun _ _ => h⟩)
  | demoEnded games =>
    exact .ite (.bind fun _ => .pure (by simp))
      (.pure (by simp))
  | nextGame games played => exact continueGames games played
  | gameEnded games played => exact .bind fun _ => .pure (by simp)
  | releasedAfterGame games played => exact .pure (by simp)
  | scoreSeen games played => exact .bind fun _ => .pure (by simp)
  | cycled cycle rest round rounds => exact continueCycle cycle rest round rounds
  | ticksShown round rounds => exact continueTicks round rounds
  | secondPolled last digit round rounds => exact pollSeconds last digit round rounds
  | elapsedSeen digit round rounds =>
    exact .bind fun _ => .ite (.bind fun _ => continueElapsed _ _ _) (.pure trivial)
  | edgeSeen round rounds => exact .bind fun _ => continueEdges _ _

end Progress.Tells

/-! ## Tasks -/

/-- Every task that shows a text as the score shows this one. -/
def Tells (text : Value) (c : Cabinet ω) : Prop :=
  ∀ (n : Nat) (task : Task), c.tasks[n]? = some task → task.Tells text

theorem Tells.of_tasks (h : c.Tells text) (htasks : c'.tasks = c.tasks) : c'.Tells text := by
  intro n task htask
  rw [htasks] at htask
  exact h n task htask

/-- One task is changed and tells the text still. -/
theorem Tells.of_modify (h : c.Tells text) {change : Task → Task}
    (htasks : c'.tasks = c.tasks.modify number change)
    (hchange : ∀ task, c.tasks[number]? = some task → task.Tells text →
      (change task).Tells text) : c'.Tells text := by
  intro n task htask
  rw [htasks, Array.getElem?_modify] at htask
  by_cases hn : number = n
  · subst hn
    rw [if_pos rfl] at htask
    obtain ⟨before, hbefore, rfl⟩ := Option.map_eq_some_iff.mp htask
    exact hchange before hbefore (h number before hbefore)
  · rw [if_neg hn] at htask
    exact h n task htask

theorem tasks_onward (state : Task.State) (after : Option Frame) (c : Cabinet ω) :
    (updateTask number (fun task => { task with state }) (pushFrame number after c)).tasks =
      c.tasks.modify number (Task.onward state after) := by
  refine Array.ext_getElem? fun n => ?_
  unfold Task.onward
  cases after <;>
    by_cases hn : number = n <;>
      simp [updateTask, pushFrame, Array.getElem?_modify, hn, Function.comp_def]

/-- A task that ends shows nothing, so only the others count. -/
theorem tells_ended (h : ∀ n, number ≠ n → ∀ task, c.tasks[n]? = some task → task.Tells text)
    (ending : Task.Ending) : (endTask number ending c).Tells text := by
  intro n task htask
  simp only [endTask, updateTask, Array.getElem?_modify] at htask
  by_cases hn : number = n
  · rw [if_pos hn] at htask
    obtain ⟨before, -, rfl⟩ := Option.map_eq_some_iff.mp htask
    exact ⟨by simp, by simp⟩
  · rw [if_neg hn] at htask
    exact h n hn task htask

/-- A task goes on with one more frame, or one less, and shows what it showed. -/
theorem Tells.onward (h : c.Tells text) {state : Task.State} {after : Option Frame}
    (hafter : ∀ frame ∈ after, frame.Tells text)
    (hstate : ∀ t, state = .calling (.text t) → ∃ frame, after = some frame ∧
      ∀ shown, frame = .scoreShown shown → t = text) :
    (updateTask number (fun task => { task with state }) (pushFrame number after c)).Tells text :=
  h.of_modify (tasks_onward state after c) fun _ _ htask => htask.onward hafter hstate

/-- What a task comes to is taken over. -/
theorem Tells.proceed {progress : Progress} (h : c.Tells text) (hprogress : progress.Tells text) :
    (proceed number progress c).Tells text := by
  cases progress with
  | done answer =>
    have hnone : ∀ frame ∈ (none : Option Frame), frame.Tells text := nofun
    exact h.onward hnone (by simp)
  | await w after =>
    simp only [Cabinet.proceed, awaitWatch]
    split
    · exact h.onward hprogress (by simp)
    · refine tells_ended (fun n hn task htask => h n task ?_) _
      cases after with
      | none => exact htask
      | some frame => simpa [pushFrame, updateTask, Array.getElem?_modify, hn] using htask
    · exact (h.onward hprogress (by simp)).of_tasks rfl
  | call routine after =>
    cases routine with
    | text t =>
      obtain ⟨frame, rfl, hframe, htext⟩ := hprogress
      refine h.onward (by simpa using hframe) fun t' ht => ⟨frame, rfl, ?_⟩
      obtain rfl : t = t' := by simpa using ht
      exact htext
    | _ => exact h.onward hprogress (by simp)

theorem Opens.tasks {act : Play ω Progress} (h : Opens act) (c : Cabinet ω) :
    (act.result c).2.tasks = c.tasks := by
  have hcomes := h c
  generalize act.result c = result at hcomes ⊢
  cases hcomes with
  | done answer hafter => exact hafter.tasks
  | call routine frame hafter => exact hafter.tasks
  | awaits kind frame hafter => exact hafter.tasks
  | fails fault hafter => exact hafter.tasks
  | forsakes fault kind hafter => exact hafter.tasks

theorem Tells.carry {act : Play ω Progress} (h : c.Tells text) (hopens : Opens act)
    (hact : ∀ progress c', act c = .ok progress c' → progress.Tells text) :
    (carry number act c).Tells text := by
  have hafter : (act.result c).2.Tells text := h.of_tasks (hopens.tasks c)
  cases hresult : act c with
  | ok progress after =>
    rw [result_of_ok hresult] at hafter
    simp only [Cabinet.carry, hresult]
    exact hafter.proceed (hact progress after hresult)
  | error fault after =>
    rw [result_of_error hresult] at hafter
    simp only [Cabinet.carry, hresult]
    exact tells_ended (fun n _ => hafter n) _

/-- A task that is carried on shows what it showed, and the score if it comes to show it. -/
theorem Tells.carryOn (eye : Onlooker ω) (h : c.Tells text)
    (hscore : ∀ task, c.tasks[number]? = some task → task.state = .calling .score →
      text = .text (scoreText c.race.score)) : (carryOn eye.around number c).Tells text := by
  have hleft : { c with active := none }.Tells text := h.of_tasks rfl
  unfold Cabinet.carryOn
  cases htask : c.tasks[number]? with
  | none => exact hleft
  | some task =>
    obtain ⟨state, stack, cancelRequested⟩ := task
    cases state with
    | calling routine =>
      refine h.carry (.begin eye routine) ?_
      by_cases hroutine : routine = .score
      · subst hroutine
        intro progress c' hact
        rw [hscore _ htask rfl]
        exact Progress.Tells.begin_score hact
      · exact Progress.Tells.begin hroutine c
    | answering answer =>
      cases stack with
      | nil => exact tells_ended (fun n _ => h n) _
      | cons frame rest =>
        have hown := h _ _ htask
        let popped := updateTask number (fun task => { task with stack := rest }) c
        have htasks : popped.tasks =
            c.tasks.modify number fun task => { task with stack := rest } := rfl
        have hpopped : popped.Tells text := by
          refine h.of_modify htasks fun task hbefore _ => ?_
          obtain rfl := Option.some.inj (htask.symm.trans hbefore)
          exact ⟨by simp, fun frame hmem => hown.stack frame (List.mem_cons_of_mem _ hmem)⟩
        have hframe : frame.Tells text := hown.stack frame (List.mem_cons_self ..)
        exact hpopped.carry (.resume eye answer frame) (Progress.Tells.resume hframe answer _)
    | waiting => exact hleft
    | ended => exact hleft

end Cabinet

end DigitRace
