import DigitRace.Proofs.Cabinet.Telling
import DigitRace.Proofs.Course.Ride
import DigitRace.Proofs.Race.Standing

/-!
# What the score counts

Between the beginning of a game and that of the next one the race changes in rounds alone, and the
score is the number of junctions that were taken since the game began. This is the number that the
text after the game tells, however often it is shown.
-/

namespace DigitRace

/-- Only where the score is shown does a frame wait to show it again. -/
theorem Takes.untold {games : Value} {leg : Leg} {reply : Reply} {stack : List Frame}
    (h : Takes games leg reply stack) (hleg : leg.stage ≠ some .scoreDisplay) (shown : Value) :
    .scoreShown shown ∉ stack := by
  induction h with
  | characterShown _ ih => simpa using ih hleg
  | textRest _ _ ih => simpa using ih hleg
  | scoreShown => exact absurd rfl hleg
  | _ => simp

theorem Calls.untold {games : Value} {leg : Leg} {routine : Routine} {stack : List Frame}
    (h : Calls games leg routine stack) (hleg : leg.stage ≠ some .scoreDisplay) (shown : Value) :
    .scoreShown shown ∉ stack := by
  cases h with
  | text _ hrest => exact hrest.untold hleg shown
  | character _ hrest => exact hrest.untold hleg shown
  | pressOrEvent hrest => exact hrest.untold hleg shown
  | keyReleased hrest => exact hrest.untold hleg shown
  | _ => simp

theorem Waits.untold {games : Value} {leg : Leg} {kind : Watch.Kind} {stack : List Frame}
    (h : Waits games leg kind stack) (hleg : leg.stage ≠ some .scoreDisplay) (shown : Value) :
    .scoreShown shown ∉ stack := by
  cases h with
  | regular _ _ hrest => exact hrest.untold hleg shown
  | play => simp

namespace Cabinet

open Act

variable {ω : Type} {eye : Onlooker ω} {c c' first : Cabinet ω} {games : Value} {leg : Leg}
  {happening : Happening} {text : Value}

/-! ## The text -/

/-- Where no frame shows the score, any text is told. -/
private theorem tells_untold {task : Task} (htasks : c.tasks = #[task])
    (h : ∀ shown, .scoreShown shown ∉ task.stack) : c.Tells text := by
  intro n other hother
  obtain rfl : task = other := by
    rw [htasks] at hother
    exact (List.mem_singleton.mp (Array.mem_toList_iff.mpr (Array.mem_of_getElem? hother))).symm
  refine ⟨fun t shown rest _ hstack => ?_, fun frame hmem => ?_⟩
  · exact absurd (hstack ▸ List.mem_cons_self ..) (h shown)
  · cases frame with
    | scoreShown shown => exact absurd hmem (h shown)
    | _ => trivial

/-- Away from the score's screen nothing is told of the score. -/
theorem Courses.untold (h : Courses games leg c) (hstage : c.stage ≠ some .scoreDisplay) :
    c.Tells text := by
  have hleg : leg.stage ≠ some .scoreDisplay := h.stage ▸ hstage
  cases h with
  | stands hupon hstands =>
    cases hstands with
    | begins _ hqueued => exact tells_untold hqueued.tasks (by simp)
    | calling hcarried hcalls => exact tells_untold hcarried.tasks (hcalls.untold hleg)
    | answering hcarried _ htakes => exact tells_untold hcarried.tasks (htakes.untold hleg)
    | waiting _ htasks hwaits => exact tells_untold htasks (hwaits.untold hleg)
    | woken hqueued _ _ htakes => exact tells_untold hqueued.tasks (htakes.untold hleg)
    | returned _ hover => exact tells_untold hover.tasks (by simp)
    | failed _ hover => exact tells_untold hover.tasks (by simp)
  | stalls _ hstalls =>
    cases hstalls with
    | begins _ hqueued => exact tells_untold hqueued.tasks (by simp)
    | calling hcarried hstalling => exact tells_untold hcarried.tasks (by cases hstalling <;> simp)
    | failed _ hover => exact tells_untold hover.tasks (by simp)

/-- A wait leaves the task as it is. -/
private theorem waiting_tasks {w : Nat} {kind : Watch.Kind} {stack : List Frame}
    (hupon : Upon games leg c) (hlistening : Listening kind w c)
    (hwaits : Waits games leg kind stack) (hhappens : Happens eye.around c happening c') :
    c'.tasks = c.tasks := by
  cases hwaits with
  | play =>
    cases hlistening.drives hupon.clocked hupon.sound hupon.paced hhappens with
    | passes hpasses => exact hpasses.kept.tasks
    | _ => rfl
  | regular hregular =>
    cases hlistening.idles hregular hupon.clocked hupon.sound hupon.paced hhappens with
    | passes hpasses => exact hpasses.kept.tasks
    | event hannounces _ hsteady => exact hsteady.tasks.trans hannounces.kept.tasks
    | stays => rfl
    | leaves => rfl

/-- Whatever happens, the score that is told is the one that the race had. -/
private theorem Stands.tells (hstands : Stands games leg c) (hupon : Upon games leg c)
    (hhappens : Happens eye.around c happening c')
    (h : c.Tells (.text (scoreText c.race.score))) :
    c'.Tells (.text (scoreText c.race.score)) := by
  cases hstands with
  | begins _ hqueued =>
    rcases hqueued.cases hupon.clocked hhappens with hpasses | ⟨rfl, rfl⟩
    · exact h.of_tasks hpasses.kept.tasks
    · obtain ⟨-, hwake⟩ := hqueued.wake_calling
      exact h.of_tasks (by rw [hwake])
  | calling hcarried hcalls hends =>
    obtain ⟨rfl, rfl⟩ := hcarried.cases hhappens
    exact h.carryOn eye fun _ _ _ => rfl
  | answering hcarried hadmits htakes =>
    obtain ⟨rfl, rfl⟩ := hcarried.cases hhappens
    exact h.carryOn eye fun _ _ _ => rfl
  | waiting hlistening htasks hwaits hticking hpressed =>
    exact h.of_tasks (waiting_tasks hupon hlistening hwaits hhappens)
  | @woken answer _ _ _ hqueued hanswer hadmits htakes =>
    rcases hqueued.cases hupon.clocked hhappens with hpasses | ⟨rfl, rfl⟩
    · exact h.of_tasks hpasses.kept.tasks
    · obtain ⟨-, hwake⟩ := hqueued.wake_waiting hanswer
      have hanswering : (wake 0 { c with agenda := { c.agenda with ready := [] } }).tasks =
          c.tasks.modify 0 fun task => { task with state := .answering answer } := by
        rw [hwake, hqueued.tasks]
        rfl
      exact h.of_modify hanswering fun task _ htask => ⟨by simp, htask.stack⟩
  | returned _ hover => exact h.of_tasks (hover.passes hupon.clocked hhappens).kept.tasks
  | failed _ hover => exact h.of_tasks (hover.passes hupon.clocked hhappens).kept.tasks

/-- The text that a task is about to show as the score. -/
def shownScore? (task : Task) : Option Value :=
  match task.state, task.stack with
  | .calling (.text t), .scoreShown _ :: _ => some t
  | _, _ => none

/-- A task is about to show a text as the score. -/
def ShowsScore (t : Value) (c : Cabinet ω) : Prop :=
  ∃ (n : Nat) (task : Task), c.tasks[n]? = some task ∧ shownScore? task = some t

theorem Tells.showsScore (h : c.Tells text) {t : Value} (hshows : c.ShowsScore t) : t = text := by
  obtain ⟨n, task, htask, hshown⟩ := hshows
  unfold shownScore? at hshown
  split at hshown
  · rename_i t' shown rest hstate hstack
    obtain rfl := Option.some.inj hshown
    exact (h n task htask).calls t' shown rest hstate hstack
  · cases hshown

/-- The score is shown on its own screen. -/
theorem Courses.showsScore (h : Courses games leg c) {t : Value} (hshows : c.ShowsScore t) :
    c.stage = some .scoreDisplay := by
  by_contra hstage
  have hzero : c.Tells (.int 0) := h.untold hstage
  have hone : c.Tells (.int 1) := h.untold hstage
  cases (hzero.showsScore hshows).symm.trans (hone.showsScore hshows)

/-! ## The tally -/

/-- What the moments of a run tell of the race. -/
structure Tallied (moments : List Moment) (c : Cabinet ω) : Prop where
  begun : .begins ∈ moments ↔ Stage.Begun c.stage
  score : .begins ∈ moments → c.race.score = Moment.taken moments
  tells : c.Tells (.text (scoreText c.race.score))

/-- After what goes on away from the score's screen, all that is told of the score is right. -/
theorem Courses.tells (h : Courses games leg c) (hhappens : Happens eye.around c happening c')
    (htells : c.Tells (.text (scoreText c.race.score))) :
    c'.Tells (.text (scoreText c'.race.score)) := by
  obtain ⟨leg', hcourses, -⟩ := h.next hhappens
  by_cases hstage : c'.stage = some .scoreDisplay
  · have hrace : c'.race = c.race := by
      cases h.goes hhappens with
      | idle hrace => exact hrace
      | _ => simp_all
    rw [hrace]
    cases h with
    | stands hupon hstands => exact hstands.tells hupon hhappens htells
    | stalls hhalted hstalls =>
      obtain ⟨leg'', hhalted', hstalls', -⟩ := hstalls.next hhalted hhappens
      have hearly := hhalted'.stage.symm.trans hstage
      rcases hstalls'.early with rfl | rfl <;> cases hearly
  · exact hcourses.untold hstage

/-- Each happening is tallied. -/
theorem Tallied.next {moments : List Moment} (h : Tallied moments c)
    (hcourses : Courses games leg c) (hhappens : Happens eye.around c happening c') :
    Tallied (moments ++ momentsOf c happening c') c' := by
  have htells := hcourses.tells hhappens h.tells
  cases hcourses.goes hhappens with
  | idle hrace hstage hmoments =>
    rw [hmoments, List.append_nil]
    exact ⟨h.begun.trans hstage.begun.symm, fun hbegun => hrace ▸ h.score hbegun, htells⟩
  | demo hbefore hstage hcircuit hmoments =>
    have hnone : .begins ∉ moments := by
      rw [h.begun, hbefore]
      exact id
    rw [hmoments, List.append_nil]
    exact ⟨by simp [hnone, hstage, Stage.Begun], fun hbegun => absurd hbegun hnone, htells⟩
  | begins hbefore hstage hsound hrace hmoments =>
    rw [hmoments]
    refine ⟨by simp [hstage, Stage.Begun], fun _ => ?_, htells⟩
    rw [Moment.taken_begins, hrace, hsound.restarted_score]
  | drives hbefore hstage hsound hrace _ hmoments =>
    have hbegun : .begins ∈ moments := by
      rw [h.begun]
      rcases hbefore with ⟨-, hbefore | hbefore⟩ | hbefore <;> rw [hbefore] <;> trivial
    rw [hmoments, List.append_nil]
    refine ⟨by simp [hbegun, hstage, Stage.Begun], fun _ => ?_, htells⟩
    rw [hrace, hsound.driven_keeps.2.1, h.score hbegun]
  | takes hbefore hstage hsound hjunction hrace hmoments =>
    have hbegun : .begins ∈ moments := by
      rw [h.begun, hbefore]
      trivial
    rw [hmoments]
    refine ⟨by simp [hbegun, hstage, Stage.Begun], fun _ => ?_, htells⟩
    rw [Moment.taken_junction, hrace, hsound.steered_score, hjunction, h.score hbegun]
    rfl
  | crashes hbefore hstage hsound hplain hrace hmoments =>
    have hbegun : .begins ∈ moments := by
      rw [h.begun, hbefore]
      trivial
    rw [hmoments, List.append_nil]
    refine ⟨by simp [hbegun, hstage, Stage.Begun], fun _ => ?_, htells⟩
    rw [hrace, hsound.steered_score, hplain, h.score hbegun]
    rfl

/-- A run of the game is tallied. -/
theorem Run.tallied {moments : List Moment} (hfresh : first.Fresh)
    (hrun : Run eye.around momentsOf (spawn (.run games) first) moments c) :
    ∃ leg, Courses games leg c ∧ Tallied moments c := by
  induction hrun with
  | start =>
    have hcourses := hfresh.courses games
    have hstage : (spawn (.run games) first).stage = none := hfresh.stage
    refine ⟨.start, hcourses, ?_, by simp, hcourses.untold (by simp [hstage])⟩
    simp [hstage, Stage.Begun]
  | next _ hhappens ih =>
    obtain ⟨leg, hcourses, htallied⟩ := ih
    obtain ⟨leg', hcourses', -⟩ := hcourses.next hhappens
    exact ⟨leg', hcourses', htallied.next hcourses hhappens⟩

/-- **The score counts the junctions.** Let a game run, whatever happens at the key and the timer,
and note when a game begins and which presses find a junction lit while a round listens to the key.
Once a game has begun the score is the number of junctions since then, and nothing of the race
changes but in a round, by driving on or at a press, or when the next game begins with the race
anew. A press outside of the demo and the rounds changes nothing at all. The text that is shown as
the score tells the number of junctions of its game. -/
theorem score_counts_junctions (eye : Onlooker ω) (hfresh : first.Fresh) {moments : List Moment}
    (hrun : Run eye.around momentsOf (spawn (.run games) first) moments c) :
    (.begins ∈ moments → c.race.score = Moment.taken moments) ∧
    (∀ happening c', Happens eye.around c happening c' →
      (momentsOf c happening c' = [.begins] → c'.race = c.race.restarted 0) ∧
      (.begins ∈ moments → c'.race ≠ c.race → momentsOf c happening c' ≠ [.begins] →
        c'.stage = some .playing ∧ (c.stage = some .playing ∨ happening = .carry)) ∧
      (∀ pressed, happening = .move pressed → c.stage ≠ some .demo → c.stage ≠ some .playing →
        c'.race = c.race)) ∧
    ∀ t, c.ShowsScore t → .begins ∈ moments ∧ t = .text (scoreText (Moment.taken moments)) := by
  obtain ⟨leg, hcourses, htallied⟩ := hrun.tallied hfresh
  refine ⟨htallied.score, fun happening c' hhappens => ?_, fun t hshows => ?_⟩
  · have hgoes := hcourses.goes hhappens
    refine ⟨fun hbegins => ?_, fun hbegun hchanges hother => ?_, ?_⟩
    · cases hgoes with
      | begins _ _ _ hrace => exact hrace
      | _ => simp_all
    · cases hgoes with
      | idle hrace => exact absurd hrace hchanges
      | demo hbefore =>
        rw [htallied.begun, hbefore] at hbegun
        exact hbegun.elim
      | begins _ _ _ _ hmoments => exact absurd hmoments hother
      | drives hbefore hstage => exact ⟨hstage, hbefore.symm.imp_right fun h => h.1⟩
      | takes hbefore hstage => exact ⟨hstage, .inl hbefore⟩
      | crashes hbefore hstage => exact ⟨hstage, .inl hbefore⟩
    · rintro pressed rfl hdemo hplaying
      cases hgoes with
      | idle hrace => exact hrace
      | demo hbefore => exact absurd hbefore hdemo
      | begins _ _ _ _ hmoments =>
        have hnone : momentsOf c (.move pressed) c' = [] :=
          momentsOf_unheard (by simp) fun hstage => absurd hstage hplaying
        cases hnone.symm.trans hmoments
      | drives hbefore =>
        rcases hbefore with ⟨hcarry, -⟩ | hbefore
        · cases hcarry
        · exact absurd hbefore hplaying
      | takes hbefore => exact absurd hbefore hplaying
      | crashes hbefore => exact absurd hbefore hplaying
  · have hbegun : .begins ∈ moments := by
      rw [htallied.begun, hcourses.showsScore hshows]
      trivial
    rw [← htallied.score hbegun]
    exact ⟨hbegun, htallied.tells.showsScore hshows⟩

/-- A press that ends the round, the release after it, and the call that ends the flashing of the
cars; then so many steps. -/
def crashDeeds (limit : Nat) : List Deed :=
  [.move true, .steps 20, .move false, .steps 20, .disable, .steps limit]

/-- A junction is taken in the first round, and then three cars are lost. -/
def oneJunction : List Deed :=
  beginDeeds ++ [.move true, .move false] ++ crashDeeds 20 ++ crashDeeds 20 ++ crashDeeds 6

/-- After a game with one junction the text tells a score of 1. -/
theorem score_counts_junctions_one : ∃ moments c,
    Run Onlooker.idle.around momentsOf (spawn (.run .nothing) (atRest .onTrack)) moments c ∧
      moments = [.begins, .junction] ∧ c.ShowsScore (.text (scoreText 1)) := by
  have hrun := deedsOnTrack_run momentsOf oneJunction
  have hmoments : (deedsOnTrack momentsOf oneJunction).1 = [.begins, .junction] := by
    decide +kernel
  have hshows : (((deedsOnTrack momentsOf oneJunction).2.tasks[0]?).bind shownScore?).isSome =
      true := by decide +kernel
  obtain ⟨t, ht⟩ := Option.isSome_iff_exists.mp hshows
  obtain ⟨task, htask, hshown⟩ := Option.bind_eq_some_iff.mp ht
  obtain ⟨-, -, htexts⟩ :=
    score_counts_junctions Onlooker.idle (atRest_fresh Race.onTrack_sound) hrun
  obtain ⟨-, rfl⟩ := htexts t ⟨0, task, htask, hshown⟩
  refine ⟨_, _, hrun, hmoments, 0, task, htask, ?_⟩
  rw [hshown, hmoments]
  rfl

/-- The same as the moments that count, but for a press that finds the junction lit after the round
is over, while the stage is still that of the round. -/
def momentsByStage (c : Cabinet ω) (happening : Happening) (c' : Cabinet ω) : List Moment :=
  match happening with
  | .move true =>
    if c.stage = some .playing ∧ c.race.atJunction then [.junction] else []
  | other => momentsOf c other c'

/-- The first round is called off, and a press comes before the task learns of it; then three cars
are lost, with one more round called off at the next junction. -/
def pressTooLate : List Deed :=
  beginDeeds ++ [.disable] ++ crashDeeds 20 ++ crashDeeds 20 ++ crashDeeds 20 ++
    [.disable, .steps 20, .disable, .steps 20] ++ crashDeeds 6

/-- That press counts for nothing: the stage is that of a round and a junction is lit, and the text
tells a score of 0. -/
theorem score_misses_press_too_late : ∃ moments c,
    Run Onlooker.idle.around momentsByStage (spawn (.run .nothing) (atRest .onTrack)) moments c ∧
      moments = [.begins, .junction] ∧ c.ShowsScore (.text (scoreText 0)) ∧
      ¬∀ t, c.ShowsScore t → t = .text (scoreText (Moment.taken moments)) := by
  have hmoments : (deedsOnTrack momentsByStage pressTooLate).1 = [.begins, .junction] := by
    decide +kernel
  have hscore : (deedsOnTrack momentsByStage pressTooLate).2.race.score = 0 := by decide +kernel
  have hshows : (((deedsOnTrack momentsByStage pressTooLate).2.tasks[0]?).bind
      shownScore?).isSome = true := by decide +kernel
  have hrun := deedsOnTrack_run momentsByStage pressTooLate
  obtain ⟨counted, hcounted⟩ := hrun.noting momentsOf
  obtain ⟨leg, -, htallied⟩ := hcounted.tallied (atRest_fresh Race.onTrack_sound)
  obtain ⟨t, ht⟩ := Option.isSome_iff_exists.mp hshows
  obtain ⟨task, htask, hshown⟩ := Option.bind_eq_some_iff.mp ht
  have htext := htallied.tells.showsScore ⟨0, task, htask, hshown⟩
  rw [hscore] at htext
  have htold : (deedsOnTrack momentsByStage pressTooLate).2.ShowsScore (.text (scoreText 0)) :=
    ⟨0, task, htask, htext ▸ hshown⟩
  refine ⟨_, _, hrun, hmoments, htold, fun hall => ?_⟩
  have hone := hall _ htold
  rw [hmoments] at hone
  exact absurd (Value.text.inj hone) (by decide)

end Cabinet

end DigitRace
