import DigitRace.Proofs.Course.Carry

/-!
# Whatever happens to the game

The game stands somewhere at its course after everything that can happen to it: an event
that reaches its wait, one that comes too late, and one that nobody listens to. From the
start it therefore stands somewhere after every run, and the leg where it stands tells the
marks of the run.
-/

namespace DigitRace

/-! ## What the task does not see -/

/-- The round after something that the task does not see: it counts if the countdown is called
off. -/
def Round.after (round : Round) : Happening → Round
  | .disable => { round with disables := round.disables + 1 }
  | _ => round

/-- The leg after something that the task does not see. -/
def Leg.after (happening : Happening) : Leg → Leg
  | .racing past game round => .racing past game (round.after happening)
  | leg => leg

theorem Round.Fair.after {round : Round} (h : round.Fair) (happening : Happening) :
    (round.after happening).Fair := by
  cases happening with
  | disable => exact fun _ => Nat.succ_pos _
  | _ => exact h

theorem Round.after_crashed (round : Round) (happening : Happening) :
    (round.after happening).crashed = round.crashed := by
  cases happening <;> rfl

theorem Leg.after_stage (leg : Leg) (happening : Happening) :
    (leg.after happening).stage = leg.stage := by
  cases leg <;> rfl

theorem Leg.Holds.after {leg : Leg} {limit : Value} {cars : Nat} (h : leg.Holds limit cars)
    (happening : Happening) : (leg.after happening).Holds limit cars := by
  cases leg with
  | racing past game round =>
    obtain ⟨hpast, hrounds, hcrashes, hcars⟩ := h
    refine ⟨hpast, hrounds, hcrashes, ?_⟩
    rwa [Game.crashes_concat, Round.after_crashed, ← Game.crashes_concat]
  | _ => exact h

theorem Takes.after {games : Value} {leg : Leg} {reply : Reply} {stack : List Frame}
    (h : Takes games leg reply stack) (happening : Happening) :
    Takes games (leg.after happening) reply stack := by
  induction h with
  | characterShown _ ih => exact .characterShown ih
  | textRest htext _ ih => exact .textRest htext ih
  | demoTextShown => exact .demoTextShown
  | demoEnded => exact .demoEnded
  | nextGame => exact .nextGame
  | countedDown => exact .countedDown
  | roundPlayed hfair => exact .roundPlayed (hfair.after happening)
  | readyToFlash n => exact .readyToFlash n
  | carsFlashed => exact .carsFlashed
  | gameEnded hcrashes => exact .gameEnded hcrashes
  | releasedAfterGame => exact .releasedAfterGame
  | scoreShown s => exact .scoreShown s
  | scoreSeen => exact .scoreSeen
  | returned hover => exact .returned hover

theorem Watch.Kind.Suits.after {kind : Watch.Kind} {leg : Leg} (h : kind.Suits leg)
    (happening : Happening) : kind.Suits (leg.after happening) := by
  intro stage hstage
  rw [Leg.after_stage]
  exact h stage hstage

/-- A wait goes on after what it does not hear of. -/
theorem Waits.after {games : Value} {leg : Leg} {kind : Watch.Kind} {stack : List Frame}
    (h : Waits games leg kind stack) {happening : Happening} (hmisses : kind.Misses happening) :
    Waits games (leg.after happening) kind stack := by
  cases h with
  | regular hregular hsuits hrest =>
    exact .regular hregular (hsuits.after happening) (hrest.after happening)
  | play =>
    have hround : Round.after {} happening = {} := by
      cases happening with
      | disable => cases hmisses
      | _ => rfl
    rw [Leg.after, hround]
    exact .play

/-- A drive of the player answers to the frame of its round. -/
theorem Waits.roundPlayed {games : Value} {past : Past} {game : Game} {stack : List Frame}
    (h : Waits games (.racing past game {}) .play stack) {round : Round} (hfair : round.Fair) :
    Takes games (.racing past game round) .done stack := by
  cases h with
  | regular hregular => exact hregular.elim
  | play => exact .roundPlayed hfair

namespace Cabinet

variable {ω : Type} {eye : Onlooker ω} {c c₁ c' : Cabinet ω} {games : Value} {leg leg' : Leg}
  {happening : Happening} {w : Nat} {kind : Watch.Kind} {stack : List Frame}

/-- If nothing that counts is written down, the marks are those of what the task does not see. -/
theorem Upon.after_marks (h : Upon games leg c) (hnew : newMarks c c' = [])
    (happening : Happening) :
    (leg.after happening).marks = leg.marks ++ marksOf c happening c' := by
  have hstage := h.stage
  cases happening with
  | disable =>
    cases leg with
    | racing past game round =>
      simp only [Leg.stage] at hstage
      simp [marksOf, hstage, hnew, Leg.after, Leg.marks, Round.after, Round.opening,
        List.replicate_succ']
    | rest past =>
      simp only [Leg.stage] at hstage
      split at hstage <;> simp [marksOf, hstage, hnew, Leg.after]
    | _ => simp [marksOf, hstage, hnew, Leg.after, Leg.stage]
  | _ =>
    cases leg <;> simp [marksOf, hnew, Leg.after, Leg.marks, Round.after]

/-- Where nobody listens, the game stays at its leg. -/
theorem Upon.passes (h : Upon games leg c) (hpasses : Passes eye c happening c') :
    Upon games (leg.after happening) c' where
  clocked := hpasses.clocked h.clocked
  sound := by rw [hpasses.kept.race]; exact h.sound
  paced := by rw [hpasses.kept.rate]; exact h.paced
  stage := by rw [hpasses.kept.stage, Leg.after_stage]; exact h.stage
  holds := by rw [hpasses.kept.race]; exact h.holds.after happening

/-- The game stands somewhere after a happening, and has left the marks of it. -/
def Reaches (games : Value) (leg : Leg) (c : Cabinet ω) (happening : Happening)
    (c' : Cabinet ω) : Prop :=
  ∃ leg', Upon games leg' c' ∧ Stands games leg' c' ∧
    leg'.marks = leg.marks ++ marksOf c happening c'

/-! ## Waits -/

/-- What a wait has come to, the game stands by it. -/
theorem GoesOn.stands (h : GoesOn kind w c) (htasks : c.tasks = #[{ state := .waiting w, stack }])
    (hsuits : kind.Suits leg) (htakes : Takes games leg kind.reply stack) : Stands games leg c := by
  cases h with
  | armed now hregular htimer hreply hstage hlistening hends =>
    have hnow : now.Suits leg := by
      intro stage hnow
      exact hsuits stage (hstage ▸ hnow)
    refine .waiting hlistening htasks (.regular hregular hnow (hreply ▸ htakes))
      (fun _ => .inl hends) ?_
    rintro rfl
    cases htimer
  | answered answer hadmits hanswered hclocked =>
    exact .woken ⟨htasks, hanswered.active, hanswered.ready, hanswered.deaf⟩ hanswered.watch hadmits
      htakes

theorem GoesOn.clocked (h : GoesOn kind w c) : c.Clocked := by
  cases h with
  | armed _ _ _ _ _ _ hends => exact .inr hends
  | answered _ _ _ hclocked => exact hclocked

/-- The timer goes on ticking after what is not one of its events. -/
theorem Passes.ticking (h : Passes eye c happening c') (hticking : c.Ticking)
    (hmisses : kind.Misses happening) (htimer : kind.hearsTimer = true) : c'.Ticking := by
  cases h with
  | move => exact hticking
  | disable => exact absurd (hmisses.symm.trans htimer) (by decide)
  | enable ticks => exact .inl ⟨_, armedFor_endsAt eye ticks c⟩
  | refuse ticks hdelay => exact .inr ⟨_, hdelay⟩
  | expire | overdue => exact absurd (hmisses.symm.trans htimer) (by decide)
  | wait => exact hticking

theorem Passes.pressed (h : Passes eye c happening c') (hmisses : kind.Misses happening)
    (hkey : kind.hearsKey = true) : c'.key.pressed = c.key.pressed := by
  cases h with
  | move => exact absurd (hmisses.symm.trans hkey) (by decide)
  | _ => rfl

/-- What a wait does not hear of leaves it as it is. -/
private theorem waiting_passes (hupon : Upon games leg c) (hlistening : Listening kind w c)
    (htasks : c.tasks = #[{ state := .waiting w, stack }]) (hwaits : Waits games leg kind stack)
    (hticking : kind.hearsTimer = true → c.Ticking)
    (hpressed : kind = .release → c.key.pressed = true) (hpasses : Passes eye c happening c')
    (hmisses : kind.Misses happening) : Reaches games leg c happening c' := by
  have hkept := hpasses.kept
  refine ⟨leg.after happening, hupon.passes hpasses, ?_,
    hupon.after_marks (newMarks_same hkept.journal) happening⟩
  refine .waiting (hkept.listening hlistening) (hkept.tasks.trans htasks) (hwaits.after hmisses)
    ?_ ?_
  · intro htimer
    exact hpasses.ticking (hticking htimer) hmisses htimer
  · rintro rfl
    rw [hpasses.pressed hmisses rfl]
    exact hpressed rfl

/-- An event of the timer reaches the wait that listens to it. -/
private theorem regular_event (hupon : Upon games leg c)
    (htasks : c.tasks = #[{ state := .waiting w, stack }]) (hsuits : kind.Suits leg)
    (htakes : Takes games leg kind.reply stack) {event : TimerEvent}
    (hannounces : Announces c happening event c₁) (hsteady : Steady c₁ c')
    (hgoes : GoesOn kind w c') : Reaches games leg c happening c' := by
  have hkept := hannounces.kept
  have hnew : newMarks c c' = [] := by
    have hmarks := hsteady.marks
    rwa [newMarks, hkept.journal] at hmarks
  refine ⟨leg.after happening, ?_, ?_, hupon.after_marks hnew happening⟩
  · refine ⟨hgoes.clocked, hsteady.sound, ?_, ?_, ?_⟩
    · rw [hsteady.rate, hkept.rate]
      exact hupon.paced
    · rw [hsteady.stage, hkept.stage, Leg.after_stage]
      exact hupon.stage
    · rw [hsteady.cars, hkept.race]
      exact hupon.holds.after happening
  · exact hgoes.stands ((hsteady.tasks.trans hkept.tasks).trans htasks) (hsuits.after happening)
      (htakes.after happening)

/-- Whatever happens to a wait other than the player's drive, the game stands somewhere. -/
private theorem regular_next (hupon : Upon games leg c) (hlistening : Listening kind w c)
    (htasks : c.tasks = #[{ state := .waiting w, stack }]) (hregular : kind.Regular)
    (hsuits : kind.Suits leg) (htakes : Takes games leg kind.reply stack)
    (hticking : kind.hearsTimer = true → c.Ticking)
    (hpressed : kind = .release → c.key.pressed = true)
    (hhappens : Happens eye.around c happening c') : Reaches games leg c happening c' := by
  cases hlistening.idles hregular hupon.clocked hupon.sound hupon.paced hhappens with
  | passes hpasses hmisses =>
    exact waiting_passes hupon hlistening htasks (.regular hregular hsuits htakes) hticking
      hpressed hpasses hmisses
  | event hannounces _ hsteady hgoes =>
    exact regular_event hupon htasks hsuits htakes hannounces hsteady hgoes
  | stays pressed hrelease =>
    exact ⟨leg, ⟨hupon.clocked, hupon.sound, hupon.paced, hupon.stage, hupon.holds⟩,
      .waiting (hlistening.moved eye pressed) htasks (.regular hregular hsuits htakes) hticking
        hrelease, marks_same rfl⟩
  | leaves pressed answer hadmits =>
    have hanswered := (hlistening.moved eye pressed).left_answered answer
    exact ⟨leg, ⟨hupon.clocked, hupon.sound, hupon.paced, hupon.stage, hupon.holds⟩,
      .woken ⟨htasks, hanswered.active, hanswered.ready, hanswered.deaf⟩ hanswered.watch hadmits
        htakes, marks_same rfl⟩

/-! ## The player's drive -/

section

variable {past : Past} {game : Game} (hupon : Upon games (.racing past game {}) c)
  (hlistening : Listening .play w c) (htasks : c.tasks = #[{ state := .waiting w, stack }])
  (hwaits : Waits games (.racing past game {}) .play stack)

include hupon hlistening htasks hwaits

/-- The end of the countdown drives the car on; this counts for nothing. -/
private theorem play_expired (due : Rat) (outside : ω) :
    Reaches games (.racing past game {}) c (.call .countdownOver)
      (armedFor eye c.race.driven.wait ((c.expired due).ticked outside)) := by
  let driven := armedFor eye c.race.driven.wait ((c.expired due).ticked outside)
  have hends : ∃ due, EndsAt due driven := ⟨_, armedFor_endsAt eye _ _⟩
  have hnew : newMarks c driven = [] := (newMarks_append rfl).trans c.race.driveNotes_marks
  refine ⟨.racing past game {}, ⟨.inr hends, hupon.sound.driven, hupon.paced, hupon.stage, ?_⟩,
    .waiting ?_ htasks hwaits (fun _ => .inl hends) (by simp), marks_none hnew⟩
  · change (Leg.racing past game {}).Holds games c.race.driven.cars
    rw [hupon.sound.driven_cars]
    exact hupon.holds
  · exact ((hlistening.expired due).ticked outside).armed eye _

/-- A countdown that is called off ends the round. -/
private theorem play_disabled :
    Reaches games (.racing past game {}) c .disable (left w .nothing c.cleared) := by
  have hanswered := hlistening.cleared.left_answered .nothing
  refine ⟨.racing past game { disables := 1 },
    ⟨.inl c.cleared_unarmed, hupon.sound, hupon.paced, hupon.stage, hupon.holds.after .disable⟩,
    ?_, hupon.after_marks (newMarks_same rfl) .disable⟩
  exact .woken ⟨htasks, hanswered.active, hanswered.ready, hanswered.deaf⟩ hanswered.watch
    Reply.admits_done (hwaits.roundPlayed fun _ => Nat.one_pos)

/-- A press at a junction counts for nothing. -/
private theorem play_taken (hticking : c.Ticking) (hjunction : c.race.atJunction = true)
    (outside : ω) : Reaches games (.racing past game {}) c (.move true)
      ((moved eye true c).steered outside) := by
  have hsteered := (hlistening.moved eye true).steered outside
  have hnew : newMarks c ((moved eye true c).steered outside) = [] := by
    have hmarks := c.race.steerNotes_marks
    rw [if_pos hjunction] at hmarks
    exact (newMarks_append rfl).trans hmarks
  refine ⟨.racing past game {},
    ⟨hupon.clocked, hupon.sound.steered, hupon.paced, hupon.stage, ?_⟩,
    .waiting hsteered htasks hwaits (fun _ => hticking) (by simp), marks_none hnew⟩
  change (Leg.racing past game {}).Holds games c.race.steered.cars
  rw [hupon.sound.steered_cars, if_pos hjunction]
  exact hupon.holds

/-- A press elsewhere is a crash, which costs one car and ends the round. -/
private theorem play_crashed (hplain : c.race.atJunction = false) (outside : ω) :
    Reaches games (.racing past game {}) c (.move true)
      (left w .nothing ((moved eye true c).steered outside)) := by
  have hanswered := ((hlistening.moved eye true).steered outside).left_answered .nothing
  have hnew : newMarks c (left w .nothing ((moved eye true c).steered outside)) = [.crash] := by
    have hmarks := c.race.steerNotes_marks
    rw [hplain] at hmarks
    exact (newMarks_append rfl).trans hmarks
  obtain ⟨hpast, hrounds, hcrashes, hleft⟩ := hupon.holds
  have hcrash : Upon games (.racing past game { crashed := true })
      (left w .nothing ((moved eye true c).steered outside)) := by
    refine ⟨hupon.clocked, hupon.sound.steered, hupon.paced, hupon.stage, hpast, hrounds,
      hcrashes, ?_⟩
    have hcars := hupon.sound.steered_cars
    change c.race.steered.cars + _ = _
    rw [hplain] at hcars
    rw [Game.crashes_concat] at hleft ⊢
    simp only [Bool.false_eq_true, if_false, if_true] at hcars hleft ⊢
    omega
  refine ⟨.racing past game { crashed := true }, hcrash, ?_, ?_⟩
  · exact .woken ⟨htasks, hanswered.active, hanswered.ready, hanswered.deaf⟩ hanswered.watch
      Reply.admits_done (hwaits.roundPlayed (by simp [Round.Fair]))
  · simp [marksOf, hnew, Leg.marks, Round.opening]

/-- Whatever happens during a drive of the player, the game stands somewhere. -/
private theorem play_next (hticking : c.Ticking) (hhappens : Happens eye.around c happening c') :
    Reaches games (.racing past game {}) c happening c' := by
  cases hlistening.drives hupon.clocked hupon.sound hupon.paced hhappens with
  | passes hpasses hmisses =>
    exact waiting_passes hupon hlistening htasks hwaits (fun _ => hticking) (by simp) hpasses
      hmisses
  | on due outside => exact play_expired hupon hlistening htasks hwaits due outside
  | calledOff => exact play_disabled hupon hlistening htasks hwaits
  | released =>
    exact ⟨.racing past game {},
      ⟨hupon.clocked, hupon.sound, hupon.paced, hupon.stage, hupon.holds⟩,
      .waiting (hlistening.moved eye false) htasks hwaits (fun _ => hticking) (by simp),
      marks_same rfl⟩
  | takes outside hjunction =>
    exact play_taken hupon hlistening htasks hwaits hticking hjunction outside
  | crashes outside hplain => exact play_crashed hupon hlistening htasks hwaits hplain outside

end

/-! ## Whatever happens -/

/-- **The game stands somewhere.** After a happening of whatever kind the game stands at a leg of
its course, the same or the next one, and the marks of the happening are what this leg has more. -/
theorem Stands.next (hstands : Stands games leg c) (hupon : Upon games leg c)
    (hhappens : Happens eye.around c happening c') : Reaches games leg c happening c' := by
  cases hstands with
  | calling hcarried hcalls hends =>
    obtain ⟨rfl, rfl⟩ := hcarried.cases hhappens
    rw [hcarried.carryOn_calling]
    exact carry_calls eye hcalls hcarried hupon hends
  | answering hcarried hadmits htakes =>
    obtain ⟨rfl, rfl⟩ := hcarried.cases hhappens
    exact carry_takes eye htakes hadmits hcarried hupon
  | waiting hlistening htasks hwaits hticking hpressed =>
    cases hwaits with
    | regular hregular hsuits htakes =>
      exact regular_next hupon hlistening htasks hregular hsuits htakes hticking hpressed hhappens
    | play => exact play_next hupon hlistening htasks .play (hticking rfl) hhappens
  | begins hleg hqueued =>
    subst hleg
    rcases hqueued.cases hupon.clocked hhappens with hpasses | ⟨rfl, rfl⟩
    · exact ⟨.start, hupon.passes hpasses, .begins rfl (hpasses.kept.queued hqueued),
        hupon.after_marks (newMarks_same hpasses.kept.journal) happening⟩
    · obtain ⟨hcarried, hwake⟩ := hqueued.wake_calling
      refine ⟨.start, ?_, .calling hcarried .run (by simp), ?_⟩
      · rw [hwake]
        exact ⟨hupon.clocked, hupon.sound, hupon.paced, hupon.stage, hupon.holds⟩
      · rw [hwake]
        exact marks_same rfl
  | woken hqueued hanswer hadmits htakes =>
    rcases hqueued.cases hupon.clocked hhappens with hpasses | ⟨rfl, rfl⟩
    · refine ⟨leg.after happening, hupon.passes hpasses,
        .woken (hpasses.kept.queued hqueued) ?_ hadmits (htakes.after happening),
        hupon.after_marks (newMarks_same hpasses.kept.journal) happening⟩
      rw [hpasses.kept.watches]
      exact hanswer
    · obtain ⟨hcarried, hwake⟩ := hqueued.wake_waiting hanswer
      refine ⟨leg, ?_, .answering hcarried hadmits htakes, ?_⟩
      · rw [hwake]
        exact ⟨hupon.clocked, hupon.sound, hupon.paced, hupon.stage, hupon.holds⟩
      · rw [hwake]
        exact marks_same rfl
  | returned hleg hover hallows =>
    subst hleg
    have hpasses := hover.passes hupon.clocked hhappens
    exact ⟨_, hupon.passes hpasses, .returned rfl (hpasses.kept.ended hover) hallows,
      hupon.after_marks (newMarks_same hpasses.kept.journal) happening⟩
  | failed hleg hover hallows =>
    subst hleg
    have hpasses := hover.passes hupon.clocked hhappens
    exact ⟨_, hupon.passes hpasses, .failed rfl (hpasses.kept.ended hover) hallows,
      hupon.after_marks (newMarks_same hpasses.kept.journal) happening⟩

end Cabinet

end DigitRace
