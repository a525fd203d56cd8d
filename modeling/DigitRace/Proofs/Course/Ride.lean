import DigitRace.Proofs.Cabinet.Parked
import DigitRace.Proofs.Course.Run

/-!
# The race along a run

A happening leaves the race alone, unless the demo drives, a game begins anew, or a round drives
the car on or steers it. A press is noted if it finds a junction lit while a round is under way, and
so is the beginning of a game. Of a run that was noted in this way, the notes since the last game
began tell the score.
-/

namespace DigitRace

/-- What counts for the score. -/
inductive Moment where
  /-- A game begins. -/
  | begins
  /-- A press finds a junction lit while a round is under way. -/
  | junction
  deriving DecidableEq

/-- The junctions since the last game began. -/
def Moment.taken (moments : List Moment) : Nat :=
  (moments.rtakeWhile (· = .junction)).length

theorem Moment.taken_begins (moments : List Moment) :
    Moment.taken (moments ++ [.begins]) = 0 := by
  rw [taken, List.rtakeWhile_concat_neg _ _ _ (by decide), List.length_nil]

theorem Moment.taken_junction (moments : List Moment) :
    Moment.taken (moments ++ [.junction]) = Moment.taken moments + 1 := by
  rw [taken, List.rtakeWhile_concat_pos _ _ _ (by decide), List.length_append,
    List.length_singleton, taken]

/-- While a round is under way, the task goes back to its end alone. -/
theorem Takes.at_racing {games : Value} {past : Past} {game : Game} {round : Round} {reply : Reply}
    {stack : List Frame} (h : Takes games (.racing past game round) reply stack) :
    reply = .done ∧ stack = [.roundPlayed, .gameEnded games past.games.length] := by
  generalize hleg : Leg.racing past game round = leg at h
  induction h with
  | characterShown _ ih => cases (ih hleg).1
  | textRest _ _ ih => cases (ih hleg).1
  | roundPlayed =>
    cases hleg
    exact ⟨rfl, rfl⟩
  | _ => cases hleg

/-- While a round is under way, nothing is called. -/
theorem Calls.not_racing {games : Value} {past : Past} {game : Game} {round : Round}
    {routine : Routine} {stack : List Frame} :
    ¬Calls games (.racing past game round) routine stack := by
  intro h
  cases h with
  | text _ hrest => cases hrest.at_racing.1
  | character _ hrest => cases hrest.at_racing.1
  | pressOrEvent hrest => cases hrest.at_racing.1
  | keyReleased hrest => cases hrest.at_racing.1
  | play hround => cases hround

/-- The stage of a round is that of one leg alone. -/
theorem Leg.racing_of_stage {leg : Leg} (h : leg.stage = some .playing) :
    ∃ past game round, leg = .racing past game round := by
  cases leg with
  | racing past game round => exact ⟨past, game, round, rfl⟩
  | rest past => simp only [Leg.stage] at h; split at h <;> cases h
  | _ => cases h

/-- While a round is under way, the task waits for nothing but the player. -/
theorem Waits.at_playing {games : Value} {leg : Leg} {kind : Watch.Kind} {stack : List Frame}
    (h : Waits games leg kind stack) (hstage : leg.stage = some .playing) : kind = .play := by
  cases h with
  | play => rfl
  | regular hregular hsuits hrest =>
    obtain ⟨past, game, round, rfl⟩ := Leg.racing_of_stage hstage
    cases kind with
    | play => rfl
    | event => exact hregular.elim
    | edge => exact hregular.elim
    | demo => cases hsuits _ rfl
    | countdown => cases hsuits _ rfl
    | flashing => cases hsuits _ rfl
    | release => cases hrest.at_racing.1
    | pressOrEvent => cases hrest.at_racing.1

/-- How one stage leads to another where neither a game nor a round begins. -/
inductive Stage.Leads : Option Stage → Option Stage → Prop
  | same (stage : Option Stage) : Leads stage stage
  | demo : Leads none (some .demo)
  | pressed : Leads (some .demo) (some .demoWaitRelease)
  | lost : Leads (some .playing) (some .carLost)
  | over : Leads (some .carLost) (some .gameOverWaitRelease)
  | score : Leads (some .gameOverWaitRelease) (some .scoreDisplay)
  | seen : Leads (some .scoreDisplay) (some .scoreWaitRelease)

theorem Stage.Leads.countdown {before after : Option Stage} (h : Stage.Leads before after)
    (hafter : after = some .countdown) : before = some .countdown := by
  subst hafter
  cases h with
  | same => rfl

/-- Whether the first game has begun before a stage. -/
def Stage.Begun : Option Stage → Prop
  | none | some .demo | some .demoWaitRelease => False
  | some _ => True

theorem Stage.Leads.begun {before after : Option Stage} (h : Stage.Leads before after) :
    Stage.Begun after ↔ Stage.Begun before := by
  cases h <;> exact Iff.rfl

theorem Stage.Leads.playing {before after : Option Stage} (h : Stage.Leads before after)
    (hafter : after = some .playing) : before = some .playing := by
  subst hafter
  cases h with
  | same => rfl

namespace Cabinet

open Act

variable {ω α : Type} {eye : Onlooker ω} {c c' : Cabinet ω} {games : Value} {leg : Leg}
  {happening : Happening} {state : Task.State} {stack : List Frame} {w : Nat} {kind : Watch.Kind}
  {routine : Routine}

/-- What of a happening counts for the score. -/
def momentsOf (c : Cabinet ω) (happening : Happening) (c' : Cabinet ω) : List Moment :=
  match happening with
  | .carry => if c'.stage = some .countdown ∧ c.stage ≠ some .countdown then [.begins] else []
  | .move true =>
    if c.stage = some .playing ∧ c.key.listeners ≠ [] ∧ c.race.atJunction then [.junction] else []
  | _ => []

/-- What a happening does to the race. -/
inductive Goes (c : Cabinet ω) (happening : Happening) (c' : Cabinet ω) : Prop
  /-- Nothing. -/
  | idle (hrace : c'.race = c.race) (hstage : Stage.Leads c.stage c'.stage)
      (hmoments : momentsOf c happening c' = [])
  /-- The demo drives. -/
  | demo (hbefore : c.stage = some .demo) (hstage : c'.stage = some .demo)
      (hcircuit : c'.race.circuit = c.race.circuit) (hmoments : momentsOf c happening c' = [])
  /-- A game begins. -/
  | begins (hbefore : c.stage = some .demoWaitRelease ∨ c.stage = some .scoreWaitRelease)
      (hstage : c'.stage = some .countdown) (hsound : c.race.Sound)
      (hrace : c'.race = c.race.restarted 0) (hmoments : momentsOf c happening c' = [.begins])
  /-- A round begins by driving on, or is driven on. -/
  | drives (hbefore : happening = .carry ∧ (c.stage = some .countdown ∨ c.stage = some .carLost) ∨
        c.stage = some .playing)
      (hstage : c'.stage = some .playing) (hsound : c.race.Sound)
      (hrace : c'.race = c.race.driven)
      (hshows : c'.display.pattern = c.race.driveShows c.display.pattern)
      (hmoments : momentsOf c happening c' = [])
  /-- A press takes a junction. -/
  | takes (hbefore : c.stage = some .playing) (hstage : c'.stage = some .playing)
      (hsound : c.race.Sound) (hjunction : c.race.atJunction = true)
      (hrace : c'.race = c.race.steered) (hmoments : momentsOf c happening c' = [.junction])
  /-- A press is a crash. -/
  | crashes (hbefore : c.stage = some .playing) (hstage : c'.stage = some .playing)
      (hsound : c.race.Sound) (hplain : c.race.atJunction = false)
      (hrace : c'.race = c.race.steered) (hmoments : momentsOf c happening c' = [])

/-! ## While the task is carried on -/

/-- What is carried on leaves race, stage and digit as they are after the act. -/
theorem carry_same (number : Nat) (act : Play ω Progress) (c : Cabinet ω) :
    (carry number act c).race = (act.result c).2.race ∧
      (carry number act c).stage = (act.result c).2.stage ∧
        (carry number act c).display = (act.result c).2.display := by
  cases hact : act c with
  | error fault after =>
    rw [result_of_error hact]
    simp only [carry, hact]
    exact ⟨rfl, rfl, rfl⟩
  | ok progress after =>
    rw [result_of_ok hact]
    simp only [carry, hact]
    cases progress with
    | done => exact ⟨rfl, rfl, rfl⟩
    | call routine frame => cases frame <;> exact ⟨rfl, rfl, rfl⟩
    | await watch frame =>
      simp only [proceed, awaitWatch]
      split <;> cases frame <;> exact ⟨rfl, rfl, rfl⟩

/-- An act that leaves race and stage alone. -/
theorem goes_parked {act : Play ω Progress} (h : Keeps (Parked c.race c.stage) act) :
    Goes c .carry (carry 0 act c) := by
  obtain ⟨hrace, hstage, -⟩ := carry_same 0 act c
  have hact := h c ⟨rfl, rfl⟩
  have hsame := hstage.trans hact.stage
  refine .idle (hrace.trans hact.race) (hsame ▸ .same _) ?_
  rw [momentsOf, hsame]
  exact if_neg fun h => h.2 h.1

/-- An act that enters a stage in which nothing begins. -/
theorem goes_entered {act : Play ω Progress} {progress : Progress} {stage : Stage}
    (h : act c = .ok progress (c.entered stage)) (hleads : Stage.Leads c.stage (some stage)) :
    Goes c .carry (carry 0 act c) := by
  obtain ⟨hrace, hstage, -⟩ := carry_same 0 act c
  rw [result_of_ok h] at hrace hstage
  have hstage : (carry 0 act c).stage = some stage := hstage
  refine .idle hrace (hstage ▸ hleads) ?_
  rw [momentsOf, hstage]
  exact if_neg fun h => h.2 (hleads.countdown h.1)

/-- The demo begins with a text. -/
private theorem goes_demo (hleads : Stage.Leads c.stage (some .demo)) :
    Goes c .carry (carry 0 (begin eye.around .demo) c) :=
  goes_entered (begin_demo eye) hleads

/-- A game begins with the race anew. -/
private theorem goes_game {past : Past} (hupon : Upon games (.rest past) c) :
    Goes c .carry (carry 0 (begin eye.around .game) c) := by
  have hact : begin eye.around .game c = .ok (.call (.countdown (.int 3)) (some .countedDown))
      ((c.restarted 0).entered .countdown) := by
    simp only [begin, bind_apply, resetRace_apply c hupon.sound 0, enter_apply]
    rfl
  have hrest : c.stage = some .demoWaitRelease ∨ c.stage = some .scoreWaitRelease := by
    rw [hupon.stage, Leg.stage]
    split
    · exact .inl rfl
    · exact .inr rfl
  have hfresh : c.stage ≠ some .countdown := by
    rcases hrest with h | h <;> simp [h]
  obtain ⟨hrace, hstage, -⟩ := carry_same 0 (begin eye.around .game) c
  rw [result_of_ok hact] at hrace hstage
  refine .begins hrest hstage hupon.sound hrace ?_
  rw [momentsOf, hstage]
  exact if_pos ⟨rfl, hfresh⟩

/-- A round begins by driving on. -/
private theorem goes_play {past : Past} {game : Game} (hround : BeginsRound leg past game)
    (hupon : Upon games leg c) (hdeaf : c.Deaf) :
    Goes c .carry (carry 0 (begin eye.around .play) c) := by
  have hbefore : c.stage = some .countdown ∨ c.stage = some .carLost := by
    rw [hupon.stage]
    cases hround with
    | first => exact .inl rfl
    | next => exact .inr rfl
  obtain ⟨outside, hact⟩ := beginPlay_apply eye hupon.sound hupon.clocked hupon.paced hdeaf
  obtain ⟨hrace, hstage, hdisplay⟩ := carry_same 0 (begin eye.around .play) c
  rw [result_of_ok hact] at hrace hstage hdisplay
  refine .drives (.inl ⟨rfl, hbefore⟩) hstage hupon.sound hrace (hdisplay ▸ rfl) ?_
  rw [momentsOf, hstage]
  exact if_neg (by simp [opened, armedFor, ticked, entered])

/-- A routine that is called does to the race what it may. -/
theorem goes_calls (hcalls : Calls games leg routine stack)
    (hcarried : Carried (.calling routine) stack c) (hupon : Upon games leg c) :
    Goes c .carry (carry 0 (begin eye.around routine) c) := by
  have hstill (hroutine : routine.Still) : Goes c .carry (carry 0 (begin eye.around routine) c) :=
    goes_parked (.begin eye hroutine)
  have hstage := hupon.stage
  cases hcalls with
  | firstDemo => exact goes_demo (hstage ▸ .demo)
  | nextDemo demos => exact goes_demo (hstage ▸ .same _)
  | score =>
    have hact : begin eye.around .score c = .ok (.call (.text (.text (scoreText c.race.score)))
        (some (.scoreShown (.text (scoreText c.race.score))))) (c.entered .scoreDisplay) := by
      simp [begin, enter_apply, entered]
    exact goes_entered hact (hstage ▸ .score)
  | game hallows => exact goes_game hupon
  | play hround => exact goes_play hround hupon hcarried.deaf
  | _ => exact hstill trivial

/-- The text of the demo is over: the car drives by itself, if nobody has pressed. -/
private theorem goes_demoTextShown (pressed : Bool) {demos : Nat} (hdeaf : c.Deaf)
    (hupon : Upon games (.demo demos) c) :
    Goes c .carry (carry 0 (resume eye.around (.flag pressed) .demoTextShown) c) := by
  cases pressed with
  | true =>
    have hact : Keeps (Parked c.race c.stage)
        (resume eye.around (.flag true) .demoTextShown : Play ω Progress) := .pure _
    exact goes_parked hact
  | false =>
    obtain ⟨outside, hact⟩ := resume_demoTextShown eye hdeaf hupon.sound.drivable
      hupon.clocked hupon.paced
    obtain ⟨hrace, hstage, -⟩ :=
      carry_same 0 (resume eye.around (.flag false) .demoTextShown) c
    obtain ⟨-, hsound, hcircuit, -⟩ := hupon.sound.reset_apply demoSpeed
    rw [result_of_ok hact] at hrace hstage
    have hstage' : (carry 0 (resume eye.around (.flag false) .demoTextShown) c).stage =
        some .demo := hstage.trans hupon.stage
    refine .demo hupon.stage hstage' ?_ ?_
    · rw [hrace]
      exact hsound.driven_keeps.1.trans hcircuit
    · rw [momentsOf, hstage']
      exact if_neg (by simp)

/-- After a demo comes the wait for the key, or another demo. -/
private theorem goes_demoEnded (pressed : Bool) (hstage : c.stage = some .demo) :
    Goes c .carry (carry 0 (resume eye.around (.flag pressed) (.demoEnded games)) c) := by
  cases pressed with
  | true =>
    have hact : resume eye.around (.flag true) (.demoEnded games) c =
        .ok (.call .keyReleased (some (.nextGame games 0))) (c.entered .demoWaitRelease) := by
      simp [resume, enter_apply]
    exact goes_entered hact (hstage ▸ .pressed)
  | false =>
    have hact : Keeps (Parked c.race c.stage)
        (resume eye.around (.flag false) (.demoEnded games) : Play ω Progress) := .pure _
    exact goes_parked hact

/-- That a frame is taken from the stack makes no difference. -/
private theorem Goes.of_popped {tasks : Array Task} (h : Goes { c with tasks } .carry c') :
    Goes c .carry c' := by
  cases h with
  | idle hrace hstage hmoments => exact .idle hrace hstage hmoments
  | demo hbefore hstage hcircuit hmoments => exact .demo hbefore hstage hcircuit hmoments
  | begins hbefore hstage hsound hrace hmoments =>
    exact .begins hbefore hstage hsound hrace hmoments
  | drives hbefore hstage hsound hrace hshows hmoments =>
    exact .drives hbefore hstage hsound hrace hshows hmoments
  | takes hbefore hstage hsound hjunction hrace hmoments =>
    exact .takes hbefore hstage hsound hjunction hrace hmoments
  | crashes hbefore hstage hsound hplain hrace hmoments =>
    exact .crashes hbefore hstage hsound hplain hrace hmoments

/-- An answer that a frame takes does to the race what it may. -/
theorem goes_takes {answer : Answer} {reply : Reply} (htakes : Takes games leg reply stack)
    (hadmits : reply.Admits answer) (hcarried : Carried (.answering answer) stack c)
    (hupon : Upon games leg c) : Goes c .carry (carryOn eye.around 0 c) := by
  cases stack with
  | nil =>
    rw [hcarried.carryOn_over]
    exact .idle rfl (.same _) (if_neg fun h => h.2 h.1)
  | cons frame stack =>
    let popped := { c with tasks := #[{ state := .answering answer, stack }] }
    have hupon' : Upon games leg popped :=
      ⟨hupon.clocked, hupon.sound, hupon.paced, hupon.stage, hupon.holds⟩
    rw [hcarried.carryOn_answering]
    have hstage : popped.stage = leg.stage := hupon.stage
    have hgoes : Goes popped .carry (carry 0 (resume eye.around answer frame) popped) := by
      have hstill (hframe : frame.Still) :
          Goes popped .carry (carry 0 (resume eye.around answer frame) popped) :=
        goes_parked (.resume eye hframe answer)
      cases htakes with
      | demoTextShown =>
        obtain ⟨pressed, rfl⟩ := hadmits
        exact goes_demoTextShown pressed hcarried.deaf hupon'
      | demoEnded =>
        obtain ⟨pressed, rfl⟩ := hadmits
        exact goes_demoEnded pressed hupon.stage
      | roundPlayed hfair =>
        exact goes_entered (resume_roundPlayed eye answer) (hstage ▸ .lost)
      | @gameEnded past =>
        have hact : resume eye.around answer (.gameEnded games past.games.length) popped =
            .ok (.call .keyReleased (some (.releasedAfterGame games past.games.length)))
              (popped.entered .gameOverWaitRelease) := by
          simp [resume, enter_apply]
        exact goes_entered hact (hstage ▸ .over)
      | @scoreSeen past =>
        have hact : resume eye.around answer (.scoreSeen games past.games.length) popped =
            .ok (.call .keyReleased (some (.nextGame games (past.games.length + 1))))
              (popped.entered .scoreWaitRelease) := by
          simp [resume, enter_apply]
        exact goes_entered hact (hstage ▸ .seen)
      | _ => exact hstill trivial
    exact hgoes.of_popped

/-! ## Between two calls -/

/-- Where no round listens, nothing counts but the beginning of a game. -/
theorem momentsOf_unheard (hcarry : happening ≠ .carry)
    (hkey : c.stage = some .playing → c.key.listeners = []) : momentsOf c happening c' = [] := by
  cases happening with
  | carry => exact absurd rfl hcarry
  | move pressed =>
    cases pressed with
    | false => rfl
    | true => exact if_neg fun h => h.2.1 (hkey h.1)
  | _ => rfl

theorem Happens.not_carry {around : Surroundings ω} (h : Happens around c happening c')
    (hactive : c.active = none) : happening ≠ .carry := by
  rintro rfl
  cases h with
  | carry hnumber => simp [hactive] at hnumber

/-- What passes leaves the race as it is. -/
theorem Passes.goes (h : Passes eye c happening c') (hmoments : momentsOf c happening c' = []) :
    Goes c happening c' :=
  .idle h.kept.race (h.kept.stage ▸ .same _) hmoments

/-- Where nobody listens, a happening other than a call passes. -/
theorem Passes.goes_deaf (h : Passes eye c happening c') (hdeaf : c.Deaf) :
    Goes c happening c' := by
  refine h.goes (momentsOf_unheard ?_ fun _ => hdeaf.2)
  rintro rfl
  cases h

/-- A wait other than the player's drive leaves the race to the demo, or as it is. -/
private theorem goes_regular (hupon : Upon games leg c) (hlistening : Listening kind w c)
    (hwaits : Waits games leg kind stack) (hregular : kind.Regular) (hsuits : kind.Suits leg)
    (hhappens : Happens eye.around c happening c') : Goes c happening c' := by
  have helsewhere : c.stage ≠ some .playing := by
    intro hstage
    obtain rfl := hwaits.at_playing (hupon.stage ▸ hstage)
    exact hregular
  have hmoments : momentsOf c happening c' = [] :=
    momentsOf_unheard (hhappens.not_carry hlistening.active) fun h => absurd h helsewhere
  cases hlistening.idles hregular hupon.clocked hupon.sound hupon.paced hhappens with
  | passes hpasses => exact hpasses.goes hmoments
  | stays => exact .idle rfl (.same _) hmoments
  | leaves => exact .idle rfl (.same _) hmoments
  | @event _ event told _ hannounces hact hsteady =>
    have hkept := hannounces.kept
    have hstage : c'.stage = c.stage := hsteady.stage.trans hkept.stage
    by_cases hstill : kind.Still
    · have hparked := onEvent_parked eye (hkept.listening hlistening).watch hstill event
      rw [result_of_ok hact] at hparked
      exact .idle (hparked.race.trans hkept.race) (hstage ▸ .same _) hmoments
    · have hdemo : c.stage = some .demo := by
        cases kind with
        | demo => exact hupon.stage.trans (hsuits .demo rfl)
        | play => exact hregular.elim
        | _ => exact absurd trivial hstill
      refine .demo hdemo (hstage.trans hdemo) ?_ hmoments
      rw [hsteady.circuit, hkept.race]

/-- In a round the end of the countdown drives the car on, and a press steers it. -/
private theorem goes_drive {past : Past} {game : Game} {round : Round}
    (hupon : Upon games (.racing past game round) c) (hlistening : Listening .play w c)
    (hhappens : Happens eye.around c happening c') : Goes c happening c' := by
  have hstage : c.stage = some .playing := hupon.stage
  have hheard : c.key.listeners ≠ [] := by simp [hlistening.key, Watch.Kind.hearsKey]
  cases hlistening.drives hupon.clocked hupon.sound hupon.paced hhappens with
  | passes hpasses hmisses =>
    refine hpasses.goes ?_
    cases hpasses with
    | move => cases hmisses
    | _ => rfl
  | on due outside => exact .drives (.inr hstage) hstage hupon.sound rfl rfl rfl
  | calledOff => exact .idle rfl (.same _) rfl
  | released => exact .idle rfl (.same _) rfl
  | takes outside hjunction =>
    exact .takes hstage hstage hupon.sound hjunction rfl (if_pos ⟨hstage, hheard, hjunction⟩)
  | crashes outside hplain =>
    exact .crashes hstage hstage hupon.sound hplain rfl (if_neg fun h => by simp [hplain] at h)

/-- A task that is woken leaves the race as it is. -/
private theorem goes_wake {call : Call} (hrace : c'.race = c.race) (hstage : c'.stage = c.stage) :
    Goes c (.call call) c' :=
  .idle hrace (hstage ▸ .same _) rfl

/-- Wherever the game stands, a happening does to the race what it may. -/
theorem Stands.goes (hstands : Stands games leg c) (hupon : Upon games leg c)
    (hhappens : Happens eye.around c happening c') : Goes c happening c' := by
  cases hstands with
  | begins hleg hqueued =>
    rcases hqueued.cases hupon.clocked hhappens with hpasses | ⟨rfl, rfl⟩
    · exact hpasses.goes_deaf hqueued.deaf
    · obtain ⟨-, hwake⟩ := hqueued.wake_calling
      exact goes_wake (by rw [hwake]) (by rw [hwake])
  | calling hcarried hcalls hends =>
    obtain ⟨rfl, rfl⟩ := hcarried.cases hhappens
    rw [hcarried.carryOn_calling]
    exact goes_calls hcalls hcarried hupon
  | answering hcarried hadmits htakes =>
    obtain ⟨rfl, rfl⟩ := hcarried.cases hhappens
    exact goes_takes htakes hadmits hcarried hupon
  | waiting hlistening htasks hwaits hticking hpressed =>
    cases hwaits with
    | regular hregular hsuits htakes =>
      exact goes_regular hupon hlistening (.regular hregular hsuits htakes) hregular hsuits hhappens
    | play => exact goes_drive hupon hlistening hhappens
  | woken hqueued hanswer hadmits htakes =>
    rcases hqueued.cases hupon.clocked hhappens with hpasses | ⟨rfl, rfl⟩
    · exact hpasses.goes_deaf hqueued.deaf
    · obtain ⟨-, hwake⟩ := hqueued.wake_waiting hanswer
      exact goes_wake (by rw [hwake]) (by rw [hwake])
  | returned hleg hover hallows =>
    exact (hover.passes hupon.clocked hhappens).goes_deaf hover.deaf
  | failed hleg hover hallows =>
    exact (hover.passes hupon.clocked hhappens).goes_deaf hover.deaf

/-- So it does where the game stalls: nothing drives there. -/
theorem Stalls.goes (hstalls : Stalls games leg c) (hhalted : Halted leg c)
    (hhappens : Happens eye.around c happening c') : Goes c happening c' := by
  cases hstalls with
  | begins hleg hqueued =>
    rcases hqueued.cases hhalted.clocked hhappens with hpasses | ⟨rfl, rfl⟩
    · exact hpasses.goes_deaf hqueued.deaf
    · obtain ⟨-, hwake⟩ := hqueued.wake_calling
      exact goes_wake (by rw [hwake]) (by rw [hwake])
  | calling hcarried hstalling =>
    obtain ⟨rfl, rfl⟩ := hcarried.cases hhappens
    rw [hcarried.carryOn_calling]
    cases hstalling with
    | demo => exact goes_demo (hhalted.stage ▸ .demo)
    | run => exact goes_parked (.begin eye trivial)
    | text => exact goes_parked (.begin eye trivial)
    | character s rest => exact goes_parked (.begin eye trivial)
  | failed hleg hover => exact (hover.passes hhalted.clocked hhappens).goes_deaf hover.deaf

theorem Courses.goes (h : Courses games leg c) (hhappens : Happens eye.around c happening c') :
    Goes c happening c' := by
  cases h with
  | stands hupon hstands => exact hstands.goes hupon hhappens
  | stalls hhalted hstalls => exact hstalls.goes hhalted hhappens

/-! ## Deeds on the track -/

/-- What deeds lead to when they begin with the game on the track. -/
def deedsOnTrack (noted : Cabinet Unit → Happening → Cabinet Unit → List α)
    (deeds : List Deed) : List α × Cabinet Unit :=
  deedsNoted Onlooker.idle.around noted deeds (spawn (.run .nothing) (atRest .onTrack))

theorem deedsOnTrack_run (noted : Cabinet Unit → Happening → Cabinet Unit → List α)
    (deeds : List Deed) : Run Onlooker.idle.around noted (spawn (.run .nothing) (atRest .onTrack))
      (deedsOnTrack noted deeds).1 (deedsOnTrack noted deeds).2 :=
  Run.start.deedsNoted deeds

/-- A press ends the demo, and the countdown is called off. -/
def beginDeeds : List Deed :=
  [.steps 20, .move true, .steps 20, .move false, .steps 20, .disable, .steps 20]

end Cabinet

end DigitRace
