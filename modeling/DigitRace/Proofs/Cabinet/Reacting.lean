import DigitRace.Proofs.Cabinet.Demo

/-!
# How waits react

Apart from the player's drive, every wait of the game reacts to an event in one of two ways:
it goes on with the timer armed anew, or it ends with an answer of its sort. In either case
the stage, the cars and the task stay as they are, and nothing that counts is written down.
-/

namespace DigitRace

/-- The answers that a wait or a routine can come to. -/
inductive Reply where
  /-- The key is up. -/
  | released
  /-- It is over. -/
  | done
  /-- Whether the key was pressed. -/
  | flag
  /-- All games are over. -/
  | finished

/-- Whether an answer is of this sort. -/
def Reply.Admits : Reply → Answer → Prop
  | .released, answer | .done, answer | .finished, answer => answer = .nothing
  | .flag, answer => ∃ pressed, answer = .flag pressed

theorem Reply.admits_released : Reply.released.Admits .nothing := rfl

theorem Reply.admits_done : Reply.done.Admits .nothing := rfl

theorem Reply.admits_finished : Reply.finished.Admits .nothing := rfl

theorem Reply.admits_flag (pressed : Bool) : Reply.flag.Admits (.flag pressed) := ⟨pressed, rfl⟩

namespace Watch.Kind

/-- What a watch of a kind answers, events apart. -/
def reply : Watch.Kind → Reply
  | .pressOrEvent | .demo _ _ | .edge => .flag
  | .release => .released
  | .event | .countdown _ _ | .flashing _ _ | .play => .done

/-- The waits of the game, the player's drive apart. What they count and flash are whole numbers. -/
def Regular : Watch.Kind → Prop
  | .release | .pressOrEvent | .demo _ _ => True
  | .countdown count _ => ∃ n : Int, count = .int n
  | .flashing value _ => ∃ n : Int, value = .int n
  | .event | .edge | .play => False

/-- The stage to which a wait of a kind belongs, if it belongs to one alone. -/
def stage? : Watch.Kind → Option Stage
  | .demo _ _ => some .demo
  | .countdown _ _ => some .countdown
  | .flashing _ _ => some .carLost
  | .play => some .playing
  | .event | .release | .edge | .pressOrEvent => none

end Watch.Kind

namespace Cabinet

variable {ω : Type} (eye : Onlooker ω) {c c' : Cabinet ω} {w : Nat} {kind : Watch.Kind}

/-- The stage, the circuit, the cars and the task are the same, and nothing that counts was written
down. -/
structure Steady (c c' : Cabinet ω) : Prop where
  tasks : c'.tasks = c.tasks
  stage : c'.stage = c.stage
  rate : c'.timer.rate = c.timer.rate
  sound : c'.race.Sound
  circuit : c'.race.circuit = c.race.circuit
  cars : c'.race.cars = c.race.cars
  marks : newMarks c c' = []

/-- A watch of a kind goes on with the timer armed, or it has ended with an answer. -/
inductive GoesOn (kind : Watch.Kind) (w : Nat) (c : Cabinet ω) : Prop
  | armed (now : Watch.Kind) (hregular : now.Regular) (htimer : now.hearsTimer = true)
      (hreply : now.reply = kind.reply) (hstage : now.stage? = kind.stage?)
      (hlistening : Listening now w c) (hends : ∃ due, c.EndsAt due)
  | answered (answer : Answer) (hadmits : kind.reply.Admits answer)
      (hanswered : Answered answer w c) (hclocked : c.Clocked)

/-- A watch that leaves has ended. -/
theorem Listening.left_goesOn {was : Watch.Kind} (h : Listening kind w c) {answer : Answer}
    (hadmits : was.reply.Admits answer) (hclocked : c.Clocked) :
    GoesOn was w (left w answer c) :=
  .answered answer hadmits (h.left_answered answer) hclocked

/-! ## Edges -/

/-- At an edge a wait stays as it is, or it ends. Nobody waits on for a release once the key
is up. -/
theorem Listening.onEdge_regular (h : Listening kind w c) (hregular : kind.Regular)
    (pressed : Bool) :
    onEdge eye.around w pressed c = .ok ⟨⟩ c ∧ (kind = .release → pressed = true) ∨
      ∃ answer, kind.reply.Admits answer ∧
        onEdge eye.around w pressed c = .ok ⟨⟩ (left w answer c) := by
  cases kind with
  | event => exact hregular.elim
  | edge => exact hregular.elim
  | play => exact hregular.elim
  | countdown => exact .inl ⟨by simp [onEdge, h.watch], by simp⟩
  | flashing => exact .inl ⟨by simp [onEdge, h.watch], by simp⟩
  | release =>
    cases pressed with
    | true => exact .inl ⟨by simp [onEdge, h.watch], fun _ => rfl⟩
    | false =>
      have hleave := h.leaveKey_apply rfl .nothing
      refine .inr ⟨.nothing, Reply.admits_released, ?_⟩
      simp only [onEdge, Act.bind_apply _ _ c, Act.get_apply, h.watch]
      exact hleave
  | pressOrEvent =>
    cases pressed with
    | true =>
      refine .inr ⟨.flag true, Reply.admits_flag true, ?_⟩
      simp [onEdge, h.watch, h.leave_apply]
    | false => exact .inl ⟨by simp [onEdge, h.watch], by simp⟩
  | demo =>
    cases pressed with
    | true =>
      refine .inr ⟨.flag true, Reply.admits_flag true, ?_⟩
      simp [onEdge, h.watch, h.leave_apply]
    | false => exact .inl ⟨by simp [onEdge, h.watch], by simp⟩

/-! ## Events during a countdown and while a digit flashes -/

/-- The digit after one event: 0 is not counted down. -/
def digitAfter (digit : Int) : Int :=
  if digit = 0 then 0 else digit - 1

theorem counted_eq (n : Int) :
    (if (Value.int n).truthy then (Value.int n).pred else .int n) = .int (digitAfter n) := by
  by_cases hzero : n = 0 <;> simp [digitAfter, hzero]

section

variable {around : Surroundings ω} {armed : Cabinet ω} {n : Int} {flashes : Nat}

/-- After a digit that is not the last one the timer is armed for a second, and the next digit is
shown. -/
theorem countDown_digit (hmore : digitAfter n ≠ 0) (henable : enable around (.int digitTicks)
      (c.turnedTo w (.countdown (.int (digitAfter n)) flashes)) = .ok ⟨⟩ armed) :
    countDown around w (.int n) flashes c =
      showPattern around (digitPattern (digitAfter n)) armed := by
  have htruthy : (Value.int (digitAfter n)).truthy = true := by simp [hmore]
  rw [← showDigit_eq]
  simp only [countDown, counted_eq, htruthy, if_true, Act.bind_apply, setKind_apply, henable]

/-- After the last digit the timer is armed for a flash, and the zero is shown or the blank. With
the last flash the countdown is over. -/
theorem countDown_flash (hzero : digitAfter n = 0) (henable : enable around (.int flashTicks)
      (c.turnedTo w (.countdown (.int 0) flashes)) = .ok ⟨⟩ armed) :
    countDown around w (.int n) flashes c = (do
      showPattern around (Glyph.ofText (if flashes % 2 = 1 then "0" else " "))
      setKind w (.countdown (.int 0) (flashes - 1))
      if flashes - 1 = 0 then
        leaveTimer w
        conclude w .nothing : Play ω Unit) armed := by
  have htruthy : (Value.int 0).truthy = false := rfl
  simp only [countDown, counted_eq, hzero, htruthy, Bool.false_eq_true, if_false, Act.bind_apply,
    setKind_apply, henable, showCharacter, Glyph.ofValue_text, Act.lift_ok_apply]

end

section

variable (w) (outside : ω) {n : Int} {flashes : Nat}

variable (n flashes c) in
/-- The cabinet once a countdown has come to a digit: the timer is armed and the digit shown. -/
def digitCounted : Cabinet ω :=
  (armedFor eye digitTicks (c.turnedTo w (.countdown (.int n) flashes))).shows (digitPattern n)
    outside

variable (flashes c) in
/-- The cabinet once a countdown has flashed, with one flash less to come. -/
def flashCounted : Cabinet ω :=
  ((armedFor eye flashTicks (c.turnedTo w (.countdown (.int 0) flashes))).shows
    (Glyph.ofText (if flashes % 2 = 1 then "0" else " ")) outside).turnedTo w
      (.countdown (.int 0) (flashes - 1))

variable {w}

theorem Listening.digitCounted (h : Listening (.countdown (.int n) flashes) w c) (next : Int) :
    Listening (.countdown (.int next) flashes) w (c.digitCounted eye w outside next flashes) := by
  have hcounted : Listening (.countdown (.int next) flashes) w
      (c.turnedTo w (.countdown (.int next) flashes)) := h.turnedTo rfl rfl
  exact (hcounted.armed eye digitTicks).shows (digitPattern next) outside

theorem Listening.flashCounted (h : Listening (.countdown (.int n) flashes) w c) :
    Listening (.countdown (.int 0) (flashes - 1)) w (c.flashCounted eye w outside flashes) := by
  have hcounted : Listening (.countdown (.int 0) flashes) w
      (c.turnedTo w (.countdown (.int 0) flashes)) := h.turnedTo rfl rfl
  exact ((hcounted.armed eye flashTicks).shows _ outside).turnedTo rfl rfl

variable (w flashes) in
theorem Clocked.countDown_digit (hclocked : c.Clocked) (hrate : c.timer.rate ≠ 0)
    (hmore : digitAfter n ≠ 0) : ∃ outside, countDown eye.around w (.int n) flashes c =
      .ok ⟨⟩ (c.digitCounted eye w outside (digitAfter n) flashes) := by
  let counted := c.turnedTo w (.countdown (.int (digitAfter n)) flashes)
  have hcounted : counted.Clocked := hclocked
  rw [Cabinet.countDown_digit hmore (hcounted.enable_small eye hrate (by decide))]
  exact showPattern_apply eye _ (digitPattern (digitAfter n))

variable (w flashes) in
theorem Clocked.countDown_flash (hclocked : c.Clocked) (hrate : c.timer.rate ≠ 0)
    (hzero : digitAfter n = 0) : ∃ outside, countDown eye.around w (.int n) flashes c =
      (if flashes - 1 = 0 then do leaveTimer w; conclude w .nothing else pure ⟨⟩ : Play ω Unit)
        (c.flashCounted eye w outside flashes) := by
  let counted := c.turnedTo w (.countdown (.int 0) flashes)
  have hcounted : counted.Clocked := hclocked
  obtain ⟨outside, hshow⟩ := showPattern_apply eye (armedFor eye flashTicks counted)
    (Glyph.ofText (if flashes % 2 = 1 then "0" else " "))
  refine ⟨outside, ?_⟩
  rw [Cabinet.countDown_flash hzero (hcounted.enable_small eye hrate (by decide))]
  simp only [Act.bind_apply, hshow, setKind_apply]
  rfl

end

/-- The countdown is over at its last flash, and goes on before. -/
private theorem Listening.countDown_goesOn {n : Int} {flashes : Nat}
    (h : Listening (.countdown (.int n) flashes) w c) (hclocked : c.Clocked)
    (hsound : c.race.Sound) (hrate : c.timer.rate ≠ 0) :
    ∃ c', countDown eye.around w (.int n) flashes c = .ok ⟨⟩ c' ∧ Steady c c' ∧
      GoesOn (.countdown (.int n) flashes) w c' := by
  by_cases hzero : digitAfter n = 0
  · obtain ⟨outside, hact⟩ := hclocked.countDown_flash eye w flashes hrate hzero
    have hflashed := h.flashCounted eye outside
    have hends := armedFor_endsAt eye flashTicks (c.turnedTo w (.countdown (.int 0) flashes))
    by_cases hlast : flashes - 1 = 0
    · rw [if_pos hlast, hflashed.leaveTimer_apply rfl] at hact
      exact ⟨_, hact, ⟨rfl, rfl, rfl, hsound, rfl, rfl, newMarks_same rfl⟩,
        hflashed.left_goesOn Reply.admits_done (.inr ⟨_, hends⟩)⟩
    · rw [if_neg hlast] at hact
      exact ⟨_, hact, ⟨rfl, rfl, rfl, hsound, rfl, rfl, newMarks_same rfl⟩,
        .armed (.countdown (.int 0) (flashes - 1)) ⟨0, rfl⟩ rfl rfl rfl hflashed ⟨_, hends⟩⟩
  · obtain ⟨outside, hact⟩ := hclocked.countDown_digit eye w flashes hrate hzero
    refine ⟨_, hact, ⟨rfl, rfl, rfl, hsound, rfl, rfl, newMarks_same rfl⟩, ?_⟩
    exact .armed (.countdown (.int (digitAfter n)) flashes) ⟨_, rfl⟩ rfl rfl rfl
      (h.digitCounted eye outside _) ⟨_, armedFor_endsAt eye _ _⟩

/-- The digit is dark once it stops flashing. -/
private theorem Listening.endFlashing_apply (h : Listening kind w c)
    (hkind : kind.hearsKey = false) : ∃ outside,
      endFlashing eye.around w c = .ok ⟨⟩ (left w .nothing (c.shows "" outside)) := by
  let silent : Cabinet ω := { c with timer := c.timer.unregister w }
  obtain ⟨outside, hdark⟩ := darken_apply eye silent
  have hleave := (h.shows "" outside).leaveTimer_apply hkind .nothing
  refine ⟨outside, ?_⟩
  rw [← hleave]
  simp only [endFlashing, leaveTimer, updateTimer, Act.bind_apply, Act.modify_apply]
  rw [hdark]
  rfl

/-- A digit flashes on with the timer armed, or it is dark and the wait is over. -/
private theorem Listening.flash_goesOn {n : Int} {shown : Nat}
    (h : Listening (.flashing (.int n) shown) w c) (hclocked : c.Clocked)
    (hsound : c.race.Sound) (hrate : c.timer.rate ≠ 0) (event : TimerEvent) :
    ∃ c', flash eye.around w event (.int n) shown c = .ok ⟨⟩ c' ∧ Steady c c' ∧
      GoesOn (.flashing (.int n) shown) w c' := by
  by_cases hend : event = .disabled ∨ shown = flashCycles ∨ c.key.pressed = true
  · obtain ⟨outside, hdark⟩ := h.endFlashing_apply eye rfl
    refine ⟨left w .nothing (c.shows "" outside), ?_,
      ⟨rfl, rfl, rfl, hsound, rfl, rfl, newMarks_same rfl⟩,
      (h.shows "" outside).left_goesOn Reply.admits_done hclocked⟩
    simp only [flash, Act.bind_apply, Act.get_apply, hend, if_true]
    exact hdark
  · obtain ⟨pattern, outside, hface⟩ : ∃ pattern outside,
        (if shown % 2 = 1 then showDigit eye.around (.int n)
          else showCharacter eye.around (.text " ")) c = .ok ⟨⟩ (c.shows pattern outside) := by
      split
      · exact ⟨_, showDigit_apply eye c n⟩
      · exact ⟨_, showCharacter_apply eye c " "⟩
    let flashed := (c.shows pattern outside).turnedTo w (.flashing (.int n) (shown + 1))
    have hflashed : Listening (.flashing (.int n) (shown + 1)) w flashed :=
      (h.shows pattern outside).turnedTo rfl rfl
    have hact : flash eye.around w event (.int n) shown c =
        (if shown + 1 = flashCycles then endFlashing eye.around w
          else enable eye.around (.int flashTicks)) flashed := by
      simp only [flash, Act.bind_apply _ _ c, Act.get_apply, hend, if_false]
      by_cases hodd : shown % 2 = 1
      · simp only [hodd, if_true] at hface ⊢
        rw [Act.bind_apply, hface]
        rfl
      · simp only [hodd, if_false] at hface ⊢
        rw [Act.bind_apply, hface]
        rfl
    by_cases hlast : shown + 1 = flashCycles
    · obtain ⟨outside', hdark⟩ := hflashed.endFlashing_apply eye rfl
      rw [if_pos hlast, hdark] at hact
      exact ⟨_, hact, ⟨rfl, rfl, rfl, hsound, rfl, rfl, newMarks_same rfl⟩,
        (hflashed.shows "" outside').left_goesOn Reply.admits_done hclocked⟩
    · have hticking : flashed.Clocked := hclocked
      rw [if_neg hlast, hticking.enable_small eye hrate (by decide)] at hact
      exact ⟨_, hact, ⟨rfl, rfl, rfl, hsound, rfl, rfl, newMarks_same rfl⟩,
        .armed (.flashing (.int n) (shown + 1)) ⟨n, rfl⟩ rfl rfl rfl (hflashed.armed eye _)
          ⟨_, armedFor_endsAt eye _ _⟩⟩

/-! ## Events during the demo -/

/-- The demo drives on to the moment to steer. -/
private theorem Listening.demoDrive_on {loops : Nat} (h : Listening (.demo false loops) w c)
    (hclocked : c.Clocked) (hsound : c.race.Sound) (hrate : c.timer.rate ≠ 0) :
    ∃ c', demoDrive eye.around w false loops c = .ok ⟨⟩ c' ∧ Steady c c' ∧
      GoesOn (.demo false loops) w c' := by
  obtain ⟨outside, hdrive⟩ :=
    hclocked.demoDrive_onward eye w loops hsound hrate
  refine ⟨_, hdrive, ?_, ?_⟩
  · exact ⟨rfl, rfl, rfl, hsound.driven, hsound.driven_keeps.1, hsound.driven_cars,
      (newMarks_append rfl).trans c.race.driveNotes_marks⟩
  · exact .armed (.demo true loops) trivial rfl rfl rfl ((h.onward outside).armed eye _)
      ⟨_, armedFor_endsAt eye _ _⟩

/-- The demo takes a junction or passes it by, and goes on unless this was the last. No car is lost,
since it steers at junctions only. -/
private theorem Listening.demoDrive_steers {loops : Nat} (h : Listening (.demo true loops) w c)
    (hclocked : c.Clocked) (hsound : c.race.Sound) (hrate : c.timer.rate ≠ 0) :
    ∃ c', demoDrive eye.around w true loops c = .ok ⟨⟩ c' ∧ Steady c c' ∧
      GoesOn (.demo true loops) w c' := by
  cases htakes : c.takesJunction with
  | false =>
    refine ⟨_, hclocked.demoDrive_aside eye w loops hrate htakes, ?_, ?_⟩
    · exact ⟨rfl, rfl, rfl, hsound, rfl, rfl, newMarks_same rfl⟩
    · exact .armed (.demo false loops) trivial rfl rfl rfl (h.aside.armed eye _)
        ⟨_, armedFor_endsAt eye _ _⟩
  | true =>
    have hjunction : c.race.atJunction = true := (Bool.and_eq_true_iff.mp htakes).1
    obtain ⟨outside, hdrive⟩ := h.demoDrive_taken eye hclocked hsound hrate htakes
    have htaken := h.taken outside
    have hmarks : newMarks c (c.taken w loops outside) = [] := by
      have hnotes := c.race.steerNotes_marks
      rw [if_pos hjunction] at hnotes
      exact (newMarks_append rfl).trans hnotes
    have hcars : (c.taken w loops outside).race.cars = c.race.cars := by
      have hcars := hsound.steered_cars
      rwa [if_pos hjunction] at hcars
    by_cases hlast : loops - 1 = 0
    · rw [if_pos hlast] at hdrive
      exact ⟨_, hdrive, ⟨rfl, rfl, rfl, hsound.steered, hsound.steered_circuit, hcars, hmarks⟩,
        htaken.left_goesOn (Reply.admits_flag false) hclocked⟩
    · rw [if_neg hlast] at hdrive
      exact ⟨_, hdrive, ⟨rfl, rfl, rfl, hsound.steered, hsound.steered_circuit, hcars, hmarks⟩,
        .armed (.demo false (loops - 1)) trivial rfl rfl rfl (htaken.armed eye _)
          ⟨_, armedFor_endsAt eye _ _⟩⟩

/-! ## Events -/

/-- A wait for an event ends with it. -/
theorem Listening.onEvent_event (h : Listening .event w c) (event : TimerEvent) :
    onEvent eye.around w event c = .ok ⟨⟩ (left w (.event event) c) := by
  have hleave := h.leaveTimer_apply rfl (.event event)
  simp only [onEvent, Act.bind_apply _ _ c, Act.get_apply, h.watch]
  exact hleave

/-- A countdown that is called off is over. -/
theorem Listening.onEvent_countdown {digit : Value} {flashes : Nat}
    (h : Listening (.countdown digit flashes) w c) (event : TimerEvent) :
    onEvent eye.around w event c = match event with
      | .disabled => .ok ⟨⟩ (left w .nothing c)
      | .elapsed => countDown eye.around w digit flashes c := by
  have hleave := h.leaveTimer_apply rfl .nothing
  simp only [onEvent, Act.bind_apply _ _ c, Act.get_apply, h.watch]
  cases event with
  | disabled => exact hleave
  | elapsed => rfl

/-- At an event of the timer a wait goes on with the timer armed, or it ends. -/
theorem Listening.onEvent_regular (h : Listening kind w c) (hregular : kind.Regular)
    (htimer : kind.hearsTimer = true) (hclocked : c.Clocked) (hsound : c.race.Sound)
    (hrate : c.timer.rate ≠ 0) (event : TimerEvent) :
    ∃ c', onEvent eye.around w event c = .ok ⟨⟩ c' ∧ Steady c c' ∧ GoesOn kind w c' := by
  have hleft (answer : Answer) : Steady c (left w answer c) :=
    ⟨rfl, rfl, rfl, hsound, rfl, rfl, newMarks_same rfl⟩
  cases kind with
  | event => exact hregular.elim
  | edge => exact hregular.elim
  | play => exact hregular.elim
  | release => cases htimer
  | pressOrEvent =>
    exact ⟨_, by simp [onEvent, h.watch, h.leave_apply], hleft (.flag false),
      h.left_goesOn (Reply.admits_flag false) hclocked⟩
  | countdown count flashes =>
    obtain ⟨n, rfl⟩ := hregular
    cases event with
    | disabled =>
      exact ⟨left w .nothing c, h.onEvent_countdown eye .disabled, hleft .nothing,
        h.left_goesOn Reply.admits_done hclocked⟩
    | elapsed =>
      obtain ⟨c', hact, hsteady, hgoes⟩ := h.countDown_goesOn eye hclocked hsound hrate
      exact ⟨c', (h.onEvent_countdown eye .elapsed).trans hact, hsteady, hgoes⟩
  | flashing value shown =>
    obtain ⟨n, rfl⟩ := hregular
    obtain ⟨c', hact, hsteady, hgoes⟩ := h.flash_goesOn eye hclocked hsound hrate event
    exact ⟨c', by simp only [onEvent, Act.bind_apply, Act.get_apply, h.watch, hact], hsteady, hgoes⟩
  | demo steering loops =>
    cases event with
    | disabled =>
      exact ⟨_, by simp [onEvent, h.watch, h.leave_apply], hleft (.flag false),
        h.left_goesOn (Reply.admits_flag false) hclocked⟩
    | elapsed =>
      have hdrive : ∃ c', demoDrive eye.around w steering loops c = .ok ⟨⟩ c' ∧ Steady c c' ∧
          GoesOn (.demo steering loops) w c' := by
        cases steering with
        | false => exact h.demoDrive_on eye hclocked hsound hrate
        | true => exact h.demoDrive_steers eye hclocked hsound hrate
      obtain ⟨c', hact, hsteady, hgoes⟩ := hdrive
      exact ⟨c', by simp only [onEvent, Act.bind_apply, Act.get_apply, h.watch, hact], hsteady,
        hgoes⟩

/-! ## Whatever happens -/

/-- What a happening comes to during a wait other than the player's drive. -/
inductive Idles (kind : Watch.Kind) (w : Nat) (c : Cabinet ω) : Happening → Cabinet ω → Prop
  /-- The watch does not hear of it. -/
  | passes {happening : Happening} {c' : Cabinet ω} (hpasses : Passes eye c happening c')
      (hmisses : kind.Misses happening) : Idles kind w c happening c'
  /-- The watch is told of an event of the timer. -/
  | event {happening : Happening} {event : TimerEvent} {told c' : Cabinet ω}
      (hannounces : Announces c happening event told)
      (hact : onEvent eye.around w event told = .ok ⟨⟩ c') (hsteady : Steady told c')
      (hgoes : GoesOn kind w c') : Idles kind w c happening c'
  /-- The key is moved, and the wait goes on. -/
  | stays (pressed : Bool) (hrelease : kind = .release → pressed = true) :
      Idles kind w c (.move pressed) (moved eye pressed c)
  /-- The key is moved, and this is what was waited for. -/
  | leaves (pressed : Bool) (answer : Answer) (hadmits : kind.reply.Admits answer) :
      Idles kind w c (.move pressed) (left w answer (moved eye pressed c))

variable {eye} {happening : Happening}

/-- Whatever happens during such a wait, it comes to one of these. -/
theorem Listening.idles (h : Listening kind w c) (hregular : kind.Regular) (hclocked : c.Clocked)
    (hsound : c.race.Sound) (hrate : c.timer.rate ≠ 0)
    (hhappens : Happens eye.around c happening c') : Idles eye kind w c happening c' := by
  rcases h.cases hclocked hhappens with
    ⟨pressed, hkey, rfl, rfl⟩ | ⟨event, told, htimer, hannounces, rfl⟩ | ⟨hpasses, hmisses⟩
  · have hlisteners : c.key.listeners = [w] := by simpa [hkey] using h.key
    rcases (h.moved eye pressed).onEdge_regular eye hregular pressed with
      ⟨hstays, hrelease⟩ | ⟨answer, hadmits, hleaves⟩
    · rw [move_one eye hlisteners hstays]
      exact .stays pressed hrelease
    · rw [move_one eye hlisteners hleaves]
      exact .leaves pressed answer hadmits
  · have hkept := hannounces.kept
    have htold := hkept.listening h
    obtain ⟨after, hact, hsteady, hgoes⟩ := htold.onEvent_regular eye hregular htimer
      (.inl hannounces.unarmed) (by rw [hkept.race]; exact hsound)
      (by rw [hkept.rate]; exact hrate) event
    have hlisteners : told.timer.listeners = [w] := by simpa [htimer] using htold.timer
    rw [notify_one hlisteners hact]
    exact .event hannounces hact hsteady hgoes
  · exact .passes hpasses hmisses

end Cabinet

end DigitRace
