import DigitRace.Proofs.Demo.Phase

/-!
# The text of the demo

While the text of the demo is shown, nothing happens to the race. Each character is followed by
a wait for a press or the end of the countdown, and a press that such a wait finds or hears of
ends the demo.
-/

namespace DigitRace.Cabinet

variable {ω : Type} {eye : Onlooker ω} {c c' c₁ : Cabinet ω} {rate : Int}
  {stack frames : List Frame} {notes : List DemoNote} {happening : Happening} {state : Task.State}
  {w : Nat}

/-- The demo has come to the next cabinet by a happening. -/
structure DemoNext (rate : Int) (stack : List Frame) (notes : List DemoNote) (c : Cabinet ω)
    (happening : Happening) (c' : Cabinet ω) : Prop where
  fit : Fit rate c'
  stands : InDemo rate stack (notes ++ demoNotes stack.length c happening c') c'
  step : DemoStep c happening c'

/-! ## What does not concern the race -/

/-- Outside of the drive, nothing but its beginning concerns the race. -/
theorem Untouched.step (h : Untouched none c c') (hbefore : c.driver? = none)
    (hbegins : c.beginsDrive = false) : DemoStep c happening c' := by
  cases happening <;> simpa [DemoStep, hbefore, hbegins] using h

/-- What passes by leaves the race and the numbers alone. -/
theorem Passes.draws (h : Passes eye c happening c') : c'.draws = c.draws := by
  cases h <;> rfl

theorem Passes.fit (h : Passes eye c happening c') (hfit : Fit rate c) : Fit rate c' where
  clocked := h.clocked hfit.clocked
  drivable := by rw [h.kept.race]; exact hfit.drivable
  rate := h.kept.rate.trans hfit.rate

theorem Kept.driver?_eq (h : Kept c c') : c'.driver? = c.driver? := by
  simp only [driver?, h.tasks, h.watches]

theorem Passes.untouched (h : Passes eye c happening c') : Untouched c.driver? c c' :=
  ⟨h.kept.race, h.draws, h.kept.driver?_eq⟩

theorem demoNotes_enable (depth : Nat) (c c' : Cabinet ω) (ticks : Int) :
    demoNotes depth c (.enable ticks) c' = [.beyond] := by
  simp [demoNotes]

theorem beginsDrive_of_waiting (h : c.tasks = #[{ state := .waiting w, stack := frames }]) :
    c.beginsDrive = false := by
  simp [beginsDrive, h, Task.beginsDrive]

/-! ## The text -/

/-- The text goes on without concern for the race. -/
structure Recited (rate : Int) (stack : List Frame) (notes : List DemoNote)
    (c c' : Cabinet ω) : Prop where
  fit : Fit rate c'
  stands : InDemo rate stack notes c'
  same : Untouched none c c'

section

variable {act : Play ω Progress} {pressed : Bool}

/-- A routine of the text is called. -/
theorem recited_call {routine : Routine} {after : Option Frame}
    (hact : act c = .ok (.call routine after) c₁) (hcarried : Carried state frames c₁)
    (hfit : Fit rate c₁) (hrace : c₁.race = c.race) (hdraws : c₁.draws = c.draws)
    (hrecites : Recites stack routine (after.toList ++ frames))
    (hrate : routine = .pressOrEvent → rate ≠ 0) : Recited rate stack [] c (carry 0 act c) := by
  rw [carry_call hact hcarried.tasks]
  have hcalls : Carried (.calling routine) (after.toList ++ frames)
      { c₁ with tasks := #[{ state := .calling routine, stack := after.toList ++ frames }] } :=
    hcarried.goesOver _ _
  exact ⟨⟨hfit.clocked, hfit.drivable, hfit.rate⟩, .calling hcalls hrecites hrate rfl,
    hrace, hdraws, hcalls.driver?_eq (by simp)⟩

/-- An answer is handed to a frame of the text. -/
theorem recited_done (hact : act c = .ok (.done (.flag pressed)) c)
    (hcarried : Carried state frames c) (hfit : Fit rate c) (hscrolls : Scrolls stack frames)
    (hrate : rate ≠ 0) : Recited rate stack (DemoNote.ofPress pressed) c (carry 0 act c) := by
  rw [carry_done hact hcarried.tasks]
  have htells : Carried (.answering (.flag pressed)) frames
      { c with tasks := #[{ state := .answering (.flag pressed), stack := frames }] } :=
    hcarried.goesOver _ _
  exact ⟨⟨hfit.clocked, hfit.drivable, hfit.rate⟩, .telling htells hscrolls hrate rfl,
    rfl, rfl, htells.driver?_eq (by simp)⟩

/-- The rest of a text is shown character by character. -/
theorem recited_rest {rest : List Value} (hact : act c = .ok (continueText rest) c)
    (hcarried : Carried state (.demoTextShown :: stack) c) (hfit : Fit rate c)
    (htext : ∀ character ∈ rest, ∃ s, character = .text s) (hrate : rest = [] → rate ≠ 0) :
    Recited rate stack [] c (carry 0 act c) := by
  cases rest with
  | nil =>
    have hdone : Recited rate stack (DemoNote.ofPress false) c (carry 0 act c) :=
      recited_done hact hcarried hfit .text (hrate rfl)
    exact hdone
  | cons character rest =>
    obtain ⟨s, rfl⟩ := htext character List.mem_cons_self
    exact recited_call hact hcarried hfit rfl rfl
      (.character s fun character hmem => htext character (List.mem_cons_of_mem _ hmem)) (by simp)

end

/-- The demo begins with its text. -/
private theorem recited_demo (hcarried : Carried state stack c) (hfit : Fit rate c) :
    Recited rate stack [] c (carry 0 (begin eye.around .demo) c) :=
  recited_call (begin_demo eye) (hcarried.entered .demo)
    ⟨hfit.clocked, hfit.drivable, hfit.rate⟩ rfl rfl .text (by simp)

private theorem recited_text (hcarried : Carried state (.demoTextShown :: stack) c)
    (hfit : Fit rate c) :
    Recited rate stack [] c (carry 0 (begin eye.around (.text (.text startText))) c) := by
  refine recited_rest (begin_text eye startText) hcarried hfit ?_ (absurd · (by decide))
  intro character hmem
  obtain ⟨char, -, rfl⟩ := List.mem_map.mp hmem
  exact ⟨char.toString, rfl⟩

/-- A character is shown for half a second; at rate 0 the demo fails there. -/
private theorem recited_character (s : String) {rest : List Value}
    (htext : ∀ character ∈ rest, ∃ s, character = .text s)
    (hcarried : Carried state (.textRest rest :: .demoTextShown :: stack) c) (hfit : Fit rate c) :
    Recited rate stack [] c (carry 0 (begin eye.around (.character (.text s))) c) := by
  by_cases hrate : rate = 0
  · obtain ⟨outside, hact⟩ :=
      begin_character_fails eye s hfit.clocked (hfit.rate.trans hrate)
    rw [carry_error hact hcarried.tasks]
    have hover : Over (.failed .divisionByZero)
        { refused characterTicks (c.shows (Glyph.ofText s) outside) with
          tasks := #[{ state := .ended (.failed .divisionByZero) }], active := none } :=
      ⟨rfl, rfl, hcarried.ready, hcarried.deaf⟩
    exact ⟨⟨.inl (refused_unarmed _ _), hfit.drivable, hfit.rate⟩, .failed hover hrate rfl,
      rfl, rfl, driver?_of_tasks hover.tasks (by simp)⟩
  · obtain ⟨outside, hact⟩ := begin_character eye s hfit.clocked (hfit.rate ▸ hrate)
    exact recited_call hact (hcarried.shown eye _ _ outside)
      ⟨.inr ⟨_, armedFor_endsAt eye _ _⟩, hfit.drivable, hfit.rate⟩ rfl rfl
      (.pressOrEvent (.character htext)) fun _ => hrate

/-- A wait of the text begins, unless the key is down or the countdown is over. -/
private theorem recited_pressOrEvent (hcarried : Carried state frames c) (hfit : Fit rate c)
    (hscrolls : Scrolls stack frames) (hrate : rate ≠ 0) :
    Recited rate stack (DemoNote.ofPress c.key.pressed) c
      (carry 0 (begin eye.around .pressOrEvent) c) := by
  have hact := begin_pressOrEvent eye hcarried.deaf
  by_cases hover : (c.key.pressed || c.timer.elapsed) = true
  · rw [if_pos hover] at hact
    exact recited_done hact hcarried hfit hscrolls hrate
  · rw [if_neg hover] at hact
    have hup : c.key.pressed = false := by
      cases hkey : c.key.pressed <;> simp_all
    have hopened := opened_opened (c := c) .pressOrEvent hcarried.ready
    rw [carry_await hact hcarried.tasks hopened, hup]
    have hlistening := hopened.listening { state := .waiting c.watches.size, stack := frames }
    exact ⟨⟨hfit.clocked, hfit.drivable, hfit.rate⟩,
      .waiting hlistening rfl hscrolls hrate rfl, rfl, rfl,
      hlistening.driver?_pressOrEvent rfl⟩

/-- After a character the digit is dark for a tick, unless there was a press. -/
theorem recited_characterShown (pressed : Bool) {rest : List Value}
    (htext : ∀ character ∈ rest, ∃ s, character = .text s)
    (hcarried : Carried state (.textRest rest :: .demoTextShown :: stack) c) (hfit : Fit rate c)
    (hrate : rate ≠ 0) : Recited rate stack (DemoNote.ofPress pressed) c
      (carry 0 (resume eye.around (.flag pressed) .characterShown) c) := by
  obtain ⟨outside, hact⟩ := resume_characterShown eye pressed hfit.clocked (hfit.rate ▸ hrate)
  cases pressed with
  | true => exact recited_done hact hcarried hfit (.rest htext) hrate
  | false =>
    exact recited_call hact (hcarried.shown eye _ _ outside)
      ⟨.inr ⟨_, armedFor_endsAt eye _ _⟩, hfit.drivable, hfit.rate⟩ rfl rfl
      (.pressOrEvent (.rest htext)) fun _ => hrate

theorem recited_textRest (pressed : Bool) {rest : List Value}
    (htext : ∀ character ∈ rest, ∃ s, character = .text s)
    (hcarried : Carried state (.demoTextShown :: stack) c) (hfit : Fit rate c) (hrate : rate ≠ 0) :
    Recited rate stack (DemoNote.ofPress pressed) c
      (carry 0 (resume eye.around (.flag pressed) (.textRest rest)) c) := by
  have hact := resume_textRest eye (c := c) pressed rest
  cases pressed with
  | true => exact recited_done hact hcarried hfit .text hrate
  | false => exact recited_rest hact hcarried hfit htext fun _ => hrate

/-! ## Whatever happens to the text -/

/-- What goes on in the text concerns nothing but the text. -/
theorem Recited.next (h : Recited rate stack (notes ++ demoNotes stack.length c happening c') c c')
    (hdriver : c.driver? = none) (hbegins : c.beginsDrive = false) :
    DemoNext rate stack notes c happening c' :=
  ⟨h.fit, h.stands, h.same.step hdriver hbegins⟩

/-- What is called for the text goes on. -/
theorem calling_next {routine : Routine} (hcarried : Carried (.calling routine) frames c)
    (hrecites : Recites stack routine frames) (hrate : routine = .pressOrEvent → rate ≠ 0)
    (hfit : Fit rate c) : DemoNext rate stack [] c .carry (carryOn eye.around 0 c) := by
  have hover : Task.isBack stack.length { state := .calling routine, stack := frames } = false :=
    rfl
  have hnotes := hcarried.demoNotes_eq hover (carryOn eye.around 0 c)
  refine Recited.next ?_ (hcarried.driver?_eq (by simp))
    (by simp [beginsDrive, hcarried.tasks, Task.beginsDrive])
  rw [hnotes, hcarried.carryOn_calling]
  cases hrecites with
  | demo => exact recited_demo hcarried hfit
  | text => exact recited_text hcarried hfit
  | character s htext => exact recited_character s htext hcarried hfit
  | pressOrEvent hscrolls => exact recited_pressOrEvent hcarried hfit hscrolls (hrate rfl)

/-- A frame of the text takes an answer. -/
theorem Recited.taken {pressed : Bool} {frame : Frame}
    (h : Recited rate stack (DemoNote.ofPress pressed)
      { c with tasks := #[{ state := .answering (.flag pressed), stack := frames }] } c')
    (hcarried : Carried (.answering (.flag pressed)) (frame :: frames) c)
    (hframe : frame ≠ .demoTextShown) (hdepth : stack.length < (frame :: frames).length) :
    DemoNext rate stack (DemoNote.ofPress pressed) c .carry c' := by
  have hbegins : Task.beginsDrive
      { state := .answering (.flag pressed), stack := frame :: frames } = false := by
    cases frame with
    | demoTextShown => exact absurd rfl hframe
    | _ => rfl
  have hover : Task.isBack stack.length
      { state := .answering (.flag pressed), stack := frame :: frames } = false := by
    simpa [Task.isBack] using hdepth
  have hnotes := hcarried.demoNotes_eq hover c'
  rw [hbegins] at hnotes
  refine ⟨h.fit, ?_, Untouched.step h.same (hcarried.driver?_eq (by simp)) ?_⟩
  · rw [hnotes]
    simpa [Task.polls] using h.stands
  · simp [beginsDrive, hcarried.tasks, hbegins]

/-- A press is handed on by each frame of the text. -/
theorem Carried.carryOn_pressed (eye : Onlooker ω) {frame : Frame} (hframe : frame.OfText)
    (h : Carried (.answering (.flag true)) (frame :: frames) c) : carryOn eye.around 0 c =
      { c with tasks := #[{ state := .answering (.flag true), stack := frames }] } := by
  let popped : Cabinet ω :=
    { c with tasks := #[{ state := .answering (.flag true), stack := frames }] }
  have hact : resume eye.around (.flag true) frame popped = .ok (.done (.flag true)) popped := by
    cases hframe <;> simp [resume]
  rw [h.carryOn_answering, carry_done hact rfl]

/-- A press that ended the text ends the demo. -/
theorem pressed_next
    (hcarried : Carried (.answering (.flag true)) (.demoTextShown :: stack) c)
    (hfit : Fit rate c) : DemoNext rate stack [.heard] c .carry (carryOn eye.around 0 c) := by
  have hover : Task.isBack stack.length
      { state := .answering (.flag true), stack := .demoTextShown :: stack } = false := by
    simp [Task.isBack]
  have hnotes := hcarried.demoNotes_eq hover (carryOn eye.around 0 c)
  rw [hcarried.carryOn_pressed eye .demoTextShown] at hnotes ⊢
  have hback : Carried (.answering (.flag true)) stack
      { c with tasks := #[{ state := .answering (.flag true), stack }] } :=
    hcarried.goesOver _ _
  have hsame : Untouched none c
      { c with tasks := #[{ state := .answering (.flag true), stack }] } :=
    ⟨rfl, rfl, hback.driver?_eq (by simp)⟩
  refine ⟨⟨hfit.clocked, hfit.drivable, hfit.rate⟩, .back hback ?_,
    hsame.step (hcarried.driver?_eq (by simp)) ?_⟩
  · rw [hnotes]
    exact .text
  · simp [beginsDrive, hcarried.tasks, Task.beginsDrive]

/-- A wait of the text goes on, or is ended by a press or an event. -/
theorem waiting_next (hlistening : Listening .pressOrEvent w c)
    (htasks : c.tasks = #[{ state := .waiting w, stack := frames }])
    (hscrolls : Scrolls stack frames) (hrate : rate ≠ 0) (hfit : Fit rate c)
    (hhappens : Happens eye.around c happening c')
    (hbeyond : .beyond ∉ demoNotes stack.length c happening c') :
    DemoNext rate stack [] c happening c' := by
  have hdriver := hlistening.driver?_pressOrEvent htasks
  have hbegins := beginsDrive_of_waiting htasks
  have hover := demoOver_of_waiting htasks stack.length
  cases hlistening.polls hfit.clocked hhappens with
  | passes hpasses hmisses =>
    have hkept := hpasses.kept
    have hnotes : demoNotes stack.length c happening c' = [] := by
      cases hpasses with
      | move => cases hmisses
      | disable => cases hmisses
      | expire | overdue => cases hmisses
      | enable => simp [demoNotes_enable] at hbeyond
      | refuse => simp [demoNotes_enable] at hbeyond
      | wait => simp [demoNotes, hover]
    have hsame := hpasses.untouched
    rw [hdriver] at hsame
    refine ⟨hpasses.fit hfit, ?_, hsame.step hdriver hbegins⟩
    exact .waiting (hkept.listening hlistening) (hkept.tasks.trans htasks) hscrolls hrate hnotes
  | released =>
    have hwaits := hlistening.moved eye false
    have hsame : Untouched none c (moved eye false c) :=
      ⟨rfl, rfl, hwaits.driver?_pressOrEvent htasks⟩
    refine ⟨⟨hfit.clocked, hfit.drivable, hfit.rate⟩, ?_, hsame.step hdriver hbegins⟩
    exact .waiting hwaits htasks hscrolls hrate (by simp [demoNotes, hover])
  | pressed =>
    have hanswered := (hlistening.moved eye true).left_answered (.flag true)
    have hqueued := hanswered.queued htasks
    have hsame : Untouched none c (left w (.flag true) (moved eye true c)) :=
      ⟨rfl, rfl, driver?_of_ending hqueued.tasks hanswered.watch⟩
    refine ⟨⟨hfit.clocked, hfit.drivable, hfit.rate⟩, ?_, hsame.step hdriver hbegins⟩
    refine .told hqueued hanswered.watch hscrolls hrate ?_
    simp [demoNotes, hover, Settled, hlistening.active, hlistening.ready, DemoNote.ofPress]
  | @told _ event told hannounces =>
    have hkept := hannounces.kept
    have hanswered := (hkept.listening hlistening).left_answered (.flag false)
    have hqueued := hanswered.queued (hkept.tasks.trans htasks)
    have hdraws : told.draws = c.draws := by cases hannounces <;> rfl
    have hsame : Untouched none c (left w (.flag false) told) :=
      ⟨hkept.race, hdraws, driver?_of_ending hqueued.tasks hanswered.watch⟩
    have hdrivable : told.race.circuit.Drivable := by
      rw [hkept.race]
      exact hfit.drivable
    refine ⟨⟨.inl hannounces.unarmed, hdrivable, hkept.rate.trans hfit.rate⟩, ?_,
      hsame.step hdriver hbegins⟩
    refine .told hqueued hanswered.watch hscrolls hrate ?_
    cases hannounces <;> simp [demoNotes, hover, hdriver, DemoNote.ofPress]

end DigitRace.Cabinet
