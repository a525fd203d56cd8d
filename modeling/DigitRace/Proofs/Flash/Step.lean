import DigitRace.Proofs.Flash.Face

/-!
# Whatever happens to a digit that flashes

A digit that flashes stands somewhere after everything that can happen to it until it is over. What
was heard since the key was up tells where: each event either shows the next face or is the last.
-/

namespace DigitRace.Cabinet

variable {clock : Cabinet Writes → Rat} {c c' : Cabinet Writes} {start : Rat} {rate : Int}
  {begun : Writes} {stack : List Frame} {digit : Int} {heard : Option (List Bool)}
  {events : List Bool} {happening : Happening} {w shown : Nat}

/-! ## Up to the first face -/

variable (clock) in
/-- A digit that is called asks first whether the key is up. -/
theorem Carried.carryOn_flashingDigit {value : Int}
    (h : Carried (.calling (.flashingDigit (.int value))) stack c) :
    Carried (.calling .keyReleased) (.readyToFlash (.int (min value greatestDigit)) :: stack)
        (carryOn (Onlooker.scribe clock).around 0 c) ∧
      carryOn (Onlooker.scribe clock).around 0 c = { c with
        tasks := #[{
          state := .calling .keyReleased
          stack := .readyToFlash (.int (min value greatestDigit)) :: stack }] } := by
  have hact := begin_flashingDigit (Onlooker.scribe clock) (c := c) value
  rw [h.carryOn_calling, carry_call hact h.tasks]
  exact ⟨h.goesOver _ _, rfl⟩

variable (clock) in
/-- Nothing is waited for if the key is up. -/
theorem Carried.carryOn_up (h : Carried (.calling .keyReleased) stack c)
    (hup : c.key.pressed = false) :
    Carried (.answering .nothing) stack (carryOn (Onlooker.scribe clock).around 0 c) ∧
      carryOn (Onlooker.scribe clock).around 0 c =
        { c with tasks := #[{ state := .answering .nothing, stack }] } := by
  have hact := begin_keyReleased (Onlooker.scribe clock) h.deaf
  rw [hup] at hact
  rw [h.carryOn_calling, carry_done hact h.tasks]
  exact ⟨h.goesOver _ _, rfl⟩

variable (clock) in
/-- The release is waited for if the key is down. -/
theorem flashed_asks
    (hcarried : Carried (.calling .keyReleased) (.readyToFlash (.int digit) :: stack) c)
    (hclocked : c.Clocked) (hobserved : c.display.observer.isSome = true) :
    Flashed c.agenda.now c.timer.rate c.outside digit stack
      (if c.key.pressed then none else some []) (carryOn (Onlooker.scribe clock).around 0 c) := by
  by_cases hpressed : c.key.pressed = true
  · have hact := begin_keyReleased (Onlooker.scribe clock) hcarried.deaf
    have hopened := opened_opened (c := c) .release hcarried.ready
    rw [if_pos hpressed] at hact ⊢
    rw [hcarried.carryOn_calling, carry_await hact hcarried.tasks hopened]
    exact ⟨.held (hopened.listening _) rfl rfl rfl, hclocked, hobserved, rfl⟩
  · obtain ⟨hready, hcarry⟩ := hcarried.carryOn_up clock (by simpa using hpressed)
    rw [if_neg hpressed]
    rw [hcarry] at hready ⊢
    exact ⟨.ready hready rfl rfl rfl, hclocked, hobserved, rfl⟩

variable (clock) in
/-- Once the key is up, the digit waits with its first face shown. -/
theorem flashed_begins
    (hcarried : Carried (.answering .nothing) (.readyToFlash (.int digit) :: stack) c)
    (hclocked : c.Clocked) (hobserved : c.display.observer.isSome = true)
    (hrate : c.timer.rate ≠ 0) :
    Flashed c.agenda.now c.timer.rate c.outside digit stack (some [])
        (carryOn (Onlooker.scribe clock).around 0 c) ∧
      (carryOn (Onlooker.scribe clock).around 0 c).Settled ∧
      (carryOn (Onlooker.scribe clock).around 0 c).agenda.now = c.agenda.now ∧
      (carryOn (Onlooker.scribe clock).around 0 c).key.pressed = c.key.pressed := by
  let popped : Cabinet Writes := { c with tasks := #[{ state := .answering .nothing, stack }] }
  let opening := popped.opened (.flashing (.int digit) 0)
  let face : Shot := ⟨flashFace digit 0, flashTicks⟩
  have hact := scribe_readyToFlash clock digit (c := popped) hcarried.deaf hclocked hrate
  have hbegins : opening.agenda.now =
      tickTime c.agenda.now c.timer.rate (Shot.length (faceReel digit 0)) :=
    (tickTime_zero c.agenda.now c.timer.rate).symm
  have hopening : Filmed c.agenda.now c.timer.rate c.outside (faceReel digit 0) opening :=
    (Filmed.begins rfl hobserved).kept rfl le_rfl rfl rfl
  have hshown : Filmed c.agenda.now c.timer.rate c.outside (faceReel digit 1)
      (opening.written face.pattern) := hopening.shot hbegins face
  have hopened : Opened (.flashing (.int digit) 0) c.watches.size
      (armedFor (Onlooker.scribe clock) face.ticks (opening.written face.pattern)) :=
    ⟨(opened_opened _ hcarried.ready).watch, rfl, rfl, hcarried.ready⟩
  have hends : (armedFor (Onlooker.scribe clock) face.ticks (opening.written face.pattern)).EndsAt
      (tickTime c.agenda.now c.timer.rate (5 * (0 + 1))) :=
    endsAt_shot (c := opening.written face.pattern) rfl hbegins face
  rw [hcarried.carryOn_answering, carry_await hact rfl hopened]
  have hface : AtFace c.agenda.now c.timer.rate c.outside digit stack c.watches.size 0 { armedFor
      (Onlooker.scribe clock) face.ticks (opening.written face.pattern) with
      tasks := #[{ state := .waiting c.watches.size, stack }]
      active := none
      watches := opening.watches.modify c.watches.size
        fun watch => { watch with waiter := some 0 } } :=
    ⟨hopened.listening _, rfl, by decide, hshown.kept rfl le_rfl rfl rfl⟩
  exact ⟨⟨.shown (.face hface hends rfl) rfl, hends.clocked, hobserved, rfl⟩, hface.settled, rfl,
    rfl⟩

/-! ## Events -/

variable (clock) in
/-- An event that stops the digit leaves it dark. -/
theorem AtFace.stops (h : AtFace start rate begun digit stack w shown c) (hclocked : c.Clocked)
    {event : TimerEvent} (hstops : event = .disabled ∨ c.key.pressed = true) :
    ∃ c', onEvent (Onlooker.scribe clock).around w event c = .ok ⟨⟩ c' ∧
      Hears start rate begun digit stack (List.replicate shown false ++ [true]) c c' := by
  have hanswered := (h.listening.shows "" (c.written "").outside).left_answered .nothing
  have hfirst := firstStop_stopped h.more
  have hdark : Darkened start rate begun digit (List.replicate shown false ++ [true])
      (left w .nothing (c.written "")) := by
    refine ⟨h.begins_le, ?_, ?_, rfl, fun hnone => absurd (by simp) hnone⟩
    · have hmore := h.more
      rw [hfirst, List.length_append, List.length_replicate, List.length_singleton]
      omega
    · have hfaces :
          min (firstStop (List.replicate shown false ++ [true]) - 1) flashCycles = shown := by
        have hmore := h.more
        omega
      rw [hfaces, ← h.outside]
      exact written_outside h.filmed.observed ""
  have hleaves : Leaves stack (left w .nothing (c.written "")) :=
    .told (hanswered.queued h.tasks) hanswered.watch
  exact ⟨_, h.listening.scribe_flash_stops clock hstops,
    ⟨.dark hleaves hdark, hclocked, h.filmed.observed, h.filmed.rate, rfl, rfl⟩⟩

variable (clock) in
/-- At the end of a face that is not stopped, the next one is shown, and after the last one the
digit is dark. -/
theorem AtFace.goesOn (h : AtFace start rate begun digit stack w shown c) (hclocked : c.Clocked)
    (hrate : rate ≠ 0) (hnow : c.agenda.now = tickTime start rate (5 * (shown + 1)))
    (hup : c.key.pressed = false) :
    ∃ c', onEvent (Onlooker.scribe clock).around w .elapsed c = .ok ⟨⟩ c' ∧
      Hears start rate begun digit stack (List.replicate (shown + 1) false) c c' := by
  let face : Shot := ⟨flashFace digit (shown + 1), flashTicks⟩
  have hbegins : c.agenda.now =
      tickTime start rate (Shot.length (faceReel digit (shown + 1))) := by
    rw [length_faceReel, hnow]
  have hshown : Filmed start rate begun (faceReel digit (shown + 2))
      (c.flashedOn w digit shown) := by
    rw [faceReel_succ]
    exact (h.filmed.shot hbegins face).kept rfl le_rfl rfl rfl
  have hact := h.listening.scribe_flash_goesOn clock hup h.more hclocked (h.filmed.rate ▸ hrate)
  by_cases hlast : shown + 1 = flashCycles
  · rw [if_pos hlast] at hact
    have hanswered := (h.listening.flashedOn.shows ""
      ((c.flashedOn w digit shown).written "").outside).left_answered .nothing
    have hfirst := firstStop_replicate hlast.le
    have hdark : Darkened start rate begun digit (List.replicate (shown + 1) false)
        (left w .nothing ((c.flashedOn w digit shown).written "")) := by
      refine ⟨h.begins_le, ?_, ?_, rfl, fun _ => hnow.trans ?_⟩
      · rw [hfirst, List.length_replicate]
        omega
      · have hfaces : min (firstStop (List.replicate (shown + 1) false) - 1) flashCycles =
            shown + 1 := by
          omega
        rw [hfaces, ← cues_faceReel, ← hshown.outside]
        exact written_outside hshown.observed ""
      · rw [hlast]
        rfl
    have hleaves : Leaves stack (left w .nothing ((c.flashedOn w digit shown).written "")) :=
      .told (hanswered.queued h.tasks) hanswered.watch
    exact ⟨_, hact, ⟨.dark hleaves hdark, hclocked, h.filmed.observed, h.filmed.rate, rfl, rfl⟩⟩
  · rw [if_neg hlast] at hact
    have hends : (armedFor (Onlooker.scribe clock) flashTicks (c.flashedOn w digit shown)).EndsAt
        (tickTime start rate (5 * (shown + 1 + 1))) := by
      rw [← length_faceReel digit (shown + 1 + 1), faceReel_succ]
      exact endsAt_shot (c := c.flashedOn w digit shown) h.filmed.rate hbegins face
    have hmore := h.more
    have hface : AtFace start rate begun digit stack w (shown + 1)
        (armedFor (Onlooker.scribe clock) flashTicks (c.flashedOn w digit shown)) :=
      ⟨h.listening.flashedOn.armed _ _, h.tasks, by omega, hshown.kept rfl le_rfl rfl rfl⟩
    exact ⟨_, hact, ⟨.face hface hends rfl, hends.clocked, h.filmed.observed, h.filmed.rate, rfl,
      rfl⟩⟩

variable (clock) in
/-- At the end of a face the digit hears whether the key is down. -/
theorem AtFace.expires (h : AtFace start rate begun digit stack w shown c) (hrate : rate ≠ 0)
    {due : Rat} (hdue : due = tickTime start rate (5 * (shown + 1))) :
    ∃ c', ((notify (Onlooker.scribe clock).around .elapsed).result (c.expired due)).2 = c' ∧
      Hears start rate begun digit stack (List.replicate shown false ++ [c.key.pressed])
        (c.expired due) c' := by
  subst hdue
  have hover := h.expired
  have hunarmed : (c.expired (tickTime start rate (5 * (shown + 1)))).Clocked :=
    .inl (expired_unarmed _ c)
  by_cases hpressed : c.key.pressed = true
  · obtain ⟨c', hact, hstopped⟩ := hover.stops clock hunarmed (.inr hpressed)
    rw [notify_one hover.listening.timer hact, hpressed]
    exact ⟨c', rfl, hstopped⟩
  · have hup : c.key.pressed = false := by simpa using hpressed
    obtain ⟨c', hact, hwentOn⟩ := hover.goesOn clock hunarmed hrate rfl hup
    rw [notify_one hover.listening.timer hact, hup, ← List.replicate_succ']
    exact ⟨c', rfl, hwentOn⟩

variable (clock) in
/-- If the countdown is called off, the digit stops. -/
theorem AtFace.calledOff (h : AtFace start rate begun digit stack w shown c) :
    ∃ c', ((notify (Onlooker.scribe clock).around .disabled).result c.cleared).2 = c' ∧
      Hears start rate begun digit stack (List.replicate shown false ++ [true]) c.cleared c' := by
  obtain ⟨c', hact, hstopped⟩ := h.cleared.stops clock (.inl c.cleared_unarmed) (.inl rfl)
  exact ⟨c', notify_one h.cleared.listening.timer hact, hstopped⟩

/-! ## Whatever happens -/

theorem flashNotes_of_waiting (hback : isBack stack.length c = false) :
    flashNotes stack.length c happening c' = match happening with
      | .move pressed => [.moved pressed]
      | .disable => if c.Settled then [.event true] else []
      | .call .countdownOver => [.event c.key.pressed]
      | .enable _ => [.beyond]
      | _ => [] := by
  unfold flashNotes
  rw [hback]
  rfl

/-- While the key is down, only its release counts. -/
theorem counted_held (hback : isBack stack.length c = false)
    (hrelease : happening ≠ .move false) :
    (flashNotes stack.length c happening c').foldl FlashNote.counted none = none := by
  rw [flashNotes_of_waiting hback]
  cases happening with
  | move pressed =>
    cases pressed with
    | false => exact absurd rfl hrelease
    | true => rfl
  | disable => by_cases hsettled : c.Settled <;> simp [hsettled, FlashNote.counted]
  | call call => cases call <;> rfl
  | _ => rfl

/-- Where task 0 is about to be called, a happening that passes counts for nothing, and takes no
time. -/
theorem counted_queued {state : Task.State} {frames : List Frame} (hqueued : Queued state frames c)
    (hhappens : Happens (Onlooker.scribe clock).around c happening c')
    (hpasses : Passes (Onlooker.scribe clock) c happening c')
    (hback : isBack stack.length c = false)
    (hbeyond : .beyond ∉ flashNotes stack.length c happening c') :
    (flashNotes stack.length c happening c').foldl FlashNote.counted (some events) = some events ∧
      c'.agenda.now = c.agenda.now := by
  rw [flashNotes_of_waiting hback] at hbeyond ⊢
  cases hpasses with
  | move pressed => cases pressed <;> exact ⟨rfl, rfl⟩
  | disable => simp [hqueued.not_settled, cleared]
  | enable => simp at hbeyond
  | refuse => simp at hbeyond
  | expire hready => simp [hqueued.ready] at hready
  | overdue => exact ⟨rfl, rfl⟩
  | wait => exact absurd hhappens.wait_cases.1 (by simp [hqueued.ready])

variable (events) in
/-- What a digit that has stopped counts, and what it keeps until its task has learned of it. -/
theorem Leaves.next (h : Leaves stack c) (hclocked : c.Clocked)
    (hhappens : Happens (Onlooker.scribe clock).around c happening c')
    (hbeyond : .beyond ∉ flashNotes stack.length c happening c') :
    Leaves stack c' ∧ c'.Clocked ∧ c'.outside = c.outside ∧ c'.agenda.now = c.agenda.now ∧
      c'.display = c.display ∧ c'.timer.rate = c.timer.rate ∧ (flashNotes stack.length c happening
        c').foldl FlashNote.counted (some events) = some events := by
  cases h with
  | told hqueued hanswer =>
    have hback := isBack_of_waiting hqueued.tasks stack.length
    rcases hqueued.cases hclocked hhappens with hpasses | ⟨rfl, rfl⟩
    · have hkept := hpasses.kept
      obtain ⟨hcounted, hnow⟩ := counted_queued hqueued hhappens hpasses hback hbeyond
      rw [← hkept.watches] at hanswer
      exact ⟨.told (hkept.queued hqueued) hanswer, hpasses.clocked hclocked, hpasses.outside_eq,
        hnow, hkept.display, hkept.rate, hcounted⟩
    · obtain ⟨hcarried, hwake⟩ := hqueued.wake_waiting hanswer
      rw [flashNotes_of_waiting hback]
      rw [hwake] at hcarried ⊢
      exact ⟨.back hcarried, hclocked, rfl, rfl, rfl, rfl, rfl⟩
  | back hcarried => simp [flashNotes, hcarried.isBack_answering] at hbeyond

/-- A digit that has stopped stays dark. -/
theorem Darkened.kept (h : Darkened start rate begun digit events c)
    (houtside : c'.outside = c.outside) (hnow : c'.agenda.now = c.agenda.now)
    (hdisplay : c'.display = c.display) : Darkened start rate begun digit events c' :=
  ⟨hnow ▸ h.begins, h.count, by rw [houtside, hnow]; exact h.outside, hdisplay ▸ h.dark,
    fun hnone => hnow.trans (h.inTime hnone)⟩

/-- While the key is held down, a digit that is to flash waits for its release. -/
theorem flashed_held (hlistening : Listening .release w c)
    (htasks : c.tasks = #[{ state := .waiting w, stack := .readyToFlash (.int digit) :: stack }])
    (hclocked : c.Clocked) (hobserved : c.display.observer.isSome = true)
    (hhappens : Happens (Onlooker.scribe clock).around c happening c') :
    ∃ start, Flashed start c.timer.rate c.outside digit stack
      ((flashNotes stack.length c happening c').foldl FlashNote.counted none) c' := by
  have hback := isBack_of_waiting htasks stack.length
  rcases hlistening.cases hclocked hhappens with
    ⟨pressed, -, rfl, rfl⟩ | ⟨_, _, htimer, -⟩ | ⟨hpasses, hmisses⟩
  · have hmoved := hlistening.moved (Onlooker.scribe clock) pressed
    cases pressed with
    | true =>
      have hstays : onEdge (Onlooker.scribe clock).around w true
          (moved (Onlooker.scribe clock) true c) =
            .ok ⟨⟩ (moved (Onlooker.scribe clock) true c) := by
        simp [onEdge, hmoved.watch]
      rw [counted_held hback (by simp), move_one _ hlistening.key hstays]
      exact ⟨c.agenda.now, .held hmoved htasks (moved_outside true) rfl, hclocked, hobserved, rfl⟩
    | false =>
      have hleaves : onEdge (Onlooker.scribe clock).around w false
          (moved (Onlooker.scribe clock) false c) =
            .ok ⟨⟩ (left w .nothing (moved (Onlooker.scribe clock) false c)) := by
        have hleave := hmoved.leaveKey_apply rfl .nothing
        simp only [onEdge, Act.bind_apply _ _ (Cabinet.moved _ _ _), Act.get_apply, hmoved.watch]
        exact hleave
      have hanswered := hmoved.left_answered .nothing
      rw [move_one _ hlistening.key hleaves, flashNotes_of_waiting hback]
      exact ⟨c.agenda.now, .up (hanswered.queued htasks) hanswered.watch (moved_outside false) rfl
        rfl, hclocked, hobserved, rfl⟩
  · cases htimer
  · have hkept := hpasses.kept
    have hrelease : happening ≠ .move false := by
      rintro rfl
      cases hmisses
    rw [counted_held hback hrelease]
    exact ⟨c.agenda.now, .held (hkept.listening hlistening) (hkept.tasks.trans htasks)
      hpasses.outside_eq rfl, hpasses.clocked hclocked, by rwa [hkept.display], hkept.rate⟩

/-- A digit at a face hears the events of the timer. Everything else passes: the key is moved, or
time goes on up to the end of the face. -/
theorem AtFace.next (h : AtFace start rate begun digit stack w shown c)
    (hends : c.EndsAt (tickTime start rate (5 * (shown + 1)))) (hrate : rate ≠ 0)
    (hhappens : Happens (Onlooker.scribe clock).around c happening c')
    (hbeyond : .beyond ∉ flashNotes stack.length c happening c') :
    c'.agenda.now ≤ max c.agenda.now (tickTime start rate (5 * (shown + 1))) ∧
      ((∃ stops told, flashNotes stack.length c happening c' = [.event stops] ∧
        Hears start rate begun digit stack (List.replicate shown false ++ [stops]) told c') ∨
      AtFace start rate begun digit stack w shown c' ∧
        c'.EndsAt (tickTime start rate (5 * (shown + 1))) ∧
        ∀ note ∈ flashNotes stack.length c happening c', ∃ pressed, note = .moved pressed) := by
  have hback := isBack_of_waiting h.tasks stack.length
  rw [flashNotes_of_waiting hback] at hbeyond ⊢
  rcases h.listening.cases hends.clocked hhappens with
    ⟨_, hkey, -⟩ | ⟨event, told, -, hannounces, rfl⟩ | ⟨hpasses, hmisses⟩
  · cases hkey
  · cases hannounces with
    | disable =>
      obtain ⟨c', hact, hheard⟩ := h.calledOff clock
      rw [hact]
      exact ⟨hheard.now.le.trans (le_max_left _ _), .inl ⟨true, _, if_pos h.settled, hheard⟩⟩
    | expire hdue =>
      obtain ⟨c', hact, hheard⟩ := h.expires clock hrate (hdue.unique hends)
      rw [hact]
      have hnow := hheard.now.le.trans (hdue.unique hends).le
      exact ⟨hnow.trans (le_max_right _ _), .inl ⟨_, _, rfl, hheard⟩⟩
  · have hlistening := hpasses.kept.listening h.listening
    cases hpasses with
    | disable => cases hmisses
    | expire => cases hmisses
    | overdue => cases hmisses
    | enable => simp at hbeyond
    | refuse => simp at hbeyond
    | move pressed =>
      exact ⟨le_max_left _ _, .inr ⟨⟨hlistening, h.tasks, h.more,
        h.filmed.kept (moved_outside pressed) le_rfl rfl rfl⟩, hends, by simp⟩⟩
    | wait time =>
      obtain ⟨-, hnow, hdue⟩ := hhappens.wait_cases
      have hbefore : time ≤ tickTime start rate (5 * (shown + 1)) := by
        obtain ⟨number, -, hdeadlines⟩ := hends
        exact hdue _ (by rw [hdeadlines]; exact List.mem_singleton_self _)
      exact ⟨hbefore.trans (le_max_right _ _), .inr ⟨⟨hlistening, h.tasks, h.more,
        h.filmed.kept rfl hnow rfl rfl⟩, hends, by simp⟩⟩

/-- The key may be moved as one likes once the digit was shown. -/
theorem counted_moves {notes : List FlashNote}
    (hmoves : ∀ note ∈ notes, ∃ pressed, note = .moved pressed) :
    notes.foldl FlashNote.counted (some events) = some events := by
  induction notes with
  | nil => rfl
  | cons note rest ih =>
    obtain ⟨pressed, rfl⟩ := hmoves _ List.mem_cons_self
    have hrest := ih fun note hnote => hmoves note (List.mem_cons_of_mem _ hnote)
    cases pressed <;> exact hrest

/-- Whatever happens before the digit is over, it stands somewhere with what was heard. Its time
counts from the moment at which the key was up. -/
theorem Flashed.next (h : Flashed start rate begun digit stack heard c)
    (hhappens : Happens (Onlooker.scribe clock).around c happening c')
    (hbeyond : .beyond ∉ flashNotes stack.length c happening c') (hrate : rate ≠ 0) :
    ∃ start', (heard.isSome = true → start' = start) ∧ Flashed start' rate begun digit stack
      ((flashNotes stack.length c happening c').foldl FlashNote.counted heard) c' := by
  obtain ⟨hstands, hclocked, hobserved, rfl⟩ := h
  cases hstands with
  | called hcarried hdigit hbegun hnow hheard =>
    obtain ⟨rfl, rfl⟩ := hcarried.cases hhappens
    subst hdigit hbegun hnow hheard
    obtain ⟨hasks, hcarry⟩ := hcarried.carryOn_flashingDigit clock
    rw [flashNotes_of_waiting (hcarried.isBack_calling _)]
    rw [hcarry] at hasks ⊢
    exact ⟨_, fun _ => rfl, .asks hasks rfl rfl rfl, hclocked, hobserved, rfl⟩
  | asks hcarried hbegun hnow hheard =>
    obtain ⟨rfl, rfl⟩ := hcarried.cases hhappens
    subst hbegun hnow hheard
    rw [flashNotes_of_waiting (hcarried.isBack_calling _)]
    exact ⟨_, fun _ => rfl, flashed_asks clock hcarried hclocked hobserved⟩
  | held hlistening htasks hbegun hheard =>
    subst hbegun hheard
    obtain ⟨start', hflashed⟩ := flashed_held hlistening htasks hclocked hobserved hhappens
    exact ⟨start', fun hnone => (by cases hnone), hflashed⟩
  | up hqueued hanswer hbegun hnow hheard =>
    subst hheard
    have hback := isBack_of_waiting hqueued.tasks stack.length
    rcases hqueued.cases hclocked hhappens with hpasses | ⟨rfl, rfl⟩
    · have hkept := hpasses.kept
      obtain ⟨hcounted, hsame⟩ := counted_queued hqueued hhappens hpasses hback hbeyond
      rw [hcounted]
      rw [← hkept.watches] at hanswer
      exact ⟨start, fun _ => rfl, .up (hkept.queued hqueued) hanswer
        (hpasses.outside_eq.trans hbegun) (hsame.trans hnow) rfl, hpasses.clocked hclocked,
        by rwa [hkept.display], hkept.rate⟩
    · obtain ⟨hcarried, hwake⟩ := hqueued.wake_waiting hanswer
      rw [hwake] at hcarried ⊢
      rw [flashNotes_of_waiting hback]
      exact ⟨start, fun _ => rfl, .ready hcarried hbegun hnow rfl, hclocked, hobserved, rfl⟩
  | ready hcarried hbegun hnow hheard =>
    obtain ⟨rfl, rfl⟩ := hcarried.cases hhappens
    subst hbegun hnow hheard
    rw [flashNotes_of_waiting (by simp [hcarried.isBack_answering])]
    exact ⟨_, fun _ => rfl, (flashed_begins clock hcarried hclocked hobserved hrate).1⟩
  | @shown events hshown hheard =>
    subst hheard
    refine ⟨start, fun _ => rfl, ?_⟩
    cases hshown with
    | face hface hends hevents =>
      subst hevents
      rcases (hface.next hends hrate hhappens hbeyond).2 with
        ⟨stops, told, hnotes, hheard⟩ | ⟨hstays, hends', hmoves⟩
      · rw [hnotes]
        exact hheard.flashed
      · rw [counted_moves hmoves]
        exact ⟨.shown (.face hstays hends' rfl) rfl, hends'.clocked, hstays.filmed.observed,
          hstays.filmed.rate⟩
    | dark hleaves hdark =>
      obtain ⟨hleaves', hclocked', houtside, hnow, hdisplay, hrate', hcounted⟩ :=
        hleaves.next events hclocked hhappens hbeyond
      rw [hcounted]
      exact ⟨.shown (.dark hleaves' (hdark.kept houtside hnow hdisplay)) rfl, hclocked',
        by rwa [hdisplay], hrate'⟩

end DigitRace.Cabinet
