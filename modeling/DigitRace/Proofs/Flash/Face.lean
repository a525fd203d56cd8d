import DigitRace.Proofs.Screen.Reel

/-!
# A digit that flashes

Once the key is up, a digit is lit and dark in turn, each for five ticks. The watch that does this
listens to the timer alone, and looks at the key whenever it is told of an event: the digit stops
if the key is down at that moment, if the countdown was called off, and after twenty events. In the
end it is dark. So what is shown depends on nothing but the events since the key was up, and on
whether each of them stops the digit.
-/

namespace DigitRace

open Cabinet (digitPattern flashTicks flashCycles greatestDigit)

/-- The faces of a digit that flashes: it is lit and dark in turn, and lit at first. -/
def flashFace (digit : Int) (n : Nat) : String :=
  if n % 2 = 0 then digitPattern digit else ""

/-- So many faces, 5 ticks apart. -/
def faceCues (digit : Int) (count : Nat) : Cues :=
  (List.range count).map fun n => (5 * n, flashFace digit n)

/-- The shots of so many faces. -/
def faceReel (digit : Int) (count : Nat) : List Shot :=
  (List.range count).map fun n => ⟨flashFace digit n, flashTicks⟩

theorem faceReel_succ (digit : Int) (count : Nat) :
    faceReel digit (count + 1) = faceReel digit count ++ [⟨flashFace digit count, flashTicks⟩] := by
  simp [faceReel, List.range_succ]

theorem faceCues_succ (digit : Int) (count : Nat) :
    faceCues digit (count + 1) = faceCues digit count ++ [(5 * count, flashFace digit count)] := by
  simp [faceCues, List.range_succ]

theorem length_faceReel (digit : Int) (count : Nat) :
    Shot.length (faceReel digit count) = 5 * count := by
  induction count with
  | zero => rfl
  | succ count ih =>
    rw [faceReel_succ, Shot.length_append, ih]
    simp only [Shot.length_cons, Shot.length_nil, flashTicks]
    omega

theorem cues_faceReel (digit : Int) (count : Nat) :
    Shot.cues 0 (faceReel digit count) = faceCues digit count := by
  induction count with
  | zero => rfl
  | succ count ih =>
    rw [faceReel_succ, Shot.cues_append, ih, length_faceReel, faceCues_succ, Nat.zero_add]
    rfl

/-! ## Events -/

/-- The number of the first event that stops a digit, counted from 1, where it is given of each
event whether it stops the digit. If none of the first 20 does, it is 21; if there were fewer events
and none stopped the digit, it is that of the next one. -/
def firstStop (events : List Bool) : Nat :=
  (events.take flashCycles).idxOf true + 1

theorem firstStop_replicate {count : Nat} (hcount : count ≤ flashCycles) :
    firstStop (List.replicate count false) = count + 1 := by
  have hnone : true ∉ List.replicate count false := by simp
  rw [firstStop, List.take_of_length_le (by simpa using hcount), List.idxOf_eq_length hnone,
    List.length_replicate]

theorem firstStop_stopped {count : Nat} (hcount : count < flashCycles) :
    firstStop (List.replicate count false ++ [true]) = count + 1 := by
  have hnone : true ∉ List.replicate count false := by simp
  have hroom : (List.replicate count false ++ [true]).length ≤ flashCycles := by
    simp only [List.length_append, List.length_replicate, List.length_singleton]
    omega
  rw [firstStop, List.take_of_length_le hroom, List.idxOf_append_of_notMem hnone,
    List.length_replicate, List.idxOf_cons_self]

/-- What is noted between the call of a digit that flashes and its answer. -/
inductive FlashNote where
  /-- The key was moved. -/
  | moved (pressed : Bool)
  /-- There was an event of the timer. It stops the digit if the countdown was called off or the key
  was down. -/
  | event (stops : Bool)
  /-- Someone else armed the timer, or the answer was there. -/
  | beyond
  deriving DecidableEq

namespace FlashNote

/-- What a note adds to the events since the key was up. There are none of these as long as the key
was down all the time. -/
def counted : Option (List Bool) → FlashNote → Option (List Bool)
  | none, .moved false => some []
  | some events, .event stops => some (events ++ [stops])
  | events, _ => events

/-- The events since the key was up for the first time, if it was up at all; the key was `down` at
the call or not. -/
def events? (down : Bool) (notes : List FlashNote) : Option (List Bool) :=
  notes.foldl counted (if down then none else some [])

end FlashNote

namespace Cabinet

/-- What is noted of a happening during a digit that was called above `depth` frames. A countdown
that is called off is heard of if nothing else is left to do, and none that ends ahead of what is
ready. -/
def flashNotes {ω : Type} (depth : Nat) (c : Cabinet ω) (happening : Happening) (_ : Cabinet ω) :
    List FlashNote :=
  if isBack depth c then [.beyond]
  else match happening with
    | .move pressed => [.moved pressed]
    | .disable => if c.Settled then [.event true] else []
    | .call .countdownOver => [.event c.key.pressed]
    | .enable _ => [.beyond]
    | _ => []

variable {clock : Cabinet Writes → Rat} {c c' : Cabinet Writes} {start : Rat} {rate : Int}
  {begun : Writes} {stack : List Frame} {digit : Int} {heard : Option (List Bool)}
  {events : List Bool} {notes : List FlashNote} {happening : Happening} {w shown : Nat}

/-- A digit that no event has stopped yet: its faces are written down, one more than there were
events. -/
structure Blinking (start : Rat) (rate : Int) (begun : Writes) (digit : Int) (events : List Bool)
    (c : Cabinet Writes) : Prop where
  begins : start ≤ c.agenda.now
  more : events.length < min (firstStop events) flashCycles
  outside : c.outside = begun ++ timed start rate (faceCues digit (events.length + 1))

/-- A digit that has stopped: after the faces that were shown before the event that stopped it, one
blank is written, and with all twenty events this is 100 ticks after the beginning. -/
structure Darkened (start : Rat) (rate : Int) (begun : Writes) (digit : Int) (events : List Bool)
    (c : Cabinet Writes) : Prop where
  begins : start ≤ c.agenda.now
  count : events.length = min (firstStop events) flashCycles
  outside : c.outside = begun ++ timed start rate
    (faceCues digit (min (firstStop events - 1) flashCycles + 1)) ++ [(c.agenda.now, "")]
  dark : c.display.pattern = ""
  inTime : true ∉ events → c.agenda.now = tickTime start rate 100

/-- The face after so many is shown, and the next event of the timer is waited for. -/
structure AtFace (start : Rat) (rate : Int) (begun : Writes) (digit : Int) (stack : List Frame)
    (w shown : Nat) (c : Cabinet Writes) : Prop where
  listening : Listening (.flashing (.int digit) shown) w c
  tasks : c.tasks = #[{ state := .waiting w, stack }]
  more : shown < flashCycles
  filmed : Filmed start rate begun (faceReel digit (shown + 1)) c

/-- The digit has stopped, and its task is about to learn of it or has learned of it. -/
inductive Leaves (stack : List Frame) (c : Cabinet Writes) : Prop
  | told {w : Nat} (hqueued : Queued (.waiting w) stack c)
      (hanswer : (c.watches[w]?).bind Watch.ending = some (.answered .nothing))
  | back (hcarried : Carried (.answering .nothing) stack c)

/-- How a digit stands once it was shown, after these events. -/
inductive Shown (start : Rat) (rate : Int) (begun : Writes) (digit : Int) (stack : List Frame)
    (events : List Bool) (c : Cabinet Writes) : Prop
  | face {w shown : Nat} (hface : AtFace start rate begun digit stack w shown c)
      (hends : c.EndsAt (tickTime start rate (5 * (shown + 1))))
      (hevents : events = List.replicate shown false)
  | dark (hleaves : Leaves stack c) (hdark : Darkened start rate begun digit events c)

/-- How a digit that flashes stands, after what was heard since the key was up. As long as it was
not, `start` means nothing. -/
inductive InFlashing (start : Rat) (rate : Int) (begun : Writes) (digit : Int) (stack : List Frame)
    (heard : Option (List Bool)) (c : Cabinet Writes) : Prop
  | called {value : Int} (hcarried : Carried (.calling (.flashingDigit (.int value))) stack c)
      (hdigit : min value greatestDigit = digit) (hbegun : c.outside = begun)
      (hnow : c.agenda.now = start) (hheard : heard = if c.key.pressed then none else some [])
  | asks (hcarried : Carried (.calling .keyReleased) (.readyToFlash (.int digit) :: stack) c)
      (hbegun : c.outside = begun) (hnow : c.agenda.now = start)
      (hheard : heard = if c.key.pressed then none else some [])
  /-- The key is down, and its release is waited for. -/
  | held {w : Nat} (hlistening : Listening .release w c)
      (htasks : c.tasks = #[{ state := .waiting w, stack := .readyToFlash (.int digit) :: stack }])
      (hbegun : c.outside = begun) (hheard : heard = none)
  | up {w : Nat} (hqueued : Queued (.waiting w) (.readyToFlash (.int digit) :: stack) c)
      (hanswer : (c.watches[w]?).bind Watch.ending = some (.answered .nothing))
      (hbegun : c.outside = begun) (hnow : c.agenda.now = start) (hheard : heard = some [])
  | ready (hcarried : Carried (.answering .nothing) (.readyToFlash (.int digit) :: stack) c)
      (hbegun : c.outside = begun) (hnow : c.agenda.now = start) (hheard : heard = some [])
  | shown {events : List Bool} (hshown : Shown start rate begun digit stack events c)
      (hheard : heard = some events)

/-- A digit that flashes stands somewhere, and the display is observed. -/
structure Flashed (start : Rat) (rate : Int) (begun : Writes) (digit : Int) (stack : List Frame)
    (heard : Option (List Bool)) (c : Cabinet Writes) : Prop where
  stands : InFlashing start rate begun digit stack heard c
  clocked : c.Clocked
  observed : c.display.observer.isSome = true
  rate : c.timer.rate = rate

/-- What an event leads to that was announced in a cabinet: the digit stands somewhere with one more
event, and neither time nor key have changed. -/
structure Hears (start : Rat) (rate : Int) (begun : Writes) (digit : Int) (stack : List Frame)
    (events : List Bool) (told c : Cabinet Writes) : Prop where
  shown : Shown start rate begun digit stack events c
  clocked : c.Clocked
  observed : c.display.observer.isSome = true
  rate : c.timer.rate = rate
  now : c.agenda.now = told.agenda.now
  key : c.key.pressed = told.key.pressed

theorem Hears.flashed {told : Cabinet Writes}
    (h : Hears start rate begun digit stack events told c) :
    Flashed start rate begun digit stack (some events) c :=
  ⟨.shown h.shown rfl, h.clocked, h.observed, h.rate⟩

/-! ## One face after the other -/

/-- A digit of which a face was shown has begun. -/
theorem AtFace.begins_le (h : AtFace start rate begun digit stack w shown c) :
    start ≤ c.agenda.now := by
  have hfirst : (0, flashFace digit 0) ∈ Shot.cues 0 (faceReel digit (shown + 1)) := by
    simp [cues_faceReel, faceCues, List.range_succ_eq_map]
  have hpast := h.filmed.past _ hfirst
  rwa [tickTime_zero] at hpast

/-- What is written is the faces up to this one. -/
theorem AtFace.outside (h : AtFace start rate begun digit stack w shown c) :
    c.outside = begun ++ timed start rate (faceCues digit (shown + 1)) := by
  rw [← cues_faceReel]
  exact h.filmed.outside

theorem AtFace.settled (h : AtFace start rate begun digit stack w shown c) : c.Settled :=
  ⟨h.listening.active, h.listening.ready⟩

/-- At the end of its face a digit still shows it. -/
theorem AtFace.expired (h : AtFace start rate begun digit stack w shown c) :
    AtFace start rate begun digit stack w shown
      (c.expired (tickTime start rate (5 * (shown + 1)))) := by
  have hexpired := h.filmed.expired
  rw [length_faceReel] at hexpired
  exact ⟨h.listening.expired _, h.tasks, h.more, hexpired⟩

theorem AtFace.cleared (h : AtFace start rate begun digit stack w shown c) :
    AtFace start rate begun digit stack w shown c.cleared :=
  ⟨h.listening.cleared, h.tasks, h.more, h.filmed.kept rfl le_rfl rfl rfl⟩

variable (clock digit) in
/-- Once the key is up, the digit is shown, and its time is counted. -/
theorem scribe_readyToFlash (hdeaf : c.Deaf) (hclocked : c.Clocked) (hrate : c.timer.rate ≠ 0) :
    resume (Onlooker.scribe clock).around .nothing (.readyToFlash (.int digit)) c =
      .ok (.await c.watches.size none)
        (armedFor (Onlooker.scribe clock) flashTicks
          ((c.opened (.flashing (.int digit) 0)).written (digitPattern digit))) := by
  let lit := (c.opened (.flashing (.int digit) 0)).written (digitPattern digit)
  have hlit : lit.Clocked := hclocked
  have hshow := scribe_showPattern clock (digitPattern digit)
    (c.opened (.flashing (.int digit) 0))
  rw [← showDigit_eq] at hshow
  have harmed := hlit.enable_small (Onlooker.scribe clock) hrate
    (by decide : (flashTicks : Int) ≤ 50)
  simp only [resume, beginFlashing]
  refine (open_timer_apply (.flashing (.int digit) 0) hdeaf rfl rfl _).trans ?_
  simp only [Act.bind_apply, hshow]
  exact harmed ▸ rfl

variable (clock) in
/-- A digit that stops is dark, and its wait is over. -/
theorem Listening.scribe_endFlashing (h : Listening (.flashing (.int digit) shown) w c) :
    endFlashing (Onlooker.scribe clock).around w c = .ok ⟨⟩ (left w .nothing (c.written "")) := by
  let silent : Cabinet Writes := { c with timer := c.timer.unregister w }
  have hdark : darken (Onlooker.scribe clock).around silent = .ok ⟨⟩ (silent.written "") :=
    scribe_showPattern clock "" silent
  have hleave := (h.shows "" (c.written "").outside).leaveTimer_apply rfl .nothing
  have hact : endFlashing (Onlooker.scribe clock).around w c =
      (do leaveTimer w; conclude w .nothing : Play Writes Unit) (c.written "") := by
    simp only [endFlashing, leaveTimer, updateTimer, Act.bind_apply, Act.modify_apply]
    rw [hdark]
    rfl
  rw [hact]
  exact hleave

variable (clock) in
/-- An event stops the digit if the countdown was called off or the key is down. -/
theorem Listening.scribe_flash_stops (h : Listening (.flashing (.int digit) shown) w c)
    {event : TimerEvent} (hstops : event = .disabled ∨ c.key.pressed = true) :
    onEvent (Onlooker.scribe clock).around w event c =
      .ok ⟨⟩ (left w .nothing (c.written "")) := by
  have hend : event = .disabled ∨ shown = flashCycles ∨ c.key.pressed = true := by
    rcases hstops with hdisabled | hpressed
    · exact .inl hdisabled
    · exact .inr (.inr hpressed)
  have hact := h.scribe_endFlashing clock
  simp only [onEvent, flash, Act.bind_apply _ _ c, Act.get_apply, h.watch, hend, if_true]
  exact hact

/-- The cabinet once the next face of the digit is shown. -/
def flashedOn (w : Nat) (digit : Int) (shown : Nat) (c : Cabinet Writes) : Cabinet Writes :=
  (c.written (flashFace digit (shown + 1))).turnedTo w (.flashing (.int digit) (shown + 1))

theorem Listening.flashedOn (h : Listening (.flashing (.int digit) shown) w c) :
    Listening (.flashing (.int digit) (shown + 1)) w (c.flashedOn w digit shown) :=
  (h.shows _ _).turnedTo rfl rfl

variable (clock) in
/-- At every other event the next face is shown; with the last one the digit stops. -/
theorem Listening.scribe_flash_goesOn (h : Listening (.flashing (.int digit) shown) w c)
    (hup : c.key.pressed = false) (hmore : shown < flashCycles) (hclocked : c.Clocked)
    (hrate : c.timer.rate ≠ 0) :
    onEvent (Onlooker.scribe clock).around w .elapsed c = .ok ⟨⟩
      (if shown + 1 = flashCycles then left w .nothing ((c.flashedOn w digit shown).written "")
        else armedFor (Onlooker.scribe clock) flashTicks (c.flashedOn w digit shown)) := by
  have hgoes : ¬ ((TimerEvent.elapsed = .disabled) ∨ shown = flashCycles ∨
      c.key.pressed = true) := by
    rintro (hother | hlast | hpressed)
    · cases hother
    · omega
    · simp [hup] at hpressed
  have hface : (if shown % 2 = 1 then showDigit (Onlooker.scribe clock).around (.int digit)
      else showCharacter (Onlooker.scribe clock).around (.text " ")) c =
        .ok ⟨⟩ (c.written (flashFace digit (shown + 1))) := by
    by_cases hodd : shown % 2 = 1
    · have hlit : flashFace digit (shown + 1) = digitPattern digit := by
        rw [flashFace, if_pos (by omega)]
      rw [if_pos hodd, hlit, showDigit_eq, scribe_showPattern]
    · have hdark : flashFace digit (shown + 1) = Glyph.ofText " " := by
        rw [flashFace, if_neg (by omega)]
        rfl
      rw [if_neg hodd, hdark, scribe_showCharacter]
  have hact : onEvent (Onlooker.scribe clock).around w .elapsed c =
      (if shown + 1 = flashCycles then endFlashing (Onlooker.scribe clock).around w
        else enable (Onlooker.scribe clock).around (.int flashTicks))
        (c.flashedOn w digit shown) := by
    simp only [onEvent, flash, Act.bind_apply _ _ c, Act.get_apply, h.watch, hgoes, if_false]
    by_cases hodd : shown % 2 = 1
    · simp only [hodd, if_true] at hface ⊢
      rw [Act.bind_apply, hface]
      rfl
    · simp only [hodd, if_false] at hface ⊢
      rw [Act.bind_apply, hface]
      rfl
  rw [hact]
  by_cases hlast : shown + 1 = flashCycles
  · rw [if_pos hlast, if_pos hlast, h.flashedOn.scribe_endFlashing clock]
  · have hticking : (c.flashedOn w digit shown).Clocked := hclocked
    rw [if_neg hlast, if_neg hlast, hticking.enable_small (Onlooker.scribe clock) hrate (by decide)]

end Cabinet

end DigitRace
