import DigitRace.Proofs.Cabinet.Demo
import DigitRace.Proofs.Race.Standing

/-!
# How the demo goes

The demo shows its text, character by character, and then drives by itself until a press, a
countdown that is called off or its last junction. The demo may be a task of its own, or be
called by a task that has more to do afterwards. Of all that happens until it is over it is
noted which presses the demo heard, when it drove on and for how long, and when it was called
off.
-/

namespace DigitRace

/-- The demo drives on to a segment, at a time and for so many ticks. -/
structure Stretch where
  since : Rat
  ticks : Int
  deriving DecidableEq

/-- One stretch begins when the other is over. -/
def Stretch.Meets (rate : Int) (earlier later : Stretch) : Prop :=
  later.since = earlier.since + Cabinet.pause earlier.ticks rate

/-- What is noted of the demo. -/
inductive DemoNote where
  /-- A press came while nothing else was left to do, or a wait of the text found the key down. -/
  | heard
  /-- The countdown was called off during the drive. -/
  | calledOff
  | drove (stretch : Stretch)
  /-- The demo was over, or someone else armed the timer. -/
  | beyond
  deriving DecidableEq

/-- The stretches of the drive. -/
def DemoNote.stretches (notes : List DemoNote) : List Stretch :=
  notes.filterMap fun
    | .drove stretch => some stretch
    | _ => none

/-- The presses that were heard, of a wait that one has ended or not. -/
def DemoNote.ofPress (pressed : Bool) : List DemoNote :=
  if pressed then [.heard] else []

/-- The frames that the waits of the text answer to, above those of whoever called the demo. -/
inductive Scrolls (stack : List Frame) : List Frame → Prop
  | text : Scrolls stack (.demoTextShown :: stack)
  | rest {rest : List Value} (htext : ∀ character ∈ rest, ∃ s, character = .text s) :
      Scrolls stack (.textRest rest :: .demoTextShown :: stack)
  | character {rest : List Value} (htext : ∀ character ∈ rest, ∃ s, character = .text s) :
      Scrolls stack (.characterShown :: .textRest rest :: .demoTextShown :: stack)

/-- The frames that hand a press on as it is. -/
inductive Frame.OfText : Frame → Prop
  | characterShown : OfText .characterShown
  | textRest (rest : List Value) : OfText (.textRest rest)
  | demoTextShown : OfText .demoTextShown

/-- A press is handed on by all the frames of the text. -/
theorem Scrolls.texts {stack frames : List Frame} (h : Scrolls stack frames) :
    ∃ texts, frames = texts ++ stack ∧ (∀ frame ∈ texts, frame.OfText) ∧ texts.length ≤ 3 := by
  cases h with
  | text => exact ⟨[.demoTextShown], rfl, by simp [Frame.OfText.demoTextShown], by simp⟩
  | @rest rest =>
    exact ⟨[.textRest rest, .demoTextShown], rfl,
      by simp [Frame.OfText.textRest, Frame.OfText.demoTextShown], by simp⟩
  | @character rest =>
    exact ⟨[.characterShown, .textRest rest, .demoTextShown], rfl,
      by simp [Frame.OfText.characterShown, Frame.OfText.textRest, Frame.OfText.demoTextShown],
      le_rfl⟩

/-- What the demo calls before it drives, with the frames that this answers to. -/
inductive Recites (stack : List Frame) : Routine → List Frame → Prop
  | demo : Recites stack .demo stack
  | text : Recites stack (.text (.text Cabinet.startText)) (.demoTextShown :: stack)
  | character (s : String) {rest : List Value}
      (htext : ∀ character ∈ rest, ∃ s, character = .text s) :
      Recites stack (.character (.text s)) (.textRest rest :: .demoTextShown :: stack)
  | pressOrEvent {frames : List Frame} (hscrolls : Scrolls stack frames) :
      Recites stack .pressOrEvent frames

theorem Scrolls.length_lt {stack frames : List Frame} (h : Scrolls stack frames) :
    stack.length < frames.length := by
  cases h <;> simp only [List.length_cons] <;> omega

namespace Task

/-- Whether a task is about to go from the text of the demo to its drive. -/
def beginsDrive (task : Task) : Bool :=
  match task.state, task.stack with
  | .answering answer, .demoTextShown :: _ => answer ≠ .flag true
  | _, _ => false

/-- Whether a task has an answer for the last `depth` of its frames, or has ended. -/
def isBack (depth : Nat) (task : Task) : Bool :=
  match task.state with
  | .answering _ => task.stack.length ≤ depth
  | .ended _ => true
  | _ => false

/-- Whether a task is about to wait for a press or the end of the countdown. -/
def polls (task : Task) : Bool :=
  match task.state with
  | .calling .pressOrEvent => true
  | _ => false

end Task

namespace Cabinet

variable {ω : Type}

/-- The demo's drive in a cabinet, if there is one: whether it is to steer next, and the junctions
that are left. -/
def driver? (c : Cabinet ω) : Option (Bool × Nat) :=
  match (c.tasks[0]?).map Task.state with
  | some (.waiting w) => match c.watches[w]? with
    | some { kind := .demo steering loops, ending := none, .. } => some (steering, loops)
    | _ => none
  | _ => none

/-- Whether the text of the demo is over and the drive begins next. -/
def beginsDrive (c : Cabinet ω) : Bool :=
  (c.tasks[0]?).any Task.beginsDrive

/-- Whether a demo that was called above `depth` frames is over. -/
def demoOver (depth : Nat) (c : Cabinet ω) : Bool :=
  (c.tasks[0]?).any (Task.isBack depth)

/-- Whether a wait of the text begins while the key is down. -/
def findsPress (c : Cabinet ω) : Bool :=
  (c.tasks[0]?).any Task.polls && c.key.pressed

/-- The stretch that begins when the car was just driven on. -/
def stretch (c : Cabinet ω) : Stretch :=
  ⟨c.agenda.now, c.race.wait⟩

/-- What is noted of a happening during a demo that was called above `depth` frames. -/
def demoNotes (depth : Nat) (c : Cabinet ω) (happening : Happening) (c' : Cabinet ω) :
    List DemoNote :=
  if demoOver depth c then [.beyond]
  else match happening with
    | .enable _ => [.beyond]
    | .move true => if c.Settled then [.heard] else []
    | .disable => if c.driver?.isSome then [.calledOff] else []
    | .call .countdownOver | .due .countdownOver => match c.driver? with
      | some (false, _) => [.drove c'.stretch]
      | _ => []
    | .carry =>
      if c.beginsDrive then [.drove c'.stretch]
      else if c.findsPress then [.heard] else []
    | _ => []

/-- Nothing happens to the race and no number is drawn, and the drive is afterwards as given. -/
def Untouched (driver : Option (Bool × Nat)) (c c' : Cabinet ω) : Prop :=
  c'.race = c.race ∧ c'.draws = c.draws ∧ c'.driver? = driver

/-- What the demo does to the race at each happening. At the moment to steer a number is drawn if
there is a junction, which is taken if the number is below the chance; the drive is over after the
last junction. At the end of the time on a segment the car is driven on. A press and a countdown
that is called off end the drive, and nothing else concerns the race. -/
def DemoStep (c : Cabinet ω) (happening : Happening) (c' : Cabinet ω) : Prop :=
  match c.driver?, happening with
  | some (true, loops), .call .countdownOver | some (true, loops), .due .countdownOver =>
    c'.draws = (if c.race.atJunction then c.draws + 1 else c.draws) ∧
      if c.race.atJunction ∧ c.chances c.draws < steerChance then
        c'.race = c.race.steered ∧ c'.race.score = c.race.score + 1 ∧
          c'.driver? = if c'.race.score = demoLoops then none else some (false, loops - 1)
      else c'.race = c.race ∧ c'.driver? = some (false, loops)
  | some (false, loops), .call .countdownOver | some (false, loops), .due .countdownOver =>
    c'.draws = c.draws ∧ c'.race = c.race.driven ∧ c'.driver? = some (true, loops)
  | some _, .move true | some _, .disable => Untouched none c c'
  | some driver, _ => Untouched (some driver) c c'
  | none, .carry =>
    if c.beginsDrive then
      c'.draws = c.draws ∧ c'.race = (c.race.restarted demoSpeed).driven ∧
        c'.driver? = some (true, demoLoops)
    else Untouched none c c'
  | none, _ => Untouched none c c'

/-! ## How the demo stands -/

/-- What is known once the demo has driven, at a rate and over these stretches. -/
structure Rode (rate : Int) (stretches : List Stretch) (c : Cabinet ω) : Prop where
  begun : stretches ≠ []
  /-- Each stretch lasts for its ticks. -/
  apart : stretches.IsChain (Stretch.Meets rate)
  sound : c.race.Sound
  cars : c.race.cars = Race.fleet
  speed : c.race.speed = demoSpeed + c.race.score
  score : c.race.score ≤ demoLoops
  armed : c.timer.armed = true → 0 < c.timer.count

/-- What is known while the demo drives. -/
structure Driving (rate : Int) (steering : Bool) (loops : Nat) (stretches : List Stretch)
    (c : Cabinet ω) : Prop extends Rode rate stretches c where
  left : c.race.score + loops = demoLoops
  more : 0 < loops
  /-- The countdown ends when the stretch does, or some ticks before if the demo is to steer. -/
  due : ∃ last, stretches.getLast? = some last ∧ (steerTicks : Int) ≤ last.ticks ∧
    c.EndsAt (last.since + pause (if steering then last.ticks - steerTicks else last.ticks) rate)

/-- How a demo came to its answer, and what was noted of it. -/
inductive DemoEnd (rate : Int) (c : Cabinet ω) : Bool → List DemoNote → Prop
  | text : DemoEnd rate c true [.heard]
  | pressed {stretches : List Stretch} (hrode : Rode rate stretches c) :
      DemoEnd rate c true (stretches.map .drove ++ [.heard])
  | calledOff {stretches : List Stretch} (hrode : Rode rate stretches c) :
      DemoEnd rate c false (stretches.map .drove ++ [.calledOff])
  | last {stretches : List Stretch} (hrode : Rode rate stretches c)
      (hscore : c.race.score = demoLoops) : DemoEnd rate c false (stretches.map .drove)

/-- How the demo stands, after what was noted of it. -/
inductive InDemo (rate : Int) (stack : List Frame) (notes : List DemoNote) (c : Cabinet ω) : Prop
  | calling {routine : Routine} {frames : List Frame}
      (hcarried : Carried (.calling routine) frames c) (hrecites : Recites stack routine frames)
      (hrate : routine = .pressOrEvent → rate ≠ 0) (hnotes : notes = [])
  | waiting {w : Nat} {frames : List Frame} (hlistening : Listening .pressOrEvent w c)
      (htasks : c.tasks = #[{ state := .waiting w, stack := frames }])
      (hscrolls : Scrolls stack frames) (hrate : rate ≠ 0) (hnotes : notes = [])
  /-- A wait of the text was ended by a press or not. -/
  | told {w : Nat} {frames : List Frame} {pressed : Bool} (hqueued : Queued (.waiting w) frames c)
      (hanswer : (c.watches[w]?).bind Watch.ending = some (.answered (.flag pressed)))
      (hscrolls : Scrolls stack frames) (hrate : rate ≠ 0)
      (hnotes : notes = DemoNote.ofPress pressed)
  | telling {frames : List Frame} {pressed : Bool}
      (hcarried : Carried (.answering (.flag pressed)) frames c)
      (hscrolls : Scrolls stack frames) (hrate : rate ≠ 0)
      (hnotes : notes = DemoNote.ofPress pressed)
  | driving {w : Nat} {steering : Bool} {loops : Nat} {stretches : List Stretch}
      (hlistening : Listening (.demo steering loops) w c)
      (htasks : c.tasks = #[{ state := .waiting w, stack }])
      (hdriving : Driving rate steering loops stretches c) (hrate : rate ≠ 0)
      (hnotes : notes = stretches.map .drove)
  /-- The drive has come to its answer. -/
  | ending {w : Nat} {pressed : Bool} (hqueued : Queued (.waiting w) stack c)
      (hanswer : (c.watches[w]?).bind Watch.ending = some (.answered (.flag pressed)))
      (hend : DemoEnd rate c pressed notes)
  | back {pressed : Bool} (hcarried : Carried (.answering (.flag pressed)) stack c)
      (hend : DemoEnd rate c pressed notes)
  | failed (hover : Over (.failed .divisionByZero) c) (hrate : rate = 0) (hnotes : notes = [])

/-- What the demo needs: nothing but the timer sets deadlines, and the circuit can be driven. -/
structure Fit (rate : Int) (c : Cabinet ω) : Prop where
  clocked : c.Clocked
  drivable : c.race.circuit.Drivable
  rate : c.timer.rate = rate

variable {eye : Onlooker ω} {c c' : Cabinet ω} {rate : Int} {stack frames : List Frame}
  {notes : List DemoNote} {happening : Happening} {state : Task.State} {w : Nat}

/-! ## What is noted -/

theorem driver?_of_tasks (h : c.tasks = #[{ state, stack }]) (hstate : ∀ w, state ≠ .waiting w) :
    c.driver? = none := by
  cases state with
  | waiting w => exact absurd rfl (hstate w)
  | _ => simp [driver?, h]

theorem driver?_of_ending (h : c.tasks = #[{ state := .waiting w, stack }])
    {ending : Watch.Ending} (hending : (c.watches[w]?).bind Watch.ending = some ending) :
    c.driver? = none := by
  obtain ⟨watch, hwatch, hended⟩ := Option.bind_eq_some_iff.mp hending
  obtain ⟨kind, ending', waiter⟩ := watch
  obtain rfl : ending' = some ending := hended
  simp [driver?, h, hwatch]

theorem Listening.driver?_demo {steering : Bool} {loops : Nat}
    (h : Listening (.demo steering loops) w c)
    (htasks : c.tasks = #[{ state := .waiting w, stack }]) :
    c.driver? = some (steering, loops) := by
  simp [driver?, htasks, h.watch]

theorem Listening.driver?_pressOrEvent (h : Listening .pressOrEvent w c)
    (htasks : c.tasks = #[{ state := .waiting w, stack }]) : c.driver? = none := by
  simp [driver?, htasks, h.watch]

theorem demoOver_of_tasks (h : c.tasks = #[{ state, stack := frames }]) (depth : Nat) :
    demoOver depth c = Task.isBack depth { state, stack := frames } := by
  simp [demoOver, h]

/-- While the demo waits or is about to, it is not over. -/
theorem demoOver_of_waiting (h : c.tasks = #[{ state := .waiting w, stack := frames }])
    (depth : Nat) : demoOver depth c = false :=
  demoOver_of_tasks h depth

/-- While a routine or a frame is carried on, only the beginning of the drive and of a wait are
noted. -/
theorem Carried.demoNotes_eq {depth : Nat} (h : Carried state frames c)
    (hover : Task.isBack depth { state, stack := frames } = false) (c' : Cabinet ω) :
    demoNotes depth c .carry c' =
      if Task.beginsDrive { state, stack := frames } then [.drove c'.stretch]
      else if Task.polls { state, stack := frames } && c.key.pressed then [.heard] else [] := by
  rw [demoNotes, demoOver_of_tasks h.tasks, hover]
  simp [beginsDrive, findsPress, h.tasks]

theorem Carried.driver?_eq (h : Carried state frames c) (hstate : ∀ w, state ≠ .waiting w) :
    c.driver? = none :=
  driver?_of_tasks h.tasks hstate

end Cabinet

end DigitRace
