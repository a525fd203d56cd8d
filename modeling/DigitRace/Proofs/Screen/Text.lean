import DigitRace.Proofs.Screen.Reel

/-!
# A text on the digit

A text is shown character by character: each glyph for half a second, and then nothing for a tick.
Each of these is a wait for a press or the end of the countdown. As long as nothing disturbs it, the
text is a reel, and the answer is that there was no press. A press ends the wait in which it comes,
and is handed on at once, with nothing more shown; so is a key that is down when the first wait
begins.
-/

namespace DigitRace

/-- The characters of a text that are to be shown, as values. -/
def characters (text : List Char) : List Value :=
  text.map fun char => .text char.toString

/-- The shots of a text. -/
def textReel (text : List Char) : List Shot :=
  text.flatMap fun char => [⟨Glyph.ofChar char, Cabinet.characterTicks⟩, ⟨"", 1⟩]

/-- The glyph of a character is shown 26 ticks after that of the one before, and the digit is dark
25 ticks later. -/
def textCues (text : String) : Cues :=
  text.toList.zipIdx.flatMap fun (char, i) => [(26 * i, Glyph.ofChar char), (26 * i + 25, "")]

theorem length_textReel (text : List Char) : Shot.length (textReel text) = 26 * text.length := by
  induction text with
  | nil => rfl
  | cons char rest ih =>
    have hnext : textReel (char :: rest) =
        [⟨Glyph.ofChar char, Cabinet.characterTicks⟩, ⟨"", 1⟩] ++ textReel rest := rfl
    rw [hnext, Shot.length_append, ih, List.length_cons]
    simp only [Shot.length_cons, Shot.length_nil, Cabinet.characterTicks, ticksPerSecond]
    omega

theorem cues_textReel (text : String) : Shot.cues 0 (textReel text.toList) = textCues text := by
  suffices h : ∀ (chars : List Char) (k : Nat), Shot.cues (26 * k) (textReel chars) =
      (chars.zipIdx k).flatMap fun (char, i) =>
        [(26 * i, Glyph.ofChar char), (26 * i + 25, "")] from h text.toList 0
  intro chars
  induction chars with
  | nil => exact fun _ => rfl
  | cons char rest ih =>
    intro k
    rw [List.zipIdx_cons, List.flatMap_cons, ← ih (k + 1)]
    rfl

/-- The happenings that do not disturb a text: no press, and nobody else at the timer. -/
def Happening.sparesText : Happening → Bool
  | .carry | .call _ | .due _ | .move false | .wait _ => true
  | _ => false

/-- The frames that a wait of a text answers to, above those of whoever called it, with the shots
that are to come, and with the steps of the program up to the answer once the wait is over. -/
inductive Unrolls (stack : List Frame) : List Frame → List Shot → Nat → Prop
  /-- A character is shown. -/
  | bright (rest : List Char) :
      Unrolls stack (.characterShown :: .textRest (characters rest) :: stack)
        (⟨"", 1⟩ :: textReel rest) (9 * rest.length + 5)
  /-- The digit is dark after a character. -/
  | dark (rest : List Char) :
      Unrolls stack (.textRest (characters rest) :: stack) (textReel rest) (9 * rest.length + 1)

theorem Unrolls.length_lt {stack frames : List Frame} {rest : List Shot} {n : Nat}
    (h : Unrolls stack frames rest n) : stack.length < frames.length := by
  cases h <;> simp only [List.length_cons] <;> omega

/-- A press is handed on by all the frames of a text. -/
theorem Unrolls.texts {stack frames : List Frame} {rest : List Shot} {n : Nat}
    (h : Unrolls stack frames rest n) : ∃ texts, frames = texts ++ stack ∧
      (∀ frame ∈ texts, frame.OfText) ∧ texts.length ≤ 2 := by
  cases h with
  | bright rest =>
    exact ⟨[.characterShown, .textRest (characters rest)], rfl,
      by simp [Frame.OfText.characterShown, Frame.OfText.textRest], le_rfl⟩
  | dark rest =>
    exact ⟨[.textRest (characters rest)], rfl, by simp [Frame.OfText.textRest],
      by simp⟩

theorem Unrolls.pos {stack frames : List Frame} {rest : List Shot} {n : Nat}
    (h : Unrolls stack frames rest n) : ∃ m, n = m + 1 := by
  cases h <;> exact ⟨_, rfl⟩

namespace Cabinet

variable {clock : Cabinet Writes → Rat} {c c' : Cabinet Writes} {start : Rat} {rate : Int}
  {begun : Writes} {whole shown rest : List Shot} {stack frames : List Frame} {state : Task.State}
  {n : Nat}

/-- How a text stands that nothing has disturbed, so many steps of the program before its answer.
The shots that were shown are a part of the whole. -/
inductive InText (start : Rat) (rate : Int) (begun : Writes) (whole : List Shot)
    (stack : List Frame) (c : Cabinet Writes) : Nat → Prop
  | called {text : String} (hcarried : Carried (.calling (.text (.text text))) stack c)
      (hfilmed : Filmed start rate begun [] c) (hwhole : textReel text.toList = whole)
      (hnow : c.agenda.now = start) :
      InText start rate begun whole stack c (9 * text.toList.length + 1)
  | character {char : Char} {rest : List Char} {shown : List Shot}
      (hcarried : Carried (.calling (.character (.text char.toString)))
        (.textRest (characters rest) :: stack) c)
      (hfilmed : Filmed start rate begun shown c)
      (hwhole : shown ++ textReel (char :: rest) = whole)
      (hnow : c.agenda.now = tickTime start rate (Shot.length shown)) :
      InText start rate begun whole stack c (9 * (rest.length + 1))
  | polls {frames : List Frame} {shown rest : List Shot} {n : Nat}
      (hcarried : Carried (.calling .pressOrEvent) frames c)
      (hunrolls : Unrolls stack frames rest n) (hfilmed : Filmed start rate begun shown c)
      (hwhole : shown ++ rest = whole)
      (hends : c.EndsAt (tickTime start rate (Shot.length shown)))
      (hruns : c.timer.elapsed = false) :
      InText start rate begun whole stack c (n + 3)
  | waiting {w : Nat} {frames : List Frame} {shown rest : List Shot} {n : Nat}
      (hlistening : Listening .pressOrEvent w c)
      (htasks : c.tasks = #[{ state := .waiting w, stack := frames }])
      (hunrolls : Unrolls stack frames rest n) (hfilmed : Filmed start rate begun shown c)
      (hwhole : shown ++ rest = whole)
      (hends : c.EndsAt (tickTime start rate (Shot.length shown))) :
      InText start rate begun whole stack c (n + 2)
  /-- A wait is over without a press. -/
  | told {w : Nat} {frames : List Frame} {shown rest : List Shot} {n : Nat}
      (hqueued : Queued (.waiting w) frames c)
      (hanswer : (c.watches[w]?).bind Watch.ending = some (.answered (.flag false)))
      (hunrolls : Unrolls stack frames rest n) (hfilmed : Filmed start rate begun shown c)
      (hwhole : shown ++ rest = whole)
      (hnow : c.agenda.now = tickTime start rate (Shot.length shown)) :
      InText start rate begun whole stack c (n + 1)
  | telling {frames : List Frame} {shown rest : List Shot} {n : Nat}
      (hcarried : Carried (.answering (.flag false)) frames c)
      (hunrolls : Unrolls stack frames rest n) (hfilmed : Filmed start rate begun shown c)
      (hwhole : shown ++ rest = whole)
      (hnow : c.agenda.now = tickTime start rate (Shot.length shown)) :
      InText start rate begun whole stack c n
  | back (hcarried : Carried (.answering (.flag false)) stack c)
      (hfilmed : Filmed start rate begun whole c)
      (hnow : c.agenda.now = tickTime start rate (Shot.length whole)) :
      InText start rate begun whole stack c 0

/-- A text stands somewhere undisturbed, and the key is up. -/
structure Scrolled (start : Rat) (rate : Int) (begun : Writes) (whole : List Shot)
    (stack : List Frame) (n : Nat) (c : Cabinet Writes) : Prop where
  stands : InText start rate begun whole stack c n
  clocked : c.Clocked
  up : c.key.pressed = false

/-! ## One shot after the other -/

variable (clock) in
theorem scribe_character (char : Char) (hclocked : c.Clocked) (hrate : c.timer.rate ≠ 0) :
    begin (Onlooker.scribe clock).around (.character (.text char.toString)) c =
      .ok (.call .pressOrEvent (some .characterShown))
        (armedFor (Onlooker.scribe clock) characterTicks (c.written (Glyph.ofChar char))) := by
  have hglyph : Glyph.ofText char.toString = Glyph.ofChar char := by simp [Glyph.ofText]
  have hshow := scribe_showCharacter clock char.toString c
  rw [hglyph] at hshow
  have hwritten : (c.written (Glyph.ofChar char)).Clocked := hclocked
  have harmed := hwritten.enable_small (Onlooker.scribe clock) hrate
    (by decide : (characterTicks : Int) ≤ 50)
  simp only [begin, beginCharacter, Act.bind_apply, hshow, harmed]
  rfl

variable (clock) in
theorem scribe_characterShown (hclocked : c.Clocked) (hrate : c.timer.rate ≠ 0) :
    resume (Onlooker.scribe clock).around (.flag false) .characterShown c =
      .ok (.call .pressOrEvent none)
        (armedFor (Onlooker.scribe clock) 1 (c.written "")) := by
  have hwritten : (c.written "").Clocked := hclocked
  have harmed := hwritten.enable_small (Onlooker.scribe clock) hrate (by decide : (1 : Int) ≤ 50)
  simp only [resume, Answer.flag.injEq, Bool.false_eq_true, if_false, Act.bind_apply, darken,
    scribe_showPattern, harmed]
  rfl

/-- A shot is shown, and a wait for a press or its end begins. -/
theorem scrolled_shot (next : Shot) {act : Play Writes Progress} {after : Option Frame}
    (hact : act c = .ok (.call .pressOrEvent after)
      (armedFor (Onlooker.scribe clock) next.ticks (c.written next.pattern)))
    (hcarried : Carried state frames c) (hup : c.key.pressed = false)
    (hunrolls : Unrolls stack (after.toList ++ frames) rest n)
    (hfilmed : Filmed start rate begun shown c) (hwhole : shown ++ next :: rest = whole)
    (hnow : c.agenda.now = tickTime start rate (Shot.length shown)) :
    Scrolled start rate begun whole stack (n + 3) (carry 0 act c) := by
  have hends : (armedFor (Onlooker.scribe clock) next.ticks (c.written next.pattern)).EndsAt
      (tickTime start rate (Shot.length (shown ++ [next]))) :=
    endsAt_shot (c := c.written next.pattern) hfilmed.rate hnow next
  rw [carry_call hact hcarried.tasks]
  exact ⟨.polls ⟨rfl, hcarried.active, hcarried.ready, hcarried.deaf⟩ hunrolls
    ((hfilmed.shot hnow next).kept rfl le_rfl rfl rfl) (by simpa using hwhole) hends rfl,
    hends.clocked, hup⟩

/-- The rest of a text is shown, or the text is over. -/
theorem scrolled_rest {act : Play Writes Progress} {rest : List Char}
    (hact : act c = .ok (continueText (characters rest)) c) (hcarried : Carried state stack c)
    (hclocked : c.Clocked) (hup : c.key.pressed = false)
    (hfilmed : Filmed start rate begun shown c) (hwhole : shown ++ textReel rest = whole)
    (hnow : c.agenda.now = tickTime start rate (Shot.length shown)) :
    Scrolled start rate begun whole stack (9 * rest.length) (carry 0 act c) := by
  cases rest with
  | nil =>
    obtain rfl : shown = whole := by simpa [textReel] using hwhole
    rw [carry_done hact hcarried.tasks]
    exact ⟨.back (hcarried.goesOver _ _)
      (hfilmed.kept rfl le_rfl rfl rfl) hnow, hclocked, hup⟩
  | cons char rest =>
    rw [carry_call hact hcarried.tasks]
    exact ⟨.character (hcarried.goesOver _ _)
      (hfilmed.kept rfl le_rfl rfl rfl) hwhole hnow, hclocked, hup⟩

/-- A wait begins as long as the key is up. -/
theorem scrolled_polls (hcarried : Carried (.calling .pressOrEvent) frames c)
    (hup : c.key.pressed = false) (hruns : c.timer.elapsed = false)
    (hunrolls : Unrolls stack frames rest n) (hfilmed : Filmed start rate begun shown c)
    (hwhole : shown ++ rest = whole)
    (hends : c.EndsAt (tickTime start rate (Shot.length shown))) :
    Scrolled start rate begun whole stack (n + 2)
      (carryOn (Onlooker.scribe clock).around 0 c) := by
  have hact := begin_pressOrEvent (Onlooker.scribe clock) hcarried.deaf
  rw [if_neg (by simp [hup, hruns])] at hact
  have hopened := opened_opened (c := c) .pressOrEvent hcarried.ready
  rw [hcarried.carryOn_calling, carry_await hact hcarried.tasks hopened]
  exact ⟨.waiting (hopened.listening _) rfl hunrolls (hfilmed.kept rfl le_rfl rfl rfl) hwhole hends,
    hends.clocked, hup⟩

/-- After a wait the digit is darkened, or the rest of the text is shown. -/
theorem scrolled_telling (hcarried : Carried (.answering (.flag false)) frames c)
    (hclocked : c.Clocked) (hup : c.key.pressed = false) (hrate : rate ≠ 0)
    (hunrolls : Unrolls stack frames rest (n + 1)) (hfilmed : Filmed start rate begun shown c)
    (hwhole : shown ++ rest = whole)
    (hnow : c.agenda.now = tickTime start rate (Shot.length shown)) :
    Scrolled start rate begun whole stack n (carryOn (Onlooker.scribe clock).around 0 c) := by
  cases hunrolls with
  | bright rest =>
    let popped : Cabinet Writes := { c with
      tasks := #[{
        state := .answering (.flag false)
        stack := .textRest (characters rest) :: stack }] }
    have hticking : popped.Clocked := hclocked
    have hfilm : Filmed start rate begun shown popped := hfilmed.kept rfl le_rfl rfl rfl
    rw [hcarried.carryOn_answering]
    exact scrolled_shot ⟨"", 1⟩
      (scribe_characterShown clock hticking (hfilm.rate ▸ hrate))
      (hcarried.goesOver _ _) hup (.dark rest) hfilm hwhole hnow
  | dark rest =>
    rw [hcarried.carryOn_answering]
    exact scrolled_rest (resume_textRest _ false _)
      (hcarried.goesOver _ _) hclocked hup
      (hfilmed.kept rfl le_rfl rfl rfl) hwhole hnow

/-! ## Whatever happens -/

variable (clock start begun whole stack) in
/-- Whatever happens that does not disturb a text, it stands somewhere. -/
theorem scrolled_nears (hrate : rate ≠ 0) : Nears (Onlooker.scribe clock).around
    Happening.sparesText stack.length (Scrolled start rate begun whole stack) := by
  rintro n c happening c' ⟨hstands, hclocked, hup⟩ hhappens hback hspares
  cases hstands with
  | @called text hcarried hfilmed hwhole hnow =>
    obtain ⟨rfl, rfl⟩ := hcarried.cases hhappens
    rw [hcarried.carryOn_calling]
    exact ⟨_, scrolled_rest (begin_text _ text) hcarried hclocked hup hfilmed hwhole
      (by simpa using hnow), rfl⟩
  | @character char rest shown hcarried hfilmed hwhole hnow =>
    obtain ⟨rfl, rfl⟩ := hcarried.cases hhappens
    rw [hcarried.carryOn_calling]
    exact ⟨_, scrolled_shot ⟨Glyph.ofChar char, characterTicks⟩
      (scribe_character clock char hclocked (hfilmed.rate ▸ hrate)) hcarried hup (.bright rest)
      hfilmed hwhole hnow, rfl⟩
  | polls hcarried hunrolls hfilmed hwhole hends hruns =>
    obtain ⟨rfl, rfl⟩ := hcarried.cases hhappens
    exact ⟨_, scrolled_polls hcarried hup hruns hunrolls hfilmed hwhole hends, rfl⟩
  | @waiting w frames shown rest n hlistening htasks hunrolls hfilmed hwhole hends =>
    cases hlistening.polls hclocked hhappens with
    | passes hpasses hmisses =>
      have hkept := hpasses.kept
      cases hpasses with
      | move => cases hmisses
      | disable => cases hmisses
      | expire => cases hmisses
      | overdue => cases hmisses
      | enable => cases hspares
      | refuse => cases hspares
      | wait time =>
        obtain ⟨hready, hnow, -⟩ := hhappens.wait_cases
        exact ⟨_, ⟨.waiting (hkept.listening hlistening) htasks hunrolls
          (hfilmed.kept rfl hnow rfl rfl) hwhole hends, hclocked, hup⟩, rfl⟩
    | released =>
      exact ⟨_, ⟨.waiting (hlistening.moved _ false) htasks hunrolls
        (hfilmed.kept (moved_outside false) le_rfl rfl rfl) hwhole hends, hclocked, rfl⟩, rfl⟩
    | pressed => cases hspares
    | told hannounces =>
      have hunarmed := hannounces.unarmed
      cases hannounces with
      | disable => cases hspares
      | expire hdue =>
        obtain rfl := hdue.unique hends
        have hover := hlistening.expired (tickTime start rate (Shot.length shown))
        have hanswered := hover.left_answered (.flag false)
        exact ⟨_, ⟨.told (hanswered.queued htasks) hanswered.watch hunrolls
          (hfilmed.expired.kept rfl le_rfl rfl rfl) hwhole rfl, .inl hunarmed, hup⟩, rfl⟩
  | told hqueued hanswer hunrolls hfilmed hwhole hnow =>
    rcases hqueued.cases hclocked hhappens with hpasses | ⟨rfl, rfl⟩
    · have hkept := hpasses.kept
      cases hpasses with
      | move pressed =>
        obtain rfl : pressed = false := by
          cases pressed with
          | true => cases hspares
          | false => rfl
        exact ⟨_, ⟨.told (hkept.queued hqueued) hanswer hunrolls
          (hfilmed.kept (moved_outside false) le_rfl rfl rfl) hwhole hnow, hclocked, rfl⟩, rfl⟩
      | disable => cases hspares
      | enable => cases hspares
      | refuse => cases hspares
      | expire hready => simp [hqueued.ready] at hready
      | overdue =>
        exact ⟨_, ⟨.told (hkept.queued hqueued) hanswer hunrolls (hfilmed.kept rfl le_rfl rfl rfl)
          hwhole hnow, .inl (expired_unarmed _ c), hup⟩, rfl⟩
      | wait => exact absurd hhappens.wait_cases.1 (by simp [hqueued.ready])
    · obtain ⟨hcarried, hwake⟩ := hqueued.wake_waiting hanswer
      rw [hwake] at hcarried ⊢
      exact ⟨_, ⟨.telling hcarried hunrolls (hfilmed.kept rfl le_rfl rfl rfl) hwhole hnow, hclocked,
        hup⟩, rfl⟩
  | telling hcarried hunrolls hfilmed hwhole hnow =>
    obtain ⟨rfl, rfl⟩ := hcarried.cases hhappens
    obtain ⟨m, rfl⟩ := hunrolls.pos
    exact ⟨m, scrolled_telling hcarried hclocked hup hrate hunrolls hfilmed hwhole hnow, rfl⟩
  | back hcarried => simp [hcarried.isBack_answering] at hback

/-! ## Runs -/

/-- Where nothing is left to do, the text waits during a shot. -/
theorem Scrolled.waits (h : Scrolled start rate begun whole stack n c) (hsettled : c.Settled) :
    ∃ w frames shown rest m, Listening .pressOrEvent w c ∧
      c.tasks = #[{ state := .waiting w, stack := frames }] ∧ Unrolls stack frames rest m ∧
      Filmed start rate begun shown c ∧ shown ++ rest = whole ∧
      c.EndsAt (tickTime start rate (Shot.length shown)) := by
  cases h.stands with
  | waiting hlistening htasks hunrolls hfilmed hwhole hends =>
    exact ⟨_, _, _, _, _, hlistening, htasks, hunrolls, hfilmed, hwhole, hends⟩
  | told hqueued => exact absurd hsettled hqueued.not_settled
  | called hcarried => exact absurd hsettled hcarried.not_settled
  | character hcarried => exact absurd hsettled hcarried.not_settled
  | polls hcarried => exact absurd hsettled hcarried.not_settled
  | telling hcarried => exact absurd hsettled hcarried.not_settled
  | back hcarried => exact absurd hsettled hcarried.not_settled

/-- Where all that is due has happened, what the text writes up to that time is written. -/
theorem Scrolled.upTo (h : Scrolled start rate begun whole stack n c) (hcalm : c.Calm) :
    c.outside = begun ++ timed start rate
      ((Shot.cues 0 whole).filter fun cue => tickTime start rate cue.1 ≤ c.agenda.now) := by
  obtain ⟨w, frames, shown, rest, m, -, -, -, hfilmed, hwhole, hends⟩ := h.waits hcalm.1
  exact hwhole ▸ hfilmed.upTo hends hcalm rest

/-- A text that nothing has disturbed answers that there was no press, once it was written. -/
theorem Scrolled.answers {answer : Answer} (h : Scrolled start rate begun whole stack n c)
    (hcarried : Carried (.answering answer) stack c) : answer = .flag false ∧
      c.agenda.now = tickTime start rate (Shot.length whole) ∧
      c.outside = begun ++ timed start rate (Shot.cues 0 whole) := by
  cases h.stands with
  | called hother => cases (hcarried.task_eq hother.tasks).1
  | character hother => cases (hcarried.task_eq hother.tasks).1
  | polls hother => cases (hcarried.task_eq hother.tasks).1
  | waiting _ htasks => cases (hcarried.task_eq htasks).1
  | told hqueued => cases (hcarried.task_eq hqueued.tasks).1
  | telling hother hunrolls =>
    obtain ⟨-, rfl⟩ := hcarried.task_eq hother.tasks
    exact absurd hunrolls.length_lt (Nat.lt_irrefl _)
  | back hother hfilmed hnow =>
    cases (hcarried.task_eq hother.tasks).1
    exact ⟨rfl, hnow, hfilmed.outside⟩

/-- A text that has steps to go is not over. -/
theorem Scrolled.isBack_eq (h : Scrolled start rate begun whole stack (n + 1) c) :
    isBack stack.length c = false := by
  obtain ⟨hstands, -, -⟩ := h
  generalize hsteps : n + 1 = steps at hstands
  cases hstands with
  | called hcarried => exact hcarried.isBack_calling _
  | character hcarried => exact hcarried.isBack_calling _
  | polls hcarried => exact hcarried.isBack_calling _
  | waiting _ htasks => exact isBack_of_waiting htasks _
  | told hqueued => exact isBack_of_waiting hqueued.tasks _
  | telling hcarried hunrolls =>
    rw [hcarried.isBack_answering, decide_eq_false_iff_not, Nat.not_le]
    exact hunrolls.length_lt
  | back => cases hsteps

variable (clock) in
/-- By the end of its reel, a text that is not over goes on. -/
theorem Scrolled.goesOn (h : Scrolled start rate begun whole stack (n + 1) c) {horizon : Rat}
    (hhorizon : tickTime start rate (Shot.length whole) ≤ horizon) :
    ∃ c', step? (Onlooker.scribe clock).around horizon c = some c' := by
  obtain ⟨hstands, -, -⟩ := h
  generalize hsteps : n + 1 = steps at hstands
  cases hstands with
  | called hcarried => exact ⟨_, hcarried.step? horizon⟩
  | character hcarried => exact ⟨_, hcarried.step? horizon⟩
  | polls hcarried => exact ⟨_, hcarried.step? horizon⟩
  | waiting hlistening _ _ _ hwhole hends =>
    subst hwhole
    rw [Shot.length_append] at hhorizon
    exact hends.step? ⟨hlistening.active, hlistening.ready⟩
      ((tickTime_mono (Nat.le_add_right _ _)).trans hhorizon)
  | told hqueued => exact ⟨_, hqueued.step? horizon⟩
  | telling hcarried => exact ⟨_, hcarried.step? horizon⟩
  | back => cases hsteps

theorem Scrolled.back (h : Scrolled start rate begun whole stack 0 c) :
    Carried (.answering (.flag false)) stack c := by
  obtain ⟨hstands, -, -⟩ := h
  generalize hsteps : 0 = steps at hstands
  cases hstands with
  | telling _ hunrolls =>
    obtain ⟨m, rfl⟩ := hunrolls.pos
    cases hsteps
  | back hcarried => exact hcarried
  | _ => omega

variable (clock) in
/-- By the end of its reel, a text that nothing disturbs comes to its answer. -/
theorem Scrolled.comes (h : Scrolled start rate begun whole stack n c) {horizon : Rat}
    (hhorizon : tickTime start rate (Shot.length whole) ≤ horizon) (hrate : rate ≠ 0) :
    Scrolled start rate begun whole stack 0
      (run (Onlooker.scribe clock).around (fun _ => false) horizon n c) := by
  refine (scrolled_nears clock start begun whole stack hrate).comes (fun happening hisStep => ?_)
    (fun n c h => ⟨h.isBack_eq, h.goesOn clock hhorizon⟩) h
  cases happening <;> first | rfl | cases hisStep

/-! ## A press -/

/-- A press while nothing else is left to do ends a text at once. -/
theorem Scrolled.pressed (h : Scrolled start rate begun whole stack n c) (hsettled : c.Settled)
    (hpress : Happens (Onlooker.scribe clock).around c (.move true) c') (horizon : Rat) :
    ∃ steps ≤ 3, ∃ c₁, run (Onlooker.scribe clock).around (fun _ => false) horizon steps c' = c₁ ∧
      Carried (.answering (.flag true)) stack c₁ ∧ c₁.outside = c.outside ∧
      c₁.agenda.now = c.agenda.now := by
  obtain ⟨w, frames, shown, rest, m, hlistening, htasks, hunrolls, -⟩ := h.waits hsettled
  cases hlistening.polls h.clocked hpress with
  | passes _ hmisses => cases hmisses
  | told hannounces => cases hannounces
  | pressed =>
    obtain ⟨texts, rfl, htexts, hlength⟩ := hunrolls.texts
    have hanswered := (hlistening.moved (Onlooker.scribe clock) true).left_answered (.flag true)
    have hqueued := hanswered.queued htasks
    obtain ⟨hcarried, hwake⟩ := hqueued.wake_waiting hanswered.watch
    have hunbroken := hcarried.unbroken_pressed (Onlooker.scribe clock) htexts
    refine ⟨texts.length + 1, by omega, _,
      (run_step (hqueued.step? horizon) _).trans (hunbroken.run_eq horizon),
      hcarried.goesOver _ _, ?_, ?_⟩
    · rw [hwake]
      exact moved_outside true
    · rw [hwake]
      rfl

/-! ## A key that is down -/

/-- A wait that begins while the key is down is over at once, and the press is handed on. -/
theorem Carried.unbroken_down (eye : Onlooker Writes) {texts : List Frame}
    (htexts : ∀ frame ∈ texts, frame.OfText)
    (h : Carried (.calling .pressOrEvent) (texts ++ stack) c) (hdown : c.key.pressed = true) :
    Unbroken eye.around (texts.length + 1) c
      { c with tasks := #[{ state := .answering (.flag true), stack }] } := by
  have hact := begin_pressOrEvent eye h.deaf
  rw [if_pos (by simp [hdown]), hdown] at hact
  refine .next h.active ?_
  rw [h.carryOn_calling, carry_done hact h.tasks]
  exact Carried.unbroken_pressed eye htexts (h.goesOver _ _)

variable (clock) in
/-- A text that begins while the key is down shows its first glyph, and is over without a break. -/
theorem Carried.text_down {char : Char} {text : String} {rest : List Char}
    (hcalled : Carried (.calling (.text (.text text))) stack c) (hclocked : c.Clocked)
    (hobserved : c.display.observer.isSome = true) (hrate : c.timer.rate ≠ 0)
    (hdown : c.key.pressed = true) (htext : text.toList = char :: rest) :
    ∃ c', Unbroken (Onlooker.scribe clock).around 5 c c' ∧
      Carried (.answering (.flag true)) stack c' ∧
      c'.outside = c.outside ++ [(c.agenda.now, Glyph.ofChar char)] := by
  let texts : List Frame := [.characterShown, .textRest (characters rest)]
  let shows : Cabinet Writes := { c with tasks := #[{
    state := .calling (.character (.text char.toString))
    stack := .textRest (characters rest) :: stack }] }
  let polls : Cabinet Writes :=
    { armedFor (Onlooker.scribe clock) characterTicks (shows.written (Glyph.ofChar char)) with
      tasks := #[{ state := .calling .pressOrEvent, stack := texts ++ stack }] }
  have hshows : carryOn (Onlooker.scribe clock).around 0 c = shows := by
    have hact := begin_text (c := c) (Onlooker.scribe clock) text
    rw [htext] at hact
    rw [hcalled.carryOn_calling, carry_call hact hcalled.tasks]
    rfl
  have hpolls : carryOn (Onlooker.scribe clock).around 0 shows = polls := by
    have hcharacter : Carried (.calling (.character (.text char.toString)))
        (.textRest (characters rest) :: stack) shows :=
      hcalled.goesOver _ _
    have hticking : shows.Clocked := hclocked
    rw [hcharacter.carryOn_calling,
      carry_call (scribe_character clock char hticking hrate) hcharacter.tasks]
    rfl
  have hwait : Carried (.calling .pressOrEvent) (texts ++ stack) polls :=
    ⟨rfl, hcalled.active, hcalled.ready, hcalled.deaf⟩
  have htexts : ∀ frame ∈ texts, frame.OfText := by
    simp [texts, Frame.OfText.characterShown, Frame.OfText.textRest]
  refine ⟨{ polls with tasks := #[{ state := .answering (.flag true), stack }] },
    .next hcalled.active ?_, ⟨rfl, hcalled.active, hcalled.ready, hcalled.deaf⟩,
    written_outside (c := shows) hobserved _⟩
  rw [hshows]
  refine .next hcalled.active ?_
  rw [hpolls]
  exact hwait.unbroken_down (Onlooker.scribe clock) htexts hdown

/-! ## The text -/

/-- **A text is shown as scheduled, up to a press.** Call a text while the key is up, and let
nothing happen but that the program goes on, the key goes up and time passes. Where all that is due
has happened, the glyphs and the blanks of the schedule up to that time are written and nothing
else; the answer, to which the program comes by the end of the schedule, is that there was no press,
26 ticks for each character after the call. A press at which nothing else is left to do is answered
in three steps of the program at most, with nothing more written. If the key is down at the call,
the first glyph of a text is written, and the answer comes without a break. -/
theorem text_shown_up_to_press (clock : Cabinet Writes → Rat) {first : Cabinet Writes}
    {text : String}
    (hcalled : Carried (.calling (.text (.text text))) stack first) (hclocked : first.Clocked)
    (hobserved : first.display.observer.isSome = true) (hrate : first.timer.rate ≠ 0) :
    (first.key.pressed = false → ∀ c, Run (Onlooker.scribe clock).around
        (strays Happening.sparesText stack.length) first [] c →
      (c.Calm → c.outside = first.scheduled (cuesUpTo first c.agenda.now (textCues text))) ∧
      (∀ answer, Carried (.answering answer) stack c → answer = .flag false ∧
        c.agenda.now = first.ticksLater (26 * text.length) ∧
        c.outside = first.scheduled (textCues text)) ∧
      (∀ horizon, first.ticksLater (26 * text.length) ≤ horizon → ∃ steps c',
        run (Onlooker.scribe clock).around (fun _ => false) horizon steps c = c' ∧
        Carried (.answering (.flag false)) stack c' ∧
        c'.agenda.now = first.ticksLater (26 * text.length) ∧
        c'.outside = first.scheduled (textCues text)) ∧
      (c.Settled → ∀ pressed, Happens (Onlooker.scribe clock).around c (.move true) pressed →
        ∀ horizon, ∃ steps ≤ 3, ∃ c',
          run (Onlooker.scribe clock).around (fun _ => false) horizon steps pressed = c' ∧
          Carried (.answering (.flag true)) stack c' ∧ c'.outside = c.outside ∧
          c'.agenda.now = c.agenda.now)) ∧
    (first.key.pressed = true → text ≠ "" → ∃ c',
      Unbroken (Onlooker.scribe clock).around 5 first c' ∧
      Carried (.answering (.flag true)) stack c' ∧
      c'.outside = first.outside ++ [(first.agenda.now, Glyph.ofText text)]) := by
  have hlength : Shot.length (textReel text.toList) = 26 * text.length := by
    rw [length_textReel, String.length_toList]
  refine ⟨fun hup c hrun => ?_, fun hdown htext => ?_⟩
  · obtain ⟨n, hscrolled⟩ := (scrolled_nears clock first.agenda.now first.outside
      (textReel text.toList) stack hrate).run hrun rfl
      ⟨.called hcalled (.begins rfl hobserved) rfl rfl, hclocked, hup⟩
    have hanswers {c : Cabinet Writes} {n : Nat} {answer : Answer}
        (h : Scrolled first.agenda.now first.timer.rate first.outside (textReel text.toList) stack n
          c) (hcarried : Carried (.answering answer) stack c) := h.answers hcarried
    rw [hlength, cues_textReel] at hanswers
    refine ⟨fun hcalm => cues_textReel text ▸ hscrolled.upTo hcalm,
      fun answer hcarried => hanswers hscrolled hcarried, fun horizon hhorizon => ?_,
      fun hsettled pressed hpress horizon => hscrolled.pressed hsettled hpress horizon⟩
    have hlast := hscrolled.comes clock (hlength ▸ hhorizon) hrate
    exact ⟨n, _, rfl, hlast.back, (hanswers hlast hlast.back).2⟩
  · cases hchars : text.toList with
    | nil => exact absurd (String.toList_eq_nil_iff.mp hchars) htext
    | cons char rest =>
      have hglyph : Glyph.ofText text = Glyph.ofChar char := by simp [Glyph.ofText, hchars]
      rw [hglyph]
      exact hcalled.text_down clock hclocked hobserved hrate hdown hchars

/-- A text of two letters is shown in 52 ticks. A press during the first letter ends it there, and
if the key is down from the beginning, the first letter stays. -/
theorem text_shown_up_to_press_of_two :
    (∃ steps c, run (Onlooker.scribe fun _ => 0).around (fun _ => false) 2 steps
        (calledAlone (.text (.text "Hi")) false) = c ∧
      Carried (.answering (.flag false)) [] c ∧ c.agenda.now = 26 / 25 ∧
      c.outside = [(0, "bcefg"), (1 / 2, ""), (13 / 25, "e"), (51 / 50, "")]) ∧
    (∃ c pressed, Run (Onlooker.scribe fun _ => 0).around (strays Happening.sparesText 0)
        (calledAlone (.text (.text "Hi")) false) [] c ∧
      Happens (Onlooker.scribe fun _ => 0).around c (.move true) pressed ∧
      ∃ steps ≤ 3, ∃ c',
        run (Onlooker.scribe fun _ => 0).around (fun _ => false) 0 steps pressed = c' ∧
        Carried (.answering (.flag true)) [] c' ∧ c'.outside = [(0, "bcefg")]) ∧
    ∃ c, Unbroken (Onlooker.scribe fun _ => 0).around 5 (calledAlone (.text (.text "Hi")) true) c ∧
      Carried (.answering (.flag true)) [] c ∧ c.outside = [(0, "bcefg")] := by
  have hup := text_shown_up_to_press (fun _ => 0)
    (calledAlone_carried (.text (.text "Hi")) false) (calledAlone_clocked _ _) rfl (by decide)
  have hdown := text_shown_up_to_press (fun _ => 0)
    (calledAlone_carried (.text (.text "Hi")) true) (calledAlone_clocked _ _) rfl (by decide)
  refine ⟨?_, ?_, hdown.2 rfl (by decide)⟩
  · obtain ⟨-, -, hcomes, -⟩ := hup.1 rfl _ .start
    obtain ⟨steps, c, hrun, hcarried, hnow, hshown⟩ := hcomes 2 (by decide +kernel)
    exact ⟨steps, c, hrun, hcarried, hnow.trans (by decide +kernel),
      hshown.trans (by decide +kernel)⟩
  · let shown := deedsNoted (Onlooker.scribe fun _ => 0).around (strays Happening.sparesText 0)
      [.steps 5] (calledAlone (.text (.text "Hi")) false)
    have hrun : Run (Onlooker.scribe fun _ => 0).around (strays Happening.sparesText 0)
        (calledAlone (.text (.text "Hi")) false) shown.1 shown.2 := Run.start.deedsNoted [.steps 5]
    have hnone : shown.1.isEmpty = true := by decide +kernel
    rw [List.isEmpty_iff.mp hnone] at hrun
    have hsettled : shown.2.Settled := by decide +kernel
    have houtside : shown.2.outside = [(0, "bcefg")] := by decide +kernel
    have hpress : Happens (Onlooker.scribe fun _ => 0).around shown.2 (.move true) _ :=
      .move true hsettled.1
    obtain ⟨-, -, -, hpressed⟩ := hup.1 rfl _ hrun
    obtain ⟨steps, hsteps, c', hends, hcarried, hwritten, -⟩ := hpressed hsettled _ hpress 0
    exact ⟨shown.2, _, hrun, hpress, steps, hsteps, c', hends, hcarried,
      hwritten.trans houtside⟩

end Cabinet

end DigitRace
