import DigitRace.Proofs.Course.Step

/-!
# A timer that cannot be armed

At rate 0 no countdown can be armed. The game then comes as far as the first character of the
text of its demo, and its task fails there, whatever happens meanwhile.
-/

namespace DigitRace

/-- The routines on the way to the first character, with the frames that they answer to. -/
inductive Stalling (games : Value) : Leg → Routine → List Frame → Prop
  | run : Stalling games .start (.run games) []
  | demo : Stalling games .start .demo [.demoEnded games]
  | text : Stalling games (.demo 0) (.text (.text Cabinet.startText))
      [.demoTextShown, .demoEnded games]
  | character (s : String) (rest : List Value) : Stalling games (.demo 0) (.character (.text s))
      [.textRest rest, .demoTextShown, .demoEnded games]

namespace Cabinet

variable {ω : Type} {eye : Onlooker ω} {c c' : Cabinet ω} {games : Value} {leg : Leg}
  {happening : Happening} {stack : List Frame}

/-- The cabinet is at a leg of the course and cannot arm its timer. -/
structure Halted (leg : Leg) (c : Cabinet ω) : Prop where
  clocked : c.Clocked
  rate : c.timer.rate = 0
  stage : c.stage = leg.stage

/-- How a game stands that cannot arm its timer. -/
inductive Stalls (games : Value) (leg : Leg) (c : Cabinet ω) : Prop
  | begins (hleg : leg = .start) (hqueued : Queued (.calling (.run games)) [] c)
  | calling {routine : Routine} {stack : List Frame}
      (hcarried : Carried (.calling routine) stack c) (hstalling : Stalling games leg routine stack)
  | failed (hleg : leg = .demo 0) (hover : Over (.failed .divisionByZero) c)

/-- Each routine on the way calls the next one, and the last one fails. -/
private theorem stalling_carry {routine : Routine} (hstalling : Stalling games leg routine stack)
    (hcarried : Carried (.calling routine) stack c) (hhalted : Halted leg c) :
    ∃ leg', Halted leg' (carry 0 (begin eye.around routine) c) ∧
      Stalls games leg' (carry 0 (begin eye.around routine) c) ∧
      leg'.marks = leg.marks ++ newMarks c (carry 0 (begin eye.around routine) c) := by
  cases hstalling with
  | run =>
    have hact : begin eye.around (.run games) c =
        .ok (.call .demo (some (.demoEnded games))) c := rfl
    rw [carry_call hact hcarried.tasks]
    refine ⟨.start, ⟨hhalted.clocked, hhalted.rate, hhalted.stage⟩, ?_, marks_same rfl⟩
    exact .calling (hcarried.goesOver _ _) .demo
  | demo =>
    rw [carry_call (begin_demo eye) (hcarried.entered .demo).tasks]
    refine ⟨.demo 0, ⟨hhalted.clocked, hhalted.rate, rfl⟩, ?_, ?_⟩
    · exact .calling ((hcarried.entered .demo).goesOver _ _) .text
    · exact marks_entered rfl rfl
  | text =>
    have hact : begin eye.around (.text (.text startText)) c =
        .ok (.call (.character (.text "P"))
          (some (.textRest ("ress to play ".toList.map fun char => .text char.toString)))) c := by
      simp [begin, Value.items, startText, continueText]
    rw [carry_call hact hcarried.tasks]
    refine ⟨.demo 0, ⟨hhalted.clocked, hhalted.rate, hhalted.stage⟩, ?_, marks_same rfl⟩
    exact .calling (hcarried.goesOver _ _) (.character "P" _)
  | character s =>
    obtain ⟨outside, hact⟩ := begin_character_fails eye s hhalted.clocked hhalted.rate
    rw [carry_error hact hcarried.tasks]
    refine ⟨.demo 0, ⟨.inl (refused_unarmed _ _), hhalted.rate, hhalted.stage⟩, ?_, marks_same rfl⟩
    exact .failed rfl ⟨rfl, rfl, hcarried.ready, hcarried.deaf⟩

/-- What passes leaves the game where it is. -/
private theorem Halted.passes (h : Halted leg c) (hpasses : Passes eye c happening c')
    (hracing : leg.stage ≠ some .playing) :
    Halted leg c' ∧ leg.marks = leg.marks ++ marksOf c happening c' := by
  have hkept := hpasses.kept
  refine ⟨⟨hpasses.clocked h.clocked, hkept.rate.trans h.rate, hkept.stage.trans h.stage⟩, ?_⟩
  have hnew : newMarks c c' = [] := newMarks_same hkept.journal
  have hstage : c.stage ≠ some .playing := by rw [h.stage]; exact hracing
  have hmarks : marksOf c happening c' = newMarks c c' := by
    cases happening with
    | disable =>
      unfold marksOf
      split
      · rename_i hplaying
        exact absurd hplaying hstage
      · rfl
    | _ => rfl
  rw [hmarks, hnew, List.append_nil]

/-- Whatever happens, a game that cannot arm its timer stalls. -/
theorem Stalls.next (hstalls : Stalls games leg c) (hhalted : Halted leg c)
    (hhappens : Happens eye.around c happening c') :
    ∃ leg', Halted leg' c' ∧ Stalls games leg' c' ∧
      leg'.marks = leg.marks ++ marksOf c happening c' := by
  cases hstalls with
  | begins hleg hqueued =>
    subst hleg
    rcases hqueued.cases hhalted.clocked hhappens with hpasses | ⟨rfl, rfl⟩
    · obtain ⟨hhalted', hmarks⟩ := hhalted.passes hpasses (by simp [Leg.stage])
      exact ⟨.start, hhalted', .begins rfl (hpasses.kept.queued hqueued), hmarks⟩
    · obtain ⟨hcarried, hwake⟩ := hqueued.wake_calling
      refine ⟨.start, ?_, .calling hcarried .run, ?_⟩
      · rw [hwake]
        exact ⟨hhalted.clocked, hhalted.rate, hhalted.stage⟩
      · rw [hwake]
        exact marks_same rfl
  | calling hcarried hstalling =>
    obtain ⟨rfl, rfl⟩ := hcarried.cases hhappens
    rw [hcarried.carryOn_calling]
    exact stalling_carry hstalling hcarried hhalted
  | failed hleg hover =>
    subst hleg
    have hpasses := hover.passes hhalted.clocked hhappens
    obtain ⟨hhalted', hmarks⟩ := hhalted.passes hpasses (by simp [Leg.stage])
    exact ⟨.demo 0, hhalted', .failed rfl (hpasses.kept.ended hover), hmarks⟩

end Cabinet

end DigitRace
