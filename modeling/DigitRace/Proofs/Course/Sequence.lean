import DigitRace.Proofs.Course.Order
import DigitRace.Proofs.Course.Run

/-!
# The sequence of games

A run of the game enters its stages in order, loses the three cars of each game one by one,
and is over when as many games were played as it was asked for and the key is up.
-/

namespace DigitRace.Cabinet

variable {ω : Type} {eye : Onlooker ω} {c c' : Cabinet ω} {games : Value} {leg : Leg}
  {past : Past}

/-! ## How a run ends -/

/-- A task that is over has come to the last game, unless its timer could not be armed. -/
theorem Courses.ended {ending : Task.Ending} (h : Courses games leg c)
    (hended : c.tasks = #[{ state := .ended ending }]) :
    (∃ past, leg = .rest past ∧ ending = .returned .nothing ∧
        allows games past.games.length = .ok false) ∨
      (∃ past fault, leg = .rest past ∧ ending = .failed fault ∧
        allows games past.games.length = .error fault) ∨
      c.timer.rate = 0 ∧ ending = .failed .divisionByZero := by
  cases h with
  | stands hupon hstands =>
    cases hstands with
    | begins _ hqueued => simp [hqueued.tasks] at hended
    | calling hcarried => simp [hcarried.tasks] at hended
    | answering hcarried => simp [hcarried.tasks] at hended
    | waiting _ htasks => simp [htasks] at hended
    | woken hqueued => simp [hqueued.tasks] at hended
    | returned hleg hover hallows =>
      obtain rfl : ending = .returned .nothing := by simpa [hover.tasks, eq_comm] using hended
      exact .inl ⟨_, hleg, rfl, hallows⟩
    | failed hleg hover hallows =>
      obtain rfl : ending = .failed _ := by simpa [hover.tasks, eq_comm] using hended
      exact .inr (.inl ⟨_, _, hleg, rfl, hallows⟩)
  | stalls hhalted hstalls =>
    cases hstalls with
    | begins _ hqueued => simp [hqueued.tasks] at hended
    | calling hcarried => simp [hcarried.tasks] at hended
    | failed _ hover =>
      obtain rfl : ending = .failed .divisionByZero := by
        simpa [hover.tasks, eq_comm] using hended
      exact .inr (.inr ⟨hhalted.rate, rfl⟩)

/-- A task that learns that the key is up returns if no more games are allowed. -/
private theorem Carried.finishes {n : Nat} (h : Carried (.answering .nothing) [.nextGame games n] c)
    (hclocked : c.Clocked) (hallows : allows games n = .ok false) {limit : Nat}
    (hlimit : 2 ≤ limit) (horizon : Rat) :
    Over (.returned .nothing) (run eye.around (fun _ => false) horizon limit c) := by
  obtain ⟨limit, rfl⟩ := Nat.exists_eq_add_of_le' hlimit
  have hact (before : Cabinet ω) : resume eye.around .nothing (.nextGame games n) before =
      .ok (.done .nothing) before := by
    simp [resume, continueGames, hallows]
  have hlast : Carried (.answering .nothing) []
      { c with tasks := #[{ state := .answering .nothing }] } :=
    h.goesOver _ _
  rw [run_step (h.step? horizon), h.carryOn_answering, carry_done (hact _) rfl]
  exact Closing.run (.carried hlast) hclocked (by omega) horizon

/-- Once the key is up and no more games are allowed, the task returns without further ado. -/
theorem Stands.finishes (h : Stands games (.rest past) c) (hupon : Upon games (.rest past) c)
    (hallows : allows games past.games.length = .ok false) (hup : c.key.pressed = false) :
    Over (.returned .nothing) (settle eye.around c) := by
  obtain ⟨limit, hlimit⟩ : ∃ limit, patience = limit + 3 := ⟨999999997, rfl⟩
  rw [settle, hlimit]
  cases h with
  | begins hleg => cases hleg
  | calling hcarried hcalls =>
    rcases hcalls.at_rest with ⟨rfl, rfl⟩ | ⟨-, hmore⟩
    · have hact := begin_keyReleased eye hcarried.deaf
      rw [if_neg (by simp [hup])] at hact
      have hreleased : Carried (.answering .nothing) [.nextGame games past.games.length]
          { c with tasks := #[{ state := .answering .nothing, stack :=
            [.nextGame games past.games.length] }] } :=
        hcarried.goesOver _ _
      rw [run_step (hcarried.step? _), hcarried.carryOn_calling, carry_done hact hcarried.tasks]
      exact hreleased.finishes hupon.clocked hallows (by omega) _
    · cases hmore.symm.trans hallows
  | answering hcarried hadmits htakes =>
    rcases htakes.at_rest with ⟨rfl, rfl⟩ | ⟨rfl, rfl⟩
    · obtain rfl := hadmits
      exact hcarried.finishes hupon.clocked hallows (by omega) _
    · obtain rfl := hadmits
      exact Closing.run (.carried hcarried) hupon.clocked (by omega) _
  | waiting hlistening _ hwaits _ hpressed =>
    simp [hpressed hwaits.at_rest] at hup
  | woken hqueued hanswer hadmits htakes =>
    obtain ⟨hcarried, hwake⟩ := hqueued.wake_waiting hanswer
    have hclocked : (wake 0 { c with agenda := { c.agenda with ready := [] } }).Clocked := by
      rw [hwake]
      exact hupon.clocked
    rw [run_step (hqueued.step? _)]
    rcases htakes.at_rest with ⟨rfl, rfl⟩ | ⟨rfl, rfl⟩
    · obtain rfl := hadmits
      exact hcarried.finishes hclocked hallows (by omega) _
    · obtain rfl := hadmits
      exact Closing.run (.carried hcarried) hclocked (by omega) _
  | returned _ hover => exact Closing.run (.ended hover) hupon.clocked (Nat.zero_le _) _
  | failed hleg _ hfails =>
    cases hleg
    cases hfails.symm.trans hallows

/-! ## Whole runs -/

/-- The limit of a run, if there is one. -/
def gameLimit : Option Int → Value
  | none => .nothing
  | some g => .int g

theorem allows_gameLimit (games : Option Int) (n : Nat) :
    allows (gameLimit games) n = .ok (games.all fun g => decide ((n : Int) < g)) := by
  cases games with
  | none => rfl
  | some g => exact allows_int g n

end DigitRace.Cabinet
