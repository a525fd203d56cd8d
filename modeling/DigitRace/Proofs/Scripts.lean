import DigitRace.Proofs.Acts
import DigitRace.Script
import Mathlib.Tactic.SplitIfs

/-!
# Scripts, deed by deed

The deeds of a script are done in turn, up to the first failure, and each call of a listener uses an
entry of its script up or does nothing. So what is true of deeds before listeners who answer is true
of the answers themselves, as deep as there are entries.
-/

namespace DigitRace.Rehearsal

variable {δ α κ ν : Type} {perform : α → Act (Rehearsal δ α κ) Unit} {r r₁ : Rehearsal δ α κ}
  {action : α}

/-- What a listener is to do in its next turn. -/
def nextEntry (listener : String) (r : Rehearsal δ α κ) : List (Deed α) :=
  (takeEntry listener r.scripts).1

/-- The rehearsal once a listener was called for its next turn. -/
def called (call : String → ν → Rehearsal δ α κ → κ) (listener : String) (event : ν)
    (r : Rehearsal δ α κ) : Rehearsal δ α κ :=
  { r with
    calls := r.calls ++ [call listener event r]
    scripts := (takeEntry listener r.scripts).2 }

/-- A listener whose script is at its end does nothing; another uses an entry up. -/
theorem takeEntry_cases (listener : String) (scripts : List (Script α)) :
    takeEntry listener scripts = ([], scripts) ∨
      ((takeEntry listener scripts).2.flatMap Script.entries).length + 1 =
        (scripts.flatMap Script.entries).length := by
  induction scripts with
  | nil => exact .inl rfl
  | cons script rest ih =>
    obtain ⟨name, entries⟩ := script
    unfold takeEntry
    split_ifs with hlistener
    · cases entries with
      | nil => exact .inl rfl
      | cons entry entries => exact .inr (by simp)
    · rcases ih with hnothing | hentry
      · simp [hnothing]
      · right
        simp only [List.flatMap_cons, List.length_append]
        omega

theorem called_cases (call : String → ν → Rehearsal δ α κ → κ) (listener : String) (event : ν)
    (r : Rehearsal δ α κ) :
    nextEntry listener r = [] ∧ (called call listener event r).entriesLeft = r.entriesLeft ∨
      (called call listener event r).entriesLeft + 1 = r.entriesLeft := by
  rcases takeEntry_cases listener r.scripts with hnothing | hentry
  · left
    simp [nextEntry, called, entriesLeft, hnothing]
  · exact .inr hentry

/-- After an action that succeeds the other deeds are done. -/
theorem follow_of_ok (hact : perform action r = .ok ⟨⟩ r₁) (rest : List (Deed α)) :
    (follow perform (.act action :: rest)).result r = (follow perform rest).result r₁ := by
  unfold Act.result follow
  rw [Act.forM_cons_apply]
  simp only [hact]

/-- After a failure no others are. -/
theorem follow_of_error {fault : Fault} (hact : perform action r = .error fault r₁)
    (rest : List (Deed α)) :
    (follow perform (.act action :: rest)).result r = (.error fault, r₁) := by
  unfold Act.result follow
  rw [Act.forM_cons_apply]
  simp only [hact]

/-- Each turn uses an entry of the scripts up or does nothing, so answers go no deeper than there
are entries: if deeds come to what they should before listeners who do, then so do the answers of
scripted listeners, at any depth that the entries do not exceed. What is `Good` about the rehearsal
before the call is known before the deeds. -/
theorem answer_comes {γ : Type} (call : String → ν → Rehearsal δ α κ → κ)
    (perform : (String → ν → Act (Rehearsal δ α κ) Unit) → α → Act (Rehearsal δ α κ) Unit)
    (Good : Rehearsal δ α κ → Prop)
    (Comes : List (Deed α) → Rehearsal δ α κ → γ → Except Fault Unit → Rehearsal δ α κ → Prop)
    (hgood : ∀ listener event r, Good r → Good (called call listener event r))
    (hnothing : ∀ r, ∃ made, Comes [] r made (.ok ⟨⟩) r)
    (hfollow : ∀ depth tell,
      (∀ listener event r, Good r → r.entriesLeft ≤ depth → ∃ made outcome r',
        Comes (nextEntry listener r) (called call listener event r) made outcome r' ∧
          (tell listener event).result r = (outcome, r')) →
      ∀ deeds r, Good r → r.entriesLeft ≤ depth → ∃ made outcome r',
        Comes deeds r made outcome r' ∧
          (follow (perform tell) deeds).result r = (outcome, r'))
    (depth : Nat) (listener : String) (event : ν) (r : Rehearsal δ α κ) (hr : Good r)
    (hdepth : r.entriesLeft ≤ depth) : ∃ made outcome r',
      Comes (nextEntry listener r) (called call listener event r) made outcome r' ∧
        (answer call perform depth listener event).result r = (outcome, r') := by
  induction depth generalizing listener event r with
  | zero =>
    rcases takeEntry_cases listener r.scripts with hspent | hentry
    · obtain ⟨made, hcomes⟩ := hnothing (called call listener event r)
      refine ⟨made, .ok ⟨⟩, called call listener event r, ?_, ?_⟩
      · rwa [nextEntry, hspent]
      · simp [answer, note, Act.result, called, hspent]
    · simp only [entriesLeft] at hdepth
      omega
  | succ depth ih =>
    have hanswer : (answer call perform (depth + 1) listener event).result r =
        (follow (perform (answer call perform depth)) (nextEntry listener r)).result
          (called call listener event r) := rfl
    rw [hanswer]
    rcases called_cases call listener event r with ⟨hspent, -⟩ | hentry
    · obtain ⟨made, hcomes⟩ := hnothing (called call listener event r)
      rw [hspent]
      exact ⟨made, .ok ⟨⟩, called call listener event r, hcomes, rfl⟩
    · exact hfollow depth (answer call perform depth) ih (nextEntry listener r)
        (called call listener event r) (hgood listener event r hr) (by omega)

end DigitRace.Rehearsal
